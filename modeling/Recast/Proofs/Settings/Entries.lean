import Mathlib.Data.List.Nodup
import Recast.Settings.Value

/-!
# Proofs/Settings/Entries — what a mapping says once fields of it are set

A mapping with a field set says the value under the name (`holds_set`) and nothing else differs
(`without_set`), not even the order of the other keys. Fields that are set already are set to no
effect (`setAll_setAll`).

Mappings are lists here, and a list may name a key twice, which no mapping of a document does.
`Holds` therefore asks for *every* entry under the name; then the laws need no assumption on keys.
-/

namespace Recast

theorem Value.sameKey_text {key : Value} {name : String} :
    key.sameKey (.text name) = true ↔ key = .text name := by
  cases key <;> simp [sameKey, keyNumber?]

/-- The key is one of the names. -/
def Value.isAmong (names : List String) (key : Value) : Bool :=
  names.any fun name => key.sameKey (.text name)

theorem Value.isAmong_text {names : List String} {name : String} :
    (Value.text name).isAmong names = true ↔ name ∈ names := by
  simp [isAmong, sameKey_text]

namespace Entries

variable {entries : Entries} {name other : String} {value : Value} {names : List String}
  {fields : List (String × Value)}

/-- There is an entry under the name, and it has the value. -/
structure Holds (entries : Entries) (name : String) (value : Value) : Prop where
  mem : (.text name, value) ∈ entries
  eq_of_mem : ∀ other, (.text name, other) ∈ entries → other = value

/-- The entries under other keys than the names. -/
def without (names : List String) (entries : Entries) : Entries :=
  entries.filter fun entry => !entry.1.isAmong names

/-- The entries with several fields set. -/
def setAll (entries : Entries) (fields : List (String × Value)) : Entries :=
  fields.foldl (fun entries field => entries.set field.1 field.2) entries

/-- A field is looked for from the front. -/
theorem get?_cons (key value : Value) (entries : Entries) (name : String) :
    get? ((key, value) :: entries) name =
      if key.sameKey (.text name) then some value else entries.get? name := by
  rw [get?, List.findSome?_cons]
  cases key with
  | text word =>
    by_cases heq : word = name
    · simp [heq, Value.sameKey_text]
    · simp [heq, Value.sameKey_text, get?]
  | _ => simp [Value.sameKey_text, get?]

/-! ## One field -/

/-- What is there once a field is set. -/
theorem mem_set {entry : Value × Value} : entry ∈ entries.set name value ↔
    entry = (.text name, value) ∨ entry.1 ≠ .text name ∧ entry ∈ entries := by
  rw [set, put]
  split
  next hany =>
    obtain ⟨found, hfound, hkey⟩ := List.any_eq_true.mp hany
    rw [List.mem_map]
    constructor
    · rintro ⟨old, hold, rfl⟩
      by_cases hsame : old.1.sameKey (.text name) = true
      · rw [if_pos hsame, Value.sameKey_text.mp hsame]
        exact .inl rfl
      · rw [if_neg hsame]
        exact .inr ⟨fun heq => hsame (Value.sameKey_text.mpr heq), hold⟩
    · rintro (rfl | ⟨hne, hold⟩)
      · exact ⟨found, hfound, by rw [if_pos hkey, Value.sameKey_text.mp hkey]⟩
      · exact ⟨entry, hold, if_neg fun hsame => hne (Value.sameKey_text.mp hsame)⟩
  next hany =>
    have hne : ∀ old ∈ entries, old.1 ≠ .text name := fun old hold heq =>
      hany (List.any_eq_true.mpr ⟨old, hold, Value.sameKey_text.mpr heq⟩)
    rw [List.mem_append, List.mem_singleton, or_comm]
    exact or_congr_right ⟨fun hold => ⟨hne entry hold, hold⟩, And.right⟩

/-- A field that was set is there, once. -/
theorem holds_set (entries : Entries) (name : String) (value : Value) :
    (entries.set name value).Holds name value where
  mem := mem_set.mpr (.inl rfl)
  eq_of_mem other h := by
    rcases mem_set.mp h with heq | ⟨hne, -⟩
    · exact (Prod.mk.inj heq).2
    · exact absurd rfl hne

/-- A field stays when another one is set. -/
theorem Holds.set_of_ne (h : entries.Holds name value) (hne : name ≠ other) (replaced : Value) :
    (entries.set other replaced).Holds name value where
  mem := mem_set.mpr (.inr ⟨fun heq => hne (Value.text.inj heq), h.mem⟩)
  eq_of_mem found hfound := by
    rcases mem_set.mp hfound with heq | ⟨-, hold⟩
    · exact absurd (Value.text.inj (Prod.mk.inj heq).1) hne
    · exact h.eq_of_mem found hold

/-- **A field that is set already** is set to no effect. -/
theorem Holds.set_eq_self (h : entries.Holds name value) : entries.set name value = entries := by
  have hany : entries.any (·.1.sameKey (.text name)) = true :=
    List.any_eq_true.mpr ⟨_, h.mem, Value.sameKey_text.mpr rfl⟩
  rw [set, put, if_pos hany]
  refine (List.map_congr_left fun entry hentry => ?_).trans (List.map_id entries)
  obtain ⟨key, old⟩ := entry
  split
  next hsame =>
    obtain rfl := Value.sameKey_text.mp hsame
    exact congrArg (Value.text name, ·) (h.eq_of_mem old hentry).symm
  next => rfl

/-- A field that is there is found. -/
theorem Holds.get?_eq : ∀ {entries : Entries}, entries.Holds name value →
    entries.get? name = some value
  | [], h => absurd h.mem List.not_mem_nil
  | (key, old) :: entries, h => by
      rw [get?_cons]
      split
      next heq =>
        obtain rfl := Value.sameKey_text.mp heq
        rw [h.eq_of_mem old List.mem_cons_self]
      next hne =>
        refine Holds.get?_eq ⟨?_, fun found hfound => h.eq_of_mem found (.tail _ hfound)⟩
        exact (List.mem_cons.mp h.mem).resolve_left fun heq =>
          hne (Value.sameKey_text.mpr (Prod.mk.inj heq).1.symm)

/-! ## The other entries -/

/-- **Nothing else differs** once a field is set, not even the order. -/
theorem without_set (h : name ∈ names) (entries : Entries) (value : Value) :
    (entries.set name value).without names = entries.without names := by
  have hout : ∀ key : Value, key.sameKey (.text name) = true → key.isAmong names = true :=
    fun key hsame => List.any_eq_true.mpr ⟨name, h, hsame⟩
  rw [set, put, without, without]
  split
  · rw [List.filter_map]
    have hkept : ∀ entry ∈ entries, (fun entry : Value × Value => !entry.1.isAmong names)
        (if entry.1.sameKey (.text name) then (entry.1, value) else entry) =
          !entry.1.isAmong names := fun entry _ => by
      split <;> rfl
    rw [List.filter_congr (q := fun entry => !entry.1.isAmong names) hkept]
    refine (List.map_congr_left fun entry hentry => ?_).trans (List.map_id _)
    have hamong := (List.mem_filter.mp hentry).2
    exact if_neg fun hsame => by simp [hout _ hsame] at hamong
  · rw [List.filter_append, List.filter_singleton, hout _ (Value.sameKey_text.mpr rfl)]
    exact List.append_nil _

/-- What is said under another name is said by the other entries. -/
theorem get?_without (h : name ∉ names) :
    ∀ entries : Entries, (entries.without names).get? name = entries.get? name
  | [] => rfl
  | (key, value) :: entries => by
      have ih := get?_without h entries
      rw [without, List.filter_cons, ← without, get?_cons]
      split
      next hamong => rw [get?_cons, ih]
      next hamong =>
        have hne : ¬key.sameKey (.text name) = true := fun hsame => by
          rw [Value.sameKey_text.mp hsame, Bool.not_eq_true', Bool.not_eq_false,
            Value.isAmong_text] at hamong
          exact h hamong
        rw [if_neg hne, ih]

/-- **What is found after a field was set** is the new value under its name, and the old ones else.
-/
theorem get?_set (entries : Entries) (name other : String) (value : Value) :
    (entries.set name value).get? other =
      if other = name then some value else entries.get? other := by
  split
  next heq => exact heq ▸ (holds_set entries name value).get?_eq
  next hne =>
    have hout : other ∉ [name] := by simpa using hne
    rw [← get?_without hout, without_set List.mem_cons_self, get?_without hout]

/-! ## Several fields -/

theorem setAll_cons (entries : Entries) (field : String × Value) (fields : List (String × Value)) :
    entries.setAll (field :: fields) = (entries.set field.1 field.2).setAll fields := rfl

/-- Setting fields changes nothing besides them. -/
theorem without_setAll (h : ∀ field ∈ fields, field.1 ∈ names) (entries : Entries) :
    (entries.setAll fields).without names = entries.without names := by
  induction fields generalizing entries with
  | nil => rfl
  | cons field fields ih =>
    obtain ⟨hfield, hfields⟩ := List.forall_mem_cons.mp h
    rw [setAll_cons, ih hfields, without_set hfield]

/-- A field stays when others are set. -/
theorem Holds.setAll (h : entries.Holds name value) (hnew : name ∉ fields.map Prod.fst) :
    (entries.setAll fields).Holds name value := by
  induction fields generalizing entries with
  | nil => exact h
  | cons field fields ih =>
    obtain ⟨hne, hrest⟩ := not_or.mp (List.mem_cons.not.mp hnew)
    exact ih (h.set_of_ne hne field.2) hrest

/-- Every field that is set is there, if no name is set twice. -/
theorem holds_setAll (hnodup : (fields.map Prod.fst).Nodup) (entries : Entries) :
    ∀ field ∈ fields, (entries.setAll fields).Holds field.1 field.2 := by
  induction fields generalizing entries with
  | nil => exact List.forall_mem_nil _
  | cons field fields ih =>
    obtain ⟨hnew, hrest⟩ := List.nodup_cons.mp hnodup
    refine List.forall_mem_cons.mpr ⟨?_, ih hrest _⟩
    exact (holds_set entries field.1 field.2).setAll hnew

/-- **Setting what is there already** changes nothing. -/
theorem setAll_eq_self (h : ∀ field ∈ fields, entries.Holds field.1 field.2) :
    entries.setAll fields = entries := by
  induction fields with
  | nil => rfl
  | cons field fields ih =>
    obtain ⟨hfield, hfields⟩ := List.forall_mem_cons.mp h
    rw [setAll_cons, hfield.set_eq_self, ih hfields]

/-- **What is said under a name** once fields are set: by the fields, or as before. -/
theorem get?_setAll (hnodup : (fields.map Prod.fst).Nodup) (entries : Entries) (name : String) :
    (entries.setAll fields).get? name = (fields.lookup name).or (entries.get? name) := by
  induction fields generalizing entries with
  | nil => rfl
  | cons field fields ih =>
    obtain ⟨hnew, hrest⟩ := List.nodup_cons.mp hnodup
    rw [setAll_cons, ih hrest, get?_set, List.lookup_cons]
    by_cases heq : name = field.1
    · subst heq
      have hnone : fields.lookup field.1 = none := by
        rw [List.lookup_eq_none_iff]
        intro other hother
        have hne : other.1 ≠ field.1 := fun h => hnew (h ▸ List.mem_map_of_mem hother)
        simpa using Ne.symm hne
      simp [hnone]
    · have hne : (name == field.1) = false := by simpa using heq
      simp [heq, hne]

/-- The fields are there with their values, and nothing else differs. -/
structure Takes (after before : Entries) (fields : List (String × Value)) : Prop where
  holds : ∀ field ∈ fields, after.Holds field.1 field.2
  without_eq : after.without (fields.map Prod.fst) = before.without (fields.map Prod.fst)

/-- **Fields that are set** are found with their values, and all others as they were. -/
theorem takes_setAll (hnodup : (fields.map Prod.fst).Nodup) (entries : Entries) :
    (entries.setAll fields).Takes entries fields :=
  ⟨holds_setAll hnodup entries, without_setAll (fun _ => List.mem_map_of_mem) entries⟩

/-- **Setting fields twice** is setting them once. -/
theorem setAll_setAll (hnodup : (fields.map Prod.fst).Nodup) (entries : Entries) :
    (entries.setAll fields).setAll fields = entries.setAll fields :=
  setAll_eq_self (holds_setAll hnodup entries)

end Entries

end Recast
