import Mathlib.Data.List.Induction
import Mathlib.Data.List.Nodup
import Recast.Catalog
import Recast.Chain.Catalog
import Recast.Proofs.Text.Lower

/-!
# Proofs/Catalog — looking languages up

A catalog is made from a list of languages in which an id may stand several times. The list that it
keeps has each id once, at the place where it came first, and the language that came last
(`isListing_distinct`). What the catalog says of an id then depends on nothing but the normal form
of the id, for listed and for unlisted ones (`answers_ofLanguages`).

Nothing is asked of the languages: whether their own ids are in the normal form does not matter,
because it is only what is looked up that is brought into it.
-/

namespace Recast

namespace Catalog

/-! ## The last language of an id -/

/-- Of the languages with that id, the last. -/
def IsLast (languages : List Language) (id : String) (language : Language) : Prop :=
  ∃ before after, languages = before ++ language :: after ∧ language.id = id ∧
    ∀ other ∈ after, other.id ≠ id

/-- The first language from behind is the last one with the id. -/
theorem find?_reverse_eq_some_iff {languages : List Language} {id : String} {language : Language} :
    languages.reverse.find? (·.id == id) = some language ↔ IsLast languages id language := by
  rw [List.find?_eq_some_iff_append]
  constructor
  · rintro ⟨hid, after, before, hsplit, hafter⟩
    refine ⟨before.reverse, after.reverse, ?_, beq_iff_eq.mp hid, fun other hother => ?_⟩
    · rw [← List.reverse_reverse languages, hsplit]
      simp
    · simpa using hafter other (List.mem_reverse.mp hother)
  · rintro ⟨before, after, rfl, hid, hafter⟩
    refine ⟨beq_iff_eq.mpr hid, after.reverse, before.reverse, by simp, fun other hother => ?_⟩
    simpa using hafter other (List.mem_reverse.mp hother)

/-- None is found just if no language has the id. -/
theorem find?_reverse_eq_none_iff {languages : List Language} {id : String} :
    languages.reverse.find? (·.id == id) = none ↔ ∀ language ∈ languages, language.id ≠ id := by
  simp

theorem IsLast.mem {languages : List Language} {id : String} {language : Language}
    (h : IsLast languages id language) : language ∈ languages := by
  obtain ⟨before, after, rfl, -, -⟩ := h
  simp

theorem IsLast.id_eq {languages : List Language} {id : String} {language : Language}
    (h : IsLast languages id language) : language.id = id := by
  obtain ⟨before, after, -, hid, -⟩ := h
  exact hid

/-- There is a last language with an id if there is any. -/
theorem exists_isLast_iff {languages : List Language} {id : String} :
    (∃ language, IsLast languages id language) ↔ ∃ language ∈ languages, language.id = id := by
  constructor
  · rintro ⟨language, hlast⟩
    exact ⟨language, hlast.mem, hlast.id_eq⟩
  · rintro ⟨language, hmem, hid⟩
    cases hfind : languages.reverse.find? (·.id == id) with
    | none => exact absurd hid (find?_reverse_eq_none_iff.mp hfind language hmem)
    | some last => exact ⟨last, find?_reverse_eq_some_iff.mp hfind⟩

/-! ## One language more -/

section Insert

variable (languages : List Language) (language : Language)

/-- Taking the place of a language of the same id leaves the id there. -/
theorem id_place (listed : Language) :
    (if listed.id == language.id then language else listed).id = listed.id := by
  by_cases hid : listed.id = language.id <;> simp [hid]

theorem any_id_iff {id : String} :
    (languages.any (·.id == id)) = true ↔ id ∈ languages.map (·.id) := by
  simp

/-- A language with a known id takes the place of the older one. -/
theorem map_id_insert :
    (insert languages language).map (·.id) =
      if language.id ∈ languages.map (·.id) then languages.map (·.id)
      else languages.map (·.id) ++ [language.id] := by
  rw [insert]
  by_cases hmem : language.id ∈ languages.map (·.id)
  · rw [if_pos ((any_id_iff _).mpr hmem), if_pos hmem, List.map_map]
    exact List.map_congr_left fun listed _ => id_place language listed
  · rw [if_neg (fun h => hmem ((any_id_iff _).mp h)), if_neg hmem, List.map_append]
    rfl

/-- The new language is found under its id, and all else as before. -/
theorem find?_insert (id : String) :
    (insert languages language).find? (·.id == id) =
      if language.id = id then some language else languages.find? (·.id == id) := by
  rw [insert]
  by_cases hany : (languages.any (·.id == language.id)) = true
  · have hplace (listed : Language) :
        ((if listed.id == language.id then language else listed).id == id) =
          (listed.id == id) := by rw [id_place]
    rw [if_pos hany, List.find?_map, Function.comp_def]
    simp only [hplace]
    cases hfind : languages.find? (·.id == id) with
    | none =>
      have hne : language.id ≠ id := by
        rintro rfl
        obtain ⟨listed, hmem, hid⟩ := List.any_eq_true.mp hany
        exact List.find?_eq_none.mp hfind listed hmem hid
      rw [if_neg hne]
      rfl
    | some listed =>
      have hlisted := List.find?_some hfind
      obtain rfl := beq_iff_eq.mp hlisted
      by_cases hid : language.id = listed.id
      · simp [hid]
      · simp [hid, Ne.symm hid]
  · have hnone : languages.find? (·.id == language.id) = none :=
      List.find?_eq_none.mpr fun listed hmem hid => hany (List.any_eq_true.mpr ⟨listed, hmem, hid⟩)
    rw [if_neg hany, List.find?_append]
    by_cases hid : language.id = id
    · subst hid
      simp [hnone]
    · simp [hid]

end Insert

/-! ## The list that is kept -/

/-- The last of some languages is the last to be inserted. -/
theorem distinct_concat (languages : List Language) (language : Language) :
    distinct (languages ++ [language]) = insert (distinct languages) language := by
  rw [distinct, List.foldl_append]
  rfl

/-- An id is listed where it was first met. -/
theorem eraseDups_concat (ids : List String) (id : String) :
    (ids ++ [id]).eraseDups = if id ∈ ids then ids.eraseDups else ids.eraseDups ++ [id] := by
  rw [List.eraseDups_append]
  by_cases hmem : id ∈ ids
  · rw [if_pos hmem, List.removeAll, List.filter_cons_of_neg (by simpa using hmem)]
    simp
  · rw [if_neg hmem, List.removeAll, List.filter_cons_of_pos (by simpa using hmem)]
    rfl

/-- **The kept ids are the given ones, each where it came first.** -/
theorem map_id_distinct (languages : List Language) :
    (distinct languages).map (·.id) = (languages.map (·.id)).eraseDups := by
  induction languages using List.reverseRecOn with
  | nil => rfl
  | append_singleton languages language ih =>
    rw [distinct_concat, map_id_insert, ih, List.map_append, List.map_singleton,
      eraseDups_concat]
    simp only [List.mem_eraseDups]

/-- **Under an id stands the last language of that id.** -/
theorem find?_distinct (languages : List Language) (id : String) :
    (distinct languages).find? (·.id == id) = languages.reverse.find? (·.id == id) := by
  induction languages using List.reverseRecOn with
  | nil => rfl
  | append_singleton languages language ih =>
    rw [distinct_concat, find?_insert, ih, List.reverse_append, List.reverse_singleton,
      List.singleton_append]
    by_cases hid : language.id = id
    · rw [if_pos hid, List.find?_cons_of_pos (by simpa using hid)]
    · rw [if_neg hid, List.find?_cons_of_neg (by simpa using hid)]

/-- No id is kept twice. -/
theorem nodup_map_id_distinct (languages : List Language) :
    ((distinct languages).map (·.id)).Nodup := by
  induction languages using List.reverseRecOn with
  | nil => exact List.nodup_nil
  | append_singleton languages language ih =>
    rw [distinct_concat, map_id_insert]
    split
    · exact ih
    · rename_i hnew
      exact ih.append (List.nodup_singleton _) (List.disjoint_singleton.mpr hnew)

/-- The list that is kept of the languages. -/
structure IsListing (languages kept : List Language) : Prop where
  nodup : (kept.map (·.id)).Nodup
  /-- The ids stand in the order in which they came first. -/
  map_id : kept.map (·.id) = (languages.map (·.id)).eraseDups
  isLast : ∀ language ∈ kept, IsLast languages language.id language

/-- Among languages with different ids, each is found by its own. -/
theorem find?_id_of_mem {kept : List Language} (hnodup : (kept.map (·.id)).Nodup)
    {language : Language} (hmem : language ∈ kept) :
    kept.find? (·.id == language.id) = some language := by
  cases hfind : kept.find? (·.id == language.id) with
  | none => exact absurd (beq_self_eq_true _) (List.find?_eq_none.mp hfind language hmem)
  | some other =>
    have hother := List.find?_some hfind
    have hid : other.id = language.id := beq_iff_eq.mp hother
    rw [List.inj_on_of_nodup_map hnodup (List.mem_of_find?_eq_some hfind) hmem hid]

/-- **Languages are listed** once for each id, in the place of the first and as the last of them. -/
theorem isListing_distinct (languages : List Language) :
    IsListing languages (distinct languages) where
  nodup := nodup_map_id_distinct languages
  map_id := map_id_distinct languages
  isLast language hmem := by
    rw [← find?_reverse_eq_some_iff, ← find?_distinct]
    exact find?_id_of_mem (nodup_map_id_distinct languages) hmem

/-! ## What is said of an id -/

/-- The language that an id is resolved to has this id, listed or made up. -/
theorem id_resolve (catalog : Catalog) (id : String) :
    (catalog.resolve id).id = normalId id := by
  rw [resolve]
  cases hfind : catalog.find? id with
  | none => rfl
  | some language =>
    rw [find?] at hfind
    rw [Option.getD_some]
    have hid := List.find?_some hfind
    exact beq_iff_eq.mp hid

/-- The id that an id is resolved to stands for the same as the id itself. -/
theorem normalId_id_resolve (catalog : Catalog) (id : String) :
    normalId (catalog.resolve id).id = normalId id := by
  rw [id_resolve, normalId_normalId]

/-- A language is there just if it is found. -/
theorem get_eq_ok_iff (catalog : Catalog) (id : String) (language : Language) :
    catalog.get id = .ok language ↔ catalog.find? id = some language := by
  rw [get]
  cases catalog.find? id <;> simp

/-- What a catalog finds under an id is the last language that has it. -/
theorem find?_ofLanguages (languages : List Language) (id : String) :
    (ofLanguages languages).find? id = languages.reverse.find? (·.id == normalId id) :=
  find?_distinct languages (normalId id)

/-- What a catalog of the languages says of an id. -/
structure Answers (catalog : Catalog) (languages : List Language) (id : String) : Prop where
  isKnown_iff : catalog.isKnown id = true ↔ ∃ language, catalog.get id = .ok language
  exists_get_iff : (∃ language, catalog.get id = .ok language) ↔
    ∃ language ∈ languages, language.id = normalId id
  /-- What is found is the last language of that id. -/
  get_eq_iff : ∀ language,
    catalog.get id = .ok language ↔ IsLast languages (normalId id) language
  resolve_of_get : ∀ language, catalog.get id = .ok language → catalog.resolve id = language
  /-- Who asks for an id that is not listed is told the ids that are. -/
  refused : (∀ language ∈ languages, language.id ≠ normalId id) →
    catalog.get id = .error { id, supported := (languages.map (·.id)).eraseDups }
  resolve_of_unlisted : (∀ language ∈ languages, language.id ≠ normalId id) →
    (catalog.resolve id).id = normalId id ∧ catalog.resolve id ∉ catalog.languages
  /-- Resolving what was resolved changes nothing. -/
  resolveRef_resolve :
    catalog.resolveRef (.given (catalog.resolveRef (.id id))) = catalog.resolveRef (.id id)
  hasTemplate_resolve : catalog.hasTemplate (catalog.resolve id).id = catalog.hasTemplate id
  template?_resolve : catalog.template? (catalog.resolve id).id = catalog.template? id
  find?_source : ∀ target, Chain.find? (catalog.resolve id).id target = Chain.find? id target
  find?_target : ∀ source, Chain.find? source (catalog.resolve id).id = Chain.find? source id

/-- A language that was made up for an id is not in the catalog. -/
theorem resolve_not_mem {languages : List Language} {id : String}
    (hunlisted : ∀ language ∈ languages, language.id ≠ normalId id) :
    (ofLanguages languages).resolve id ∉ (ofLanguages languages).languages := by
  intro hmem
  have hlast := (isListing_distinct languages).isLast _ hmem
  exact hunlisted _ hlast.mem (id_resolve _ id)

/-- **A catalog answers by the normal form of an id**, whatever languages it was made from: it knows
the ids that are listed, finds the last language of each, makes up the others, and gives the same
template and the same chains for an id and for the language that it resolves to. -/
theorem answers_ofLanguages (languages : List Language) :
    IsListing languages (ofLanguages languages).languages ∧
      ∀ id, Answers (ofLanguages languages) languages id := by
  refine ⟨isListing_distinct languages, fun id => ?_⟩
  have hget (language : Language) : (ofLanguages languages).get id = .ok language ↔
      IsLast languages (normalId id) language := by
    rw [get_eq_ok_iff, find?_ofLanguages, find?_reverse_eq_some_iff]
  have hnormal := normalId_id_resolve (ofLanguages languages) id
  exact
    { isKnown_iff := by
        simp only [isKnown, Option.isSome_iff_exists, get_eq_ok_iff]
      exists_get_iff := (exists_congr hget).trans exists_isLast_iff
      get_eq_iff := hget
      resolve_of_get := fun language hfound => by
        rw [resolve, (get_eq_ok_iff _ _ _).mp hfound, Option.getD_some]
      refused := fun hunlisted => by
        rw [get, find?_ofLanguages, find?_reverse_eq_none_iff.mpr hunlisted, ← map_id_distinct]
        rfl
      resolve_of_unlisted := fun hunlisted => ⟨id_resolve _ id, resolve_not_mem hunlisted⟩
      resolveRef_resolve := rfl
      hasTemplate_resolve := by rw [hasTemplate, hnormal, hasTemplate]
      template?_resolve := by rw [template?, hnormal, template?]
      find?_source := fun target => by rw [Chain.find?, hnormal, Chain.find?]
      find?_target := fun source => by rw [Chain.find?, hnormal, Chain.find?] }

end Catalog

end Recast
