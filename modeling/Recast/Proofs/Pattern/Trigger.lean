import Mathlib.Data.List.Infix
import Recast.Proofs.Pattern.Takes

/-!
# Proofs/Pattern/Trigger — a cue, and what has to stand behind it

A cue says where a pattern may start and nothing about what it goes on with. The **trigger** of a
pattern says both: its cue, and behind it the words and the classes of characters that the pattern
goes through. It is read off the pattern (`Pattern.trigger?`) and says nothing of the order of
readings, so it can be looked for without reading. A rule does nothing to a text in which its
trigger does not stand (`Pattern.CalledBy.misses`).

Whether a trigger stands in a text can be decided, and it is enough to look behind the last
character that is in no cue (`Trigger.in_of_append`).
-/

namespace Recast

open Text

/-! ## What a pattern goes through -/

/-- A part of what stands behind a cue. -/
inductive Mark
  /-- These characters. -/
  | text (word : List Char)
  /-- One character of the class. -/
  | one (allowed : Char → Bool)
  /-- Characters of the class, perhaps none. -/
  | run (allowed : Char → Bool)

/-- The text starts with the parts, one after the other. -/
def follows : List Mark → List Char → Bool
  | [], _ => true
  | .text word :: marks, text => word.isPrefixOf text && follows marks (text.drop word.length)
  | .one allowed :: marks, text => text.head?.any allowed && follows marks text.tail
  | .run allowed :: marks, text => (List.range (text.length + 1)).any fun i =>
    (text.take i).all allowed && follows marks (text.drop i)

section Follows

variable {allowed : Char → Bool} {marks : List Mark} {word run text more : List Char}

theorem follows_text (h : follows marks more = true) :
    follows (.text word :: marks) (word ++ more) = true := by
  simp [follows, h]

theorem follows_one {c : Char} (hc : allowed c = true) (h : follows marks more = true) :
    follows (.one allowed :: marks) (c :: more) = true := by
  simp [follows, hc, h]

/-- **Each of the parts has to be found** somewhere behind the start of the text. -/
theorem exists_suffix_of_follows : ∀ {marks : List Mark} {text : List Char} {mark : Mark},
    mark ∈ marks → follows marks text = true → ∃ rest, rest <:+ text ∧ follows [mark] rest = true
  | .one allowed :: marks, text, mark, hmem, h => by
      obtain ⟨hc, hmore⟩ := Bool.and_eq_true_iff.mp h
      rcases List.mem_cons.mp hmem with rfl | hmem
      · exact ⟨text, List.suffix_refl text, by simp [follows, hc]⟩
      · obtain ⟨rest, hrest, hmark⟩ := exists_suffix_of_follows hmem hmore
        exact ⟨rest, hrest.trans (List.tail_suffix text), hmark⟩
  | .text word :: marks, text, mark, hmem, h => by
      obtain ⟨hword, hmore⟩ := Bool.and_eq_true_iff.mp h
      rcases List.mem_cons.mp hmem with rfl | hmem
      · exact ⟨text, List.suffix_refl text, by simpa [follows] using hword⟩
      · obtain ⟨rest, hrest, hmark⟩ := exists_suffix_of_follows hmem hmore
        exact ⟨rest, hrest.trans (List.drop_suffix _ text), hmark⟩
  | .run _ :: marks, text, mark, hmem, h => by
      obtain ⟨i, hi, hrun⟩ := List.any_eq_true.mp h
      obtain ⟨hall, hmore⟩ := Bool.and_eq_true_iff.mp hrun
      rcases List.mem_cons.mp hmem with rfl | hmem
      · exact ⟨text, List.suffix_refl text,
          List.any_eq_true.mpr ⟨i, hi, by simpa [follows] using hall⟩⟩
      · obtain ⟨rest, hrest, hmark⟩ := exists_suffix_of_follows hmem hmore
        exact ⟨rest, hrest.trans (List.drop_suffix i text), hmark⟩

/-- A character of each class has to be found. -/
theorem exists_of_follows_one (hmem : .one allowed ∈ marks) (h : follows marks text = true) :
    ∃ c ∈ text, allowed c = true := by
  obtain ⟨rest, hrest, hone⟩ := exists_suffix_of_follows hmem h
  cases rest with
  | nil => exact absurd hone (by simp [follows])
  | cons c rest => exact ⟨c, hrest.subset (by simp), by simpa [follows] using hone⟩

/-- Each of the words has to be found. -/
theorem infix_of_follows (hmem : .text word ∈ marks) (h : follows marks text = true) :
    word <:+: text := by
  obtain ⟨rest, hrest, hword⟩ := exists_suffix_of_follows hmem h
  have hprefix : word <+: rest := by simpa [follows, List.isPrefixOf_iff_prefix] using hword
  exact hprefix.isInfix.trans hrest.isInfix

theorem follows_run (hrun : ∀ c ∈ run, allowed c = true) (h : follows marks more = true) :
    follows (.run allowed :: marks) (run ++ more) = true := by
  have hlength : run.length < (run ++ more).length + 1 := by
    rw [List.length_append]
    omega
  refine List.any_eq_true.mpr ⟨run.length, List.mem_range.mpr hlength, ?_⟩
  simpa [h] using hrun

end Follows

namespace Pattern

variable {p : Pattern} {taken : List Char} {kept : List (Nat × Stretch)}

/-- The parts that a reading goes through. Of a choice, and of a text that is to stand there again,
nothing is said. -/
def marks : Pattern → List Mark
  | .text word => [.text word.toList]
  | .one allowed => [.one allowed]
  | .many allowed | .few allowed => [.run allowed]
  | .seq p q => p.marks ++ q.marks
  | .group _ p => p.marks
  | .edge _ => []
  | .alt _ _ | .again _ => [.run fun _ => true]

theorem Takes.follows (h : p.Takes taken kept) : ∀ {more : List Mark} {rest : List Char},
    Recast.follows more rest = true → Recast.follows (p.marks ++ more) (taken ++ rest) = true := by
  induction h with
  | text word => exact follows_text
  | one hc => exact follows_one hc
  | many hrun | few hrun => exact follows_run hrun
  | seq _ _ ihp ihq =>
    intro more rest h
    rw [marks, List.append_assoc, List.append_assoc]
    exact ihp (ihq h)
  | group _ _ _ ih => exact ih
  | edge => exact id
  | first | second | again => exact follows_run fun _ _ => rfl

/-- Where the pattern is read its parts stand ahead. -/
theorem follows_of_read {next : Next} {s : Spot} (h : (p.read next s).isSome = true) :
    Recast.follows p.marks s.rest = true := by
  obtain ⟨spot, hread⟩ := Option.isSome_iff_exists.mp h
  obtain ⟨taken, rest, kept, hrest, htakes, -⟩ := exists_takes_of_read hread
  have hfollows : Recast.follows (p.marks ++ []) (taken ++ rest) = true := htakes.follows rfl
  rwa [hrest, ← List.append_nil p.marks]

end Pattern

/-! ## Triggers -/

namespace Cue

/-- The characters of the cue. -/
def chars : Cue → List Char
  | .word w | .text w => w

variable {cue : Cue} {w before rest a b front more : List Char}

theorem at_word_iff : (Cue.word w).At before rest ↔ before.head?.any isWord = false ∧
    w <+: rest ∧ (rest.drop w.length).head?.any isWord = false := by
  constructor
  · rintro ⟨hbefore, tail, rfl, htail⟩
    exact ⟨hbefore, ⟨tail, rfl⟩, by simpa using htail⟩
  · rintro ⟨hbefore, ⟨tail, rfl⟩, htail⟩
    exact ⟨hbefore, tail, rfl, by simpa using htail⟩

theorem at_text_iff : (Cue.text w).At before rest ↔ w <+: rest :=
  ⟨fun ⟨tail, h⟩ => ⟨tail, h.symm⟩, fun ⟨tail, h⟩ => ⟨tail, h.symm⟩⟩

instance decidableAt (before rest : List Char) : ∀ cue : Cue, Decidable (cue.At before rest)
  | .word _ => decidable_of_iff' _ at_word_iff
  | .text _ => decidable_of_iff' _ at_text_iff

instance decidableIn (text : List Char) : ∀ cue : Cue, Decidable (cue.In text)
  | .word w => inferInstanceAs (Decidable (w ∈ words text))
  | .text w => inferInstanceAs (Decidable (w <:+: text))

theorem prefix_of_at (h : cue.At before rest) : cue.chars <+: rest := by
  cases cue with
  | word w => exact (at_word_iff.mp h).2.1
  | text w => exact at_text_iff.mp h

/-- Where a cue stands it also stands if less is known of what comes before. -/
theorem At.of_append (h : cue.At (before ++ a) rest) : cue.At before rest := by
  cases cue with
  | word w =>
    obtain ⟨hbefore, htail⟩ := h
    refine ⟨?_, htail⟩
    cases before with
    | nil => rfl
    | cons c before => exact hbefore
  | text w => exact h

/-- A cue that ends before the text does stands in the text by itself. -/
theorem At.of_prefix (h : cue.At before (b ++ more)) (hlong : cue.chars.length < b.length) :
    cue.At before b := by
  cases cue with
  | word w =>
    obtain ⟨hbefore, hahead, htail⟩ := at_word_iff.mp h
    replace hlong : w.length < b.length := hlong
    refine at_word_iff.mpr ⟨hbefore, List.prefix_of_prefix_length_le hahead
      (List.prefix_append b more) (Nat.le_of_lt hlong), ?_⟩
    rw [List.drop_append_of_le_length (Nat.le_of_lt hlong)] at htail
    cases hdrop : b.drop w.length with
    | nil =>
      have := congrArg List.length hdrop
      simp only [List.length_drop, List.length_nil] at this
      omega
    | cons c tail => simpa [hdrop] using htail
  | text w =>
    exact at_text_iff.mpr (List.prefix_of_prefix_length_le (at_text_iff.mp h)
      (List.prefix_append b more) (Nat.le_of_lt hlong))

/-- The cue does not stand in the text, and cannot run over its end. -/
def isPast (cue : Cue) (front : List Char) : Bool :=
  front.getLast?.any (!cue.chars.contains ·) && !decide (cue.In front)

/-- **Behind such a text the cue has to be looked for only in what follows.** -/
theorem exists_of_at_append (hplain : cue.isPlain = true) (hpast : cue.isPast front = true)
    (h : front ++ more = a ++ b) (hat : cue.At a.reverse b) :
    ∃ n, a = front ++ n ∧ more = n ++ b := by
  obtain ⟨hlast, hnot⟩ := Bool.and_eq_true_iff.mp hpast
  rcases List.append_eq_append_iff.mp h with hbehind | ⟨m, rfl, rfl⟩
  · exact hbehind
  · rcases List.eq_nil_or_concat m with rfl | ⟨m, c, rfl⟩
    · exact ⟨[], by simp, by simp⟩
    · have hc : c ∉ cue.chars := by simpa using hlast
      -- the cue ends before `c`, so it would stand in the text
      have hlong : cue.chars.length < (m ++ [c]).length := by
        by_contra hshort
        have hahead := List.prefix_of_prefix_length_le (List.prefix_append (m ++ [c]) more)
          (by simpa using prefix_of_at hat) (by omega)
        exact hc (hahead.subset (by simp))
      have hwithin : cue.At (a.reverse ++ []) ((m ++ [c]) ++ []) := by
        simpa using At.of_prefix (by simpa using hat) hlong
      have hin := in_of_at hplain rfl hwithin
      simp at hnot
      exact absurd (by simpa using hin) hnot

end Cue

/-- **A cue, and what stands behind it.** -/
structure Trigger where
  cue : Cue
  marks : List Mark := []

namespace Trigger

variable {t : Trigger} {before rest front text more : List Char}

/-- The trigger stands at a place, between the text before it (nearest character first) and the text
after. -/
def At (t : Trigger) (before rest : List Char) : Prop :=
  t.cue.At before rest ∧ follows t.marks (rest.drop t.cue.chars.length) = true

/-- The trigger stands somewhere in a text. -/
def In (t : Trigger) (text : List Char) : Prop :=
  ∃ i < text.length + 1, t.At (text.take i).reverse (text.drop i)

instance : Decidable (t.At before rest) := inferInstanceAs (Decidable (_ ∧ _))

instance : Decidable (t.In text) := inferInstanceAs (Decidable (∃ i < text.length + 1, _))

theorem in_iff : t.In text ↔ ∃ a b, text = a ++ b ∧ t.At a.reverse b := by
  constructor
  · rintro ⟨i, -, h⟩
    exact ⟨_, _, (List.take_append_drop i text).symm, h⟩
  · rintro ⟨a, b, rfl, h⟩
    have hlength : a.length < (a ++ b).length + 1 := by
      rw [List.length_append]
      omega
    exact ⟨a.length, hlength, by simpa using h⟩

/-- A class of characters that a text has none of keeps the trigger out of it. -/
theorem not_in_of_mem_marks {allowed : Char → Bool} (hmem : .one allowed ∈ t.marks)
    (hnone : ∀ c ∈ text, allowed c = false) : ¬ t.In text := by
  rintro ⟨i, -, -, hmarks⟩
  obtain ⟨c, hc, hallowed⟩ := exists_of_follows_one hmem hmarks
  rw [hnone c (List.mem_of_mem_drop (List.mem_of_mem_drop hc))] at hallowed
  exact absurd hallowed (by decide)

/-- A trigger shows its cue. -/
theorem In.cue (hplain : t.cue.isPlain = true) (h : t.In text) : t.cue.In text := by
  obtain ⟨a, b, rfl, hat, -⟩ := in_iff.mp h
  have hat : t.cue.At (a.reverse ++ []) (b ++ []) := by simpa using hat
  exact Cue.in_of_at hplain rfl hat

/-- **What comes before the last character that is in no cue need not be looked at.** -/
theorem in_of_append (hplain : t.cue.isPlain = true) (hpast : t.cue.isPast front = true)
    (h : t.In (front ++ more)) : t.In more := by
  obtain ⟨a, b, hab, hat, hmarks⟩ := in_iff.mp h
  obtain ⟨n, rfl, rfl⟩ := Cue.exists_of_at_append hplain hpast hab hat
  rw [List.reverse_append] at hat
  exact in_iff.mpr ⟨n, b, rfl, hat.of_append, hmarks⟩

end Trigger

/-! ## Patterns with a trigger -/

namespace Pattern

variable {p q r : Pattern} {t : Trigger} {taken text : List Char} {kept : List (Nat × Stretch)}
  {name word : String} {fill : Spot → List Char}

/-- **What a pattern looks for first, and what it goes on with.** Patterns that are read at the
start of a line only have none. -/
def trigger? : Pattern → Option Trigger
  | .text word => some { cue := .text word.toList }
  | .seq (.edge .word) (.text word) => some { cue := .word word.toList }
  | .seq (.edge .word) (.seq (.text word) q) =>
    some { cue := .word word.toList, marks := q.marks }
  | .seq (.edge .word) (.seq _ q) => q.trigger?
  | .seq p q => p.trigger?.map fun t => { t with marks := t.marks ++ q.marks }
  | _ => none

/-- The first word or sign that is looked for on a line, by a pattern that is read at its start. -/
def lineCue? : Pattern → Option Cue
  | .seq (.text word) _ =>
    some (if (Cue.word word.toList).isPlain then .word word.toList else .text word.toList)
  | .seq _ q => q.lineCue?
  | _ => none

/-- **What the pattern cannot do without**: the cue of its trigger, or what it looks for on the line
that it is read at the start of. -/
def cue? (p : Pattern) : Option Cue :=
  match p.trigger? with
  | some t => some t.cue
  | none => p.lineCue?

/-- **Where the pattern is read the trigger stands ahead**, and its cue on the same line. -/
def CalledBy (p : Pattern) (t : Trigger) : Prop :=
  ∀ next s, (p.read next s).isSome = true → ∃ skipped rest,
    '\n' ∉ skipped ∧ s.rest = skipped ++ rest ∧ t.At (skipped.reverse ++ s.before) rest

theorem CalledBy.shows (h : p.CalledBy t) : p.Shows [t.cue] := fun next s hread => by
  obtain ⟨skipped, rest, hskip, hrest, hcue, -⟩ := h next s hread
  exact ⟨t.cue, List.mem_singleton_self _, skipped, rest, hskip, hrest, hcue⟩

/-- A text without the trigger is passed over, whatever comes before it. -/
theorem CalledBy.misses (h : p.CalledBy t) (hnot : ¬ t.In text) (before : List Char) :
    p.Misses before text [] := by
  rintro a b rfl -
  by_contra hread
  obtain ⟨skipped, rest, -, hrest, hcue, hmarks⟩ := h some _ (Option.isSome_iff_ne_none.mpr hread)
  have hcue : t.cue.At ((a ++ skipped).reverse ++ before) rest := by simpa using hcue
  refine hnot (Trigger.in_iff.mpr ⟨a ++ skipped, rest, ?_, hcue.of_append, hmarks⟩)
  simpa using hrest

/-- A keyword, and something that is no word character behind it. -/
theorem calledBy_keyword (hplain : (Cue.word word.toList).isPlain = true) (hq : q.Shuns isWord) :
    (Pattern.seq (.seq (.edge .word) (.text word)) q).CalledBy
      ⟨.word word.toList, q.marks⟩ := by
  rintro next ⟨before, rest, kept⟩ hread
  obtain ⟨hmeets, hread⟩ := meets_of_read_edge hread
  obtain ⟨tail, htail, hread⟩ := exists_of_read_text hread
  obtain rfl : rest = word.toList ++ tail := htail
  refine ⟨[], _, by simp, rfl, ⟨(Cue.meets_word_before hplain).mp hmeets, tail, rfl,
    hq.head?_of_read hread⟩, ?_⟩
  simpa [Cue.chars] using follows_of_read hread

theorem calledBy_word (hplain : (Cue.word word.toList).isPlain = true) :
    (Pattern.seq (.edge .word) (.seq (.text word) (.seq (.edge .word) q))).CalledBy
      ⟨.word word.toList, q.marks⟩ := by
  rintro next ⟨before, rest, kept⟩ hread
  obtain ⟨hmeets, hread⟩ := meets_of_read_edge hread
  obtain ⟨tail, htail, hread⟩ := exists_of_read_text hread
  obtain ⟨hbehind, hread⟩ := meets_of_read_edge hread
  obtain rfl : rest = word.toList ++ tail := htail
  refine ⟨[], _, by simp, rfl, ⟨(Cue.meets_word_before hplain).mp hmeets, tail, rfl,
    (Cue.meets_word_behind hplain).mp hbehind⟩, ?_⟩
  simpa [Cue.chars] using follows_of_read hread

theorem calledBy_text : (Pattern.text word).CalledBy ⟨.text word.toList, []⟩ := fun _ s hread => by
  obtain ⟨tail, htail, -⟩ := exists_of_read_text hread
  exact ⟨[], s.rest, by simp, rfl, ⟨tail, htail⟩, rfl⟩

/-- A text behind something else on its line. -/
theorem calledBy_behind (hp : p.Stays) :
    (Pattern.seq (.edge .word) (.seq p (.seq (.text word) q))).CalledBy
      ⟨.text word.toList, q.marks⟩ := by
  rintro next s hread
  obtain ⟨-, hread⟩ := meets_of_read_edge hread
  obtain ⟨run, rest, kept, hrun, hrest, hread⟩ := hp _ s hread
  obtain ⟨tail, htail, hread⟩ := exists_of_read_text hread
  obtain rfl : rest = word.toList ++ tail := htail
  refine ⟨run, _, hrun, hrest, ⟨tail, rfl⟩, ?_⟩
  simpa [Cue.chars] using follows_of_read hread

end Pattern

end Recast
