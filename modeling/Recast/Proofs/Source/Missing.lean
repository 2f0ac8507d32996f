import Recast.Proofs.Pattern.Cue
import Recast.Proofs.Source.Blank
import Recast.Proofs.Source.Stencil

/-!
# Proofs/Source/Missing — what a line cannot hold, read off its shape

The fixed texts of a stencil are known, and what fills its blanks is tame. So whether a cue can
stand in a line is decided on the stencil alone (`Cue.missing`), once for all the lines of the
shape.
-/

namespace Recast

open Text Source

namespace Stencil

variable {stencil : Stencil} {value : Nat → List Char} {w : List Char}

/-! ## Words -/

/-- The stencil does not start with a word character, whatever fills its blanks. -/
def startsApart : Stencil → Bool
  | [] => true
  | .text [] :: rest => startsApart rest
  | .text (c :: _) :: _ => !isWord c
  | .blank _ :: _ => false

/-- No word runs across the parts of the stencil, whatever fills its blanks. -/
def seamed : Stencil → Bool
  | [] => true
  | .text chars :: rest => (!chars.getLast?.any isWord || startsApart rest) && seamed rest
  | .blank _ :: rest => startsApart rest && seamed rest

/-- A stencil that starts apart starts with no sign of a word. -/
theorem head?_fill_of_startsApart (h : stencil.startsApart = true) :
    (stencil.fill value).head?.any isWord = false := by
  induction stencil with
  | nil => rfl
  | cons part stencil ih =>
    match part with
    | .text [] => exact ih h
    | .text (c :: _) => simpa [startsApart] using h
    | .blank n => exact absurd h (by simp [startsApart])

/-- **The words of a line are those of the fixed texts and those of the values.** -/
theorem mem_words_fill (h : stencil.seamed = true) (hw : w ∈ words (stencil.fill value)) :
    w = [] ∨ (∃ text ∈ stencil.texts, w ∈ words text) ∨ ∃ n, w ∈ words (value n) := by
  induction stencil with
  | nil => exact .inl (by simpa using hw)
  | cons part stencil ih =>
    cases part with
    | text chars =>
      obtain ⟨hseam, hrest⟩ := Bool.and_eq_true_iff.mp h
      have happart : chars.getLast?.any isWord = false ∨
          (Stencil.fill stencil value).head?.any isWord = false :=
        (Bool.or_eq_true_iff.mp hseam).imp (by simpa using ·) head?_fill_of_startsApart
      rcases mem_words_append happart hw with hw | hw
      · exact .inr (.inl ⟨_, List.mem_cons_self, hw⟩)
      · exact (ih hrest hw).imp_right (Or.imp_left fun ⟨text, ht, hw⟩ =>
          ⟨text, List.mem_cons_of_mem _ ht, hw⟩)
    | blank n =>
      obtain ⟨hseam, hrest⟩ := Bool.and_eq_true_iff.mp h
      rcases mem_words_append (.inr (head?_fill_of_startsApart hseam)) hw with hw | hw
      · exact .inr (.inr ⟨n, hw⟩)
      · exact ih hrest hw

/-- A number stands first, in a blank. -/
def startsNumber (kinds : List Blank) : Stencil → Bool
  | .blank n :: _ => blankAt kinds n == some .number
  | _ => false

/-- A dot has a number behind it, or else the run of word characters behind it ends before the next
blank. -/
def dotsSettled (kinds : List Blank) : Stencil → Bool
  | [] => true
  | .text chars :: rest =>
    (dotsEnd chars || chars.getLast? == some '.' && startsNumber kinds rest) &&
      dotsSettled kinds rest
  | .blank _ :: rest => dotsSettled kinds rest

/-- The first word of a number starts with a digit. -/
theorem takeWhile_fill_of_startsNumber {kinds : List Blank} {values : List (List Char)}
    (hfits : List.Forall₂ Blank.Fits kinds values) (h : stencil.startsNumber kinds = true) :
    ((stencil.fill (fillers values)).takeWhile isWord).head?.any isDigit = true := by
  match stencil with
  | .blank n :: rest =>
    obtain ⟨m, hm⟩ := fits_of_blankAt hfits (beq_iff_eq.mp h)
    rw [fill_blank, hm, List.takeWhile_append_of_pos m.isWordRun.isWord]
    cases hdigits : m.digits with
    | nil => exact absurd hdigits m.ne_nil
    | cons c more => simpa using isDigit_of_charIsDigit (m.isDigit c (by simp [hdigits]))

/-- **The words behind the dots of a line** are those of the fixed texts, and numbers. -/
theorem mem_dotted_fill {kinds : List Blank} {values : List (List Char)}
    (hfits : List.Forall₂ Blank.Fits kinds values) (h : stencil.dotsSettled kinds = true)
    (hw : w ∈ dotted (stencil.fill (fillers values))) :
    (∃ text ∈ stencil.texts, w ∈ dotted text) ∨ w.head?.any isDigit = true := by
  induction stencil with
  | nil => simp [dotted] at hw
  | cons part stencil ih =>
    cases part with
    | text chars =>
      obtain ⟨hend, hrest⟩ := Bool.and_eq_true_iff.mp h
      have hlater : w ∈ dotted (Stencil.fill stencil (fillers values)) →
          (∃ text ∈ Stencil.texts (.text chars :: stencil), w ∈ dotted text) ∨
            w.head?.any isDigit = true := by
        intro hw
        rcases ih hrest hw with ⟨text, ht, hw⟩ | hfirst
        · exact .inl ⟨text, List.mem_cons_of_mem _ ht, hw⟩
        · exact .inr hfirst
      rcases Bool.or_eq_true_iff.mp hend with hend | hnumber
      · rw [fill_text, dotted_append _ hend, List.mem_append] at hw
        exact hw.elim (fun hw => .inl ⟨_, List.mem_cons_self, hw⟩) hlater
      · obtain ⟨hlast, hfirst⟩ := Bool.and_eq_true_iff.mp hnumber
        obtain ⟨init, rfl⟩ : ∃ init, chars = init ++ ['.'] :=
          ⟨_, (List.dropLast_append_getLast? _ (beq_iff_eq.mp hlast)).symm⟩
        rw [fill_text, List.append_assoc, List.singleton_append] at hw
        rcases mem_dotted_append_dot hw with hw | rfl | hw
        · exact .inl ⟨_, List.mem_cons_self, hw⟩
        · exact .inr (takeWhile_fill_of_startsNumber hfits hfirst)
        · exact hlater hw
    | blank n =>
      have hdot : '.' ∉ fillers values n := fun hm => by
        have := (tame_fillers hfits n).valueChar '.' hm
        exact absurd this (by decide)
      rw [fill_blank, dotted_append_of_not_mem _ hdot] at hw
      exact ih h hw

/-! ## First and last characters -/

/-- The stencil starts with a character that is no blank, in a word if that is in a blank. -/
def startsInk (kinds : List Blank) : Stencil → Bool
  | .text [] :: rest => startsInk kinds rest
  | .text (c :: _) :: _ => !isBlank c
  | .blank n :: _ => isWordAt kinds n
  | [] => false

/-- A stencil that starts with ink starts with a sign that is no blank. -/
theorem exists_fill_of_startsInk {kinds : List Blank} {values : List (List Char)}
    (hfits : List.Forall₂ Blank.Fits kinds values) (h : stencil.startsInk kinds = true) :
    ∃ c more, stencil.fill (fillers values) = c :: more ∧ isBlank c = false := by
  induction stencil with
  | nil => exact absurd h (by simp [startsInk])
  | cons part stencil ih =>
    match part with
    | .text [] => exact ih h
    | .text (c :: chars) => exact ⟨c, _, rfl, by simpa [startsInk] using h⟩
    | .blank n =>
      obtain ⟨c, more, hx, hc⟩ := (isWordRun_of_isWordAt hfits h).exists_cons
      rw [fill_blank, hx]
      exact ⟨c, _, rfl, isBlank_of_isWord c hc⟩

theorem head?_fill_of_startsInk {kinds : List Blank} {values : List (List Char)}
    (hfits : List.Forall₂ Blank.Fits kinds values) (h : stencil.startsInk kinds = true) :
    (stencil.fill (fillers values)).head?.any isBlank = false := by
  obtain ⟨c, more, hfill, hc⟩ := exists_fill_of_startsInk hfits h
  simpa [hfill] using hc

/-- The stencil ends with the character. -/
def endsWith (c : Char) : Stencil → Bool
  | [] => false
  | [.text chars] => chars.getLast? == some c
  | _ :: rest => endsWith c rest

/-- The last sign of a stencil is the last of what it writes. -/
theorem getLast?_fill_of_endsWith {c : Char} (h : stencil.endsWith c = true) :
    (stencil.fill value).getLast? = some c := by
  induction stencil with
  | nil => exact absurd h (by simp [endsWith])
  | cons part rest ih =>
    match part, rest with
    | .text chars, [] => simpa [endsWith] using h
    | .blank n, [] => exact absurd h (by simp [endsWith])
    | .text chars, next :: rest =>
      rw [fill_text, List.getLast?_append, ih h]
      rfl
    | .blank n, next :: rest =>
      rw [fill_blank, List.getLast?_append, ih h]
      rfl

/-- The character does not occur in the stencil. -/
def isFree (c : Char) (stencil : Stencil) : Bool :=
  !isValueChar c && stencil.texts.all fun text => !text.contains c

/-- **A sign that a stencil is free of** stands in nothing that it writes of tame values. -/
theorem not_mem_fill_of_isFree {c : Char} (htame : ∀ n, Tame (value n))
    (h : stencil.isFree c = true) : c ∉ stencil.fill value := by
  obtain ⟨hc, h⟩ := Bool.and_eq_true_iff.mp h
  intro hmem
  rcases mem_fill hmem with ⟨text, ht, hmem⟩ | ⟨n, hmem⟩
  · have := List.all_eq_true.mp h text ht
    simp [hmem] at this
  · simp [(htame n).valueChar c hmem] at hc

end Stencil

/-! ## Cues -/

namespace Cue

/-- The cue is not among the names of programs. -/
def isReserved : Cue → Bool
  | .word w => Source.isReserved w
  | .text _ => true

/-- The cue cannot stand in a line of the stencil. -/
def missing (stencil : Stencil) : Cue → Bool
  | .word w => stencil.seamed && stencil.texts.all fun text => !(words text).contains w
  | .text [] => false
  | .text (c :: _) => stencil.isFree c

/-- The sign is a word behind a dot, and some other word stands behind each dot of the stencil. -/
def missingDot (kinds : List Blank) (stencil : Stencil) : List Char → Bool
  | '.' :: more => more.any (!isWord ·) && !more.head?.any isDigit && stencil.dotsSettled kinds &&
      stencil.texts.all fun text => !(dotted text).contains (more.takeWhile isWord)
  | _ => false

variable {stencil : Stencil} {value : Nat → List Char} (n : Nat)

/-- Indentation adds no sign but spaces. -/
theorem not_mem_line {c : Char} (htame : ∀ n, Tame (value n)) (hc : c ≠ ' ')
    (h : stencil.isFree c = true) : c ∉ List.replicate n ' ' ++ stencil.fill value := by
  intro hmem
  rcases List.mem_append.mp hmem with hmem | hmem
  · exact hc (List.eq_of_mem_replicate hmem)
  · exact Stencil.not_mem_fill_of_isFree htame h hmem

/-- **A reserved word is missing** from what is written where the stencil's texts do without it. -/
theorem not_mem_words_line {w : List Char} (htame : ∀ n, Tame (value n)) (hne : w ≠ [])
    (hw : Source.isReserved w = true) (hseamed : stencil.seamed = true)
    (h : stencil.texts.all (fun text => !(words text).contains w) = true) :
    w ∉ words (List.replicate n ' ' ++ stencil.fill value) := by
  intro hmem
  have hspace : (List.replicate n ' ').getLast?.any isWord = false := by
    rw [List.getLast?_replicate]
    split
    · rfl
    · decide
  rcases mem_words_append (.inl hspace) hmem with hmem | hmem
  · exact hne (eq_nil_of_mem_words (fun _ => isWord_of_mem_replicate rfl) hmem)
  · rcases Stencil.mem_words_fill hseamed hmem with hnil | ⟨text, ht, hmem⟩ | ⟨n, hmem⟩
    · exact hne hnil
    · have := List.all_eq_true.mp h text ht
      simp [hmem] at this
    · rw [(htame n).unreserved w hmem] at hw
      exact absurd hw (by decide)

/-- **A missing cue stands in no line of the stencil**, behind any number of spaces and with any
tame values. -/
theorem not_in_of_missing {cue : Cue} (hreserved : cue.isReserved = true)
    (htame : ∀ n, Tame (value n)) (h : cue.missing stencil = true) :
    ¬ cue.In (List.replicate n ' ' ++ stencil.fill value) := by
  cases cue with
  | word w =>
    obtain ⟨hseamed, habsent⟩ := Bool.and_eq_true_iff.mp h
    have hne : w ≠ [] := by
      intro hnil
      rw [isReserved, hnil] at hreserved
      exact absurd hreserved (by decide +kernel)
    exact not_mem_words_line n htame hne hreserved hseamed habsent
  | text w =>
    cases w with
    | nil => exact absurd h (by simp [missing])
    | cons c more =>
      rintro ⟨a, b, hline⟩
      have hfree : stencil.isFree c = true := h
      have hspace : c ≠ ' ' := by
        rintro rfl
        exact absurd (Bool.and_eq_true_iff.mp hfree).1 (by decide)
      refine not_mem_line n htame hspace hfree ?_
      rw [← hline]
      simp

/-- **A word behind a dot** that stands behind none of the stencil's dots. -/
theorem not_in_of_missingDot {kinds : List Blank} {values : List (List Char)}
    (hfits : List.Forall₂ Blank.Fits kinds values) {sign : List Char}
    (h : missingDot kinds stencil sign = true) :
    ¬ (Cue.text sign).In (List.replicate n ' ' ++ stencil.fill (fillers values)) := by
  unfold missingDot at h
  split at h
  · rename_i more
    obtain ⟨h, habsent⟩ := Bool.and_eq_true_iff.mp h
    obtain ⟨h, hsettled⟩ := Bool.and_eq_true_iff.mp h
    obtain ⟨hend, hdigit⟩ := Bool.and_eq_true_iff.mp h
    intro hin
    have hspace : '.' ∉ List.replicate n ' ' := fun hm =>
      absurd (List.eq_of_mem_replicate hm) (by decide)
    have hmem : more.takeWhile isWord ∈
        dotted (List.replicate n ' ' ++ stencil.fill (fillers values)) :=
      takeWhile_mem_dotted_of_isInfix hend hin
    rw [dotted_append_of_not_mem _ hspace] at hmem
    rcases Stencil.mem_dotted_fill hfits hsettled hmem with ⟨text, ht, hmem⟩ | hfirst
    · have := List.all_eq_true.mp habsent text ht
      simp [hmem] at this
    · cases more with
      | nil => simp at hend
      | cons c more =>
        cases hc : isWord c with
        | false => simp [hc] at hfirst
        | true => simp [show isDigit c = false by simpa using hdigit, hc] at hfirst
  · exact absurd h (by simp)

end Cue

end Recast
