import Recast.Proofs.Template.Carry

/-!
# Proofs/Template/Entry — a main function is written once

A program that was put in a main function is carried on from its language to the same language, any
number of times. Each pass puts the import lines in front and writes the output statements again.
What stands in front of the body, import lines and the header of the main function, has no output
statement in it, whatever the body holds, so it survives each pass (`Framed.carry`). The header
shows the entry point, and no second main function is written (`passes_wrapped_once`).
-/

namespace Recast.Template

open Idiom Pattern Script Text

variable {source target : Template} {entry : Wrapper} {text : List Char}

/-- The program after the first pass, and after so many passes more from the target to itself. -/
def passes (code : List Char) (source target : Template) : ℕ → List Char
  | 0 => carry code source target
  | n + 1 => carry (passes code source target n) target target

/-! ## Entry points that show -/

theorem hasWord_append_lineFeed {name : String} (text more : List Char) :
    HasWord name (text ++ '\n' :: more) ↔ HasWord name text ∨ HasWord name more := by
  simp only [HasWord, words_append_sign text (show isWord '\n' = false by decide), List.mem_append,
    or_and_right, exists_or]

theorem showsEntry_append_lineFeed (text more : List Char) :
    ShowsEntry (text ++ '\n' :: more) ↔ ShowsEntry text ∨ ShowsEntry more := by
  simp only [ShowsEntry, hasWord_append_lineFeed, and_or_left, exists_or]

/-- The import lines end with a blank line, so no word runs from them into the program. -/
theorem showsEntry_preamble_append (target : Template) (h : ShowsEntry text) :
    ShowsEntry (target.preamble ++ text) := by
  rw [preamble]
  split
  · exact h
  · have hcut : ∀ lines : List Char,
        lines ++ ['\n', '\n'] ++ text = (lines ++ ['\n']) ++ '\n' :: text := fun _ => by simp
    rw [hcut]
    exact (showsEntry_append_lineFeed _ _).mpr (.inr h)

/-! ## What stands in front of a body -/

/-- The header of the main function is the first line of the text, under import lines that are there
any number of times. -/
inductive Framed (target : Template) (entry : Wrapper) : List Char → Prop
  | header (body : List Char) : Framed target entry (entry.header.toList ++ body)
  | imports {text : List Char} (h : Framed target entry text) :
      Framed target entry (target.preamble ++ text)

/-- **Lines in front of a body that survive a pattern**: the pattern cannot be read anywhere in
them, whatever the body. -/
def Withstands (front : List Char) (pattern : Pattern) : Prop :=
  ∀ before rest, pattern.Misses before front rest

/-- There are no lines, or they are ended and none has the word. -/
def IsFree (word : String) (front : List Char) : Prop :=
  front = [] ∨ front.getLast? = some '\n' ∧ ¬ word.toList <:+: front

theorem withstands_of_isFree {pattern : Pattern} {word : String} {front : List Char}
    (hshows : pattern.Shows [.text word.toList])
    (hplain : (Cue.text word.toList).isPlain = true) (hfree : IsFree word front) :
    Withstands front pattern := by
  intro before rest
  rcases hfree with rfl | ⟨hlast, habsent⟩
  · exact misses_nil
  · rw [← List.dropLast_append_getLast? _ hlast]
    refine misses_endedLines_of_shows hshows (by simpa using hplain) fun cue hcue hin => ?_
    obtain rfl := List.mem_singleton.mp hcue
    exact habsent (List.IsInfix.trans hin (List.dropLast_prefix front).isInfix)

/-- **Neither the import lines nor the header hold an output statement.** -/
theorem exists_withstands (htarget : target ∈ builtin) (hentry : target.entry = some entry) :
    ∃ pattern, Idiom.output? target.language = some pattern ∧
      Withstands target.preamble pattern ∧ Withstands entry.header.toList pattern := by
  have key {pattern : Pattern} (word : String) (hshows : pattern.Shows [.text word.toList])
      (hplain : (Cue.text word.toList).isPlain = true)
      (hfree : IsFree word target.preamble ∧ IsFree word entry.header.toList) :
      Withstands target.preamble pattern ∧ Withstands entry.header.toList pattern :=
    ⟨withstands_of_isFree hshows hplain hfree.1, withstands_of_isFree hshows hplain hfree.2⟩
  have hkeyword (word : String) {ps : List Pattern} :
      (all (Form.keyword word :: ps)).Shows [.text word.toList] :=
    (Shows.behind stays_edge shows_text).seq
  simp only [builtin, List.mem_cons, List.not_mem_nil, or_false] at htarget
  rcases htarget with rfl | rfl | rfl | rfl | rfl | rfl | rfl | rfl | rfl | rfl | rfl <;>
    cases hentry
  · exact ⟨_, rfl, key "System.out.println" shows_text.seq (by decide)
      (by unfold IsFree; decide +kernel)⟩
  · exact ⟨_, rfl, key "println" (hkeyword _) (by decide)
      (by unfold IsFree; decide +kernel)⟩
  · exact ⟨_, rfl, key "std::cout" shows_text.seq (by decide)
      (by unfold IsFree; decide +kernel)⟩
  · exact ⟨_, rfl, key "printf" (hkeyword _) (by decide)
      (by unfold IsFree; decide +kernel)⟩
  · exact ⟨_, rfl, key "fmt.Println" shows_text.seq (by decide)
      (by unfold IsFree; decide +kernel)⟩
  · exact ⟨_, rfl, key "println!" (hkeyword _) (by decide)
      (by unfold IsFree; decide +kernel)⟩

/-! ## One pass -/

/-- What stands in front of the body stays as it is. -/
theorem framed_replaceFrom {pattern : Pattern} (hpreamble : Withstands target.preamble pattern)
    (hheader : Withstands entry.header.toList pattern) (fill : Spot → List Char)
    (h : Framed target entry text) (before : List Char) :
    Framed target entry (pattern.replaceFrom fill 0 before text) := by
  induction h generalizing before with
  | header body =>
    rw [replaceFrom_of_misses (hheader before body)]
    exact .header _
  | imports _ ih =>
    rw [replaceFrom_of_misses (hpreamble before _)]
    exact .imports (ih _)

theorem framed_recastOutput (htarget : target ∈ builtin) (hentry : target.entry = some entry)
    (h : Framed target entry text) :
    Framed target entry (recastOutput text target.language target) := by
  obtain ⟨pattern, hpattern, hpreamble, hheader⟩ := exists_withstands htarget hentry
  rw [recastOutput_eq, hpattern]
  exact framed_replaceFrom hpreamble hheader _ h []

/-- The header of each main function is a line that shows the entry point. -/
theorem exists_header (htarget : target ∈ builtin) (hentry : target.entry = some entry) :
    ∃ line, entry.header.toList = line ++ ['\n'] ∧ ShowsEntry line := by
  have hheaders : ∀ target ∈ builtin, target.entry.all (fun entry =>
      entry.header.toList.getLast? == some '\n' &&
        entryMarker.occursIn entry.header.toList.dropLast) = true := by
    decide
  have hheader := hheaders target htarget
  rw [hentry, Option.all_some, Bool.and_eq_true, beq_iff_eq] at hheader
  exact ⟨_, (List.dropLast_append_getLast? _ hheader.1).symm,
    entryMarker_occursIn_iff.mp hheader.2⟩

theorem showsEntry_of_framed (htarget : target ∈ builtin) (hentry : target.entry = some entry)
    (h : Framed target entry text) : ShowsEntry text := by
  induction h with
  | header body =>
    obtain ⟨line, hheader, hshows⟩ := exists_header htarget hentry
    rw [hheader, List.append_assoc, List.singleton_append]
    exact (showsEntry_append_lineFeed _ _).mpr (.inl hshows)
  | imports _ ih => exact showsEntry_preamble_append target ih

theorem entryFor?_of_showsEntry (h : ShowsEntry text) : target.entryFor? text = none := by
  rw [entryFor?, entryMarker_occursIn_iff.mpr h, if_pos rfl]

/-- What is carried over, put in a main function or not. -/
theorem carry_of_wrapped {code : List Char}
    (h : target.entryFor? (recastStatements code source target) = some entry) :
    carry code source target =
      target.preamble ++ entry.wrap (stripPreamble (recastStatements code source target)) := by
  simp only [carry_eq, h, withImports_eq]

theorem carry_of_unwrapped {code : List Char}
    (h : target.entryFor? (recastStatements code source target) = none) :
    carry code source target = target.preamble ++ recastStatements code source target := by
  simp only [carry_eq, h, withImports_eq]

/-- Within one language only output statements are written again. -/
theorem recastStatements_self (text : List Char) (target : Template) :
    recastStatements text target target = recastOutput text target.language target := by
  rw [recastStatements_eq, recastDeclarations_eq, beq_self_eq_true, Bool.or_true, if_pos rfl]

/-- **One pass more** puts the import lines in front and writes no main function. -/
theorem carry_of_framed (htarget : target ∈ builtin) (hentry : target.entry = some entry)
    (h : Framed target entry text) :
    carry text target target = target.preamble ++ recastOutput text target.language target ∧
      events text target target = [] ∧ Framed target entry (carry text target target) := by
  have hframed := framed_recastOutput htarget hentry h
  have hnone : target.entryFor? (recastStatements text target target) = none := by
    rw [recastStatements_self]
    exact entryFor?_of_showsEntry (showsEntry_of_framed htarget hentry hframed)
  rw [carry_of_unwrapped hnone, recastStatements_self]
  exact ⟨rfl, by rw [events_eq, hnone], .imports hframed⟩

/-! ## Any number of passes -/

/-- What a text needs is the main function of the language, where the text shows none. -/
theorem entryFor?_eq_some_iff :
    target.entryFor? text = some entry ↔ ¬ ShowsEntry text ∧ target.entry = some entry := by
  rw [← entryMarker_occursIn_iff, entryFor?]
  cases entryMarker.occursIn text <;> simp

/-- What was put in a main function has its header in front, after each pass. -/
theorem framed_passes (htarget : target ∈ builtin) {code : List Char}
    (hwrapped : target.entryFor? (recastStatements code source target) = some entry) :
    ∀ n, Framed target entry (passes code source target n)
  | 0 => by
      rw [passes, carry_of_wrapped hwrapped, Wrapper.wrap, List.append_assoc]
      exact .imports (.header _)
  | n + 1 => (carry_of_framed htarget (entryFor?_eq_some_iff.mp hwrapped).2
      (framed_passes htarget hwrapped n)).2.2

/-- **A main function is written at most once.** What is carried over into a language that needs an
entry point shows one. If that is the main function that was written around it, no later pass writes
another: it puts the import lines in front and writes the output statements again. -/
theorem passes_wrapped_once (htarget : target ∈ builtin) (hneeds : target.entry.isSome = true)
    (code : List Char) (source : Template) :
    ShowsEntry (passes code source target 0) ∧
      ((target.entryFor? (recastStatements code source target)).isSome = true → ∀ n,
        passes code source target (n + 1) = target.preamble ++
            recastOutput (passes code source target n) target.language target ∧
          events (passes code source target n) target target = []) := by
  constructor
  · cases hwrapped : target.entryFor? (recastStatements code source target) with
    | some entry =>
      exact showsEntry_of_framed htarget (entryFor?_eq_some_iff.mp hwrapped).2
        (framed_passes htarget hwrapped 0)
    | none =>
      obtain ⟨entry, hentry⟩ := Option.isSome_iff_exists.mp hneeds
      have hshows : ShowsEntry (recastStatements code source target) := by
        by_contra hnot
        rw [entryFor?_eq_some_iff.mpr ⟨hnot, hentry⟩] at hwrapped
        exact absurd hwrapped (by simp)
      rw [passes, carry_of_unwrapped hwrapped]
      exact showsEntry_preamble_append target hshows
  · intro hwrapped n
    obtain ⟨entry, hentry⟩ := Option.isSome_iff_exists.mp hwrapped
    obtain ⟨hcarry, hevents, -⟩ := carry_of_framed htarget (entryFor?_eq_some_iff.mp hentry).2
      (framed_passes htarget hentry n)
    exact ⟨hcarry, hevents⟩

/-- A line of JavaScript in C, carried on to C: the format string is printed, the main function
stays as it is. -/
theorem passes_wrapped_once_toC :
    let code := "console.log(x);".toList
    builtin[5] ∈ builtin ∧ builtin[5].entry.isSome = true ∧
      (builtin[5].entryFor? (recastStatements code builtin[0] builtin[5])).isSome = true ∧
        String.ofList (passes code builtin[0] builtin[5] 1) =
          "#include <stdio.h>\n\n#include <stdio.h>\n\nint main() \x7b\n" ++
            "    printf(\"%s\\n\", \"%s\", x);\n    return 0;\n\x7d" := by
  intro code
  have htarget : builtin[5] ∈ builtin := List.getElem_mem _
  have hwrapped : (builtin[5].entryFor? (recastStatements code builtin[0] builtin[5])).isSome =
    true := by decide
  refine ⟨htarget, rfl, hwrapped, ?_⟩
  rw [((passes_wrapped_once htarget rfl code builtin[0]).2 hwrapped 0).1]
  decide +kernel

end Recast.Template
