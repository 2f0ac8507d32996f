import Recast.Proofs.Block.Braces
import Recast.Proofs.Text.Lines

/-!
# Proofs/Block/Settled — closing a text that is closed already

A second run over a text puts no second token in, whichever way blocks are matched
(`closeText_closeText`). It needs little of the closer: a token that a line can start with, and that
opens no block itself (`Closer.IsPlain`).

What carries the proof is that a line of a token continues a block. In front of such a line
`lookahead` matching puts nothing; `stack` matching takes one entry off the stack for it and puts
nothing either, so the second run goes through the tokens of the first one by one and is then where
the first run was (`closeBehind_tokens`).
-/

namespace Recast.Closer

open Text

/-- **The token is told by what stands at the start of a line**, and a line of it opens no block. -/
structure IsPlain (closer : Closer) : Prop where
  header : closer.header = none
  continuation : closer.continuation = none
  /-- The token is not empty, and does not start with a blank. -/
  starts : closer.token.toList.head?.any (!isBlank ·) = true
  not_mem : '\n' ∉ closer.token.toList
  opens : ∀ width, closer.opens (closer.line width) = false

theorem isPlain_brace : brace.IsPlain where
  header := rfl
  continuation := rfl
  starts := by decide
  not_mem := by decide
  opens width := opens_brace_of_not_mem fun h => by
    rcases List.mem_append.mp h with hspace | htoken
    · exact absurd (List.eq_of_mem_replicate hspace) (by decide)
    · exact absurd htoken (by decide)

theorem isBlank_of_mem_spaces {width : Nat} : ∀ c ∈ List.replicate width ' ', isBlank c = true :=
  fun c hc => by
    rw [List.eq_of_mem_replicate hc]
    decide

namespace IsPlain

variable {closer : Closer} (h : closer.IsPlain)

include h

/-! ## The line of a token -/

/-- A closing token starts with ink. -/
theorem exists_token : ∃ c more, closer.token.toList = c :: more ∧ isBlank c = false := by
  have hstarts := h.starts
  cases htoken : closer.token.toList with
  | nil => simp [htoken] at hstarts
  | cons c more => exact ⟨c, more, rfl, by simpa [htoken] using hstarts⟩

theorem trimStart_line (width : Nat) : trimStart (closer.line width) = closer.token.toList := by
  obtain ⟨c, more, htoken, hc⟩ := h.exists_token
  rw [trimStart, line, htoken, List.dropWhile_append_of_pos isBlank_of_mem_spaces,
    List.dropWhile_cons_of_neg (by simp [hc])]

/-- A closing line continues its block. -/
theorem continues_line (width : Nat) : closer.continues (closer.line width) = true := by
  rw [continues, h.continuation]
  simp only [h.trimStart_line, startsWith, List.isPrefixOf_iff_prefix]
  exact List.prefix_refl _

/-- A closing line is as wide as the block. -/
theorem indentWidth_line (width : Nat) : indentWidth (closer.line width) = width := by
  obtain ⟨c, more, htoken, hc⟩ := h.exists_token
  rw [indentWidth, line, htoken, List.takeWhile_append_of_pos isBlank_of_mem_spaces,
    List.takeWhile_cons_of_neg (by simp [hc]), List.append_nil, List.length_replicate]

/-- A closing line has ink. -/
theorem isBlankLine_line (width : Nat) : isBlankLine (closer.line width) = false := by
  obtain ⟨c, more, htoken, hc⟩ := h.exists_token
  simp [isBlankLine, line, htoken, hc]

/-! ## One line ahead -/

omit h in
/-- A token comes behind the line it closes, so the text starts as it did. -/
theorem head?_closeLookahead (ls : List (List Char)) :
    (closer.closeLookahead ls).head? = ls.head? := by
  cases ls with
  | nil => rfl
  | cons line rest =>
    rw [closeLookahead]
    split <;> rfl

/-- Where a token was put in nothing follows it, as it is no deeper than the next line. -/
theorem closesBefore_token (next : Option (List Char)) :
    closer.closesBefore (closer.line ((next.map indentWidth).getD 0)) next = false := by
  rw [closesBefore, h.indentWidth_line]
  simp

/-- A line that has its token needs none. -/
theorem closesBefore_of_token (line : List Char) (width : Nat) :
    closer.closesBefore line (some (closer.line width)) = false := by
  rw [closesBefore, Option.any_some, h.continues_line]
  simp

theorem closeLookahead_closeLookahead : ∀ ls : List (List Char),
    closer.closeLookahead (closer.closeLookahead ls) = closer.closeLookahead ls
  | [] => rfl
  | line :: rest => by
      have hrest := closeLookahead_closeLookahead rest
      have hhead : (closer.closeLookahead rest).head? = rest.head? := head?_closeLookahead rest
      rw [closeLookahead]
      split
      · rw [closeLookahead, List.head?_cons, if_neg (by simp [h.closesBefore_of_token]),
          closeLookahead, hhead, if_neg (by simp [h.closesBefore_token]), hrest]
      · rename_i hcloses
        rw [closeLookahead, hhead, if_neg hcloses, hrest]

end IsPlain

/-! ## Open blocks -/

section Stack

variable {closer : Closer} {opened : List Nat} {ls rest : List (List Char)}

/-- What the loop writes behind a line with ink: the tokens of the blocks that end there, and then
the lines that follow. -/
def closeBehind (closer : Closer) (opened : List Nat) (ls : List (List Char)) : List (List Char) :=
  closer.closings opened (((nextInk? ls).map indentWidth).getD 0)
      ((nextInk? ls).any closer.continues) ++
    closer.closeStack (stillOpen opened (((nextInk? ls).map indentWidth).getD 0)) ls

theorem closeStack_of_blank {line : List Char} (hblank : isBlankLine line = true) :
    closer.closeStack opened (line :: ls) = line :: closer.closeStack opened ls := by
  rw [closeStack, if_pos hblank]

/-- Behind a line with ink, what it opens is remembered. -/
theorem closeStack_of_ink {line : List Char} (hink : isBlankLine line = false) :
    closer.closeStack opened (line :: ls) =
      line :: closer.closeBehind (if closer.opens line then indentWidth line :: opened else opened)
        ls := by
  rw [closeStack, if_neg (by simp [hink])]
  rfl

/-- **Where no line opens a block, nothing is closed.** -/
theorem closeStack_eq_self : ∀ {ls : List (List Char)},
    (∀ line ∈ ls, closer.opens line = false) → closer.closeStack [] ls = ls
  | [], _ => rfl
  | line :: rest, h => by
      have hrest : closer.closeStack [] rest = rest :=
        closeStack_eq_self fun line hline => h line (List.mem_cons_of_mem _ hline)
      cases hblank : isBlankLine line with
      | true => rw [closeStack_of_blank hblank, hrest]
      | false =>
        have hopens : closer.opens line = false := h line List.mem_cons_self
        have hbehind : closer.closeBehind [] rest = closer.closeStack [] rest := rfl
        rw [closeStack_of_ink hblank, if_neg (by simp [hopens]), hbehind, hrest]

theorem nextInk?_of_blank {line : List Char} (hblank : isBlankLine line = true) :
    nextInk? (line :: ls) = nextInk? ls := by
  rw [nextInk?, List.find?_cons_of_neg (by simp [hblank])]
  rfl

theorem nextInk?_of_ink {line : List Char} (hink : isBlankLine line = false) :
    nextInk? (line :: ls) = some line := by
  rw [nextInk?, List.find?_cons_of_pos (by simp [hink])]

/-- Tokens come behind the line they close, so the first line with ink stays the first. -/
theorem nextInk?_closeStack : ∀ (opened : List Nat) (ls : List (List Char)),
    nextInk? (closer.closeStack opened ls) = nextInk? ls
  | _, [] => rfl
  | opened, line :: rest => by
      cases hblank : isBlankLine line with
      | true =>
        rw [closeStack_of_blank hblank, nextInk?_of_blank hblank, nextInk?_of_blank hblank]
        exact nextInk?_closeStack opened rest
      | false => rw [closeStack_of_ink hblank, nextInk?_of_ink hblank, nextInk?_of_ink hblank]

/-- Behind the blocks that end nothing is left to end. -/
theorem closeBehind_of_closings {width : Nat} {continued : Bool}
    (hwidth : ((nextInk? ls).map indentWidth).getD 0 = width)
    (hcontinued : (nextInk? ls).any closer.continues = continued)
    (hnone : closer.closings opened width continued = []) :
    closer.closeBehind opened ls = closer.closeStack (stillOpen opened width) ls := by
  rw [closeBehind, hwidth, hcontinued, hnone, List.nil_append]

/-- Of nested open blocks, one that stays open or is continued lets no block end that is outside
it. -/
theorem closings_of_pairwise {inner width : Nat} {continued : Bool}
    (hnested : (inner :: opened).Pairwise (· > ·)) :
    closer.closings (inner :: opened) width continued =
      if width ≤ inner ∧ (inner == width && continued) = false
      then closer.line inner :: closer.closings opened width continued else [] := by
  have houter : inner ≤ width → opened.takeWhile (width ≤ ·) = [] := fun hle => by
    cases opened with
    | nil => rfl
    | cons outer opened =>
      have hlt : inner > outer := (List.pairwise_cons.mp hnested).1 outer (by simp)
      rw [List.takeWhile_cons_of_neg (by simp; omega)]
  by_cases hends : width ≤ inner
  · rw [closings, List.takeWhile_cons_of_pos (by simpa using hends), List.filter_cons]
    cases hskip : (inner == width && continued) with
    | false => simp [hends, closings]
    | true =>
      have heq : inner = width := beq_iff_eq.mp (Bool.and_eq_true_iff.mp hskip).1
      simp [houter (Nat.le_of_eq heq)]
  · rw [closings, List.takeWhile_cons_of_neg (by simpa using hends), if_neg (by simp [hends])]
    rfl

theorem pairwise_stillOpen (hnested : opened.Pairwise (· > ·)) (width : Nat) :
    (stillOpen opened width).Pairwise (· > ·) := hnested.sublist (List.dropWhile_sublist _)

/-- What stays open is less wide. -/
theorem lt_of_mem_stillOpen (hnested : opened.Pairwise (· > ·)) {width w : Nat}
    (hw : w ∈ stillOpen opened width) : w < width := by
  induction opened with
  | nil => simp [stillOpen] at hw
  | cons inner opened ih =>
    rw [stillOpen, List.dropWhile_cons] at hw
    split at hw
    · exact ih (List.pairwise_cons.mp hnested).2 hw
    · rename_i hinner
      have hlt : inner < width := by simpa using hinner
      rcases List.mem_cons.mp hw with rfl | hw
      · exact hlt
      · have : inner > w := (List.pairwise_cons.mp hnested).1 w hw
        omega

namespace IsPlain

variable (h : closer.IsPlain)

include h

/-- **The tokens of a first run take off the stack what they were written for.** -/
theorem closeBehind_tokens {width : Nat} {continued : Bool}
    (hwidth : ((nextInk? ls).map indentWidth).getD 0 = width)
    (hcontinued : (nextInk? ls).any closer.continues = continued) : ∀ {opened : List Nat},
      opened.Pairwise (· > ·) →
      closer.closeBehind opened (closer.closings opened width continued ++ ls) =
        closer.closings opened width continued ++ closer.closeStack (stillOpen opened width) ls
  | [], _ => closeBehind_of_closings hwidth hcontinued rfl
  | inner :: opened, hnested => by
      by_cases hends : width ≤ inner ∧ (inner == width && continued) = false
      · have htail : opened.Pairwise (· > ·) := (List.pairwise_cons.mp hnested).2
        -- the token in front is the next line: as wide as the innermost block, it continues it
        have hnext : ∀ more, nextInk? (closer.line inner :: more) = some (closer.line inner) :=
          fun more => nextInk?_of_ink (h.isBlankLine_line inner)
        have hnone : closer.closings (inner :: opened) inner true = [] := by
          rw [closings_of_pairwise hnested, if_neg (by simp)]
        have hpop : stillOpen (inner :: opened) inner = stillOpen opened inner :=
          List.dropWhile_cons_of_pos (by simp)
        have hrest : stillOpen opened inner = opened := by
          cases opened with
          | nil => rfl
          | cons outer opened =>
            have hlt : inner > outer := (List.pairwise_cons.mp hnested).1 outer (by simp)
            exact List.dropWhile_cons_of_neg (by simp; omega)
        rw [closings_of_pairwise hnested, if_pos hends, List.cons_append,
          closeBehind_of_closings (by rw [hnext]; exact h.indentWidth_line inner)
            (by rw [hnext]; exact h.continues_line inner) hnone,
          hpop, hrest, closeStack_of_ink (h.isBlankLine_line inner), h.opens,
          if_neg (by decide), closeBehind_tokens hwidth hcontinued htail, List.cons_append]
        exact congrArg (fun still => _ :: (_ ++ closer.closeStack still ls))
          (List.dropWhile_cons_of_pos (by simpa using hends.1)).symm
      · have hnone : closer.closings (inner :: opened) width continued = [] := by
          rw [closings_of_pairwise hnested, if_neg hends]
        rw [hnone, List.nil_append, List.nil_append]
        exact closeBehind_of_closings hwidth hcontinued hnone

/-- **With nested blocks open, all of them around the next line, a second run changes nothing.** -/
theorem closeStack_closeStack : ∀ {ls : List (List Char)} {opened : List Nat},
    opened.Pairwise (· > ·) → (∀ line ∈ nextInk? ls, ∀ w ∈ opened, w < indentWidth line) →
      closer.closeStack opened (closer.closeStack opened ls) = closer.closeStack opened ls
  | [], _, _, _ => rfl
  | line :: rest, opened, hnested, hnext => by
      cases hblank : isBlankLine line with
      | true =>
        rw [nextInk?_of_blank hblank] at hnext
        rw [closeStack_of_blank hblank, closeStack_of_blank hblank,
          closeStack_closeStack hnested hnext]
      | false =>
        have hnested' : (if closer.opens line then indentWidth line :: opened
            else opened).Pairwise (· > ·) := by
          split
          · exact List.pairwise_cons.mpr
              ⟨hnext line (nextInk?_of_ink hblank), hnested⟩
          · exact hnested
        rw [closeStack_of_ink hblank, closeStack_of_ink hblank]
        generalize (if closer.opens line then indentWidth line :: opened else opened) = opened'
          at hnested'
        have hstill : closer.closeStack
              (stillOpen opened' (((nextInk? rest).map indentWidth).getD 0))
              (closer.closeStack (stillOpen opened' (((nextInk? rest).map indentWidth).getD 0))
                rest) =
            closer.closeStack (stillOpen opened' (((nextInk? rest).map indentWidth).getD 0))
              rest :=
          closeStack_closeStack (pairwise_stillOpen hnested' _) fun next hmem w hw => by
            have := lt_of_mem_stillOpen hnested' hw
            rwa [Option.mem_def.mp hmem] at this
        have hsame : nextInk? (closer.closeStack
            (stillOpen opened' (((nextInk? rest).map indentWidth).getD 0)) rest) = nextInk? rest :=
          nextInk?_closeStack _ rest
        have htokens := h.closeBehind_tokens
          (congrArg (fun next => (next.map indentWidth).getD 0) hsame)
          (congrArg (·.any closer.continues) hsame) hnested'
        rw [hstill] at htokens
        exact congrArg (line :: ·) htokens

end IsPlain

end Stack

/-! ## Whole texts -/

section Texts

variable {closer : Closer}

/-- What `lookahead` matching writes are the lines of the text and lines of the token. -/
theorem mem_closeLookahead {line : List Char} : ∀ {ls : List (List Char)},
    line ∈ closer.closeLookahead ls → line ∈ ls ∨ ∃ width, line = closer.line width
  | [], hline => absurd hline List.not_mem_nil
  | first :: rest, hline => by
      have hrest : line ∈ closer.closeLookahead rest →
          line ∈ first :: rest ∨ ∃ width, line = closer.line width := fun h =>
        (mem_closeLookahead h).imp_left (List.mem_cons_of_mem _)
      rw [closeLookahead] at hline
      split at hline
      · rcases List.mem_cons.mp hline with rfl | hline
        · exact .inl (by simp)
        · rcases List.mem_cons.mp hline with rfl | hline
          · exact .inr ⟨_, rfl⟩
          · exact hrest hline
      · rcases List.mem_cons.mp hline with rfl | hline
        · exact .inl (by simp)
        · exact hrest hline

/-- And so is what `stack` matching writes. -/
theorem mem_closeStack {line : List Char} : ∀ {ls : List (List Char)} {opened : List Nat},
    line ∈ closer.closeStack opened ls → line ∈ ls ∨ ∃ width, line = closer.line width
  | [], _, hline => absurd hline List.not_mem_nil
  | first :: rest, opened, hline => by
      have hrest : ∀ {opened}, line ∈ closer.closeStack opened rest →
          line ∈ first :: rest ∨ ∃ width, line = closer.line width := fun h =>
        (mem_closeStack h).imp_left (List.mem_cons_of_mem _)
      cases hblank : isBlankLine first with
      | true =>
        rw [closeStack_of_blank hblank] at hline
        rcases List.mem_cons.mp hline with rfl | hline
        · exact .inl (by simp)
        · exact hrest hline
      | false =>
        rw [closeStack_of_ink hblank, closeBehind] at hline
        rcases List.mem_cons.mp hline with rfl | hline
        · exact .inl (by simp)
        · rcases List.mem_append.mp hline with htoken | hline
          · obtain ⟨width, -, rfl⟩ := List.mem_map.mp htoken
            exact .inr ⟨width, rfl⟩
          · exact hrest hline

/-- A line of a closed text was there before, or is a closing line. -/
theorem mem_close {line : List Char} {ls : List (List Char)} {matching : Matching}
    (hline : line ∈ closer.close matching ls) : line ∈ ls ∨ ∃ width, line = closer.line width := by
  cases matching with
  | lookahead => exact mem_closeLookahead hline
  | stack => exact mem_closeStack hline

theorem close_ne_nil {matching : Matching} {ls : List (List Char)} (h : ls ≠ []) :
    closer.close matching ls ≠ [] := by
  cases ls with
  | nil => exact absurd rfl h
  | cons line rest =>
    cases matching with
    | lookahead =>
      rw [close, closeLookahead]
      split <;> simp
    | stack =>
      rw [close, closeStack]
      split <;> simp

/-- **The lines of a closed text** are those of the text with the tokens put in. -/
theorem lines_closeText (htoken : '\n' ∉ closer.token.toList) (matching : Matching)
    (text : List Char) :
    lines (closer.closeText matching text) = closer.close matching (lines text) := by
  refine lines_joinLines (fun line hline => ?_) (close_ne_nil (lines_ne_nil text))
  rcases mem_close hline with hline | ⟨width, rfl⟩
  · exact not_mem_of_mem_lines hline
  · rw [line, List.mem_append, not_or]
    exact ⟨fun hspace => absurd (List.eq_of_mem_replicate hspace) (by decide), htoken⟩

/-- **Closing a closed text changes nothing.** -/
theorem closeText_closeText (h : closer.IsPlain) (matching : Matching) (text : List Char) :
    closer.closeText matching (closer.closeText matching text) =
      closer.closeText matching text := by
  rw [closeText, lines_closeText h.not_mem]
  refine congrArg joinLines ?_
  cases matching with
  | lookahead => exact h.closeLookahead_closeLookahead (lines text)
  | stack => exact h.closeStack_closeStack .nil fun _ _ w hw => absurd hw List.not_mem_nil

/-- Two blocks that end at once, a ragged line between them, and a blank line. -/
def raggedBlocks : List Char :=
  "if (a) \x7b\n    if (b) \x7b\n        c\n      d\n\n\x7d else \x7b\n    e".toList

theorem closeText_closeText_raggedBlocks : brace.IsPlain ∧
    brace.closeText .stack raggedBlocks ≠ raggedBlocks ∧
    brace.closeText .stack (brace.closeText .stack raggedBlocks) =
      brace.closeText .stack raggedBlocks :=
  ⟨isPlain_brace, by decide, closeText_closeText isPlain_brace .stack raggedBlocks⟩

end Texts

end Recast.Closer
