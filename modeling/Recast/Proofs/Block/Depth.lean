import Recast.Proofs.Block.Balance
import Recast.Proofs.Block.StackFree

/-!
# Proofs/Block/Depth — how many braces are open at each line

The lines of a text may be ragged, indented too deep, or blank. As long as each brace ends a line,
or starts one that goes on with a block (`Openings`), `stack` matching closes what was opened and
nothing else (`balanced_closeText_stack`).

The depth in braces before a line is the height of the stack, and one more if the next line with ink
starts with a brace of its own: for the block that this line goes on with no token was written
(`depthAt`). Such a block there is exactly one (`length_continued`), because the open blocks are
strictly nested in width.
-/

namespace Recast.Closer

open Text

section Places

variable (ls : List (List Char))

/-- The line at `i` goes on with the block that the last line of its width has opened. -/
def ContinuesBlock (i : Nat) : Prop :=
  ∃ j < i, isOpener ls brace j = true ∧ widthAt ls j = widthAt ls i ∧
    ∀ k < i, j < k → isCode ls k = true → widthAt ls i < widthAt ls k

instance (i : Nat) : Decidable (ContinuesBlock ls i) :=
  inferInstanceAs (Decidable (∃ j < i, _ ∧ _ ∧ _))

/-- **Braces stand at the ends of lines.** A line with ink has none, or an opening one at its end,
or a closing one at its start as well; the latter goes on with a block. -/
def Openings : Prop :=
  ∀ i < ls.length, isCode ls i = true →
    braces (lineAt ls i) = [] ∨
    (braces (lineAt ls i) = ['{'] ∧ brace.opens (lineAt ls i) = true) ∨
    (braces (lineAt ls i) = ['}', '{'] ∧ brace.continues (lineAt ls i) = true ∧
      brace.opens (lineAt ls i) = true ∧ ContinuesBlock ls i)

instance : Decidable (Openings ls) :=
  inferInstanceAs (Decidable (∀ i < ls.length, _ → _))

/-- The next line with ink, from `m` on, starts with a closing brace. -/
def continuesFrom (m : Nat) : Bool := (codeFrom? ls m).any fun k => brace.continues (lineAt ls k)

/-- **The number of braces that are open before the line at `m`.** -/
def depthAt (m : Nat) : Nat := (openAt ls brace m).length + (continuesFrom ls m).toNat

/-- The braces of the lines above `m` and of the tokens behind them. -/
def bracesAbove (m : Nat) : List Char :=
  (List.range m).flatMap fun j =>
    braces (lineAt ls j) ++ List.replicate (closedAfter ls brace j).length '}'

end Places

variable {ls : List (List Char)} {i j k m : Nat}

/-! ## What the braces of a line tell of it -/

/-- A line without braces opens no block. -/
theorem opens_of_braces {line : List Char} (h : braces line = []) : brace.opens line = false := by
  refine opens_brace_of_not_mem fun hmem => ?_
  have hbrace := (mem_braces (c := '{') rfl).mpr hmem
  simp [h] at hbrace

/-- A line that continues a block has a closing brace. -/
theorem mem_of_continues {line : List Char} (h : brace.continues line = true) :
    '}' ∈ braces line := by
  rw [mem_braces rfl]
  have hahead : ['}'] <+: trimStart line := List.isPrefixOf_iff_prefix.mp h
  exact (List.dropWhile_sublist _).subset (hahead.subset (by simp))

theorem continues_of_braces {line : List Char} (h : '}' ∉ braces line) :
    brace.continues line = false := by
  by_contra hcontinues
  exact h (mem_of_continues (by simpa using hcontinues))

/-- A blank line has no braces. -/
theorem braces_of_blank {line : List Char} (h : isBlankLine line = true) : braces line = [] := by
  refine List.filter_eq_nil_iff.mpr fun c hc hbrace => ?_
  have hblank : isBlank c = true := List.all_eq_true.mp h c hc
  rcases Bool.or_eq_true_iff.mp hbrace with hbrace | hbrace <;>
  · rw [beq_iff_eq.mp hbrace] at hblank
    exact absurd hblank (by decide)

@[simp] theorem braces_token (width : Nat) : braces (brace.line width) = ['}'] := by
  rw [line, braces_append, braces_spaces]
  rfl

/-! ## The block that a line goes on with -/

/-- The header of a continued block is on the stack when the line before the continuation was looked
at. -/
theorem mem_candidates_of_continuesBlock (hm : isCode ls m = true) (hnext : nextCode? ls m = some k)
    (h : ContinuesBlock ls k) : ∃ i ∈ candidates ls brace m, widthAt ls i = widthAt ls k := by
  obtain ⟨i, hik, hopener, hwidth, hdeeper⟩ := h
  obtain ⟨hk, hfirst, hblank⟩ := List.find?_range'_eq_some.mp hnext
  have hmk : m < k := by
    have := List.mem_range'_1.mp hfirst
    omega
  have him : i ≤ m := by
    by_contra hmi
    have := hblank i (by omega) hik
    simp [isCode_of_isOpener hopener] at this
  refine ⟨i, List.mem_filter.mpr ⟨by simp; omega, ?_⟩, hwidth⟩
  rw [hopener, Bool.true_and, stillOpenAt_iff_lt (isCode_of_isOpener hopener) hm]
  intro l hil hlm hl
  have := hdeeper l (by omega) hil hl
  omega

/-- **Of the blocks that end before a line that goes on with one, exactly one is that block.** -/
theorem length_continued (hls : Openings ls) (hm : isCode ls m = true) :
    (((candidates ls brace m).filter (endsAt ls · m)).filter fun i =>
      (nextCode? ls m).any fun k => widthAt ls k == widthAt ls i && brace.continues (lineAt ls k)
      ).length = (continuesFrom ls (m + 1)).toNat := by
  rw [continuesFrom, show codeFrom? ls (m + 1) = nextCode? ls m from rfl]
  cases hnext : nextCode? ls m with
  | none => simp
  | some k =>
    have hk : isCode ls k = true := (List.find?_range'_eq_some.mp hnext).1
    cases hcontinues : brace.continues (lineAt ls k) with
    | false => simp [hcontinues]
    | true =>
      have hblock : ContinuesBlock ls k := by
        have hmem := mem_of_continues hcontinues
        rcases hls k (lt_length_of_isCode hk) hk with h | ⟨h, -⟩ | ⟨-, -, -, h⟩
        · simp [h] at hmem
        · simp [h] at hmem
        · exact h
      obtain ⟨i, hi, hwidth⟩ := mem_candidates_of_continuesBlock hm hnext hblock
      have hnodup : ((candidates ls brace m).map (widthAt ls)).Nodup :=
        List.pairwise_map.mpr ((pairwise_candidates ls brace m).imp fun h => by omega)
      have hone : ((candidates ls brace m).map (widthAt ls)).count (widthAt ls k) = 1 :=
        List.count_eq_one_of_mem hnodup (hwidth ▸ List.mem_map_of_mem hi)
      rw [List.count, List.countP_map, List.countP_eq_length_filter] at hone
      rw [List.filter_filter, Option.any_some, hcontinues, Bool.toNat_true, ← hone]
      refine congrArg List.length (List.filter_congr fun i _ => ?_)
      rw [endsAt, hm, hnext, Option.any_some, Option.all_some, hcontinues, Bool.and_true]
      by_cases heq : widthAt ls k = widthAt ls i
      · simp [heq]
      · rw [beq_false_of_ne heq, Bool.false_and]
        exact (beq_false_of_ne (Ne.symm heq)).symm

/-! ## Depth -/

/-- A line with ink and its tokens: what was open or is opened by the line is closed by a token, or
stays open, or is closed by the next line. -/
theorem length_candidates (hls : Openings ls) (hm : isCode ls m = true) :
    (candidates ls brace m).length =
      (closedAfter ls brace m).length + depthAt ls (m + 1) := by
  have hends := List.length_eq_length_filter_add (l := candidates ls brace m) (endsAt ls · m)
  have hcontinued := List.length_eq_length_filter_add
    (l := (candidates ls brace m).filter (endsAt ls · m)) fun i =>
      (nextCode? ls m).any fun k => widthAt ls k == widthAt ls i && brace.continues (lineAt ls k)
  rw [length_continued hls hm, ← closedAfter_eq (lt_length_of_isCode hm)] at hcontinued
  rw [← openAt_succ] at hends
  rw [depthAt]
  omega

theorem depthAt_zero (hls : Openings ls) : depthAt ls 0 = 0 := by
  have hnone : continuesFrom ls 0 = false := by
    by_contra hcontinues
    rw [Bool.not_eq_false, continuesFrom, Option.any_eq_true] at hcontinues
    obtain ⟨k, hfirst, hk⟩ := hcontinues
    obtain ⟨hcode, -, hblank⟩ := List.find?_range'_eq_some.mp hfirst
    have hmem := mem_of_continues hk
    rcases hls k (lt_length_of_isCode hcode) hcode with h | ⟨h, -⟩ | ⟨-, -, -, i, hik, hopener, -⟩
    · simp [h] at hmem
    · simp [h] at hmem
    · have := hblank i (by omega) hik
      simp [isCode_of_isOpener hopener] at this
  rw [depthAt, hnone]
  rfl

/-- Behind the text no block is open. -/
theorem depthAt_length (ls : List (List Char)) : depthAt ls ls.length = 0 := by
  have hopen : openAt ls brace ls.length = [] := by
    refine List.filter_eq_nil_iff.mpr fun i hi hopen => ?_
    obtain ⟨hopener, hstill⟩ := Bool.and_eq_true_iff.mp hopen
    obtain ⟨j, hj⟩ := exists_blockEnd?_eq (isCode_of_isOpener hopener)
    obtain ⟨hends, hmem, -⟩ := List.find?_range'_eq_some.mp hj
    have hij := List.mem_range'_1.mp hmem
    have := stillOpenAt_iff.mp hstill j hij.1 (by omega)
    simp [hends] at this
  rw [depthAt, hopen, continuesFrom, codeFrom?, Nat.sub_self]
  rfl

/-- A blank line changes no depth. -/
theorem depthAt_succ_of_blank (hm : isCode ls m = false) :
    depthAt ls (m + 1) = depthAt ls m := by
  rw [depthAt, depthAt, openAt_succ_of_blank hm, continuesFrom, continuesFrom, codeFrom?_eq ls m,
    hm, if_neg (by decide)]

/-! ## Balance -/

/-- **A line leaves as many braces open as there are headers on the stack then.** -/
theorem balanced_line (hls : Openings ls) (hm : isCode ls m = true) {above : List Char}
    (h : Balanced (above ++ List.replicate (depthAt ls m) '}')) :
    Balanced (above ++ braces (lineAt ls m) ++
      List.replicate (candidates ls brace m).length '}') := by
  have hpair : Balanced ['{', '}'] := Balanced.nil.block
  have hfrom : continuesFrom ls m = brace.continues (lineAt ls m) := by
    rw [continuesFrom, codeFrom?_eq, hm, if_pos rfl, Option.any_some]
  rw [depthAt, hfrom] at h
  rw [candidates_eq hm]
  rcases hls m (lt_length_of_isCode hm) hm with
    hnone | ⟨hone, hopens⟩ | ⟨hboth, hcontinues, hopens, -⟩
  · rw [continues_of_braces (by simp [hnone])] at h
    rw [hnone, opens_of_braces hnone]
    simpa using h
  · rw [continues_of_braces (by simp [hone])] at h
    rw [hone, hopens]
    simpa [List.replicate_succ] using h.insert hpair
  · rw [hcontinues, Bool.toNat_true, List.replicate_succ, ← List.singleton_append,
      ← List.append_assoc] at h
    rw [hboth, hopens]
    simpa [List.replicate_succ] using h.insert hpair

/-- **Before each line the braces so far balance once those that are open are closed.** -/
theorem balanced_bracesAbove (hls : Openings ls) : ∀ m ≤ ls.length,
    Balanced (bracesAbove ls m ++ List.replicate (depthAt ls m) '}')
  | 0, _ => by
      rw [depthAt_zero hls]
      exact .nil
  | m + 1, hm => by
      have hrest := balanced_bracesAbove hls m (by omega)
      have hsucc : bracesAbove ls (m + 1) = bracesAbove ls m ++ (braces (lineAt ls m) ++
          List.replicate (closedAfter ls brace m).length '}') := by
        rw [bracesAbove, List.range_succ, List.flatMap_append, List.flatMap_singleton]
        rfl
      rw [hsucc]
      cases hcode : isCode ls m with
      | false =>
        have hblank : isBlankLine (lineAt ls m) = true := by simpa [isCode] using hcode
        rw [closedAfter_of_blank (by omega) hcode, braces_of_blank hblank,
          depthAt_succ_of_blank hcode]
        simpa using hrest
      | true =>
        have hline := balanced_line hls hcode hrest
        rw [length_candidates hls hcode, List.replicate_add] at hline
        simpa using hline

/-- **`stack` matching balances the braces of a text.** -/
theorem balanced_closeText_stack {text : List Char} (h : Openings (lines text)) :
    Balanced (brace.closeText .stack text) := by
  have hclose : lineBraces (brace.close .stack (lines text)) =
      bracesAbove (lines text) (lines text).length := by
    rw [close, (closeStack_eq_flatMap_closedAfter brace (lines text)).1, lineBraces,
      List.flatMap_assoc, bracesAbove]
    refine List.flatMap_congr fun j _ => ?_
    rw [List.flatMap_cons, List.flatMap_map]
    simp only [braces_token, ← List.map_eq_flatMap, List.map_const']
  have hbalanced := balanced_bracesAbove h (lines text).length (Nat.le_refl _)
  rw [depthAt_length, List.replicate_zero, List.append_nil] at hbalanced
  refine .of_braces ?_
  rw [closeText, braces_joinLines, hclose]
  exact hbalanced

/-- Two blocks that end at once, one that is continued, ragged and blank lines. -/
def danglingBlocks : List Char :=
  "if (a) \x7b  \n    if (b) \x7b\n        c\n      d\n\n  \x7b\n\n\x7d else \x7b\n     e".toList

theorem balanced_closeText_danglingBlocks : Openings (lines danglingBlocks) ∧
    ¬ Balanced danglingBlocks ∧ Balanced (brace.closeText .stack danglingBlocks) :=
  have h : Openings (lines danglingBlocks) := by decide
  ⟨h, fun hbalanced => absurd hbalanced.count_eq (by decide), balanced_closeText_stack h⟩

end Recast.Closer
