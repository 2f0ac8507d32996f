import Recast.Proofs.Block.StackFree

/-!
# Proofs/Block/OneLevel — lines on which the two ways of matching agree

`lookahead` matching sees two adjoining lines at a time, `stack` matching all the blocks that are
open. Where each line that is less deep than the one before it ends exactly one block (`StepsOut`),
two lines show all there is to see, and the tokens are the same
(`closeText_lookahead_eq_closeText_stack`).

The blocks of `stack` matching are taken without the stack, by the places where they end. At a line
that is less deep than the one before it, the block ends that the nearest less deep opener has
opened (`blockEnd?_of_nearest`), and no other block does (`eq_of_blockEnd?`).
-/

namespace Recast.Closer

open Text

section Dedents

variable (ls : List (List Char))

/-- The line at a place ends with an opening brace, blanks behind it left out. -/
def bracedAt (i : Nat) : Bool := endsWith (trimEnd (lineAt ls i)) ['{']

/-- The line at `j` ends with an opening brace and is less deep than the line at `i`, and no line
between the two is so. -/
def IsNearest (i j : Nat) : Prop :=
  bracedAt ls j = true ∧ widthAt ls j < widthAt ls i ∧
    ∀ k < i, j < k → bracedAt ls k = true → widthAt ls i ≤ widthAt ls k

instance (i j : Nat) : Decidable (IsNearest ls i j) := inferInstanceAs (Decidable (_ ∧ _ ∧ _))

/-- **Each dedent ends exactly one block.** Behind the text the lines go on with width 0. -/
structure StepsOut : Prop where
  /-- No line is blank. -/
  inked : ∀ line ∈ ls, isBlankLine line = false
  /-- The lines that end with an opening brace are those that a deeper line follows. -/
  deeper_iff : ∀ i < ls.length, widthAt ls i < widthAt ls (i + 1) ↔ bracedAt ls i = true
  /-- A line is as wide as the nearest opener that is less deep than the line before it, if it is
  itself less deep than that line. -/
  dedent : ∀ i < ls.length, widthAt ls (i + 1) < widthAt ls i →
    ∃ j < i, IsNearest ls i j ∧ widthAt ls (i + 1) = widthAt ls j
  /-- No line ends with a closing brace. -/
  unclosed : ∀ line ∈ ls, endsWith (trimEnd line) ['}'] = false

end Dedents

variable {ls : List (List Char)} {i j k m : Nat}

/-! ## Places -/

theorem lineAt_mem (h : i < ls.length) : lineAt ls i ∈ ls := by
  rw [lineAt, List.getD_eq_getElem _ _ h]
  exact List.getElem_mem h

theorem widthAt_length (ls : List (List Char)) : widthAt ls ls.length = 0 := by
  rw [widthAt, lineAt, List.getD_eq_default _ _ (Nat.le_refl _)]
  rfl

/-- What `lookahead` matching takes for the width of the next line. -/
theorem getD_width (ls : List (List Char)) (i : Nat) :
    (ls[i]?.map indentWidth).getD 0 = widthAt ls i := by
  rw [widthAt, lineAt, List.getD_eq_getElem?_getD]
  cases ls[i]? <;> rfl

namespace StepsOut

variable (h : StepsOut ls)

include h

theorem isCode (hi : i < ls.length) : isCode ls i = true := by
  rw [Closer.isCode, h.inked _ (lineAt_mem hi)]
  rfl

theorem isOpener (hi : i < ls.length) : isOpener ls brace i = bracedAt ls i := by
  rw [Closer.isOpener, h.isCode hi, Bool.true_and]
  rfl

/-- Without blank lines the next line with ink is the next line. -/
theorem nextCode? (i : Nat) :
    nextCode? ls i = if i + 1 < ls.length then some (i + 1) else none := by
  by_cases hi : i + 1 < ls.length
  · rw [Closer.nextCode?, codeFrom?_eq, h.isCode hi, if_pos rfl, if_pos hi]
  · rw [Closer.nextCode?, codeFrom?, show ls.length - (i + 1) = 0 by omega, if_neg hi]
    rfl

theorem endsAt_iff (hj : j < ls.length) :
    endsAt ls i j = true ↔ widthAt ls (j + 1) ≤ widthAt ls i := by
  rw [endsAt, h.isCode hj, h.nextCode?, Bool.true_and]
  by_cases hlast : j + 1 < ls.length
  · simp [hlast]
  · rw [show j + 1 = ls.length by omega, widthAt_length]
    simp

/-- A block ends where the text first comes back to the width of its header. -/
theorem blockEnd?_iff (hj : j < ls.length) (hij : i ≤ j) : blockEnd? ls i = some j ↔
    widthAt ls (j + 1) ≤ widthAt ls i ∧ ∀ k, i < k → k ≤ j → widthAt ls i < widthAt ls k := by
  have hend := blockEnd?_eq_some hj hij
  rw [Bool.eq_iff_iff, beq_iff_eq, Bool.and_eq_true_iff, stillOpenAt_iff, h.endsAt_iff hj] at hend
  rw [hend, and_comm]
  refine and_congr_right fun _ => ⟨fun hopen k hik hkj => ?_, fun hopen k hik hkj => ?_⟩
  · have hk := hopen (k - 1) (by omega) (by omega)
    rw [← Bool.not_eq_true, h.endsAt_iff (by omega), show k - 1 + 1 = k by omega] at hk
    omega
  · rw [← Bool.not_eq_true, h.endsAt_iff (by omega)]
    have := hopen (k + 1) (by omega) (by omega)
    omega

/-! ## The block that ends at a dedent -/

/-- Between the nearest less deep opener and the line every line is deeper than the opener: where
the text gets deeper than the last one that is not, there would be a nearer opener. -/
theorem widthAt_lt_of_nearest (hi : i < ls.length) (hnear : IsNearest ls i j) :
    ∀ k, j < k → k ≤ i → widthAt ls j < widthAt ls k := by
  obtain ⟨-, hwidth, hfirst⟩ := hnear
  -- downwards from the line: the next place is as deep as the line, or is the one we look at
  have key : ∀ d k, i - k = d → j < k → k ≤ i → widthAt ls i ≤ widthAt ls k := by
    intro d
    induction d with
    | zero =>
      intro k hd _ hki
      obtain rfl : k = i := by omega
      exact Nat.le_refl _
    | succ d ih =>
      intro k hd hjk hki
      have hnext := ih (k + 1) (by omega) (by omega) (by omega)
      by_contra hshallow
      have hopens : bracedAt ls k = true := (h.deeper_iff k (by omega)).mp (by omega)
      have := hfirst k (by omega) hjk hopens
      omega
  intro k hjk hki
  have := key _ k rfl hjk hki
  omega

/-- **The block of the nearest less deep opener ends at the dedent.** -/
theorem blockEnd?_of_nearest (hi : i < ls.length) (hji : j < i) (hnear : IsNearest ls i j)
    (heq : widthAt ls (i + 1) = widthAt ls j) : blockEnd? ls j = some i :=
  (h.blockEnd?_iff hi (Nat.le_of_lt hji)).mpr
    ⟨Nat.le_of_eq heq, h.widthAt_lt_of_nearest hi hnear⟩

/-- An opener is less deep than the line behind which its block ends. -/
theorem lt_of_blockEnd? (hi : i < ls.length) (hki : k ≤ i) (hopens : bracedAt ls k = true)
    (hend : blockEnd? ls k = some i) : k < i ∧ widthAt ls k < widthAt ls i := by
  obtain ⟨hle, hdeeper⟩ := (h.blockEnd?_iff hi hki).mp hend
  have hne : k ≠ i := by
    rintro rfl
    have := (h.deeper_iff k hi).mpr hopens
    omega
  exact ⟨by omega, hdeeper i (by omega) (Nat.le_refl i)⟩

/-- **No other block ends there.** -/
theorem eq_of_blockEnd? (hi : i < ls.length) (hji : j < i) (hnear : IsNearest ls i j)
    (heq : widthAt ls (i + 1) = widthAt ls j) (hki : k ≤ i) (hopens : bracedAt ls k = true)
    (hend : blockEnd? ls k = some i) : k = j := by
  obtain ⟨hlt, hwidth⟩ := h.lt_of_blockEnd? hi hki hopens hend
  obtain ⟨hle, hdeeper⟩ := (h.blockEnd?_iff hi hki).mp hend
  rcases Nat.lt_trichotomy k j with hkj | rfl | hjk
  · have := hdeeper j hkj (Nat.le_of_lt hji)
    omega
  · rfl
  · have := hnear.2.2 k hlt hjk hopens
    omega

/-! ## The tokens behind a line -/

/-- What `lookahead` matching asks of a line. -/
theorem closesBefore (hj : j < ls.length) : brace.closesBefore (lineAt ls j) ls[j + 1]? =
    (decide (widthAt ls (j + 1) < widthAt ls j) && !ls[j + 1]?.any brace.continues) := by
  have hends : brace.endsBlock (lineAt ls j) = bracedAt ls j := by
    have hclosed : endsWith (trimEnd (lineAt ls j)) ['}'] = false := h.unclosed _ (lineAt_mem hj)
    change (bracedAt ls j || endsWith (trimEnd (lineAt ls j)) ['}']) = bracedAt ls j
    rw [hclosed, Bool.or_false]
  rw [Closer.closesBefore, getD_width, h.inked _ (lineAt_mem hj), hends,
    show indentWidth (lineAt ls j) = widthAt ls j from rfl, show brace.isKeyword = false from rfl]
  cases hopens : bracedAt ls j with
  | false => simp
  | true =>
    have hdeeper := (h.deeper_iff j hj).mpr hopens
    have hdedent : decide (widthAt ls (j + 1) < widthAt ls j) = false := by
      rw [decide_eq_false_iff_not]
      omega
    simp [hdedent]

/-- Where no dedent follows no block ends. -/
theorem closedAfter_of_le (hj : j < ls.length) (hle : widthAt ls j ≤ widthAt ls (j + 1)) :
    closedAfter ls brace j = [] := by
  refine List.eq_nil_iff_forall_not_mem.mpr fun i hi => ?_
  obtain ⟨hopener, hend, -⟩ := mem_closedAfter.mp hi
  have hij : i ≤ j := (List.mem_range'_1.mp (List.find?_range'_eq_some.mp hend).2.1).1
  rw [h.isOpener (by omega)] at hopener
  have hlt := (h.lt_of_blockEnd? hj hij hopener hend).2
  have := ((h.blockEnd?_iff hj hij).mp hend).1
  omega

/-- The block that ends at a dedent is continued by the next line, or gets its token. -/
theorem isContinued (hend : blockEnd? ls i = some j) (heq : widthAt ls (j + 1) = widthAt ls i) :
    isContinued ls brace i = ls[j + 1]?.any brace.continues := by
  rw [Closer.isContinued, hend, Option.any_some, h.nextCode?]
  by_cases hlast : j + 1 < ls.length
  · rw [if_pos hlast, Option.any_some, heq, beq_self_eq_true, Bool.true_and, lineAt,
      List.getD_eq_getElem _ _ hlast, List.getElem?_eq_getElem hlast]
    rfl
  · rw [if_neg hlast, List.getElem?_eq_none (by omega)]
    rfl

/-- At a dedent one block ends, or none if it is continued. -/
theorem closedAfter_of_nearest (hj : j < ls.length) (hij : i < j) (hnear : IsNearest ls j i)
    (heq : widthAt ls (j + 1) = widthAt ls i) : closedAfter ls brace j =
      if ls[j + 1]?.any brace.continues then [] else [i] := by
  have hend := h.blockEnd?_of_nearest hj hij hnear heq
  have hcontinued := h.isContinued hend heq
  have hopener : Closer.isOpener ls brace i = true := by
    rw [h.isOpener (Nat.lt_trans hij hj)]
    exact hnear.1
  have honly : ∀ k ∈ closedAfter ls brace j, k = i := fun k hk => by
    obtain ⟨hopener, hkend, -⟩ := mem_closedAfter.mp hk
    have hkj : k ≤ j := (List.mem_range'_1.mp (List.find?_range'_eq_some.mp hkend).2.1).1
    rw [h.isOpener (by omega)] at hopener
    exact h.eq_of_blockEnd? hj hij hnear heq hkj hopener hkend
  cases hc : ls[j + 1]?.any brace.continues with
  | true =>
    refine List.eq_nil_iff_forall_not_mem.mpr fun k hk => ?_
    obtain rfl := honly k hk
    rw [hc, (mem_closedAfter.mp hk).2.2] at hcontinued
    exact absurd hcontinued (by decide)
  | false =>
    have hmem : i ∈ closedAfter ls brace j :=
      mem_closedAfter.mpr ⟨hopener, hend, hcontinued.trans hc⟩
    have hnodup : (closedAfter ls brace j).Nodup :=
      (List.nodup_reverse.mpr List.nodup_range).filter _
    exact List.perm_singleton.mp ((List.perm_ext_iff_of_nodup hnodup (List.nodup_singleton i)).mpr
      fun k => ⟨fun hk => List.mem_singleton.mpr (honly k hk),
        fun hk => (List.mem_singleton.mp hk) ▸ hmem⟩)

/-- **Behind a line the two ways of matching put in the same tokens.** -/
theorem tokens_eq (hj : j < ls.length) :
    ((closedAfter ls brace j).map fun i => brace.line (widthAt ls i)) =
      if brace.closesBefore (lineAt ls j) ls[j + 1]? then [brace.line (widthAt ls (j + 1))]
      else [] := by
  rw [h.closesBefore hj]
  by_cases hdedent : widthAt ls (j + 1) < widthAt ls j
  · obtain ⟨i, hij, hnear, heq⟩ := h.dedent j hj hdedent
    rw [h.closedAfter_of_nearest hj hij hnear heq, heq]
    cases ls[j + 1]?.any brace.continues <;> simp [← heq, hdedent]
  · rw [h.closedAfter_of_le hj (by omega)]
    simp [hdedent]

end StepsOut

/-! ## Whole texts -/

/-- `lookahead` matching, place by place. -/
theorem closeLookahead_drop (closer : Closer) (ls : List (List Char)) (m : Nat) :
    closer.closeLookahead (ls.drop m) = (List.range' m (ls.length - m)).flatMap fun j =>
      lineAt ls j :: if closer.closesBefore (lineAt ls j) ls[j + 1]? then
        [closer.line (widthAt ls (j + 1))] else [] := by
  induction hd : ls.length - m generalizing m with
  | zero =>
    rw [List.drop_eq_nil_of_le (by omega)]
    rfl
  | succ d ih =>
    have hlt : m < ls.length := by omega
    have hline : ls[m] = lineAt ls m := (List.getD_eq_getElem _ _ hlt).symm
    rw [List.drop_eq_getElem_cons hlt, hline, closeLookahead, List.head?_drop, getD_width,
      List.range'_succ, List.flatMap_cons, ih (m + 1) (by omega)]
    split <;> rfl

/-- The lines, each with tokens of the given widths behind it. -/
def withTokens (ls : List (List Char)) (closer : Closer) (run : Nat → List Nat) :
    List (List Char) :=
  (List.range ls.length).flatMap fun i => lineAt ls i :: (run i).map closer.line

theorem length_withTokens (ls : List (List Char)) (closer : Closer) (run : Nat → List Nat) :
    (withTokens ls closer run).length =
      ls.length + ((List.range ls.length).flatMap run).length := by
  have key : ∀ places : List Nat,
      (places.flatMap fun i => lineAt ls i :: (run i).map closer.line).length =
        places.length + (places.flatMap run).length := fun places => by
    induction places with
    | nil => rfl
    | cons i places ih =>
      simp only [List.flatMap_cons, List.length_append, List.length_cons, List.length_map, ih]
      omega
  rw [withTokens, key, List.length_range]

theorem closeLookahead_eq_withTokens (ls : List (List Char)) (closer : Closer) :
    closer.closeLookahead ls = withTokens ls closer fun i =>
      if closer.closesBefore (lineAt ls i) ls[i + 1]? then [widthAt ls (i + 1)] else [] := by
  have hlook := closeLookahead_drop closer ls 0
  rw [List.drop_zero, Nat.sub_zero, ← List.range_eq_range'] at hlook
  rw [hlook, withTokens]
  refine List.flatMap_congr fun i _ => ?_
  split <;> rfl

theorem closeStack_eq_withTokens (ls : List (List Char)) (closer : Closer) :
    closer.closeStack [] ls =
      withTokens ls closer fun i => (closedAfter ls closer i).map (widthAt ls) := by
  have hstack := closeStack_drop ls closer 0
  rw [List.drop_zero, Nat.sub_zero, ← List.range_eq_range'] at hstack
  refine hstack.trans (List.flatMap_congr fun i _ => ?_)
  rw [List.map_map]
  rfl

/-- **Where each dedent ends exactly one block, the two ways of matching agree.** -/
theorem closeText_lookahead_eq_closeText_stack {text : List Char} (h : StepsOut (lines text)) :
    brace.closeText .lookahead text = brace.closeText .stack text := by
  have hlook := closeLookahead_drop brace (lines text) 0
  have hstack := closeStack_drop (lines text) brace 0
  rw [List.drop_zero] at hlook hstack
  have hclose : brace.closeLookahead (lines text) = brace.closeStack [] (lines text) := by
    rw [hlook]
    refine Eq.trans (List.flatMap_congr fun j hj => ?_) hstack.symm
    rw [h.tokens_eq (by have := List.mem_range'_1.mp hj; omega)]
  exact congrArg joinLines hclose

/-- Two levels of blocks, the outer one continued. -/
theorem closeText_agree_continued :
    StepsOut (lines "if (a) \x7b\n    f \x7b\n        b\n    c\n\x7d else \x7b\n    d".toList) ∧
      brace.closeText .lookahead
          "if (a) \x7b\n    f \x7b\n        b\n    c\n\x7d else \x7b\n    d".toList =
        brace.closeText .stack
          "if (a) \x7b\n    f \x7b\n        b\n    c\n\x7d else \x7b\n    d".toList :=
  have h : StepsOut
      (lines "if (a) \x7b\n    f \x7b\n        b\n    c\n\x7d else \x7b\n    d".toList) :=
    ⟨by decide, by decide, by decide, by decide⟩
  ⟨h, closeText_lookahead_eq_closeText_stack h⟩

end Recast.Closer
