import Mathlib.Data.List.Perm.Subperm
import Recast.Proofs.Block.OneLevel

/-!
# Proofs/Block/Lookahead — how many tokens `lookahead` matching puts in

Python tells blocks by indentation, and the headers that the rules have written end with a brace
where a deeper line follows (`Disciplined`). On such lines a token that stands where the text gets
less deep can be charged to an opener, the one whose block ends there
(`Disciplined.exists_blockEnd?_of_dedent`). No opener is charged twice, because a block ends at one
place.

`lookahead` matching takes the width of the next line even if that line is blank, so it also puts a
token where a shallow blank line stands within a block (`isInterrupted`). Those tokens have no
opener, and are the only ones that have none (`closingCount_lookahead_le`).
-/

namespace Recast.Closer

open Text

section Discipline

variable (ls : List (List Char))

/-- **Lines as a Python program has them after its headers were rewritten.** Blank lines may stand
anywhere, and the line before another is the last one before it that is not blank. -/
structure Disciplined : Prop where
  /-- The first line is not indented. -/
  first : ∀ i ∈ codeFrom? ls 0, widthAt ls i = 0
  /-- A line is deeper than the one before it if and only if that one ends with an opening brace. -/
  deeper_iff : ∀ i < ls.length, isCode ls i = true → ∀ j ∈ nextCode? ls i,
    widthAt ls i < widthAt ls j ↔ isOpener ls brace i = true
  /-- A line that is less deep than the one before it is as wide as the header of a block that is
  open there, or not indented. -/
  dedent : ∀ i < ls.length, isCode ls i = true → ∀ j ∈ nextCode? ls i,
    widthAt ls j < widthAt ls i →
      widthAt ls j = 0 ∨ ∃ k ∈ openAt ls brace i, widthAt ls j = widthAt ls k

/-- The next line is less deep, but it is blank, and the text does not go on less deep behind it. -/
def isInterrupted (i : Nat) : Bool :=
  isCode ls i && decide (widthAt ls (i + 1) < widthAt ls i) &&
    (nextCode? ls i).any fun k => widthAt ls i ≤ widthAt ls k

/-- `lookahead` matching puts a token behind the line at a place. -/
def closesAt (i : Nat) : Bool := brace.closesBefore (lineAt ls i) ls[i + 1]?

end Discipline

variable {ls : List (List Char)} {closer : Closer} {i j k p : Nat}

/-! ## Blocks that are open at a line -/

theorem mem_openAt : k ∈ openAt ls closer i ↔
    k < i ∧ isOpener ls closer k = true ∧ stillOpenAt ls i k = true := by
  simp [openAt]

/-- A block is open at the next line if it is open at this one and does not end behind it. -/
theorem stillOpenAt_next (hkp : k ≤ p) (hp : isCode ls p = true) (hnext : nextCode? ls p = some i) :
    stillOpenAt ls i k = true ↔ stillOpenAt ls p k = true ∧ widthAt ls k < widthAt ls i := by
  obtain ⟨-, hfirst, hblank⟩ := List.find?_range'_eq_some.mp hnext
  have hpi : p < i := by
    have := List.mem_range'_1.mp hfirst
    omega
  have hend : endsAt ls k p = decide (widthAt ls i ≤ widthAt ls k) := by
    rw [endsAt, hp, hnext, Bool.true_and, Option.all_some]
  rw [stillOpenAt_iff, stillOpenAt_iff]
  constructor
  · intro h
    have hlast := h p hkp hpi
    rw [hend, decide_eq_false_iff_not] at hlast
    exact ⟨fun j hkj hjp => h j hkj (by omega), by omega⟩
  · rintro ⟨h, hlt⟩ j hkj hji
    rcases Nat.lt_trichotomy j p with hjp | rfl | hpj
    · exact h j hkj hjp
    · rw [hend, decide_eq_false_iff_not]
      omega
    · -- between the two lines stand blank ones
      have hj : isCode ls j = false := by simpa using hblank j (by omega) hji
      rw [endsAt, hj, Bool.false_and]

/-- A block around the header of an open block is open. -/
theorem stillOpenAt_trans (hk : stillOpenAt ls k j = true) (hi : stillOpenAt ls i k = true)
    (hlt : widthAt ls j < widthAt ls k) : stillOpenAt ls i j = true := by
  rw [stillOpenAt_iff] at hk hi ⊢
  intro m hjm hmi
  rcases Nat.lt_or_ge m k with hmk | hkm
  · exact hk m hjm hmk
  · have hinner := hi m hkm hmi
    by_contra hend
    rw [Bool.not_eq_false, endsAt, Bool.and_eq_true_iff, Option.all_eq_true] at hend
    rw [endsAt, hend.1, Bool.true_and, ← Bool.not_eq_true, Option.all_eq_true] at hinner
    refine hinner fun l hl => decide_eq_true ?_
    have := of_decide_eq_true (hend.2 l hl)
    omega

theorem widthAt_lt_of_mem_openAt (hi : isCode ls i = true) (h : k ∈ openAt ls closer i) :
    widthAt ls k < widthAt ls i := by
  obtain ⟨hki, hopener, hopen⟩ := mem_openAt.mp h
  exact widthAt_lt_of_stillOpenAt (isCode_of_isOpener hopener) hi hki hopen

namespace Disciplined

variable (h : Disciplined ls)

include h

/-- The line before an indented one. -/
theorem exists_previous (hi : isCode ls i = true) (hpos : 0 < widthAt ls i) :
    ∃ p, p < i ∧ isCode ls p = true ∧ nextCode? ls p = some i := by
  have hlt := lt_length_of_isCode hi
  cases hf : codeFrom? ls 0 with
  | none =>
    have := List.find?_eq_none.mp hf i (List.mem_range'_1.mpr ⟨by omega, by omega⟩)
    exact absurd hi this
  | some f =>
    obtain ⟨hfcode, -, hblank⟩ := List.find?_range'_eq_some.mp hf
    have hwidth := h.first f hf
    have hfi : f < i := by
      rcases Nat.lt_trichotomy f i with hlt | rfl | hif
      · exact hlt
      · omega
      · have := hblank i (by omega) hif
        simp [hi] at this
    obtain ⟨p, -, hpi, hp, hnext⟩ := exists_nextCode?_eq hfcode hi hfi
    exact ⟨p, hpi, hp, hnext⟩

/-- **An indented line stands in a block.** -/
theorem exists_mem_openAt (hi : isCode ls i = true) (hpos : 0 < widthAt ls i) :
    ∃ k, k ∈ openAt ls brace i := by
  induction i using Nat.strongRecOn with
  | _ i ih =>
    obtain ⟨p, hpi, hp, hnext⟩ := h.exists_previous hi hpos
    have hlt := lt_length_of_isCode hp
    rcases Nat.lt_trichotomy (widthAt ls p) (widthAt ls i) with hdeeper | heq | hless
    · have hopener := (h.deeper_iff p hlt hp i hnext).mp hdeeper
      exact ⟨p, mem_openAt.mpr ⟨hpi, hopener,
        (stillOpenAt_next (Nat.le_refl p) hp hnext).mpr ⟨stillOpenAt_self, hdeeper⟩⟩⟩
    · obtain ⟨k, hk⟩ := ih p hpi hp (by omega)
      have hwidth := widthAt_lt_of_mem_openAt hp hk
      obtain ⟨hkp, hopener, hopen⟩ := mem_openAt.mp hk
      exact ⟨k, mem_openAt.mpr ⟨by omega, hopener,
        (stillOpenAt_next (Nat.le_of_lt hkp) hp hnext).mpr ⟨hopen, by omega⟩⟩⟩
    · -- the line ends the block of `k`, and stands in the block that `k` stands in
      obtain hzero | ⟨k, hk, hwidth⟩ := h.dedent p hlt hp i hnext hless
      · omega
      · obtain ⟨hkp, hkopener, hkopen⟩ := mem_openAt.mp hk
        have hkcode := isCode_of_isOpener hkopener
        obtain ⟨l, hl⟩ := ih k (by omega) hkcode (by omega)
        have hlk := widthAt_lt_of_mem_openAt hkcode hl
        obtain ⟨hlt', hopener, hopen⟩ := mem_openAt.mp hl
        refine ⟨l, mem_openAt.mpr ⟨by omega, hopener, ?_⟩⟩
        exact (stillOpenAt_next (by omega) hp hnext).mpr
          ⟨stillOpenAt_trans hopen hkopen hlk, by omega⟩

/-- **Where the text gets less deep a block ends.** -/
theorem exists_blockEnd?_of_dedent (hi : isCode ls i = true) (hpos : 0 < widthAt ls i)
    (hdedent : ∀ j ∈ nextCode? ls i, widthAt ls j < widthAt ls i) :
    ∃ k, isOpener ls brace k = true ∧ blockEnd? ls k = some i := by
  have hlt := lt_length_of_isCode hi
  have key : ∀ k ∈ openAt ls brace i, endsAt ls k i = true →
      ∃ k, isOpener ls brace k = true ∧ blockEnd? ls k = some i := by
    intro k hk hend
    obtain ⟨hki, hopener, hopen⟩ := mem_openAt.mp hk
    refine ⟨k, hopener, beq_iff_eq.mp ?_⟩
    rw [blockEnd?_eq_some hlt (Nat.le_of_lt hki), hopen, hend, Bool.and_self]
  obtain ⟨around, haround⟩ := h.exists_mem_openAt hi hpos
  cases hnext : nextCode? ls i with
  | none => exact key around haround (by simp [endsAt, hi, hnext])
  | some j =>
    obtain hzero | ⟨k, hk, hwidth⟩ := h.dedent i hlt hi j hnext (hdedent j hnext)
    · exact key around haround (by simp [endsAt, hi, hnext, hzero])
    · exact key k hk (by simp [endsAt, hi, hnext, hwidth])

/-- A token is charged to an opener, or stands where a block is interrupted. -/
theorem exists_blockEnd?_or_isInterrupted (hcloses : closesAt ls i = true) :
    isInterrupted ls i = true ∨ ∃ k, isOpener ls brace k = true ∧ blockEnd? ls k = some i := by
  rw [closesAt, closesBefore, getD_width] at hcloses
  simp only [Bool.and_eq_true, decide_eq_true_eq] at hcloses
  obtain ⟨⟨⟨⟨hwidth, hink⟩, -⟩, -⟩, -⟩ := hcloses
  replace hwidth : widthAt ls (i + 1) < widthAt ls i := hwidth
  have hi : isCode ls i = true := hink
  by_cases hinterrupted : isInterrupted ls i = true
  · exact .inl hinterrupted
  · refine .inr (h.exists_blockEnd?_of_dedent hi (by omega) fun j hj => ?_)
    rw [Option.mem_def] at hj
    rw [isInterrupted, hi, decide_eq_true hwidth, hj] at hinterrupted
    simpa using hinterrupted

/-- **The tokens are no more than the openers and the interruptions.** -/
theorem countP_closesAt_le : (List.range ls.length).countP (closesAt ls) ≤
    (List.range ls.length).countP (isOpener ls brace) +
      (List.range ls.length).countP (isInterrupted ls) := by
  rw [List.countP_eq_length_filter, List.countP_eq_length_filter, List.countP_eq_length_filter]
  have hsub : (List.range ls.length).filter (closesAt ls) ⊆
      ((List.range ls.length).filter (isOpener ls brace)).map (fun k => (blockEnd? ls k).getD 0) ++
        (List.range ls.length).filter (isInterrupted ls) := by
    intro i hi
    obtain ⟨hlt, hcloses⟩ := List.mem_filter.mp hi
    rcases h.exists_blockEnd?_or_isInterrupted hcloses with hinterrupted | ⟨k, hopener, hend⟩
    · exact List.mem_append_right _ (List.mem_filter.mpr ⟨hlt, hinterrupted⟩)
    · have hk := lt_length_of_isCode (isCode_of_isOpener hopener)
      refine List.mem_append_left _ (List.mem_map.mpr ⟨k, ?_, by rw [hend]; rfl⟩)
      exact List.mem_filter.mpr ⟨List.mem_range.mpr hk, hopener⟩
  have hnodup : ((List.range ls.length).filter (closesAt ls)).Nodup := List.nodup_range.filter _
  have hle := (List.subperm_of_subset hnodup hsub).length_le
  rwa [List.length_append, List.length_map] at hle

end Disciplined

/-! ## Counting -/

theorem length_flatMap_if {α β : Type} (token : α → β) (closes : α → Bool) :
    ∀ l : List α, (l.flatMap fun a => if closes a then [token a] else []).length = l.countP closes
  | [] => rfl
  | a :: l => by
      rw [List.flatMap_cons, List.length_append, length_flatMap_if token closes l, List.countP_cons]
      cases closes a with
      | false => simp
      | true => simp [Nat.add_comm]

/-- The tokens are counted place by place. -/
theorem closingCount_lookahead (text : List Char) : brace.closingCount .lookahead text =
    (List.range (lines text).length).countP (closesAt (lines text)) := by
  rw [closingCount, close, closeLookahead_eq_withTokens, length_withTokens,
    Nat.add_sub_cancel_left]
  exact length_flatMap_if _ _ _

/-- The lines that end with an opening brace, blanks behind it left out. -/
def openingCount (ls : List (List Char)) : Nat :=
  ls.countP fun line => endsWith (trimEnd line) ['{']

theorem countP_isOpener_le (ls : List (List Char)) :
    (List.range ls.length).countP (isOpener ls brace) ≤ openingCount ls := by
  have hls : ls = (List.range ls.length).map (lineAt ls) := by
    refine List.ext_getElem (by simp) fun i hi _ => ?_
    rw [List.getElem_map, List.getElem_range, lineAt, List.getD_eq_getElem _ _ hi]
  have hcount : openingCount ls = (List.range ls.length).countP (bracedAt ls) := by
    conv_lhs => rw [openingCount, hls, List.countP_map]
    rfl
  rw [hcount]
  refine List.countP_mono_left fun i _ hopener => ?_
  exact (Bool.and_eq_true_iff.mp hopener).2

/-- **`lookahead` matching closes too much only where a blank line interrupts a block.** -/
theorem closingCount_lookahead_le {text : List Char} (h : Disciplined (lines text)) :
    brace.closingCount .lookahead text ≤ openingCount (lines text) +
      (List.range (lines text).length).countP (isInterrupted (lines text)) := by
  have := h.countP_closesAt_le
  have := countP_isOpener_le (lines text)
  rw [closingCount_lookahead]
  omega

/-- A block with a blank line between its two lines. -/
def twoLineBlock : List Char := "if (x) \x7b\n    a\n\n    b".toList

theorem disciplined_twoLineBlock : Disciplined (lines twoLineBlock) :=
  ⟨by decide, by decide, by decide⟩

theorem closingCount_lookahead_le_twoLineBlock : Disciplined (lines twoLineBlock) ∧
    brace.closingCount .lookahead twoLineBlock ≤ openingCount (lines twoLineBlock) +
      (List.range (lines twoLineBlock).length).countP (isInterrupted (lines twoLineBlock)) :=
  ⟨disciplined_twoLineBlock, closingCount_lookahead_le disciplined_twoLineBlock⟩

/-- **A blank line within a block gets it closed twice.** -/
theorem openingCount_lt_closingCount_twoLineBlock : Disciplined (lines twoLineBlock) ∧
    (∀ line ∈ lines twoLineBlock, startsWith (trimStart line) ['\x7d'] = false ∧
      endsWith (trimEnd line) ['\x7d'] = false) ∧
    openingCount (lines twoLineBlock) < brace.closingCount .lookahead twoLineBlock :=
  ⟨disciplined_twoLineBlock, by decide, by decide⟩

end Recast.Closer
