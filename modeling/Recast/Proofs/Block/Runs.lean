import Recast.Proofs.Block.OneLevel
import Recast.Proofs.Block.Settled

/-!
# Proofs/Block/Runs — what is put behind each line, and how much of it

Whichever way blocks are matched, the lines of a text stay as they are and in their order, and
behind each of them stands a run of tokens, perhaps empty. For `lookahead` matching a run says all
that two adjoining lines show (`LooksAhead`). For `stack` matching the runs are counted: there is a
token for each opener, less one for each line that continues a block of its own width
(`lines_closeText_eq_withTokens`).

The count pairs the openers that get no token with the lines that continue their blocks. Behind a
block the text goes on at the first line with ink that is no deeper than the header (`resumesAt?`),
and two headers of one width cannot both be open there.
-/

namespace Recast.Closer

open Text

section Places

variable (ls : List (List Char)) (closer : Closer)

/-- The place of the line with ink that follows the block opened at `i`. -/
def resumesAt? (i : Nat) : Option Nat := (blockEnd? ls i).bind (nextCode? ls)

/-- **The line at `k` continues a block that is open at exactly its width:** an opener above it is
as wide, and all lines with ink between the two are deeper. -/
def ContinuesOpen (k : Nat) : Prop :=
  isCode ls k = true ∧ closer.continues (lineAt ls k) = true ∧
    ∃ i < k, isOpener ls closer i = true ∧ widthAt ls i = widthAt ls k ∧
      ∀ l < k, i < l → isCode ls l = true → widthAt ls k < widthAt ls l

instance (k : Nat) : Decidable (ContinuesOpen ls closer k) :=
  inferInstanceAs (Decidable (_ ∧ _ ∧ ∃ i < k, _ ∧ _ ∧ _))

/-- **What `lookahead` matching puts behind the line at `i`:** at most one token, as wide as the
next line (0 behind the last one), and none where that line or this one ends the block already. -/
structure LooksAhead (i : Nat) (run : List Nat) : Prop where
  length_le : run.length ≤ 1
  width : ∀ w ∈ run, w = (ls[i + 1]?.map indentWidth).getD 0
  unended : run ≠ [] → closer.endsBlock (lineAt ls i) = false
  uncontinued : run ≠ [] → ∀ next ∈ ls[i + 1]?, closer.continues next = false
  header : run ≠ [] → closer.isKeyword = true → closer.opens (lineAt ls i) = true

end Places

variable {ls : List (List Char)} {closer : Closer} {i j k : Nat}

/-! ## Where the text goes on behind a block -/

/-- **Behind a block the text goes on** at the first line with ink that is no deeper than the
header. -/
theorem resumesAt?_eq_some (hi : isCode ls i = true) : resumesAt? ls i = some k ↔
    i < k ∧ isCode ls k = true ∧ widthAt ls k ≤ widthAt ls i ∧
      ∀ l < k, i < l → isCode ls l = true → widthAt ls i < widthAt ls l := by
  rw [resumesAt?, Option.bind_eq_some_iff]
  constructor
  · rintro ⟨j, hend, hnext⟩
    obtain ⟨hends, hj, -⟩ := List.find?_range'_eq_some.mp hend
    obtain ⟨hk, hfirst, hblank⟩ := List.find?_range'_eq_some.mp hnext
    have hij := List.mem_range'_1.mp hj
    have hjk := List.mem_range'_1.mp hfirst
    rw [endsAt, hnext, Option.all_some, Bool.and_eq_true_iff, decide_eq_true_iff] at hends
    have hopen := blockEnd?_eq_some (show j < ls.length by omega) hij.1
    rw [hend, beq_self_eq_true, eq_comm, Bool.and_eq_true_iff] at hopen
    refine ⟨by omega, hk, hends.2, fun l hlk hil hl => ?_⟩
    have hlj : l ≤ j := by
      by_contra hjl
      have := hblank l (by omega) hlk
      simp [hl] at this
    exact (stillOpenAt_iff_lt hi hends.1).mp hopen.1 l hil hlj hl
  · rintro ⟨hik, hk, hwidth, hdeeper⟩
    obtain ⟨j, hij, hjk, hj, hnext⟩ := exists_nextCode?_eq hi hk hik
    refine ⟨j, beq_iff_eq.mp ?_, hnext⟩
    rw [blockEnd?_eq_some (lt_length_of_isCode hj) hij, Bool.and_eq_true_iff,
      stillOpenAt_iff_lt hi hj]
    exact ⟨fun l hil hlj => hdeeper l (by omega) hil, by simp [endsAt, hj, hnext, hwidth]⟩

theorem isContinued_eq (ls : List (List Char)) (closer : Closer) (i : Nat) :
    isContinued ls closer i = (resumesAt? ls i).any fun k =>
      widthAt ls k == widthAt ls i && closer.continues (lineAt ls k) := by
  rw [isContinued, resumesAt?]
  cases blockEnd? ls i <;> rfl

/-- A block is continued where the text goes on, by a line of the header's width. -/
theorem isContinued_iff : isContinued ls closer i = true ↔ ∃ k, resumesAt? ls i = some k ∧
    widthAt ls k = widthAt ls i ∧ closer.continues (lineAt ls k) = true := by
  rw [isContinued_eq, Option.any_eq_true]
  simp

/-- **A line continues at most one block.** -/
theorem eq_of_resumesAt? (hi : isCode ls i = true) (hj : isCode ls j = true)
    (hik : resumesAt? ls i = some k) (hjk : resumesAt? ls j = some k)
    (hwidth : widthAt ls i = widthAt ls j) : i = j := by
  obtain ⟨hlt, -, -, hdeeper⟩ := (resumesAt?_eq_some hi).mp hik
  obtain ⟨hlt', -, -, hdeeper'⟩ := (resumesAt?_eq_some hj).mp hjk
  rcases Nat.lt_trichotomy i j with hij | rfl | hji
  · have := hdeeper j hlt' hij hj
    omega
  · rfl
  · have := hdeeper' i hlt hji hi
    omega

/-- The lines that continue a block of their own width are those where the text goes on behind a
block that is continued. -/
theorem continuesOpen_iff : ContinuesOpen ls closer k ↔ ∃ i, isOpener ls closer i = true ∧
    isContinued ls closer i = true ∧ resumesAt? ls i = some k := by
  constructor
  · rintro ⟨hk, hcontinues, i, hik, hopener, hwidth, hdeeper⟩
    have hresumes : resumesAt? ls i = some k :=
      (resumesAt?_eq_some (isCode_of_isOpener hopener)).mpr
        ⟨hik, hk, Nat.le_of_eq hwidth.symm, hwidth ▸ hdeeper⟩
    exact ⟨i, hopener, isContinued_iff.mpr ⟨k, hresumes, hwidth.symm, hcontinues⟩, hresumes⟩
  · rintro ⟨i, hopener, hcontinued, hresumes⟩
    obtain ⟨k', hresumes', hwidth, hcontinues⟩ := isContinued_iff.mp hcontinued
    obtain rfl : k = k' := Option.some.inj (hresumes.symm.trans hresumes')
    obtain ⟨hik, hk, -, hdeeper⟩ := (resumesAt?_eq_some (isCode_of_isOpener hopener)).mp hresumes
    exact ⟨hk, hcontinues, i, hik, hopener, hwidth.symm, hwidth ▸ hdeeper⟩

/-! ## Counting -/

/-- **As many blocks are continued as there are lines that continue one.** -/
theorem countP_isContinued (ls : List (List Char)) (closer : Closer) :
    (List.range ls.length).countP (fun i => isOpener ls closer i && isContinued ls closer i) =
      (List.range ls.length).countP fun k => decide (ContinuesOpen ls closer k) := by
  rw [List.countP_eq_length_filter, List.countP_eq_length_filter]
  have hcontinued : ∀ {i}, i ∈ (List.range ls.length).filter
      (fun i => isOpener ls closer i && isContinued ls closer i) →
        isOpener ls closer i = true ∧ isContinued ls closer i = true := fun h =>
    Bool.and_eq_true_iff.mp (List.mem_filter.mp h).2
  have hperm : (((List.range ls.length).filter fun i =>
      isOpener ls closer i && isContinued ls closer i).map fun i => (resumesAt? ls i).getD 0).Perm
        ((List.range ls.length).filter fun k => decide (ContinuesOpen ls closer k)) := by
    refine (List.perm_ext_iff_of_nodup ?_ (List.nodup_range.filter _)).mpr fun k => ?_
    · refine (List.nodup_range.filter _).map_on fun i hi j hj heq => ?_
      obtain ⟨hopener, hcont⟩ := hcontinued hi
      obtain ⟨hopener', hcont'⟩ := hcontinued hj
      obtain ⟨k, hk, hwidth, -⟩ := isContinued_iff.mp hcont
      obtain ⟨k', hk', hwidth', -⟩ := isContinued_iff.mp hcont'
      obtain rfl : k = k' := by simpa [hk, hk'] using heq
      exact eq_of_resumesAt? (isCode_of_isOpener hopener) (isCode_of_isOpener hopener') hk hk'
        (hwidth.symm.trans hwidth')
    · rw [List.mem_map, List.mem_filter, List.mem_range, decide_eq_true_iff]
      constructor
      · rintro ⟨i, hi, rfl⟩
        obtain ⟨hopener, hcont⟩ := hcontinued hi
        obtain ⟨k, hk, -⟩ := isContinued_iff.mp hcont
        rw [hk, Option.getD_some]
        have hopen := continuesOpen_iff.mpr ⟨i, hopener, hcont, hk⟩
        exact ⟨lt_length_of_isCode hopen.1, hopen⟩
      · rintro ⟨-, hopen⟩
        obtain ⟨i, hopener, hcont, hk⟩ := continuesOpen_iff.mp hopen
        refine ⟨i, List.mem_filter.mpr ⟨?_, by rw [hopener, hcont]; rfl⟩, by rw [hk]; rfl⟩
        exact List.mem_range.mpr (lt_length_of_isCode (isCode_of_isOpener hopener))
  rw [← List.length_map, hperm.length_eq]

/-! ## The runs of both ways of matching -/

/-- **What two adjoining lines show.** -/
theorem looksAhead (ls : List (List Char)) (closer : Closer) (i : Nat) : LooksAhead ls closer i
    (if closer.closesBefore (lineAt ls i) ls[i + 1]? then [widthAt ls (i + 1)] else []) := by
  split
  · rename_i hcloses
    rw [closesBefore] at hcloses
    simp only [Bool.and_eq_true, Bool.not_eq_true', Bool.or_eq_true] at hcloses
    obtain ⟨⟨⟨-, hended⟩, hcontinued⟩, hheader⟩ := hcloses
    refine ⟨Nat.le_refl 1, fun w hw => ?_, fun _ => hended, fun _ next hnext => ?_,
      fun _ hkeyword => ?_⟩
    · rw [List.mem_singleton.mp hw, getD_width]
    · simpa [Option.mem_def.mp hnext] using hcontinued
    · simpa [hkeyword] using hheader
  · exact ⟨Nat.zero_le 1, by simp, by simp, by simp, by simp⟩

/-- **Each opener has a token, or a line that continues its block.** -/
theorem closingCount_stack_add (closer : Closer) (text : List Char) :
    closer.closingCount .stack text +
        (List.range (lines text).length).countP
          (fun k => decide (ContinuesOpen (lines text) closer k)) =
      (List.range (lines text).length).countP (isOpener (lines text) closer) := by
  have hlength := length_withTokens (lines text) closer fun i =>
    (closedAfter (lines text) closer i).map (widthAt (lines text))
  rw [← List.map_flatMap, List.length_map,
    (perm_flatMap_closedAfter (lines text) closer).length_eq, ← List.countP_eq_length_filter,
    ← closeStack_eq_withTokens] at hlength
  have hsplit : (List.range (lines text).length).countP (isOpener (lines text) closer) =
      (List.range (lines text).length).countP (fun i => isOpener (lines text) closer i &&
          !isContinued (lines text) closer i) +
        (List.range (lines text).length).countP fun i => isOpener (lines text) closer i &&
          isContinued (lines text) closer i := by
    rw [List.countP_eq_countP_filter_add _ _ (isContinued (lines text) closer), List.countP_filter,
      List.countP_filter, Nat.add_comm]
  rw [closingCount, close, hlength, ← countP_isContinued, Nat.add_sub_cancel_left, hsplit]

/-- **Nothing is lost, doubled or put elsewhere.** Behind each line of a text stands a run of
tokens. For `lookahead` matching it is what two adjoining lines show; for `stack` matching there are
in all as many tokens as openers, less the lines that continue a block of their own width. -/
theorem lines_closeText_eq_withTokens {closer : Closer} (htoken : '\n' ∉ closer.token.toList)
    (text : List Char) :
    (∃ run, lines (closer.closeText .lookahead text) = withTokens (lines text) closer run ∧
      ∀ i < (lines text).length, LooksAhead (lines text) closer i (run i)) ∧
    (∃ run, lines (closer.closeText .stack text) = withTokens (lines text) closer run ∧
      ((List.range (lines text).length).flatMap run).length +
          (List.range (lines text).length).countP
            (fun k => decide (ContinuesOpen (lines text) closer k)) =
        (List.range (lines text).length).countP (isOpener (lines text) closer)) := by
  rw [lines_closeText htoken, lines_closeText htoken]
  refine ⟨⟨_, closeLookahead_eq_withTokens _ _, fun i _ => looksAhead _ _ i⟩,
    ⟨_, closeStack_eq_withTokens _ _, ?_⟩⟩
  have hcount := closingCount_stack_add closer text
  rwa [closingCount, close, closeStack_eq_withTokens, length_withTokens,
    Nat.add_sub_cancel_left] at hcount

/-- A language whose blocks end with `fi`: two levels end at once, and one block is continued. -/
theorem lines_closeText_eq_withTokens_fi :
    let closer : Closer := { token := "fi", opener := some "then" }
    let text := "a then\n  b then\n    c\nfi d then\n  e".toList
    '\n' ∉ closer.token.toList ∧
      (∃ run, lines (closer.closeText .lookahead text) = withTokens (lines text) closer run ∧
        ∀ i < (lines text).length, LooksAhead (lines text) closer i (run i)) ∧
      (∃ run, lines (closer.closeText .stack text) = withTokens (lines text) closer run ∧
        ((List.range (lines text).length).flatMap run).length +
            (List.range (lines text).length).countP
              (fun k => decide (ContinuesOpen (lines text) closer k)) =
          (List.range (lines text).length).countP (isOpener (lines text) closer)) ∧
      (List.range (lines text).length).countP (isOpener (lines text) closer) = 3 ∧
      (List.range (lines text).length).countP
        (fun k => decide (ContinuesOpen (lines text) closer k)) = 1 := by
  intro closer text
  have htoken : '\n' ∉ closer.token.toList := by decide
  obtain ⟨hlookahead, hstack⟩ := lines_closeText_eq_withTokens htoken text
  exact ⟨htoken, hlookahead, hstack, by decide, by decide⟩

end Recast.Closer
