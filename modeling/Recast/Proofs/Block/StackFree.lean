import Recast.Block.Inference
import Mathlib.Data.List.GetD
import Mathlib.Data.List.Nodup
import Mathlib.Tactic.ByContra

/-!
# Proofs/Block/StackFree — where `stack` matching puts its tokens, said without a stack

A block ends behind the first line with ink, its own header included, whose next line with ink is no
deeper than the header. That names a place for every header by itself, and
`closeStack_eq_flatMap_closedAfter` says that a token stands at each of these places and nowhere
else.

The proof reads the stack off the text: before line `m` it holds `openAt m`, the headers whose block
has not ended above `m`. Headers that are open together are strictly nested in width
(`pairwise_candidates`), so the loop, which only looks at the innermost one, misses none.
-/

namespace Recast.Closer

open Text

section Places

variable (ls : List (List Char))

/-! ## Where blocks end -/

/-- The line at a place; behind the text, the empty line. -/
def lineAt (i : Nat) : List Char := ls.getD i []

/-- The width of the line at a place. -/
def widthAt (i : Nat) : Nat := indentWidth (lineAt ls i)

/-- The line at a place is not blank. -/
def isCode (i : Nat) : Bool := !isBlankLine (lineAt ls i)

/-- The first place at or behind `i` whose line is not blank. -/
def codeFrom? (i : Nat) : Option Nat := (List.range' i (ls.length - i)).find? (isCode ls)

/-- The next place whose line is not blank. -/
def nextCode? (i : Nat) : Option Nat := codeFrom? ls (i + 1)

/-- The line at `j` is not blank, and the next such line is no deeper than the one at `i`. -/
def endsAt (i j : Nat) : Bool :=
  isCode ls j && (nextCode? ls j).all fun k => widthAt ls k ≤ widthAt ls i

/-- **The place behind which a block ends that is opened at `i`.** -/
def blockEnd? (i : Nat) : Option Nat := (List.range' i (ls.length - i)).find? (endsAt ls i)

variable (closer : Closer)

/-- The line at a place opens a block. -/
def isOpener (i : Nat) : Bool := isCode ls i && closer.opens (lineAt ls i)

/-- The block that is opened at `i` is continued where it ends, by a line of the same width. -/
def isContinued (i : Nat) : Bool :=
  (blockEnd? ls i).any fun j => (nextCode? ls j).any fun k =>
    widthAt ls k == widthAt ls i && closer.continues (lineAt ls k)

/-- The openers whose blocks end behind the line at `j` without being continued, innermost first. -/
def closedAfter (j : Nat) : List Nat :=
  (List.range (j + 1)).reverse.filter fun i =>
    isOpener ls closer i && blockEnd? ls i == some j && !isContinued ls closer i

/-! ## What the stack holds -/

/-- The block that is opened at `i` has not ended above the line at `m`. -/
def stillOpenAt (m i : Nat) : Bool := (List.range' i (m - i)).all fun j => !endsAt ls i j

/-- The openers above the line at `m` whose blocks are open there, innermost first. -/
def openAt (m : Nat) : List Nat :=
  (List.range m).reverse.filter fun i => isOpener ls closer i && stillOpenAt ls m i

/-- The same, the line at `m` counted among them. -/
def candidates (m : Nat) : List Nat :=
  (List.range (m + 1)).reverse.filter fun i => isOpener ls closer i && stillOpenAt ls m i

end Places

section Lemmas

variable {ls : List (List Char)} {closer : Closer} {i j k m : Nat}

theorem isCode_of_isOpener (h : isOpener ls closer i = true) : isCode ls i = true :=
  (Bool.and_eq_true_iff.mp h).1

theorem lt_length_of_isCode (h : isCode ls i = true) : i < ls.length := by
  by_contra hi
  rw [isCode, lineAt, List.getD_eq_default _ _ (Nat.le_of_not_lt hi)] at h
  simp [isBlankLine] at h

theorem stillOpenAt_iff : stillOpenAt ls m i = true ↔ ∀ j, i ≤ j → j < m →
    endsAt ls i j = false := by
  rw [stillOpenAt, List.all_eq_true]
  constructor
  · intro h j hij hjm
    simpa using h j (List.mem_range'_1.mpr ⟨hij, by omega⟩)
  · intro h j hj
    have := List.mem_range'_1.mp hj
    simpa using h j (by omega) (by omega)

theorem stillOpenAt_self : stillOpenAt ls i i = true :=
  stillOpenAt_iff.mpr fun _ _ _ => by omega

theorem stillOpenAt_succ (h : i ≤ m) :
    stillOpenAt ls (m + 1) i = (stillOpenAt ls m i && !endsAt ls i m) := by
  rw [stillOpenAt, show m + 1 - i = (m - i) + 1 by omega, List.range'_1_concat, List.all_append,
    show i + (m - i) = m by omega]
  simp [stillOpenAt]

/-- The first place with ink is the place itself or lies further on. -/
theorem codeFrom?_eq (ls : List (List Char)) (m : Nat) :
    codeFrom? ls m = if isCode ls m then some m else codeFrom? ls (m + 1) := by
  by_cases hm : m < ls.length
  · rw [codeFrom?, show ls.length - m = (ls.length - (m + 1)) + 1 by omega, List.range'_succ,
      List.find?_cons]
    cases isCode ls m <;> rfl
  · have hcode : isCode ls m = false := by
      by_contra h
      exact hm (lt_length_of_isCode (by simpa using h))
    have hempty : ∀ n, m ≤ n → codeFrom? ls n = none := fun n hn => by
      rw [codeFrom?, show ls.length - n = 0 by omega]
      rfl
    rw [hcode, hempty m (Nat.le_refl m), hempty (m + 1) (by omega), if_neg (by simp)]

/-- Of two places with ink, some place from the first on has the second as its next. -/
theorem exists_nextCode?_eq : ∀ {i k : Nat}, isCode ls i = true → isCode ls k = true → i < k →
    ∃ j, i ≤ j ∧ j < k ∧ isCode ls j = true ∧ nextCode? ls j = some k := by
  intro i k hi hk hik
  -- induction on the distance: the place before `k` is blank or is the place we want
  have key : ∀ d i, k - i = d → isCode ls i = true → i < k →
      ∃ j, i ≤ j ∧ j < k ∧ isCode ls j = true ∧ nextCode? ls j = some k := by
    intro d
    induction d using Nat.strongRecOn with
    | _ d ih =>
      intro i hd hi hik
      cases hnext : nextCode? ls i with
      | none =>
        have := List.find?_eq_none.mp hnext k
          (List.mem_range'_1.mpr ⟨hik, by have := lt_length_of_isCode hk; omega⟩)
        exact absurd hk this
      | some l =>
        obtain ⟨hl, hfirst⟩ := List.find?_range'_eq_some.mp hnext
        rcases Nat.lt_trichotomy l k with hlk | rfl | hkl
        · have hil : i < l := by
            have := List.mem_range'_1.mp hfirst.1
            omega
          obtain ⟨j, hj, hjk, hjc, hjn⟩ := ih (k - l) (by omega) l rfl hl hlk
          exact ⟨j, by omega, hjk, hjc, hjn⟩
        · exact ⟨i, Nat.le_refl i, hik, hi, hnext⟩
        · have := hfirst.2 k (by omega) hkl
          simp [hk] at this
  exact key _ i rfl hi hik

/-- The line that the loop looks ahead to stands at the first place with ink. -/
theorem nextInk?_drop (ls : List (List Char)) (m : Nat) :
    nextInk? (ls.drop m) = (codeFrom? ls m).map (lineAt ls) := by
  induction h : ls.length - m generalizing m with
  | zero =>
    rw [List.drop_eq_nil_of_le (by omega), codeFrom?, h]
    rfl
  | succ d ih =>
    have hm : m < ls.length := by omega
    rw [List.drop_eq_getElem_cons hm, nextInk?, List.find?_cons, codeFrom?_eq, isCode, lineAt,
      List.getD_eq_getElem _ _ hm]
    cases hb : isBlankLine ls[m] with
    | false => simp [lineAt, List.getElem?_eq_getElem hm]
    | true => simpa [nextInk?] using ih (m + 1) (by omega)

theorem nextInk?_behind (ls : List (List Char)) (m : Nat) :
    nextInk? (ls.drop (m + 1)) = (nextCode? ls m).map (lineAt ls) := nextInk?_drop ls (m + 1)

/-! ## Open blocks are nested -/

/-- A block that is open at a line with ink is headed by a less deep line. -/
theorem widthAt_lt_of_stillOpenAt (hi : isCode ls i = true) (hk : isCode ls k = true) (hik : i < k)
    (hopen : stillOpenAt ls k i = true) : widthAt ls i < widthAt ls k := by
  obtain ⟨j, hij, hjk, hjc, hjn⟩ := exists_nextCode?_eq hi hk hik
  have := stillOpenAt_iff.mp hopen j hij hjk
  rw [endsAt, hjc, hjn] at this
  simpa using this

/-- **A block is open at a line with ink** if all lines with ink from its header down to that line
are deeper than the header. -/
theorem stillOpenAt_iff_lt (hi : isCode ls i = true) (hm : isCode ls m = true) :
    stillOpenAt ls m i = true ↔
      ∀ l, i < l → l ≤ m → isCode ls l = true → widthAt ls i < widthAt ls l := by
  constructor
  · intro h l hil hlm hl
    refine widthAt_lt_of_stillOpenAt hi hl hil (stillOpenAt_iff.mpr fun p hip hpl => ?_)
    exact stillOpenAt_iff.mp h p hip (by omega)
  · intro h
    refine stillOpenAt_iff.mpr fun p hip hpm => ?_
    cases hp : isCode ls p with
    | false => rw [endsAt, hp, Bool.false_and]
    | true =>
      -- the next line with ink is the line at `m` or stands above it
      obtain ⟨l, hl⟩ : ∃ l, nextCode? ls p = some l := by
        refine Option.isSome_iff_exists.mp (List.find?_isSome.mpr ⟨m, ?_, hm⟩)
        have := lt_length_of_isCode hm
        exact List.mem_range'_1.mpr ⟨by omega, by omega⟩
      obtain ⟨hlcode, hlfirst, hlblank⟩ := List.find?_range'_eq_some.mp hl
      have hpl := List.mem_range'_1.mp hlfirst
      have hlm : l ≤ m := by
        by_contra hml
        have := hlblank m (by omega) (by omega)
        simp [hm] at this
      have := h l (by omega) hlm hlcode
      rw [endsAt, hp, hl, Bool.true_and, Option.all_some, decide_eq_false_iff_not]
      omega

/-- **Headers whose blocks are open together are strictly nested.** -/
theorem pairwise_candidates (ls : List (List Char)) (closer : Closer) (m : Nat) :
    (candidates ls closer m).Pairwise fun i j => widthAt ls j < widthAt ls i := by
  refine List.Pairwise.imp_of_mem ?_
    ((List.pairwise_reverse.mpr List.pairwise_lt_range).filter _)
  intro i j hi hj hji
  obtain ⟨him, hiop⟩ := List.mem_filter.mp hi
  obtain ⟨_, hjop⟩ := List.mem_filter.mp hj
  obtain ⟨hio, _⟩ := Bool.and_eq_true_iff.mp hiop
  obtain ⟨hjo, hjs⟩ := Bool.and_eq_true_iff.mp hjop
  have hle : i < m + 1 := by simpa using him
  refine widthAt_lt_of_stillOpenAt (isCode_of_isOpener hjo) (isCode_of_isOpener hio) hji ?_
  exact stillOpenAt_iff.mpr fun n hn hni => stillOpenAt_iff.mp hjs n hn (by omega)

/-! ## One line of the loop -/

/-- Where nothing behind an entry that fails the test passes it, those that pass come first. -/
theorem takeWhile_eq_filter {α : Type} {p : α → Bool} : ∀ {l : List α},
    (l.Pairwise fun a b => p b = true → p a = true) →
      l.takeWhile p = l.filter p ∧ l.dropWhile p = l.filter (!p ·)
  | [], _ => ⟨rfl, rfl⟩
  | a :: l, h => by
      obtain ⟨ha, hl⟩ := List.pairwise_cons.mp h
      obtain ⟨htake, hdrop⟩ := takeWhile_eq_filter hl
      cases hp : p a with
      | true => simp [hp, htake, hdrop]
      | false =>
        have hnone : ∀ b ∈ l, p b = false := fun b hb => by
          by_contra hpb
          rw [ha b hb (by simpa using hpb)] at hp
          exact absurd hp (by simp)
        have hempty : l.filter p = [] := List.filter_eq_nil_iff.mpr fun b hb => by
          simp [hnone b hb]
        have hfull : l.filter (!p ·) = l := List.filter_eq_self.mpr fun b hb => by
          simp [hnone b hb]
        simp [hp, hempty, hfull]

/-- The stack after the line at `m` was looked at. -/
theorem candidates_eq (hm : isCode ls m = true) :
    candidates ls closer m =
      if closer.opens (lineAt ls m) then m :: openAt ls closer m else openAt ls closer m := by
  rw [candidates, List.range_succ, List.reverse_append, List.reverse_singleton,
    List.singleton_append, List.filter_cons, isOpener, hm, stillOpenAt_self, openAt]
  simp

/-- The blocks that end behind the line at `m` leave the stack, and no others. -/
theorem openAt_succ (ls : List (List Char)) (closer : Closer) (m : Nat) :
    openAt ls closer (m + 1) = (candidates ls closer m).filter fun i => !endsAt ls i m := by
  rw [openAt, candidates, List.filter_filter]
  refine List.filter_congr fun i hi => ?_
  rw [stillOpenAt_succ (by simpa [Nat.lt_succ_iff] using hi), ← Bool.and_assoc, Bool.and_comm]

theorem blockEnd?_eq_some (hm : m < ls.length) (him : i ≤ m) :
    (blockEnd? ls i == some m) = (stillOpenAt ls m i && endsAt ls i m) := by
  rw [Bool.eq_iff_iff, beq_iff_eq, blockEnd?, List.find?_range'_eq_some, Bool.and_eq_true_iff,
    stillOpenAt_iff]
  constructor
  · rintro ⟨hend, _, hbefore⟩
    exact ⟨fun j hij hjm => by simpa using hbefore j hij hjm, hend⟩
  · rintro ⟨hopen, hend⟩
    exact ⟨hend, List.mem_range'_1.mpr ⟨him, by omega⟩, fun j hij hjm => by simp [hopen j hij hjm]⟩

/-- Of the blocks that end behind the line at `m`, those get a token that are not continued. -/
theorem closedAfter_eq (hm : m < ls.length) :
    closedAfter ls closer m = ((candidates ls closer m).filter (endsAt ls · m)).filter fun i =>
      !(nextCode? ls m).any fun k =>
        widthAt ls k == widthAt ls i && closer.continues (lineAt ls k) := by
  rw [closedAfter, candidates, List.filter_filter, List.filter_filter]
  refine List.filter_congr fun i hi => ?_
  have him : i ≤ m := by simpa [Nat.lt_succ_iff] using hi
  have hblock : (blockEnd? ls i == some m) = (stillOpenAt ls m i && endsAt ls i m) :=
    blockEnd?_eq_some hm him
  cases hend : (blockEnd? ls i == some m) with
  | false =>
    rw [hend] at hblock
    cases hs : stillOpenAt ls m i <;> simp_all
  | true =>
    rw [hend] at hblock
    have hs := Bool.and_eq_true_iff.mp hblock.symm
    rw [isContinued, beq_iff_eq.mp hend, hs.1, hs.2]
    simp [Bool.and_comm]

theorem openAt_succ_of_blank (hm : isCode ls m = false) :
    openAt ls closer (m + 1) = openAt ls closer m := by
  have hends : ∀ i, endsAt ls i m = false := fun i => by simp [endsAt, hm]
  rw [openAt_succ, candidates, List.range_succ, List.reverse_append, List.reverse_singleton,
    List.singleton_append, List.filter_cons]
  simp [isOpener, hm, hends, openAt]

theorem closedAfter_of_blank (hlt : m < ls.length) (hm : isCode ls m = false) :
    closedAfter ls closer m = [] := by
  have hends : ∀ i ∈ candidates ls closer m, ¬ endsAt ls i m = true := fun i _ => by
    simp [endsAt, hm]
  rw [closedAfter_eq hlt, List.filter_eq_nil_iff.mpr hends, List.filter_nil]

/-- Where the text goes on behind the line at `m`, as the loop reads it. -/
theorem lookAhead_le_iff (hm : isCode ls m = true) (i : Nat) :
    decide (((nextInk? (ls.drop (m + 1))).map indentWidth).getD 0 ≤ widthAt ls i) =
      endsAt ls i m := by
  rw [nextInk?_behind, endsAt, hm]
  cases nextCode? ls m with
  | none => simp
  | some k => rfl

/-- The loop splits the stack where the blocks end. -/
theorem takeWhile_candidates (hm : isCode ls m = true) :
    (((candidates ls closer m).map (widthAt ls)).takeWhile
        (((nextInk? (ls.drop (m + 1))).map indentWidth).getD 0 ≤ ·) =
      ((candidates ls closer m).filter (endsAt ls · m)).map (widthAt ls)) ∧
    (((candidates ls closer m).map (widthAt ls)).dropWhile
        (((nextInk? (ls.drop (m + 1))).map indentWidth).getD 0 ≤ ·) =
      (openAt ls closer (m + 1)).map (widthAt ls)) := by
  have hsorted : ((candidates ls closer m).map (widthAt ls)).Pairwise fun v w =>
      decide (((nextInk? (ls.drop (m + 1))).map indentWidth).getD 0 ≤ w) = true →
        decide (((nextInk? (ls.drop (m + 1))).map indentWidth).getD 0 ≤ v) = true := by
    refine List.pairwise_map.mpr ((pairwise_candidates ls closer m).imp fun {i j} hij h => ?_)
    simp only [decide_eq_true_eq] at h ⊢
    omega
  obtain ⟨htake, hdrop⟩ := takeWhile_eq_filter hsorted
  rw [htake, hdrop, List.filter_map, List.filter_map, openAt_succ]
  simp only [Function.comp_def, lookAhead_le_iff hm, and_self]

/-- The tokens behind a line with ink are those of the blocks that end there. -/
theorem closings_candidates (hlt : m < ls.length) (hm : isCode ls m = true) :
    closer.closings ((candidates ls closer m).map (widthAt ls))
        (((nextInk? (ls.drop (m + 1))).map indentWidth).getD 0)
        ((nextInk? (ls.drop (m + 1))).any closer.continues) =
      (closedAfter ls closer m).map fun i => closer.line (widthAt ls i) := by
  rw [closings, (takeWhile_candidates hm).1, closedAfter_eq hlt, List.filter_map, List.map_map]
  refine congrArg _ (List.filter_congr fun i _ => ?_)
  rw [nextInk?_behind]
  cases nextCode? ls m with
  | none => simp
  | some k => simp [widthAt, Bool.beq_comm]

/-- From any line on, the loop writes the lines with their tokens. -/
theorem closeStack_drop (ls : List (List Char)) (closer : Closer) (m : Nat) :
    closer.closeStack ((openAt ls closer m).map (widthAt ls)) (ls.drop m) =
      (List.range' m (ls.length - m)).flatMap fun j =>
        lineAt ls j :: (closedAfter ls closer j).map fun i => closer.line (widthAt ls i) := by
  induction h : ls.length - m generalizing m with
  | zero =>
    rw [List.drop_eq_nil_of_le (by omega)]
    rfl
  | succ d ih =>
    have hlt : m < ls.length := by omega
    have hline : ls[m] = lineAt ls m := (List.getD_eq_getElem _ _ hlt).symm
    rw [List.drop_eq_getElem_cons hlt, hline, closeStack, List.range'_succ, List.flatMap_cons,
      ← ih (m + 1) (by omega)]
    cases hm : isCode ls m with
    | false =>
      have hblank : isBlankLine (lineAt ls m) = true := by simpa [isCode] using hm
      rw [if_pos hblank, closedAfter_of_blank hlt hm, openAt_succ_of_blank hm]
      rfl
    | true =>
      have hink : ¬ isBlankLine (lineAt ls m) = true := by simpa [isCode] using hm
      have hstack : (if closer.opens (lineAt ls m) then
          indentWidth (lineAt ls m) :: (openAt ls closer m).map (widthAt ls)
          else (openAt ls closer m).map (widthAt ls)) =
          (candidates ls closer m).map (widthAt ls) := by
        rw [candidates_eq hm]
        split <;> rfl
      rw [if_neg hink]
      simp only [hstack, closings_candidates hlt hm, stillOpen, (takeWhile_candidates hm).2]

/-! ## Every block gets one token -/

/-- A block ends: at the latest behind the last line with ink. -/
theorem exists_blockEnd?_eq (hi : isCode ls i = true) : ∃ j, blockEnd? ls i = some j := by
  by_contra h
  have hnone : blockEnd? ls i = none := by
    cases hb : blockEnd? ls i with
    | none => rfl
    | some j => exact absurd ⟨j, hb⟩ h
  -- without an end every line with ink from `i` on has a next one, up to the length of the text
  have hcode : ∀ d, ∃ j, i + d ≤ j ∧ isCode ls j = true := by
    intro d
    induction d with
    | zero => exact ⟨i, Nat.le_refl i, hi⟩
    | succ d ih =>
      obtain ⟨j, hj, hjc⟩ := ih
      have hend := List.find?_eq_none.mp hnone j
        (List.mem_range'_1.mpr ⟨by omega, by have := lt_length_of_isCode hjc; omega⟩)
      cases hnext : nextCode? ls j with
      | none => simp [endsAt, hjc, hnext] at hend
      | some k =>
        obtain ⟨hk, hfirst⟩ := List.find?_range'_eq_some.mp hnext
        exact ⟨k, by have := List.mem_range'_1.mp hfirst.1; omega, hk⟩
  obtain ⟨j, hj, hjc⟩ := hcode ls.length
  have := lt_length_of_isCode hjc
  omega

theorem mem_closedAfter : i ∈ closedAfter ls closer j ↔
    isOpener ls closer i = true ∧ blockEnd? ls i = some j ∧ isContinued ls closer i = false := by
  rw [closedAfter, List.mem_filter, List.mem_reverse, List.mem_range]
  constructor
  · rintro ⟨-, h⟩
    simpa [and_assoc] using h
  · rintro ⟨ho, hb, hc⟩
    have := List.mem_range'_1.mp (List.find?_range'_eq_some.mp hb).2.1
    exact ⟨by omega, by simp [ho, hb, hc]⟩

/-- **Each opener whose block is not continued gets exactly one token.** -/
theorem perm_flatMap_closedAfter (ls : List (List Char)) (closer : Closer) :
    ((List.range ls.length).flatMap (closedAfter ls closer)).Perm
      ((List.range ls.length).filter fun i =>
        isOpener ls closer i && !isContinued ls closer i) := by
  refine (List.perm_ext_iff_of_nodup ?_ (List.nodup_range.filter _)).mpr fun i => ?_
  · refine List.nodup_flatMap.mpr ⟨fun j _ =>
      (List.nodup_reverse.mpr List.nodup_range).filter _, ?_⟩
    refine List.nodup_range.imp fun {j k} hjk i hij hik => ?_
    obtain ⟨_, hj, _⟩ := mem_closedAfter.mp hij
    obtain ⟨_, hk, _⟩ := mem_closedAfter.mp hik
    exact hjk (Option.some.inj (hj.symm.trans hk))
  · rw [List.mem_flatMap, List.mem_filter, List.mem_range]
    constructor
    · rintro ⟨j, _, h⟩
      obtain ⟨ho, _, hc⟩ := mem_closedAfter.mp h
      exact ⟨lt_length_of_isCode (isCode_of_isOpener ho), by simp [ho, hc]⟩
    · rintro ⟨_, h⟩
      obtain ⟨ho, hc⟩ := Bool.and_eq_true_iff.mp h
      obtain ⟨j, hj⟩ := exists_blockEnd?_eq (isCode_of_isOpener ho)
      have := List.mem_range'_1.mp (List.find?_range'_eq_some.mp hj).2.1
      exact ⟨j, List.mem_range.mpr (by omega), mem_closedAfter.mpr ⟨ho, hj, by simpa using hc⟩⟩

/-- The tokens behind one line get shallower. -/
theorem pairwise_closedAfter (ls : List (List Char)) (closer : Closer) (j : Nat) :
    ((closedAfter ls closer j).map (widthAt ls)).Pairwise (· > ·) := by
  rw [List.pairwise_map]
  by_cases hj : j < ls.length
  · rw [closedAfter_eq hj]
    exact ((pairwise_candidates ls closer j).filter _).filter _
  · have hnone : closedAfter ls closer j = [] :=
      List.filter_eq_nil_iff.mpr fun i _ h => by
        have hb := (mem_closedAfter.mp (List.mem_filter.mpr ⟨‹_›, h⟩)).2.1
        have := List.mem_range'_1.mp (List.find?_range'_eq_some.mp hb).2.1
        omega
    rw [hnone]
    exact List.Pairwise.nil

/-- A blank line is written and otherwise passed over. -/
theorem closeStack_insert_blank {blank : List Char} (hb : isBlankLine blank = true)
    (below : List (List Char)) : ∀ (above : List (List Char)) (opened : List Nat), ∃ x y,
      closer.closeStack opened (above ++ blank :: below) = x ++ blank :: y ∧
        closer.closeStack opened (above ++ below) = x ++ y
  | [], opened => ⟨[], closer.closeStack opened below, by simp [closeStack, hb], rfl⟩
  | line :: above, opened => by
      have hnext : nextInk? (above ++ blank :: below) = nextInk? (above ++ below) := by
        simp [nextInk?, List.find?_append, hb]
      rw [List.cons_append, List.cons_append, closeStack, closeStack, hnext]
      split
      · obtain ⟨x, y, hwith, hwithout⟩ := closeStack_insert_blank hb below above opened
        exact ⟨line :: x, y, by rw [hwith]; rfl, by rw [hwithout]; rfl⟩
      · obtain ⟨x, y, hwith, hwithout⟩ := closeStack_insert_blank hb below above
          (stillOpen (if closer.opens line then indentWidth line :: opened else opened)
            (((nextInk? (above ++ below)).map indentWidth).getD 0))
        refine ⟨line :: closer.closings (if closer.opens line then indentWidth line :: opened
          else opened) (((nextInk? (above ++ below)).map indentWidth).getD 0)
          ((nextInk? (above ++ below)).any closer.continues) ++ x, y, ?_, ?_⟩
        · simp only [hwith, List.cons_append, List.append_assoc]
        · simp only [hwithout, List.cons_append, List.append_assoc]

end Lemmas

/-- **`stack` matching, said without a stack.** Behind each line stand the tokens of the blocks that
end there and are not continued, from the deepest to the shallowest; every such block has one token
in all; and a blank line changes nothing but for standing where it stands. -/
theorem closeStack_eq_flatMap_closedAfter (closer : Closer) (ls : List (List Char)) :
    closer.closeStack [] ls =
        ((List.range ls.length).flatMap fun j =>
          lineAt ls j :: (closedAfter ls closer j).map fun i => closer.line (widthAt ls i)) ∧
      (∀ j, ((closedAfter ls closer j).map (widthAt ls)).Pairwise (· > ·)) ∧
      ((List.range ls.length).flatMap (closedAfter ls closer)).Perm
        ((List.range ls.length).filter fun i =>
          isOpener ls closer i && !isContinued ls closer i) ∧
      ∀ above blank below, ls = above ++ blank :: below → isBlankLine blank = true → ∃ x y,
        closer.closeStack [] ls = x ++ blank :: y ∧
          closer.closeStack [] (above ++ below) = x ++ y := by
  refine ⟨?_, pairwise_closedAfter ls closer, perm_flatMap_closedAfter ls closer, ?_⟩
  · have := closeStack_drop ls closer 0
    rwa [List.drop_zero, Nat.sub_zero, ← List.range_eq_range'] at this
  · rintro above blank below rfl hb
    exact closeStack_insert_blank hb below above []

end Recast.Closer
