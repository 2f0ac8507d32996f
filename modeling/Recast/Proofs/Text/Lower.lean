import Recast.Language
import Recast.Proofs.Text.Words

/-!
# Proofs/Text/Lower — small letters stay as they are

A text in small letters has nothing left that could be written smaller (`lower_lower`), and small
letters leave the blanks of a text where they are. So the normal form of an id is its own normal
form (`normalId_normalId`), and it does not matter how often an id is brought into it.

The table of small letters is a list of runs. Whether the small form of a run's characters could be
written smaller again is decided run against run, by the two ends of the runs (`Run.isSettled`), and
not character by character.
-/

namespace Recast.Text

/-! ## The runs of the table -/

/-- Code points `first`, `first + step`, … up to `last`, each `shift` away from its small form. -/
abbrev Run := Nat × Nat × Nat × Int

namespace Run

/-- The code point of the small form. -/
def target (run : Run) (code : Nat) : Nat := ((code : Int) + run.2.2.2).toNat

/-- The code points of the small forms are all odd or all even. -/
def isSparse (run : Run) : Bool := Nat.beq run.1 run.2.1 || Nat.beq run.2.2.1 2

/-- The code points from `lo` to `hi` that are as even or odd as `lo` are outside the run; with
`sparse` left out, all those from `lo` to `hi` are. -/
def avoids (lo hi : Nat) (sparse : Bool) (run : Run) : Bool :=
  Nat.blt hi run.1 || Nat.blt run.2.1 lo ||
    sparse && Nat.beq run.2.2.1 2 && Nat.beq ((lo + run.1) % 2) 1

/-- The small forms of the run are characters without a small form of their own, and no blanks. -/
def isSettled (run : Run) : Bool :=
  let lo := run.target run.1
  let hi := run.target run.2.1
  Nat.blt 'Z'.toNat lo && (Nat.blt hi 0xD800 || Nat.blt 0xDFFF lo && Nat.blt hi 0x110000) &&
    (Nat.blt hi 'İ'.toNat || Nat.blt 'İ'.toNat lo) && lowerRuns.all (avoids lo hi run.isSparse) &&
    blankRanges.all fun range => Nat.blt hi range.1 || Nat.blt range.2 lo

/-- No run of the table leads into another, as is decided run against run. -/
theorem isSettled_of_mem : ∀ run : Run, run ∈ lowerRuns → run.isSettled = true :=
  List.all_eq_true.mp (by decide +kernel)

/-- A run holds the codes between its ends that are whole steps away from the first. -/
theorem holds_iff {run : Run} {code : Nat} : runHolds run code = true ↔
    run.1 ≤ code ∧ code ≤ run.2.1 ∧ (code - run.1) % run.2.2.1 = 0 := by
  simp [runHolds, and_assoc]

/-- A run keeps the order of codes. -/
theorem target_le {run : Run} {code code' : Nat} (h : code ≤ code') :
    run.target code ≤ run.target code' := by
  rw [target, target]
  omega

/-- A run that avoids some codes holds none of them. -/
theorem not_holds_of_avoids {run : Run} {lo hi code : Nat} {sparse : Bool}
    (h : avoids lo hi sparse run = true) (hlo : lo ≤ code) (hhi : code ≤ hi)
    (hparity : sparse = true → code % 2 = lo % 2) : runHolds run code = false := by
  rw [← Bool.not_eq_true, holds_iff]
  rintro ⟨hfirst, hlast, hstep⟩
  simp only [avoids, Bool.or_eq_true, Bool.and_eq_true, Nat.blt_eq, Nat.beq_eq] at h
  rcases h with (h | h) | ⟨⟨hsparse, heven⟩, hodd⟩
  · omega
  · omega
  · rw [heven] at hstep
    have := hparity hsparse
    omega

variable {run : Run} {code : Nat}

/-- **Where a run leads.** -/
theorem target_of_holds (hmem : run ∈ lowerRuns) (hholds : runHolds run code = true) :
    'Z'.toNat < run.target code ∧ (run.target code).isValidChar ∧
      run.target code ≠ 'İ'.toNat ∧ (∀ run' ∈ lowerRuns, runHolds run' (run.target code) = false) ∧
      ∀ range ∈ blankRanges, run.target code < range.1 ∨ range.2 < run.target code := by
  obtain ⟨hfirst, hlast, hstep⟩ := holds_iff.mp hholds
  have hlo : run.target run.1 ≤ run.target code := target_le hfirst
  have hhi : run.target code ≤ run.target run.2.1 := target_le hlast
  have hsettled := isSettled_of_mem run hmem
  simp only [isSettled, Bool.or_eq_true, Bool.and_eq_true, Nat.blt_eq, List.all_eq_true] at hsettled
  obtain ⟨⟨⟨⟨hupper, hvalid⟩, hdotted⟩, havoids⟩, hblank⟩ := hsettled
  have hparity : run.isSparse = true → run.target code % 2 = run.target run.1 % 2 := by
    intro hsparse
    simp only [isSparse, Bool.or_eq_true, Nat.beq_eq] at hsparse
    rcases hsparse with hone | htwo
    · rw [show code = run.1 by omega]
    · rw [htwo] at hstep
      rw [target] at hupper ⊢
      rw [target]
      omega
  refine ⟨by omega, ?_, by omega, fun run' hmem' => ?_, fun range hrange => ?_⟩
  · rcases hvalid with hvalid | hvalid
    · exact .inl (by omega)
    · exact .inr ⟨by omega, by omega⟩
  · exact not_holds_of_avoids (havoids run' hmem') hlo hhi hparity
  · exact (hblank range hrange).imp (by omega) (by omega)

end Run

/-! ## Small characters -/

/-- The character has no smaller form, wherever it stands. -/
def isSmall (c : Char) : Bool := c != 'İ' && c != 'Σ' && lowerChar c == c

theorem toNat_ofNat {code : Nat} (h : code.isValidChar) : (Char.ofNat code).toNat = code := by
  rw [Char.ofNat, dif_pos h]
  rfl

/-- What is outside the ranges of blanks is no blank. -/
theorem isBlank_eq_false_of_range {c : Char}
    (h : ∀ range ∈ blankRanges, c.toNat < range.1 ∨ range.2 < c.toNat) : isBlank c = false := by
  rw [isBlank, ← Bool.not_eq_true, Ranges.holds_iff]
  rintro ⟨range, hrange, hlo, hhi⟩
  rcases h range hrange with h | h <;> omega

/-- What holds of the small form of an ASCII character is decided character by character. -/
theorem lowerChar_ascii : ∀ code ∈ List.range 0x80,
    isSmall (lowerChar (Char.ofNat code)) = true ∧
      isBlank (lowerChar (Char.ofNat code)) = isBlank (Char.ofNat code) := by
  decide +kernel

/-- No blank is lowered. -/
theorem not_holds_of_isBlank {c : Char} (h : isBlank c = true) :
    lowerRuns.any (runHolds · c.toNat) = false := by
  let holds (d : Char) : Bool := lowerRuns.any (runHolds · d.toNat)
  exact show holds c = false from not_of_isBlank (by decide +kernel) h

/-- The characters that a run leads to. -/
theorem isSmall_target {run : Run} {code : Nat} (hmem : run ∈ lowerRuns)
    (hholds : runHolds run code = true) : isSmall (Char.ofNat (run.target code)) = true ∧
      isBlank (Char.ofNat (run.target code)) = false := by
  obtain ⟨hupper, hvalid, hdotted, hnone, hblank⟩ := Run.target_of_holds hmem hholds
  have hcode := toNat_ofNat hvalid
  generalize Char.ofNat (run.target code) = d at hcode
  rw [← hcode] at hupper hdotted hnone hblank
  have hsigma : d ≠ 'Σ' := by
    rintro rfl
    exact absurd (hnone (0x3A3, 0x3AB, 1, 32) (by decide)) (by decide)
  have hlower : lowerChar d = d := by
    rw [lowerChar]
    split
    · refine dif_neg ?_
      rintro ⟨-, hle⟩
      exact absurd (UInt32.le_iff_toNat_le.mp hle) (Nat.not_le.mpr hupper)
    · rw [List.find?_eq_none.mpr fun run' hmem' => by simp [hnone run' hmem']]
  refine ⟨?_, isBlank_eq_false_of_range hblank⟩
  rw [isSmall, hlower]
  simp [hsigma, show d ≠ 'İ' from fun h => hdotted (congrArg Char.toNat h)]

/-- **A small form is small**, and it is a blank only if the character is. -/
theorem isSmall_lowerChar {c : Char} (hdotted : c ≠ 'İ') (hsigma : c ≠ 'Σ') :
    isSmall (lowerChar c) = true ∧ isBlank (lowerChar c) = isBlank c := by
  by_cases hascii : c.toNat < 0x80
  · have := lowerChar_ascii c.toNat (List.mem_range.mpr hascii)
    rwa [Char.ofNat_toNat] at this
  · cases hfind : lowerRuns.find? (runHolds · c.toNat) with
    | none =>
      have hlower : lowerChar c = c := by rw [lowerChar, if_neg hascii, hfind]
      rw [hlower, isSmall, hlower]
      simp [hdotted, hsigma]
    | some run =>
      have hmem := List.mem_of_find?_eq_some hfind
      have hholds : runHolds run c.toNat = true :=
        List.find?_some (p := fun run => runHolds run c.toNat) hfind
      have hlower : lowerChar c = Char.ofNat (Run.target run c.toNat) := by
        rw [lowerChar, if_neg hascii, hfind]
        rfl
      have hink : isBlank c = false := by
        rw [← Bool.not_eq_true]
        intro hblank
        have := List.any_eq_false.mp (not_holds_of_isBlank hblank) run hmem
        exact this hholds
      rw [hlower, hink]
      exact isSmall_target hmem hholds

/-! ## Texts -/

/-- **A sign is lowered** to small ones, which are blanks only for a blank. -/
theorem lowerAt_spec (before : List Char) (c : Char) (after : List Char) :
    lowerAt before c after ≠ [] ∧
      ∀ d ∈ lowerAt before c after, isSmall d = true ∧ isBlank d = isBlank c := by
  rw [lowerAt]
  split
  · rename_i hc
    rw [beq_iff_eq.mp hc]
    exact ⟨by simp, List.forall_mem_cons.mpr
      ⟨by decide +kernel, List.forall_mem_singleton.mpr (by decide)⟩⟩
  · split
    · rename_i hc
      rw [beq_iff_eq.mp hc]
      refine ⟨by simp, ?_⟩
      split <;> exact List.forall_mem_singleton.mpr (by decide)
    · rename_i hdotted hsigma
      refine ⟨by simp, fun d hd => ?_⟩
      rw [List.mem_singleton.mp hd]
      exact isSmall_lowerChar (by simpa using hdotted) (by simpa using hsigma)

/-- What has been lowered is small throughout. -/
theorem isSmall_of_mem_lowerFrom : ∀ {before text : List Char},
    ∀ d ∈ lowerFrom before text, isSmall d = true
  | _, [] => by simp [lowerFrom]
  | before, c :: rest => by
      intro d hd
      rcases List.mem_append.mp hd with hd | hd
      · exact ((lowerAt_spec before c rest).2 d hd).1
      · exact isSmall_of_mem_lowerFrom d hd

/-- **A small text stays as it is.** -/
theorem lowerFrom_of_isSmall : ∀ {before text : List Char}, (∀ c ∈ text, isSmall c = true) →
    lowerFrom before text = text
  | _, [], _ => rfl
  | before, c :: rest, h => by
      have hc : c ≠ 'İ' ∧ c ≠ 'Σ' ∧ lowerChar c = c := by
        simpa [isSmall, and_assoc] using h c List.mem_cons_self
      obtain ⟨hdotted, hsigma, hlower⟩ := hc
      rw [lowerFrom, lowerFrom_of_isSmall fun d hd => h d (List.mem_cons_of_mem _ hd)]
      simp [lowerAt, hdotted, hsigma, hlower]

/-- **A text in small letters is its own small form.** -/
theorem lower_lower (text : List Char) : lower (lower text) = lower text :=
  lowerFrom_of_isSmall isSmall_of_mem_lowerFrom

/-- A lowered text starts with a blank just if the text does. -/
theorem head?_lowerFrom (before text : List Char) :
    (lowerFrom before text).head?.any isBlank = text.head?.any isBlank := by
  cases text with
  | nil => rfl
  | cons c rest =>
    obtain ⟨hne, hspec⟩ := lowerAt_spec before c rest
    rw [lowerFrom]
    cases hat : lowerAt before c rest with
    | nil => exact absurd hat hne
    | cons d more => simpa using (hspec d (by simp [hat])).2

/-- A lowered text ends with a blank just if the text does. -/
theorem getLast?_lowerFrom : ∀ before text : List Char,
    (lowerFrom before text).getLast?.any isBlank = text.getLast?.any isBlank
  | _, [] => rfl
  | before, [c] => by
      obtain ⟨hne, hspec⟩ := lowerAt_spec before c []
      rw [lowerFrom, lowerFrom, List.append_nil, List.getLast?_eq_some_getLast hne]
      exact (hspec _ (List.getLast_mem hne)).2
  | before, c :: d :: rest => by
      have ih := getLast?_lowerFrom (c :: before) (d :: rest)
      rw [lowerFrom, List.getLast?_append, List.getLast?_cons_cons, ← ih]
      cases hlast : (lowerFrom (c :: before) (d :: rest)).getLast? with
      | some e => rfl
      | none =>
        have hnil := List.getLast?_eq_none_iff.mp hlast
        exact absurd (List.append_eq_nil_iff.mp hnil).1 (lowerAt_spec (c :: before) d rest).1

end Recast.Text

namespace Recast

open Text

/-- **The normal form of an id is its own normal form.** -/
theorem normalId_normalId (id : String) : normalId (normalId id) = normalId id := by
  have htrim : trim (lower (trim id.toList)) = lower (trim id.toList) :=
    trim_eq_self ((head?_lowerFrom [] _).trans (head?_trim _))
      ((getLast?_lowerFrom [] _).trans (getLast?_trim _))
  rw [normalId, normalId, String.toList_ofList, htrim, lower_lower]

end Recast
