import Mathlib.Data.List.Forall2
import Recast.Proofs.Source.Program
import Recast.Proofs.Text.Words

/-!
# Proofs/Source/Blank — what stands in the blanks of a line

A chain treats all lines of a shape alike, so a handful of shapes stands for every program there is.
What has to be known of the values in the blanks is little: which of them are words (`IsWordRun`),
and that no rule is looking for anything in them (`Tame`).
-/

namespace Recast.Source

open Text

/-! ## Characters -/

/-- The codes of the ten digits. -/
theorem bounds_of_isDigit {c : Char} (h : c.isDigit = true) : 48 ≤ c.toNat ∧ c.toNat ≤ 57 := by
  obtain ⟨hlow, hhigh⟩ := Bool.and_eq_true_iff.mp h
  exact ⟨UInt32.le_iff_toNat_le.mp (of_decide_eq_true hlow),
    UInt32.le_iff_toNat_le.mp (of_decide_eq_true hhigh)⟩

/-- The codes of ASCII letters lie in one range, with some signs among them. -/
theorem bounds_of_isAlpha {c : Char} (h : c.isAlpha = true) : 65 ≤ c.toNat ∧ c.toNat ≤ 122 := by
  rcases Bool.or_eq_true_iff.mp h with hupper | hlower
  · obtain ⟨hlow, hhigh⟩ := of_decide_eq_true hupper
    exact ⟨UInt32.le_iff_toNat_le.mp hlow,
      Nat.le_trans (UInt32.le_iff_toNat_le.mp hhigh) (by decide)⟩
  · obtain ⟨hlow, hhigh⟩ := Bool.and_eq_true_iff.mp hlower
    exact ⟨Nat.le_trans (by decide) (UInt32.le_iff_toNat_le.mp (of_decide_eq_true hlow)),
      UInt32.le_iff_toNat_le.mp (of_decide_eq_true hhigh)⟩

/-- ASCII letters and digits are word characters. -/
theorem isWord_of_isAlphanum {c : Char} (h : c.isAlphanum = true) : isWord c = true := by
  have hlt : c.toNat < 0x80 := by
    rcases Bool.or_eq_true_iff.mp h with h | h
    · have := bounds_of_isAlpha h
      omega
    · have := bounds_of_isDigit h
      omega
  rw [isWord, if_pos hlt, h]
  rfl

/-- ASCII digits are digits of the pattern language, which knows those of other scripts as well. -/
theorem isDigit_of_charIsDigit {c : Char} (h : c.isDigit = true) : isDigit c = true := by
  have hlt : c.toNat < 0x80 := by
    have := bounds_of_isDigit h
    omega
  rw [isDigit, if_pos hlt, h]

theorem isAlphanum_of_charIsDigit {c : Char} (h : c.isDigit = true) : c.isAlphanum = true := by
  rw [Char.isAlphanum, h, Bool.or_true]

/-- The characters that names, numbers, conditions and parameters are made of. -/
def isValueChar (c : Char) : Bool := c.isAlphanum || "_ ,<>=!".toList.contains c

/-- The characters of names stand in values. -/
theorem isValueChar_of_isAlphanum {c : Char} (h : (c.isAlphanum || c == '_') = true) :
    isValueChar c = true := by
  rcases Bool.or_eq_true_iff.mp h with h | h
  · rw [isValueChar, h, Bool.true_or]
  · rw [beq_iff_eq.mp h]
    decide

/-! ## Names and values -/

/-- One word: what a name or a number is. -/
structure IsWordRun (text : List Char) : Prop where
  ne_nil : text ≠ []
  isWord : ∀ c ∈ text, Text.isWord c = true

instance (text : List Char) : Decidable (IsWordRun text) :=
  decidable_of_iff (text ≠ [] ∧ ∀ c ∈ text, Text.isWord c = true)
    ⟨fun ⟨hne, hword⟩ => ⟨hne, hword⟩, fun h => ⟨h.ne_nil, h.isWord⟩⟩

/-- A run of word characters starts with one. -/
theorem IsWordRun.exists_cons {text : List Char} (h : IsWordRun text) :
    ∃ c more, text = c :: more ∧ Text.isWord c = true := by
  obtain ⟨c, more, rfl⟩ := List.exists_cons_of_ne_nil h.ne_nil
  exact ⟨c, more, rfl, h.isWord c (by simp)⟩

/-- The characters of an identifier, the first of them included. -/
theorem all_of_isIdentifier {text : List Char} (h : isIdentifier text = true) :
    ∀ c ∈ text, (c.isAlphanum || c == '_') = true := by
  cases text with
  | nil => simp
  | cons c rest =>
    obtain ⟨hc, hrest⟩ := Bool.and_eq_true_iff.mp h
    intro d hd
    rcases List.mem_cons.mp hd with rfl | hd
    · rcases Bool.or_eq_true_iff.mp hc with h | h
      · simp [Char.isAlphanum, h]
      · simp [h]
    · exact List.all_eq_true.mp hrest d hd

/-- An identifier is one word. -/
theorem isWordRun_of_isIdentifier {text : List Char} (h : isIdentifier text = true) :
    IsWordRun text where
  ne_nil hnil := by
    rw [hnil] at h
    exact absurd h (by decide)
  isWord c hc := by
    rcases Bool.or_eq_true_iff.mp (all_of_isIdentifier h c hc) with h | h
    · exact isWord_of_isAlphanum h
    · rw [beq_iff_eq.mp h]
      decide

/-- The characters of a name. -/
theorem Name.all (n : Name) : ∀ c ∈ n.chars, (c.isAlphanum || c == '_') = true :=
  all_of_isIdentifier n.isIdentifier

theorem Name.isWordRun (n : Name) : IsWordRun n.chars := isWordRun_of_isIdentifier n.isIdentifier

/-- A name does not start with a digit. -/
theorem Name.head_not_isDigit (n : Name) : n.chars.head?.any isDigit = false := by
  obtain ⟨chars, hid, -⟩ := n
  cases chars with
  | nil => rfl
  | cons c rest =>
    have hbounds : 65 ≤ c.toNat ∧ c.toNat ≤ 122 := by
      rcases Bool.or_eq_true_iff.mp (Bool.and_eq_true_iff.mp hid).1 with h | h
      · exact bounds_of_isAlpha h
      · rw [beq_iff_eq.mp h]
        decide
    have hlt : c.toNat < 0x80 := by omega
    have hdigit : c.isDigit = false := by
      cases hd : c.isDigit with
      | false => rfl
      | true =>
        have := bounds_of_isDigit hd
        omega
    simp [isDigit, hlt, hdigit]

/-- A number is one word. -/
theorem Numeral.isWordRun (n : Numeral) : IsWordRun n.digits where
  ne_nil := n.ne_nil
  isWord c hc := isWord_of_isAlphanum (isAlphanum_of_charIsDigit (n.isDigit c hc))

/-- So is every value of the fragment. -/
theorem Atom.isWordRun : ∀ a : Atom, IsWordRun a.text
  | .name n => n.isWordRun
  | .number n => n.isWordRun

/-! ## Values that keep clear of the rules -/

/-- No word of the text is reserved, and its characters are those of values. -/
structure Tame (text : List Char) : Prop where
  unreserved : ∀ w ∈ words text, isReserved w = false
  valueChar : ∀ c ∈ text, isValueChar c = true

theorem tame_nil : Tame [] where
  unreserved w hw := by
    obtain rfl : w = [] := by simpa using hw
    decide
  valueChar c hc := absurd hc (by simp)

/-- Tame texts may be joined by a sign that values have in them. -/
theorem Tame.append_sign {a b : List Char} (ha : Tame a) (hb : Tame b) {c : Char}
    (hc : isWord c = false) (hvalue : isValueChar c = true) : Tame (a ++ c :: b) where
  unreserved w hw := by
    rw [words_append_sign a hc, List.mem_append] at hw
    exact hw.elim (ha.unreserved w) (hb.unreserved w)
  valueChar d hd := by
    rcases List.mem_append.mp hd with hd | hd
    · exact ha.valueChar d hd
    · rcases List.mem_cons.mp hd with rfl | hd
      · exact hvalue
      · exact hb.valueChar d hd

/-- A name is none of the words that are reserved. -/
theorem Name.tame (n : Name) : Tame n.chars where
  unreserved w hw := by
    rw [words_of_all n.isWordRun.isWord] at hw
    rw [List.mem_singleton.mp hw]
    exact n.unreserved
  valueChar c hc := isValueChar_of_isAlphanum (n.all c hc)

/-- No reserved word starts with a digit. -/
theorem isReserved_of_isDigit {c : Char} {rest : List Char} (hc : c.isDigit = true) :
    isReserved (c :: rest) = false := by
  have hfirst : reserved.all (fun w => w.toList.head?.any fun d => !d.isDigit) = true := by
    decide
  rw [isReserved, List.any_eq_false]
  intro w hw heq
  have := List.all_eq_true.mp hfirst w hw
  rw [beq_iff_eq.mp heq] at this
  simp [hc] at this

theorem Numeral.tame (n : Numeral) : Tame n.digits where
  unreserved w hw := by
    rw [words_of_all n.isWordRun.isWord, List.mem_singleton] at hw
    obtain ⟨digits, hne, hd⟩ := n
    cases digits with
    | nil => exact absurd rfl hne
    | cons c rest => rw [hw]; exact isReserved_of_isDigit (hd c (by simp))
  valueChar c hc := isValueChar_of_isAlphanum (by simp [isAlphanum_of_charIsDigit (n.isDigit c hc)])

theorem Atom.tame : ∀ a : Atom, Tame a.text
  | .name n => n.tame
  | .number n => n.tame

/-- A condition has no reserved word in it, and no sign but that of its comparison. -/
theorem Condition.tame (c : Condition) : Tame c.text := by
  have hsign : Tame c.comparison.sign.toList := by
    cases c.comparison <;>
      exact ⟨by decide, List.all_eq_true.mp (by decide)⟩
  have hright := hsign.append_sign (c := ' ') c.right.tame (by decide) (by decide)
  exact c.left.tame.append_sign hright (by decide) (by decide)

/-- Nor has a list of parameters, but for commas. -/
theorem tame_parameterText : ∀ parameters : List Name, Tame (parameterText parameters)
  | [] => tame_nil
  | [n] => by simpa [parameterText, List.intercalate] using n.tame
  | n :: m :: more => by
      have hmore := tame_parameterText (m :: more)
      have hspace : Tame (' ' :: parameterText (m :: more)) :=
        tame_nil.append_sign hmore (by decide) (by decide)
      have hall := n.tame.append_sign (c := ',') hspace (by decide) (by decide)
      simpa [parameterText, List.intercalate] using hall

/-! ## Blanks -/

/-- What a blank of a line is filled with. -/
inductive Blank
  | name | number | atom | condition | parameters
deriving DecidableEq

/-- The text may stand in the blank. -/
def Blank.Fits : Blank → List Char → Prop
  | .name, text => ∃ n : Name, text = n.chars
  | .number, text => ∃ n : Numeral, text = n.digits
  | .atom, text => ∃ a : Atom, text = a.text
  | .condition, text => ∃ c : Condition, text = c.text
  | .parameters, text => ∃ parameters : List Name, text = parameterText parameters

/-- A word stands in the blank. -/
def Blank.isWordlike : Blank → Bool
  | .name | .number | .atom => true
  | _ => false

/-- A blank for one word is filled with one word. -/
theorem Blank.Fits.isWordRun {text : List Char} :
    ∀ {b : Blank}, b.Fits text → b.isWordlike = true → IsWordRun text
  | .name, ⟨n, h⟩, _ => h ▸ n.isWordRun
  | .number, ⟨n, h⟩, _ => h ▸ n.isWordRun
  | .atom, ⟨a, h⟩, _ => h ▸ a.isWordRun

/-- **Whatever fills a blank is tame**, so the fixed text of a stencil says where its reserved words
are. -/
theorem Blank.Fits.tame {text : List Char} : ∀ {b : Blank}, b.Fits text → Tame text
  | .name, ⟨n, h⟩ => h ▸ n.tame
  | .number, ⟨n, h⟩ => h ▸ n.tame
  | .atom, ⟨a, h⟩ => h ▸ a.tame
  | .condition, ⟨c, h⟩ => h ▸ c.tame
  | .parameters, ⟨ps, h⟩ => h ▸ tame_parameterText ps

/-- What the blanks of a shape are filled with, from the first one on. -/
def Shape.kinds : Shape → List Blank
  | .assignName => [.name, .name]
  | .assignNumber => [.name, .number]
  | .print | .give => [.atom]
  | .repeatWhile | .branch | .elseBranch => [.condition]
  | .count1 => [.name, .number]
  | .count2 => [.name, .number, .number]
  | .count3 => [.name, .number, .number, .number]
  | .each => [.name, .name]
  | .define => [.name, .parameters]
  | .otherwise => []

/-- **What fills the blanks of a line is what its shape asks for.** -/
theorem Line.fits (line : Line) : List.Forall₂ Blank.Fits line.shape.kinds line.values := by
  rcases line with (⟨target, value | value⟩ | value | value) |
    (c | ⟨i, _ | _ | _⟩ | ⟨v, items⟩ | ⟨f, parameters⟩) | c | c | _ <;>
  repeat first | exact .nil | refine .cons ⟨_, rfl⟩ ?_

theorem tame_of_fits {kinds : List Blank} {values : List (List Char)}
    (h : List.Forall₂ Blank.Fits kinds values) : ∀ value ∈ values, Tame value := by
  induction h with
  | nil => simp
  | cons hfits _ ih => exact List.forall_mem_cons.mpr ⟨hfits.tame, ih⟩

/-- What fills the blanks of a line is tame. -/
theorem tame_fillers {kinds : List Blank} {values : List (List Char)}
    (h : List.Forall₂ Blank.Fits kinds values) (n : Nat) : Tame (fillers values n) := by
  rcases fillers_eq_nil_or_mem values n with hnil | hmem
  · rw [hnil]
    exact tame_nil
  · exact tame_of_fits h _ hmem

/-! ## What stands in a blank -/

/-- What the blank of that number is filled with. -/
def blankAt (kinds : List Blank) : Nat → Option Blank
  | 0 => none
  | n + 1 => kinds[n]?

/-- The value with the number of a blank fits it. -/
theorem fits_of_getElem? {kinds : List Blank} {values : List (List Char)}
    (hfits : List.Forall₂ Blank.Fits kinds values) {n : Nat} {blank : Blank}
    (h : kinds[n]? = some blank) : blank.Fits (values.getD n []) := by
  induction hfits generalizing n with
  | nil => simp at h
  | cons hfit _ ih =>
    cases n with
    | zero =>
      obtain rfl := Option.some.inj h
      exact hfit
    | succ n => exact ih h

/-- The same, counted from one as in phrases. -/
theorem fits_of_blankAt {kinds : List Blank} {values : List (List Char)}
    (hfits : List.Forall₂ Blank.Fits kinds values) {blank : Blank} :
    ∀ {n : Nat}, blankAt kinds n = some blank → blank.Fits (fillers values n)
  | _ + 1, h => fits_of_getElem? hfits h

/-- A word stands in the blank. -/
def isWordAt (kinds : List Blank) (n : Nat) : Bool := (blankAt kinds n).any Blank.isWordlike

/-- A blank that is known to be a word is filled with one. -/
theorem isWordRun_of_isWordAt {kinds : List Blank} {values : List (List Char)}
    (hfits : List.Forall₂ Blank.Fits kinds values) {n : Nat} (h : isWordAt kinds n = true) :
    IsWordRun (fillers values n) := by
  rw [isWordAt] at h
  cases hblank : blankAt kinds n with
  | none => simp [hblank] at h
  | some blank => exact (fits_of_blankAt hfits hblank).isWordRun (by simpa [hblank] using h)

end Recast.Source
