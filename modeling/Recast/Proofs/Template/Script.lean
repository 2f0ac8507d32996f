import Recast.Chain.Forms
import Recast.Proofs.Source.Missing
import Recast.Template.Basic

/-!
# Proofs/Template/Script — the programs that templates carry over

A script is a list of output statements and loose declarations, one to a line. What is printed or
assigned may be anything on one line of ASCII that keeps clear of the signs and words by which the
statements themselves are found.

What a template writes for such a statement is a phrase with its blanks filled, so what its lines
hold, and how they start and end, is seen from its two stencils (`Template.IsTidy`).
-/

namespace Recast

open Text

namespace Script

/-! ## Names and expressions -/

/-- The words that declare a variable. -/
def declaringWords : List String := ["let", "const", "var"]

/-- The words that show an entry point. -/
def entryWords : List String := ["main", "class"]

/-- The words that lines start with which are no part of a program proper. -/
def preambleWords : List String := ["import", "from", "using", "package"]

/-- The words that stand in no name and no expression. -/
def reserved : List String := declaringWords ++ entryWords ++ preambleWords

/-- The word is one of the list, in small or large letters or a mixture of both. -/
def isAmong (ws : List String) (word : List Char) : Bool :=
  ws.any (·.toList == word.map Char.toLower)

/-- An ASCII character that stands on a line. -/
def isPlain (c : Char) : Bool := c.toNat < 0x80 && c != '\n'

/-- The text is one line of ASCII without the words. -/
structure Avoids (ws : List String) (text : List Char) : Prop where
  isPlain : ∀ c ∈ text, Script.isPlain c = true
  isAmong : ∀ w ∈ words text, Script.isAmong ws w = false

/-- A variable. -/
structure Name where
  chars : List Char
  isIdentifier : Source.isIdentifier chars = true
  avoids : Avoids reserved chars

/-- What is printed or assigned. It is found between parentheses, or before a semicolon. -/
structure Expression where
  chars : List Char
  ne_nil : chars ≠ []
  trim_chars : trim chars = chars
  avoids : Avoids reserved chars
  not_mem : ∀ c ∈ ['(', ')', ';'], c ∉ chars

/-! ## Lines -/

/-- A line of a script. -/
inductive Line
  | print (value : Expression)
  | declare (keyword : String) (isDeclaring : keyword ∈ declaringWords) (name : Name)
      (value : Expression)

namespace Line

/-- The line in JavaScript. -/
def text : Line → List Char
  | .print value => "console.log(".toList ++ (value.chars ++ ");".toList)
  | .declare keyword _ name value =>
    keyword.toList ++ (" ".toList ++ (name.chars ++ (" = ".toList ++ (value.chars ++ ";".toList))))

theorem text_print (value : Expression) :
    text (.print value) = "console.log(".toList ++ (value.chars ++ ");".toList) := rfl

theorem text_declare {keyword : String} (h : keyword ∈ declaringWords) (name : Name)
    (value : Expression) : text (.declare keyword h name value) =
      keyword.toList ++ (" ".toList ++ (name.chars ++ (" = ".toList ++
        (value.chars ++ ";".toList)))) := rfl

/-- The line as a template writes it. -/
def recast (target : Template) : Line → List Char
  | .print value => target.print value.chars
  | .declare _ _ name value => target.declare name.chars value.chars

end Line

/-- The text of a script. -/
def text (lines : List Line) : List Char := joinLines (lines.map Line.text)

end Script

namespace Script

variable {ws ws' : List String} {text : List Char}

/-! ## Texts without the words -/

/-- A text that avoids some words avoids fewer. -/
theorem Avoids.mono (h : Avoids ws text) (hsub : ws' ⊆ ws) : Avoids ws' text where
  isPlain := h.isPlain
  isAmong w hw := by
    have hall := h.isAmong w hw
    rw [Script.isAmong, List.any_eq_false] at hall ⊢
    exact fun w' hw' => hall w' (hsub hw')

theorem avoids_nil (hnil : isAmong ws [] = false) : Avoids ws [] where
  isPlain c hc := absurd hc (by simp)
  isAmong w hw := by
    obtain rfl : w = [] := by simpa using hw
    exact hnil

/-- Fillers avoid what their values avoid, also where no value is left. -/
theorem avoids_fillers (hnil : isAmong ws [] = false) {values : List (List Char)}
    (h : ∀ value ∈ values, Avoids ws value) (n : Nat) : Avoids ws (fillers values n) := by
  rcases fillers_eq_nil_or_mem values n with heq | hmem
  · rw [heq]
    exact avoids_nil hnil
  · exact h _ hmem

/-- A text that avoids words is one line. -/
theorem Avoids.lineFeed_not_mem (h : Avoids ws text) : '\n' ∉ text := fun hc =>
  absurd (h.isPlain _ hc) (by decide)

/-! ## Names and expressions -/

theorem Name.isWordRun (n : Name) : Source.IsWordRun n.chars :=
  Source.isWordRun_of_isIdentifier n.isIdentifier

theorem Name.head? (n : Name) : n.chars.head?.any isWord = true := by
  obtain ⟨c, more, hchars, hc⟩ := n.isWordRun.exists_cons
  rw [hchars]
  exact hc

/-- An expression starts with ink, whatever stands behind it. -/
theorem Expression.head?_append (e : Expression) (rest : List Char) :
    (e.chars ++ rest).head?.any isBlank = false := head?_append_of_trim e.ne_nil e.trim_chars rest

/-- An expression ends with ink. -/
theorem Expression.getLast? (e : Expression) : e.chars.getLast?.any (!isBlank ·) = true :=
  getLast?_of_trim e.ne_nil e.trim_chars

/-- What is printed is found up to a parenthesis, and what is assigned up to a semicolon. -/
theorem Expression.inline_ne (e : Expression) (stop : Char) (hstop : stop ∈ ['(', ')', ';']) :
    ∀ c ∈ e.chars, Form.isInline c = true ∧ c ≠ stop := by
  intro c hc
  constructor
  · rw [Form.isInline, bne_iff_ne]
    rintro rfl
    exact e.avoids.lineFeed_not_mem hc
  · rintro rfl
    exact e.not_mem c hstop hc

end Script

/-! ## What is seen from a stencil -/

namespace Stencil

variable {stencil : Stencil} {value : Nat → List Char} {ws : List String} {allowed : Char → Bool}
  {known : Nat → Bool}

/-- The fixed texts are ASCII without the words, and no word runs across the parts. -/
def avoids (ws : List String) (stencil : Stencil) : Bool :=
  stencil.seamed && stencil.texts.all fun text =>
    text.all Script.isPlain && (words text).all (!Script.isAmong ws ·)

/-- **A filled stencil avoids words** if the fixed text around its blanks and the values do. -/
theorem avoids_fill (hnil : Script.isAmong ws [] = false) (h : stencil.avoids ws = true)
    (hvalue : ∀ n, Script.Avoids ws (value n)) : Script.Avoids ws (stencil.fill value) := by
  obtain ⟨hseamed, htexts⟩ := Bool.and_eq_true_iff.mp h
  have htext : ∀ text ∈ stencil.texts, text.all Script.isPlain = true ∧
      (words text).all (!Script.isAmong ws ·) = true := fun text ht =>
    Bool.and_eq_true_iff.mp (List.all_eq_true.mp htexts text ht)
  constructor
  · intro c hc
    rcases mem_fill hc with ⟨text, ht, hc⟩ | ⟨n, hc⟩
    · exact List.all_eq_true.mp (htext text ht).1 c hc
    · exact (hvalue n).isPlain c hc
  · intro w hw
    rcases mem_words_fill hseamed hw with rfl | ⟨text, ht, hw⟩ | ⟨n, hw⟩
    · exact hnil
    · simpa using List.all_eq_true.mp (htext text ht).2 w hw
    · exact (hvalue n).isAmong w hw

/-- The stencil starts with a character of the class, or with a known blank. -/
def startsIn (allowed : Char → Bool) (known : Nat → Bool) : Stencil → Bool
  | .text chars :: _ => chars.head?.any allowed
  | .blank n :: _ => known n
  | [] => false

/-- What a filled stencil starts with is told by the stencil. -/
theorem head?_fill_of_startsIn (hvalue : ∀ n, known n = true → (value n).head?.any allowed = true)
    (h : stencil.startsIn allowed known = true) :
    (stencil.fill value).head?.any allowed = true := by
  match stencil with
  | [] => exact absurd h (by simp [startsIn])
  | .text chars :: rest => exact head?_append_of_any _ h
  | .blank n :: rest => exact head?_append_of_any _ (hvalue n h)

/-- The stencil ends with a character of the class, or with a known blank. -/
def endsIn (allowed : Char → Bool) (known : Nat → Bool) : Stencil → Bool
  | [.text chars] => chars.getLast?.any allowed
  | [.blank n] => known n
  | _ :: rest => endsIn allowed known rest
  | [] => false

/-- What a filled stencil ends with is told by the stencil. -/
theorem getLast?_fill_of_endsIn
    (hvalue : ∀ n, known n = true → (value n).getLast?.any allowed = true)
    (h : stencil.endsIn allowed known = true) :
    (stencil.fill value).getLast?.any allowed = true := by
  induction stencil with
  | nil => exact absurd h (by simp [endsIn])
  | cons part rest ih =>
    match part, rest with
    | .text chars, [] => simpa [endsIn] using h
    | .blank n, [] => simpa using hvalue n h
    | .text chars, next :: rest => exact getLast?_append_of_any _ (ih h)
    | .blank n, next :: rest => exact getLast?_append_of_any _ (ih h)

end Stencil

/-! ## Templates -/

/-- The blanks of the phrase are numbered from one up to the count. -/
def Phrase.isWithin (count : Nat) (phrase : Phrase) : Bool :=
  phrase.all fun
    | .text _ => true
    | .group number => decide (0 < number ∧ number ≤ count)

/-- A phrase looks no further than the blanks that it has. -/
theorem Phrase.fill_congr {phrase : Phrase} {count : Nat} {value value' : Nat → List Char}
    (h : phrase.isWithin count = true) (hvalue : ∀ n, 0 < n → n ≤ count → value n = value' n) :
    phrase.fill value = phrase.fill value' := by
  refine List.flatMap_congr fun piece hpiece => ?_
  have hwithin := List.all_eq_true.mp h piece hpiece
  cases piece with
  | text words => rfl
  | group n =>
    obtain ⟨hpos, hle⟩ := of_decide_eq_true hwithin
    exact hvalue n hpos hle

/-- A character that is in no blank comes from the phrase. -/
theorem Phrase.count_fill_of_not_mem {phrase : Phrase} {value value' : Nat → List Char} {c : Char}
    (hvalue : ∀ n, c ∉ value n) (hvalue' : ∀ n, c ∉ value' n) :
    (phrase.fill value).count c = (phrase.fill value').count c := by
  rw [fill, fill, List.count_flatMap, List.count_flatMap]
  refine congrArg List.sum (List.map_congr_left fun piece _ => ?_)
  cases piece with
  | text words => rfl
  | group n =>
    have heq : (value n).count c = (value' n).count c := by
      rw [List.count_eq_zero.mpr (hvalue n), List.count_eq_zero.mpr (hvalue' n)]
    exact heq

namespace Template

variable {target : Template}

/-- **A template whose lines are tidy.** They hold none of the words by which statements, entry
points and preambles are found. Where they are put in a main function, they start with a word and do
not end with a blank. -/
structure IsTidy (target : Template) : Prop where
  output_isWithin : target.output.isWithin 1 = true
  declaration_isWithin : target.declaration.isWithin 2 = true
  output_avoids : target.output.stencil.avoids Script.reserved = true
  declaration_avoids :
    target.declaration.stencil.avoids (Script.entryWords ++ Script.preambleWords) = true
  output_starts :
    target.entry.isSome → target.output.stencil.startsIn isWord (fun _ => false) = true
  declaration_starts :
    target.entry.isSome → target.declaration.stencil.startsIn isWord (· == 1) = true
  output_ends : target.output.stencil.endsIn (!isBlank ·) (· == 1) = true
  declaration_ends : target.declaration.stencil.endsIn (!isBlank ·) (· == 2) = true

/-- Every template there is is tidy. -/
theorem isTidy_of_mem (h : target ∈ builtin) : target.IsTidy := by
  constructor <;> (revert target; decide)

/-- What is printed fills the one blank there is. -/
theorem print_eq_fill (target : Template) (expr : List Char) :
    target.print expr = target.output.stencil.fill (fillers [expr]) := by
  rw [Phrase.fill_stencil, print]
  congr 1
  funext n
  match n with
  | 0 | 1 | _ + 2 => rfl

/-- A declaration is the target's phrase, filled with name and value. -/
theorem declare_eq_fill (target : Template) (name expr : List Char) :
    target.declare name expr = target.declaration.stencil.fill (fillers [name, expr]) := by
  rw [Phrase.fill_stencil, declare]
  congr 1
  funext n
  match n with
  | 0 | 1 | 2 | _ + 3 => rfl

/-- What a declaration holds besides its name and its value is fixed by the template. -/
theorem count_declare {name expr : List Char} {c : Char} (hname : c ∉ name) (hexpr : c ∉ expr) :
    (target.declare name expr).count c = (target.declare [] []).count c := by
  refine Phrase.count_fill_of_not_mem (fun n => ?_) fun n => ?_
  · split_ifs
    exacts [hname, hexpr, List.not_mem_nil]
  · split_ifs
    all_goals exact List.not_mem_nil

end Template

end Recast
