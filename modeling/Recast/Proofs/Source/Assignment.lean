import Recast.Chain.Forms
import Recast.Proofs.Chain.Cues
import Recast.Proofs.Source.Missing

/-!
# Proofs/Source/Assignment — names, and literals that are assigned to them

The lines `name = literal` of the source language, with any spaces and tabs in front of them. A name
may be any identifier but a keyword, and so it may well be a word that a target language keeps for
itself, or writes in front of a declaration. The literals are numbers and truth values.

Of the keywords of the language only the truth values stand in such a line
(`Assignment.eq_truthWord_of_mem_words`).
-/

namespace Recast.Source

open Text Form

/-! ## Names -/

/-- **An ASCII identifier that is no keyword of the source language.** -/
structure Identifier where
  chars : List Char
  isIdentifier : isIdentifier chars = true
  not_keyword : ∀ word ∈ pythonWords, word.toList ≠ chars

namespace Identifier

variable (x : Identifier)

theorem isWordRun : IsWordRun x.chars := isWordRun_of_isIdentifier x.isIdentifier

/-- A name is one word, and that is no keyword. -/
theorem not_mem_words {word : String} (hword : word ∈ pythonWords) :
    word.toList ∉ words x.chars := by
  rw [words_of_all x.isWordRun.isWord, List.mem_singleton]
  exact x.not_keyword word hword

end Identifier

/-! ## Literals -/

/-- **A number, whole or with a point, or a truth value.** -/
inductive Literal
  | whole (digits : Numeral)
  | point (digits fraction : Numeral)
  | truth (value : Bool)

/-- The shape of a literal. -/
inductive Literal.Shape
  | whole
  | point
  | truth (value : Bool)
deriving DecidableEq

def Literal.shape : Literal → Literal.Shape
  | .whole _ => .whole
  | .point _ _ => .point
  | .truth value => .truth value

/-- How the source language writes a truth value. -/
def truthWord (value : Bool) : String := if value then "True" else "False"

def Literal.text : Literal → List Char
  | .whole n => n.digits
  | .point n m => n.digits ++ '.' :: m.digits
  | .truth value => (truthWord value).toList

theorem isWordRun_truthWord (value : Bool) : IsWordRun (truthWord value).toList := by
  cases value <;> decide

theorem Numeral.not_mem_words (n : Numeral) {word : String} (hword : word ∈ pythonWords) :
    word.toList ∉ words n.digits := fun hw => by
  have hfree := n.tame.unreserved _ hw
  rw [isReserved, List.any_eq_false] at hfree
  refine hfree word ?_ (by simp)
  simp [reserved, hword]

namespace Literal

variable {word : String}

/-- A literal starts with a word character. -/
theorem exists_text : ∀ v : Literal, ∃ w more, IsWordRun w ∧ v.text = w ++ more
  | .whole n => ⟨_, [], n.isWordRun, (List.append_nil _).symm⟩
  | .point n m => ⟨_, '.' :: m.digits, n.isWordRun, rfl⟩
  | .truth value => ⟨_, [], isWordRun_truthWord value, (List.append_nil _).symm⟩

/-- Nothing else stands in an assignment. -/
theorem mem_text {c : Char} : ∀ {v : Literal}, c ∈ v.text → isWord c = true ∨ c = '.'
  | .whole n, hc => .inl (n.isWordRun.isWord c hc)
  | .point n m, hc => by
      rcases List.mem_append.mp hc with hc | hc
      · exact .inl (n.isWordRun.isWord c hc)
      · exact (List.mem_cons.mp hc).elim .inr fun hc => .inl (m.isWordRun.isWord c hc)
  | .truth value, hc => .inl ((isWordRun_truthWord value).isWord c hc)

/-- A literal has no word of the language but for a truth value. -/
theorem eq_truthWord_of_mem_words (hword : word ∈ pythonWords) :
    ∀ {v : Literal}, word.toList ∈ words v.text → ∃ b, v = .truth b ∧ word = truthWord b
  | .whole n, hw => absurd hw (n.not_mem_words hword)
  | .point n m, hw => by
      rw [text, words_append_sign n.digits (by decide), List.mem_append] at hw
      exact hw.elim (fun hw => absurd hw (n.not_mem_words hword))
        fun hw => absurd hw (m.not_mem_words hword)
  | .truth value, hw => by
      rw [text, words_of_all (isWordRun_truthWord value).isWord, List.mem_singleton] at hw
      exact ⟨value, rfl, String.toList_inj.mp hw⟩

end Literal

/-! ## Assignments -/

/-- A name that a literal is assigned to, behind spaces and tabs. -/
structure Assignment where
  margin : List Char
  isMargin : ∀ c ∈ margin, isMargin c = true
  name : Identifier
  value : Literal

namespace Assignment

variable {a : Assignment} {phrase : Phrase} {value w : List Char} {word : String}

/-- **How the source language writes the assignment.** -/
def text (a : Assignment) : List Char :=
  a.margin ++ (a.name.chars ++ (" = ".toList ++ a.value.text))

/-- The line of a phrase whose first blank is the name, and the second one the value. -/
def line (a : Assignment) (phrase : Phrase) (value : List Char) : List Char :=
  a.margin ++ phrase.fill (fillers [a.name.chars, value])

/-- The phrase of the source language. -/
def sourcePhrase : Phrase := [1, " = ", 2]

/-- An assignment is written like any line with a name and a value. -/
theorem text_eq_line (a : Assignment) : a.text = a.line sourcePhrase a.value.text := by
  simp [text, line, sourcePhrase, Phrase.fill, Piece.fill, fillers]

/-- A line is a margin, and a phrase that is filled with name and value. -/
theorem line_eq (a : Assignment) (phrase : Phrase) (value : List Char) :
    a.line phrase value = a.margin ++ phrase.stencil.fill (fillers [a.name.chars, value]) := by
  rw [line, Phrase.fill_stencil]

/-- What stands in a line is margin, fixed text, name or value. -/
theorem mem_line {c : Char} (hc : c ∈ a.line phrase value) : Form.isMargin c = true ∨
    (∃ text ∈ phrase.stencil.texts, c ∈ text) ∨ isWord c = true ∨ c ∈ value := by
  rw [line_eq, List.mem_append] at hc
  rcases hc with hc | hc
  · exact .inl (a.isMargin c hc)
  · rcases Stencil.mem_fill hc with htext | ⟨n, hn⟩
    · exact .inr (.inl htext)
    · rcases fillers_eq_nil_or_mem [a.name.chars, value] n with hnil | hmem
      · rw [hnil] at hn
        exact absurd hn List.not_mem_nil
      · simp only [List.mem_cons, List.not_mem_nil, or_false] at hmem
        rcases hmem with hname | hvalue
        · exact .inr (.inr (.inl (a.name.isWordRun.isWord c (hname ▸ hn))))
        · exact .inr (.inr (.inr (hvalue ▸ hn)))

theorem mem_text {c : Char} (hc : c ∈ a.text) :
    isWord c = true ∨ c ∈ " \t=".toList ∨ c ∈ a.value.text := by
  rw [text_eq_line] at hc
  rcases mem_line hc with hmargin | ⟨text, htext, hc⟩ | hword | hvalue
  · rcases Bool.or_eq_true_iff.mp hmargin with h | h <;>
      exact .inr (.inl (by rw [beq_iff_eq.mp h]; decide))
  · obtain rfl : text = " = ".toList := List.mem_singleton.mp htext
    exact .inr (.inl ((by decide : " = ".toList ⊆ " \t=".toList) hc))
  · exact .inl hword
  · exact .inr (.inr hvalue)

/-- A sign that is none of an assignment. -/
theorem not_mem_text {c : Char} (hword : isWord c = false) (hsign : c ∉ " \t=.".toList) :
    c ∉ a.text := fun hc => by
  have hsigns : " \t=".toList ⊆ " \t=.".toList := by decide
  rcases mem_text hc with h | h | h
  · simp [hword] at h
  · exact hsign (hsigns h)
  · rcases Literal.mem_text h with h | rfl
    · simp [hword] at h
    · exact hsign (by decide)

/-- **A keyword in the line** is one of the phrase or of the value. -/
theorem mem_words_line (hseamed : phrase.stencil.seamed = true) (hword : word ∈ pythonWords)
    (hw : word.toList ∈ words (a.line phrase value)) :
    (∃ text ∈ phrase.stencil.texts, word.toList ∈ words text) ∨ word.toList ∈ words value := by
  have hne : word.toList ≠ [] := by
    have hall : pythonWords.all (fun word => !word.toList.isEmpty) = true := by decide
    simpa using List.all_eq_true.mp hall word hword
  have hmargin : ∀ c ∈ a.margin, isWord c = false := fun c hc =>
    isWord_of_isMargin c (a.isMargin c hc)
  have hlast : a.margin.getLast?.any isWord = false := by
    rw [Option.any_eq_false]
    exact fun c hc => by simp [hmargin c (List.mem_of_getLast? hc)]
  rw [line_eq] at hw
  rcases mem_words_append (.inl hlast) hw with hw | hw
  · exact absurd (eq_nil_of_mem_words hmargin hw) hne
  · rcases Stencil.mem_words_fill hseamed hw with hnil | htext | ⟨n, hn⟩
    · exact absurd hnil hne
    · exact .inl htext
    · rcases fillers_eq_nil_or_mem [a.name.chars, value] n with hnil | hmem
      · rw [hnil] at hn
        exact absurd (List.mem_singleton.mp hn) hne
      · simp only [List.mem_cons, List.not_mem_nil, or_false] at hmem
        rcases hmem with hname | hvalue
        · exact absurd (hname ▸ hn) (a.name.not_mem_words hword)
        · exact .inr (hvalue ▸ hn)

/-- **Only a truth value is a keyword** in a line of the source. -/
theorem eq_truthWord_of_mem_words (hword : word ∈ pythonWords)
    (hw : word.toList ∈ words a.text) : ∃ b, a.value = .truth b ∧ word = truthWord b := by
  rw [text_eq_line] at hw
  rcases mem_words_line (by decide) hword hw with ⟨text, htext, hw⟩ | hw
  · have hnone : pythonWords.all (fun word => sourcePhrase.stencil.texts.all
        fun text => !(words text).contains word.toList) = true := by decide
    have := List.all_eq_true.mp (List.all_eq_true.mp hnone word hword) text htext
    simp [hw] at this
  · exact Literal.eq_truthWord_of_mem_words hword hw

end Assignment

end Recast.Source
