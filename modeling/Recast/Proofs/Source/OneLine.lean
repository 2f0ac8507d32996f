import Recast.Proofs.Source.Assignment

/-!
# Proofs/Source/OneLine — statements whose body stands behind the colon

In the source language the body of a branch or a loop may stand on the line of its header. Such a
line is a run of words with signs between them, and so is what becomes of it: both are written as a
list of words, each with the signs behind it (`Spelled`).
-/

namespace Recast.Source

open Text

/-! ## Words and signs in turn -/

/-- Words, each with the signs behind it. -/
abbrev Spelled := List (List Char × List Char)

namespace Spelled

/-- The text of the words and signs. -/
def text (spelled : Spelled) : List Char := spelled.flatMap fun (word, signs) => word ++ signs

/-- No two words adjoin each other. -/
def IsApart : Spelled → Prop
  | [] => True
  | (word, signs) :: more =>
    IsWordRun word ∧ (∀ c ∈ signs, isWord c = false) ∧ (signs = [] → more = []) ∧ IsApart more

variable {spelled more : Spelled} {word signs : List Char}

@[simp] theorem text_nil : text [] = [] := rfl

@[simp] theorem text_cons : text ((word, signs) :: more) = word ++ (signs ++ text more) := by
  simp [text]

@[simp] theorem text_append (spelled more : Spelled) :
    text (spelled ++ more) = spelled.text ++ more.text := List.flatMap_append

/-- A sign of a spelled text is part of a word, or stands behind one. -/
theorem mem_text {c : Char} (h : spelled.IsApart) (hc : c ∈ spelled.text) :
    isWord c = true ∨ ∃ part ∈ spelled, c ∈ part.2 := by
  induction spelled with
  | nil => exact absurd hc List.not_mem_nil
  | cons part more ih =>
    obtain ⟨word, signs⟩ := part
    obtain ⟨hword, -, -, hmore⟩ := h
    rw [text_cons, List.mem_append, List.mem_append] at hc
    rcases hc with hc | hc | hc
    · exact .inl (hword.isWord c hc)
    · exact .inr ⟨_, List.mem_cons_self, hc⟩
    · exact (ih hmore hc).imp_right fun ⟨part, hpart, hc⟩ =>
        ⟨part, List.mem_cons_of_mem _ hpart, hc⟩

/-- Behind the signs of a word there is no word character, or the next word is there. -/
theorem head?_signs {rest : List Char} (hsigns : ∀ c ∈ signs, isWord c = false)
    (hlast : signs = [] → more = []) (hrest : signs = [] → rest.head?.any isWord = false) :
    (signs ++ (text more ++ rest)).head?.any isWord = false := by
  cases signs with
  | nil => simpa [hlast rfl] using hrest rfl
  | cons c signs => simpa using hsigns c (by simp)

/-- **The words of the text** are those it is spelled with. -/
theorem mem_words_text {w : List Char} (h : spelled.IsApart) (hw : w ∈ words spelled.text) :
    w = [] ∨ ∃ part ∈ spelled, w = part.1 := by
  induction spelled with
  | nil => exact .inl (by simpa using hw)
  | cons part more ih =>
    obtain ⟨word, signs⟩ := part
    obtain ⟨hword, hsigns, hlast, hmore⟩ := h
    have hbehind : (signs ++ text more).head?.any isWord = false := by
      have hhead : (signs ++ (text more ++ [])).head?.any isWord = false :=
        head?_signs hsigns hlast fun _ => rfl
      simpa using hhead
    have hend : signs.getLast?.any isWord = false := by
      rw [Option.any_eq_false]
      exact fun c hc => by simp [hsigns c (List.mem_of_getLast? hc)]
    rw [text_cons] at hw
    rcases mem_words_append (.inr hbehind) hw with hw | hw
    · rw [words_of_all hword.isWord, List.mem_singleton] at hw
      exact .inr ⟨_, List.mem_cons_self, hw⟩
    · rcases mem_words_append (.inl hend) hw with hw | hw
      · exact .inl (eq_nil_of_mem_words hsigns hw)
      · exact (ih hmore hw).imp_right fun ⟨part, hpart, hw⟩ =>
          ⟨part, List.mem_cons_of_mem _ hpart, hw⟩

/-- The signs that no word character can be stand between the words. -/
theorem filter_text {p : Char → Bool} (hp : ∀ c, isWord c = true → p c = false)
    (h : spelled.IsApart) :
    spelled.text.filter p = spelled.flatMap fun part => part.2.filter p := by
  induction spelled with
  | nil => rfl
  | cons part more ih =>
    obtain ⟨word, signs⟩ := part
    obtain ⟨hword, -, -, hmore⟩ := h
    have hnone : word.filter p = [] :=
      List.filter_eq_nil_iff.mpr fun c hc => by simp [hp c (hword.isWord c hc)]
    rw [text_cons, List.filter_append, List.filter_append, hnone, ih hmore, List.nil_append]
    rfl

end Spelled

/-! ## Statements on one line -/

/-- What is done with the name behind the colon. -/
inductive Deed
  | give | print | call
deriving DecidableEq

/-- **A branch or a loop with its body behind the colon.** -/
structure OneLine where
  loops : Bool
  left : Identifier
  comparison : Comparison
  right : Identifier
  deed : Deed
  name : Identifier

namespace OneLine

variable (s : OneLine)

/-- The word of the header. -/
def word (loops : Bool) : String := if loops then "while" else "if"

/-- The header, as it is or as it is written in JavaScript. -/
def head (written : Bool) : Spelled :=
  [ ((word s.loops).toList, if written then " (".toList else " ".toList),
    (s.left.chars, ' ' :: (s.comparison.sign.toList ++ [' '])),
    (s.right.chars, if written then ") \x7b ".toList else ": ".toList) ]

/-- The body. -/
def body : Spelled :=
  match s.deed with
  | .give => [("return".toList, " ".toList), (s.name.chars, [])]
  | .print => [("print".toList, "(".toList), (s.name.chars, ")".toList)]
  | .call => [(s.name.chars, "()".toList)]

/-- The body with its output written in JavaScript. -/
def bodyPrinted : Spelled :=
  match s.deed with
  | .print => [("console".toList, ".".toList), ("log".toList, "(".toList),
      (s.name.chars, ");".toList)]
  | _ => s.body

/-- The body in JavaScript, where the call that asks for a line is one of `prompt`. -/
def bodyCalled : Spelled :=
  match s.deed with
  | .call =>
    [(if s.name.chars = "input".toList then "prompt".toList else s.name.chars, "()".toList)]
  | _ => s.bodyPrinted

/-- **How the source language writes the statement.** -/
def inPython : Spelled := s.head false ++ s.body

/-- **How it is written in JavaScript:** the block is opened, and not closed. -/
def inJavaScript : Spelled := s.head true ++ s.bodyCalled

end OneLine

end Recast.Source
