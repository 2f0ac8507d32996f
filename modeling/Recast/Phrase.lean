/-!
# Phrase — what a rule writes

A phrase is fixed text with numbered blanks. A rule fills them with the stretches that the groups of
its pattern kept; a language template fills them with the name and the expression of a statement.
-/

namespace Recast

/-- Fixed text, or a numbered blank. -/
inductive Piece
  | text (words : String)
  | group (number : Nat)
deriving Repr, DecidableEq

instance : Coe String Piece := ⟨.text⟩

instance (number : Nat) : OfNat Piece number := ⟨.group number⟩

/-- Fixed text with numbered blanks. -/
abbrev Phrase := List Piece

/-- The characters a piece stands for. -/
def Piece.fill (value : Nat → List Char) : Piece → List Char
  | .text words => words.toList
  | .group number => value number

/-- **The phrase with its blanks filled.** -/
def Phrase.fill (phrase : Phrase) (value : Nat → List Char) : List Char :=
  phrase.flatMap (Piece.fill value)

end Recast
