import Recast.Block.Closer
import Recast.Text.Lines

/-!
# Block/Inference — closing tokens from indentation

A source language that delimits blocks by indentation has no closing tokens, so a target language
that needs them gets them from the widths of the lines. There are two ways to match them.

`lookahead` compares each line with the next one and puts in at most one token where the next line
is less indented; where several blocks end at once it puts in too few. `stack` keeps the widths of
the headers whose blocks are open, and puts in one token for each block that ends.
-/

namespace Recast

/-- How closing tokens are matched with the blocks that end. -/
inductive Matching
  /-- One token at most for each line that is less indented than the one before. -/
  | lookahead
  /-- One token for each block that ends. -/
  | stack
deriving Repr, DecidableEq, Inhabited

namespace Matching

/-- Every way of matching. -/
def all : List Matching := [.lookahead, .stack]

/-- What the way of matching is called in settings and messages. -/
def name : Matching → String
  | .lookahead => "lookahead"
  | .stack => "stack"

/-- The way of matching of that name. -/
def ofName? (name : String) : Option Matching := all.find? (·.name == name)

/-- A way of matching is found by its name. -/
theorem ofName?_name (matching : Matching) : ofName? matching.name = some matching := by
  cases matching <;> decide

end Matching

namespace Closer

open Text

/-! ## One line ahead -/

/-- A token follows the line: the line ends deeper than `next` stands, nothing on it or on `next`
ends the block already, and in a keyword language the line is a header itself. -/
def closesBefore (closer : Closer) (line : List Char) (next : Option (List Char)) : Bool :=
  (next.map indentWidth).getD 0 < indentWidth line && !isBlankLine line && !closer.endsBlock line &&
    !next.any closer.continues && (!closer.isKeyword || closer.opens line)

/-- The lines with a token behind each line that calls for one, as wide as the line after it. -/
def closeLookahead (closer : Closer) : List (List Char) → List (List Char)
  | [] => []
  | line :: rest =>
    if closer.closesBefore line rest.head? then
      line :: closer.line ((rest.head?.map indentWidth).getD 0) :: closeLookahead closer rest
    else line :: closeLookahead closer rest

/-! ## Open blocks -/

/-- The first line that is not blank. -/
def nextInk? (ls : List (List Char)) : Option (List Char) := ls.find? (!isBlankLine ·)

/-- The tokens of the blocks that end where the text goes on at `width`. Of the open blocks,
innermost first, those end that are no less wide; a continuation ends the one of its own width by
itself. -/
def closings (closer : Closer) (opened : List Nat) (width : Nat) (continued : Bool) :
    List (List Char) :=
  ((opened.takeWhile (width ≤ ·)).filter fun w => !(w == width && continued)).map closer.line

/-- The open blocks that stay open where the text goes on at `width`. -/
def stillOpen (opened : List Nat) (width : Nat) : List Nat := opened.dropWhile (width ≤ ·)

/-- The lines with a token for each block that ends, `opened` being the widths of the headers whose
blocks are open, innermost first. -/
def closeStack (closer : Closer) : (opened : List Nat) → List (List Char) → List (List Char)
  | _, [] => []
  | opened, line :: rest =>
    if isBlankLine line then line :: closeStack closer opened rest
    else
      let opened := if closer.opens line then indentWidth line :: opened else opened
      let next := nextInk? rest
      let width := (next.map indentWidth).getD 0
      line :: closer.closings opened width (next.any closer.continues) ++
        closeStack closer (stillOpen opened width) rest

/-! ## Texts -/

/-- The lines with closing tokens put in. -/
def close (closer : Closer) : Matching → List (List Char) → List (List Char)
  | .lookahead, ls => closer.closeLookahead ls
  | .stack, ls => closer.closeStack [] ls

/-- **The text with closing tokens put in.** -/
def closeText (closer : Closer) (matching : Matching) (text : List Char) : List Char :=
  joinLines (closer.close matching (lines text))

/-- The number of tokens that are put into the text. -/
def closingCount (closer : Closer) (matching : Matching) (text : List Char) : Nat :=
  (closer.close matching (lines text)).length - (lines text).length

end Closer

end Recast
