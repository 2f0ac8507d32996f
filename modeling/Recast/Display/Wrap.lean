import Recast.Text.Blank
import Recast.Text.Lines

/-!
# Display/Wrap — messages on a page of limited width

A page is 80 columns wide and every character takes one of them. A longer line is broken in front of
a word that would not fit; the blanks behind a word stay with it. A word that is wider than the page
is cut.
-/

namespace Recast.Display

/-- The columns of a page. -/
def pageWidth : Nat := 80

/-- A character that would move the writer instead of leaving ink: bell, backspace, vertical tab,
form feed or carriage return. -/
def isMove (c : Char) : Bool :=
  c == '\x07' || c == '\x08' || c == '\x0b' || c == '\x0c' || c == '\r'

/-- The text of a line from some column on, with spaces for each tab up to the next multiple of
`size`. -/
def expandTabsFrom (size : Nat) : Nat → List Char → List Char
  | _, [] => []
  | column, c :: rest =>
    if c == '\t' then
      let width := size - column % size
      List.replicate width ' ' ++ expandTabsFrom size (column + width) rest
    else c :: expandTabsFrom size (column + 1) rest

/-- The line with spaces for tabs. -/
def expandTabs (size : Nat) (line : List Char) : List Char := expandTabsFrom size 0 line

/-! ## Words -/

/-- The words of the line `word ++ rest`, of which the first starts with `word`. That part of it
holds ink if `inked`, and ends with blanks behind the ink if `ended`. -/
def wordsFrom : (word : List Char) → (inked ended : Bool) → List Char → List (List Char)
  | word, inked, _, [] => if inked then [word] else []
  | word, inked, ended, c :: rest =>
    if Text.isBlank c then wordsFrom (word ++ [c]) inked inked rest
    else if ended then word :: wordsFrom [c] true false rest
    else wordsFrom (word ++ [c]) true false rest

/-- The words of a line, each with the blanks behind it, the first also with those in front. A line
of blanks has none. -/
def words (line : List Char) : List (List Char) := wordsFrom [] false false line

/-- The word in pieces of the width, the last of which may be shorter. -/
def chop (width : Nat) : Nat → List Char → List (List Char)
  | 0, word => [word]
  | fuel + 1, word =>
    if word.length ≤ width then [word] else word.take width :: chop width fuel (word.drop width)

/-! ## Lines -/

/-- The lines of the words, behind what the first of them already holds. -/
def fill (width : Nat) : (line : List Char) → List (List Char) → List (List Char)
  | line, [] => [line]
  | line, word :: rest =>
    let size := (Text.trimEnd word).length
    if line.length + size ≤ width then fill width (line ++ word) rest
    else if width < size then
      let parts := chop width word.length word
      (if line.isEmpty then [] else [line]) ++ parts.dropLast ++
        fill width (parts.getLast?.getD []) rest
    else line :: fill width word rest

/-- The line without the blanks beyond the width. -/
def cropBlanks (width : Nat) (line : List Char) : List Char :=
  line.take (max width (Text.trimEnd line).length)

/-- The lines that a line takes. -/
def wrapLine (width : Nat) (line : List Char) : List (List Char) :=
  let line := expandTabs 8 line
  match words line with
  | [] => [cropBlanks width line]
  | words => (fill width [] words).map (cropBlanks width)

/-- **The text of a message on the page.** -/
def message (text : String) : String :=
  let lines := (Text.lines (text.toList.filter (!isMove ·))).flatMap (wrapLine pageWidth)
  String.ofList (Text.joinLines lines) ++ "\n"

end Recast.Display
