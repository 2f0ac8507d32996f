import Recast.Display.Wrap

/-!
# Display/Panel — code in a frame

A panel is as wide as the page. Its title stands in the middle of the upper edge; inside, each line
of the code stands behind its number, and what does not fit is cut off.
-/

namespace Recast.Display

/-- The line cut or filled up to the width. -/
def fit (width : Nat) (line : List Char) : List Char :=
  line.take width ++ List.replicate (width - line.length) ' '

/-- The line in the middle of the width, what is left over on both sides filled; of an odd number of
columns the right side has one more. -/
def centre (filler : Char) (width : Nat) (line : List Char) : List Char :=
  let spare := width - line.length
  List.replicate (spare / 2) filler ++ line ++ List.replicate (spare - spare / 2) filler

/-- The number, filled up on the left to the width. -/
def rightAlign (width : Nat) (line : List Char) : List Char :=
  List.replicate (width - line.length) ' ' ++ line

/-- The upper edge. -/
def panelTop (title : List Char) : List Char :=
  let width := pageWidth - 4
  let title := expandTabs 8 (title.map fun c => if c == '\n' then ' ' else c)
  let title := (' ' :: title.filter (!isMove ·) ++ [' ']).take width
  '╭' :: '─' :: centre '─' width title ++ ['─', '╮']

/-- The lower edge. -/
def panelBottom : List Char := '╰' :: List.replicate (pageWidth - 2) '─' ++ ['╯']

/-- A line of the code behind its number. -/
def panelRow (numberWidth : Nat) (row : List Char × Nat) : List Char :=
  let number := rightAlign numberWidth (toString (row.2 + 1)).toList
  let line := (expandTabs 4 row.1).filter (!isMove ·)
  "│   ".toList ++ number ++ ' ' :: fit (pageWidth - 7 - numberWidth) line ++ " │".toList

/-- **The code in a frame with the title.** -/
def panel (title code : String) : String :=
  let rows := Text.lines code.toList
  let numberWidth := (toString rows.length).length
  let lines := [panelTop title.toList] ++ rows.zipIdx.map (panelRow numberWidth) ++ [panelBottom]
  String.ofList (Text.joinLines lines) ++ "\n"

end Recast.Display
