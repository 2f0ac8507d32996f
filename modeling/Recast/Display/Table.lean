import Recast.Display.Panel

/-!
# Display/Table — rows and columns in a frame

Each column is as wide as its widest cell, with a space on both sides. The head of the table stands
between heavy lines, its title in the middle above it.
-/

namespace Recast.Display

/-- Where a cell stands in its column. -/
inductive Alignment
  | left
  | centred
  | right
deriving Repr, DecidableEq

/-- The cell in its column. -/
def Alignment.place (width : Nat) (cell : List Char) : Alignment → List Char
  | .left => fit width cell
  | .centred => centre ' ' width cell
  | .right => rightAlign width cell

/-- A column: its head, and where its cells stand. -/
structure Column where
  head : String
  alignment : Alignment := .left

/-- The characters of a line across the table. -/
structure Bar where
  left : Char
  line : Char
  joint : Char
  right : Char

/-- The widths of the columns. -/
def columnWidths (columns : List Column) (rows : List (List String)) : List Nat :=
  columns.zipIdx.map fun (column, index) =>
    rows.foldl (fun width row => max width (row.getD index "").length) column.head.length

/-- A line across the table. -/
def barLine (bar : Bar) (widths : List Nat) : List Char :=
  bar.left :: List.intercalate [bar.joint]
    (widths.map fun width => List.replicate (width + 2) bar.line) ++ [bar.right]

/-- The cells of a row between bars. -/
def rowLine (bar : Char) (columns : List Column) (widths : List Nat) (row : List String) :
    List Char :=
  let cells := (columns.zip (widths.zip row)).map fun (column, width, cell) =>
    ' ' :: column.alignment.place width cell.toList ++ [' ']
  bar :: List.intercalate [bar] cells ++ [bar]

/-- **The table with the title.** -/
def table (title : String) (columns : List Column) (rows : List (List String)) : String :=
  let widths := columnWidths columns rows
  let top := barLine ⟨'┏', '━', '┳', '┓'⟩ widths
  let lines :=
    [ centre ' ' top.length title.toList,
      top,
      rowLine '┃' columns widths (columns.map (·.head)),
      barLine ⟨'┡', '━', '╇', '┩'⟩ widths ] ++
    rows.map (rowLine '│' columns widths) ++
    [barLine ⟨'└', '─', '┴', '┘'⟩ widths]
  String.ofList (Text.joinLines lines) ++ "\n"

end Recast.Display
