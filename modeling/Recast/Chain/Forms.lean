import Recast.Pattern.Basic
import Recast.Text.Blank
import Recast.Text.Digit

/-!
# Chain/Forms — the statement forms of indentation-delimited source

Ten chains read the same source language, whose blocks are headers that end with a colon. What they
look for is written down here once, and each chain decides only what it writes in its place. In
every form the groups are numbered from the left: an assignment keeps its indentation, its name and
its value, a header keeps its condition.

Forms overlap on purpose. `printExpr` reads what `printText` reads, so the order of a chain's rules
is part of what the chain means.
-/

namespace Recast

instance : Coe String Pattern := ⟨.text⟩

namespace Form

open Pattern Text

/-! ## Parts of a line -/

/-- A space or a tab. -/
def isMargin (c : Char) : Bool := c == ' ' || c == '\t'

/-- Any character but a line feed. -/
def isInline (c : Char) : Bool := c != '\n'

/-- Any character but `stop`. -/
def isNot (stop c : Char) : Bool := c != stop

/-- Spaces and tabs, perhaps none. -/
def margin : Pattern := many isMargin

/-- Blanks of any kind, perhaps none; they may run over line ends. -/
def blanks : Pattern := many isBlank

/-- Blanks of any kind, at least one. -/
def gap : Pattern := many1 isBlank

/-- The characters of a name: one word character or more. -/
def word : Pattern := many1 isWord

/-- One decimal digit or more. -/
def digits : Pattern := many1 isDigit

/-- The word, where a word may begin. -/
def keyword (name : String) : Pattern := .seq (.edge .word) (.text name)

/-! ## Output and input

A call stops at the first closing parenthesis, so a call inside its argument cuts it short. -/

/-- `callee(…)`, with blanks wherever they are harmless. -/
def call (callee : String) (argument : List Pattern) : Pattern :=
  all ([keyword callee, blanks, "(", blanks] ++ argument ++ [blanks, ")"])

/-- A text between quotes, kept without them. -/
def quotedText (quote : Char) : List Pattern :=
  [.one (· == quote), .group 1 (many1 (isNot quote)), .one (· == quote)]

/-- `callee("…")`, or the same with the other quote. -/
def callText (callee : String) (quote : Char) : Pattern := call callee (quotedText quote)

/-- `print(…)`. -/
def printExpr : Pattern := call "print" [.group 1 (many1 (isNot ')'))]

/-- `input(…)`, where nothing need stand between the parentheses. -/
def inputExpr : Pattern := call "input" [.group 1 (many (isNot ')'))]

/-! ## Assignments, one to a line -/

/-- `name = value` on a line of its own: group 1 is the indentation, group 2 the name. -/
def assign (value : List Pattern) : Pattern :=
  all ([.edge .lineStart, .group 1 margin, .group 2 word, margin, "=", margin] ++ value ++
    [.edge .lineEnd])

/-- A text between quotes is assigned. -/
def assignText (quote : Char) : Pattern :=
  assign [.one (· == quote), .group 3 (many (isNot quote)), .one (· == quote)]

/-- A number is assigned, with or without a point. -/
def assignNumber : Pattern :=
  assign [.group 3 (all [digits, optional ".", many isDigit])]

/-- A whole number is assigned. -/
def assignInt : Pattern := assign [.group 3 digits]

/-- A number with a point and digits on both sides is assigned. -/
def assignFloat : Pattern := assign [.group 3 (all [digits, ".", digits])]

/-- The word `value` is assigned. -/
def assignWord (value : String) : Pattern := assign [.text value]

/-- What stands between two brackets is assigned. -/
def assignBetween (opening closing : Char) : Pattern :=
  assign [.one (· == opening), .group 3 (few isInline), .one (· == closing)]

/-- Anything without an equality sign is assigned. -/
def assignAny : Pattern := assign [.group 3 (many1 fun c => c != '=' && c != '\n')]

/-! ## Headers -/

/-- `def name(parameters):`. -/
def definition : Pattern :=
  all [keyword "def", gap, .group 1 word, blanks, "(", .group 2 (many (isNot ')')), ")", blanks,
    ":"]

/-- `return value` on a line of its own. -/
def returnLine : Pattern :=
  all [.edge .lineStart, .group 1 margin, "return", gap, .group 2 (many1 isInline), .edge .lineEnd]

/-- `name condition:`, up to the first colon of the line. -/
def header (name : String) : Pattern :=
  all [keyword name, gap, .group 1 (few1 fun c => c != ':' && c != '\n'), ":"]

/-- `name:`. -/
def bareHeader (name : String) : Pattern := all [keyword name, blanks, ":"]

/-- `for name in `. -/
def forIn : Pattern := all [keyword "for", gap, .group 1 word, gap, "in", gap]

/-- `for name in range(bounds):`. -/
def forRange (bounds : List Pattern) : Pattern :=
  all ([forIn, "range", blanks, "(", blanks] ++ bounds ++ [blanks, ")", blanks, ":"])

/-- `for name in range(stop):`. -/
def forRange1 : Pattern := forRange [.group 2 digits]

/-- `for name in range(start, stop):`. -/
def forRange2 : Pattern := forRange [.group 2 digits, ",", blanks, .group 3 digits]

/-- `for name in range(start, stop, step):`. -/
def forRange3 : Pattern :=
  forRange [.group 2 digits, ",", blanks, .group 3 digits, ",", blanks, .group 4 digits]

/-- `for name in items:`, up to the first colon. -/
def forEach : Pattern := all [forIn, .group 2 (few1 isInline), ":"]

/-- `for name in items:`, up to a colon that ends the line. -/
def forEachLine : Pattern :=
  all [forIn, .group 2 (few1 isInline), ":", margin, .edge .lineEnd]

/-- `except Kind as name:`. -/
def exceptAs : Pattern :=
  all [keyword "except", gap, .group 1 word, gap, "as", gap, .group 2 word, blanks, ":"]

/-- `except Kind:`. -/
def exceptKind : Pattern := all [keyword "except", gap, .group 1 word, blanks, ":"]

/-- `class Name:`. -/
def classHeader : Pattern := all [keyword "class", gap, .group 1 word, blanks, ":"]

/-- `class Name(Parent):`. -/
def classExtends : Pattern :=
  all [keyword "class", gap, .group 1 word, blanks, "(", blanks, .group 2 word, blanks, ")", blanks,
    ":"]

/-! ## Names and comments -/

/-- `len(items)`. -/
def len : Pattern := all [keyword "len", "(", .group 1 (many1 (isNot ')')), ")"]

/-- `.name(`. -/
def methodOpen (name : String) : Pattern := .text ("." ++ name ++ "(")

/-- `.name()`. -/
def methodCall (name : String) : Pattern := .text ("." ++ name ++ "()")

/-- `items.append(item)`, up to the first closing parenthesis. -/
def appendTo : Pattern :=
  all [.edge .word, .group 1 word, ".append(", .group 2 (few1 isInline), ")"]

/-- `value.name()`. -/
def methodOn (name : String) : Pattern :=
  all [.edge .word, .group 1 word, methodCall name]

/-- A comment on a line of its own, the sign and the spaces behind it left out. -/
def comment : Pattern :=
  all [.edge .lineStart, .group 1 margin, "#", margin, .group 2 (few isInline), .edge .lineEnd]

end Form

end Recast
