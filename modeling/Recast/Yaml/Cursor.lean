/-!
# Yaml/Cursor — a place in a document

Indentation is what a document's structure is made of, so a place knows its line and column besides
the text that follows. Four characters end a line; the line feed and the next-line character are the
same line break, the two separators U+2028 and U+2029 stand for themselves.

Every skip returns a cursor whose text is a tail of the one before, so a reader of a document runs
out of text sooner or later.
-/

namespace Recast.Yaml

/-- The character ends a line. -/
def isBreak (c : Char) : Bool := c == '\n' || c == '\u0085' || c == '\u2028' || c == '\u2029'

/-- The character is a space or a tab. -/
def isSpaceOrTab (c : Char) : Bool := c == ' ' || c == '\t'

/-- The character is a space, or ends a line. -/
def isSpaceOrBreak (c : Char) : Bool := c == ' ' || isBreak c

/-- The character is a space or a tab, or ends a line. -/
def isGap (c : Char) : Bool := isSpaceOrTab c || isBreak c

/-- The character may stand in a document. -/
def isAllowed (c : Char) : Bool :=
  c == '\t' || c == '\n' || c == '\r' || c == '\u0085' || (0x20 ≤ c.toNat && c.toNat ≤ 0x7E) ||
    (0xA0 ≤ c.toNat && c.toNat != 0xFFFE && c.toNat != 0xFFFF)

/-- The characters of the name of an anchor or a directive. -/
def isNameChar (c : Char) : Bool := c.isAlphanum || c == '-' || c == '_'

/-- A place in a document. -/
structure Cursor where
  /-- The text from here on. -/
  rest : List Char
  index : Nat := 0
  line : Nat := 0
  column : Nat := 0

namespace Cursor

/-- The character that comes next. -/
def next? (c : Cursor) : Option Char := c.rest.head?

/-- The character that comes `n` characters after the next. -/
def peek? (c : Cursor) (n : Nat) : Option Char := c.rest[n]?

/-- The next character belongs to the class. -/
def nextIs (c : Cursor) (p : Char → Bool) : Bool := c.next?.any p

/-- The character `n` characters after the next belongs to the class, or there is none. -/
def endsOr (c : Cursor) (n : Nat) (p : Char → Bool) : Bool := (c.peek? n).all p

/-- Behind the next character. A byte order mark takes no column. -/
def step (c : Cursor) : Cursor :=
  match c.rest with
  | [] => c
  | x :: rest =>
    if isBreak x then { rest, index := c.index + 1, line := c.line + 1, column := 0 }
    else if x == '\uFEFF' then { c with rest, index := c.index + 1 }
    else { c with rest, index := c.index + 1, column := c.column + 1 }

/-- Behind the next `n` characters. -/
def skip (c : Cursor) (n : Nat) : Cursor := n.repeat step c

/-- Behind the characters of the class. -/
def skipWhile (p : Char → Bool) (c : Cursor) : Cursor := c.skip (c.rest.takeWhile p).length

/-- The characters of the class that come next. -/
def span (p : Char → Bool) (c : Cursor) : List Char := c.rest.takeWhile p

/-- Behind the spaces. -/
def skipSpaces (c : Cursor) : Cursor := c.skipWhile (· == ' ')

/-- Behind the rest of the line. -/
def skipLine (c : Cursor) : Cursor := c.skipWhile (!isBreak ·)

/-- The line break that comes next, as it counts in a text, and the place behind it. -/
def lineBreak? (c : Cursor) : Option (Char × Cursor) :=
  match c.next? with
  | none => none
  | some x =>
    if x == '\n' || x == '\u0085' then some ('\n', c.step)
    else if isBreak x then some (x, c.step)
    else none

/-- The words come next. -/
def startsWith (c : Cursor) (word : String) : Bool := word.toList.isPrefixOf c.rest

/-- The words come next, and behind them a gap or the end of the document. -/
def startsWithMark (c : Cursor) (word : String) : Bool :=
  c.startsWith word && c.endsOr word.length isGap

/-- A line that separates documents comes next. -/
def atSeparator (c : Cursor) : Bool := c.startsWithMark "---" || c.startsWithMark "..."

/-- Behind the rest of a line that holds nothing but a comment, if that is all it holds. -/
def skipRest? (c : Cursor) : Option Cursor :=
  let c := c.skipSpaces
  let c := if c.nextIs (· == '#') then c.skipLine else c
  match c.next? with
  | none => some c
  | some _ => c.lineBreak?.map Prod.snd

end Cursor

end Recast.Yaml
