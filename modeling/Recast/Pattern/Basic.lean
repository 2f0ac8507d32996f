import Recast.Text.Word

/-!
# Pattern/Basic — what a rule looks for

A `Pattern` describes a stretch of text by words, characters of a class, runs of them, choices and
named groups, and by what has to stand around it (`Edge`). Where it can be read in several ways, the
order of the readings is part of its meaning: a `many` prefers to take more, a `few` to take less,
and an `alt` prefers its first side. `Pattern.read` tries the readings in that order.

A pattern is read at a `Spot`, which knows the whole text and not only what follows, because words
end and lines begin where the characters on the two sides say so.
-/

namespace Recast

/-- A condition on a place in a text that takes no character. -/
inductive Edge
  /-- A word character on one side and none on the other. -/
  | word
  /-- The start of the text. -/
  | start
  /-- The end of the text, or the line feed that ends it. -/
  | finish
  /-- The start of a line. -/
  | lineStart
  /-- The end of a line. -/
  | lineEnd
  /-- A character of the class comes next. -/
  | ahead (allowed : Char → Bool)
  /-- The text so far does not end with the word. -/
  | notBehind (word : String)

/-- What a rule looks for. -/
inductive Pattern
  /-- The word itself. -/
  | text (word : String)
  /-- One character of the class. -/
  | one (allowed : Char → Bool)
  /-- As many characters of the class as the rest of the pattern permits, perhaps none. -/
  | many (allowed : Char → Bool)
  /-- As few characters of the class as the rest of the pattern permits, perhaps none. -/
  | few (allowed : Char → Bool)
  /-- One pattern and then the other. -/
  | seq (first second : Pattern)
  /-- One of two patterns, the first if both will do. -/
  | alt (first second : Pattern)
  /-- The pattern, its stretch of text kept under a number. -/
  | group (number : Nat) (inner : Pattern)
  /-- The text last kept under the number. -/
  | again (number : Nat)
  /-- No text, at a place that meets the condition. -/
  | edge (condition : Edge)

namespace Pattern

/-- The empty stretch. -/
def nothing : Pattern := .text ""

/-- The patterns one after the other. -/
def all (patterns : List Pattern) : Pattern := patterns.foldr .seq nothing

/-- One of the words, the earliest in the list that will do. -/
def anyWord : List String → Pattern
  | [] => .one fun _ => false
  | [word] => .text word
  | word :: words => .alt (.text word) (anyWord words)

/-- The pattern if it will do, or nothing. -/
def optional (pattern : Pattern) : Pattern := .alt pattern nothing

/-- As many characters of the class as possible, and at least one. -/
def many1 (allowed : Char → Bool) : Pattern := .seq (.one allowed) (.many allowed)

/-- As few characters of the class as possible, and at least one. -/
def few1 (allowed : Char → Bool) : Pattern := .seq (.one allowed) (.few allowed)

/-- The word with word boundaries on both sides. -/
def wholeWord (word : String) : Pattern :=
  all [.edge .word, .text word, .edge .word]

/-- Some part of the pattern holds for lines on their own. -/
def mentionsLines : Pattern → Bool
  | .seq p q => p.mentionsLines || q.mentionsLines
  | .alt p q => p.mentionsLines || q.mentionsLines
  | .group _ p => p.mentionsLines
  | .edge .lineStart => true
  | .edge .lineEnd => true
  | _ => false

end Pattern

/-! ## Reading -/

/-- A stretch of the text: what follows its start, and what follows its end. -/
structure Stretch where
  fromStart : List Char
  fromEnd : List Char
deriving Inhabited

/-- The characters of the stretch. -/
def Stretch.chars (s : Stretch) : List Char :=
  s.fromStart.take (s.fromStart.length - s.fromEnd.length)

/-- A place in a text, and what the groups read so far have kept. -/
structure Spot where
  /-- The text before the place, nearest character first. -/
  before : List Char
  /-- The text after the place. -/
  rest : List Char
  /-- The stretches kept so far, latest first. -/
  kept : List (Nat × Stretch) := []

namespace Spot

/-- The start of a text. -/
def ofText (text : List Char) : Spot := { before := [], rest := text }

/-- Behind the next characters, if these are the characters of the word. -/
def pass : List Char → Spot → Option Spot
  | [], s => some s
  | c :: word, s =>
    match s.rest with
    | [] => none
    | d :: rest => if d = c then pass word { s with before := d :: s.before, rest } else none

/-- The text kept under the number; a group that was not read has kept nothing. -/
def keptText? (s : Spot) (number : Nat) : Option (List Char) :=
  (s.kept.lookup number).map Stretch.chars

/-- The characters on the two sides are a word character and one that is none. -/
def atWordEdge (s : Spot) : Bool := s.before.head?.any Text.isWord != s.rest.head?.any Text.isWord

/-- The place meets the condition. -/
def meets (s : Spot) : Edge → Bool
  | .word => s.atWordEdge
  | .start => s.before.isEmpty
  | .finish => s.rest.isEmpty || s.rest == ['\n']
  | .lineStart => s.before.head?.all (· = '\n')
  | .lineEnd => s.rest.head?.all (· = '\n')
  | .ahead allowed => s.rest.head?.any allowed
  | .notBehind word => !word.toList.reverse.isPrefixOf s.before

end Spot

namespace Pattern

/-- What is done at the end of a reading: the place is accepted or refused. -/
abbrev Next := Spot → Option Spot

/-- The longest run of the class after which `next` accepts. -/
def readMany (allowed : Char → Bool) (next : Next) (kept : List (Nat × Stretch)) :
    (before rest : List Char) → Option Spot
  | before, [] => next { before, rest := [], kept }
  | before, c :: rest =>
    if allowed c then
      match readMany allowed next kept (c :: before) rest with
      | some spot => some spot
      | none => next { before, rest := c :: rest, kept }
    else next { before, rest := c :: rest, kept }

/-- The shortest run of the class after which `next` accepts. -/
def readFew (allowed : Char → Bool) (next : Next) (kept : List (Nat × Stretch)) :
    (before rest : List Char) → Option Spot
  | before, [] => next { before, rest := [], kept }
  | before, c :: rest =>
    match next { before, rest := c :: rest, kept } with
    | some spot => some spot
    | none => if allowed c then readFew allowed next kept (c :: before) rest else none

/-- **The first reading of the pattern at the place that `next` accepts.** -/
def read : Pattern → Next → Next
  | .text word, next, s => (s.pass word.toList).bind next
  | .one allowed, next, s =>
    match s.rest with
    | [] => none
    | c :: rest => if allowed c then next { s with before := c :: s.before, rest } else none
  | .many allowed, next, s => readMany allowed next s.kept s.before s.rest
  | .few allowed, next, s => readFew allowed next s.kept s.before s.rest
  | .seq p q, next, s => p.read (q.read next) s
  | .alt p q, next, s =>
    match p.read next s with
    | some spot => some spot
    | none => q.read next s
  | .group number p, next, s =>
    p.read (fun t => next { t with kept := (number, ⟨s.rest, t.rest⟩) :: t.kept }) s
  | .again number, next, s => (s.keptText? number).bind fun word => (s.pass word).bind next
  | .edge condition, next, s => if s.meets condition then next s else none

/-- The end of the pattern's first reading at the place, if it can be read there. -/
def readAt? (pattern : Pattern) (s : Spot) : Option Spot := pattern.read some s

end Pattern

end Recast
