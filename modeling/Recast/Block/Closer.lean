import Recast.Text.Blank
import Recast.Text.Letter
import Recast.Pattern.Replace

/-!
# Block/Closer — how a target language ends its blocks

A brace language ends a block with `}` and opens one with `{`; a keyword language ends it with a
word such as `end`, and a block is opened by a header that has to be recognised. Either way some
lines continue a block instead of following it: `} else {` ends one branch and opens the next.
-/

namespace Recast

/-- How the blocks of a target language end. -/
structure Closer where
  /-- What ends a block. -/
  token : String
  /-- What ends a line that opens a block; the empty token ends none. -/
  opener : Option String := none
  /-- The lines that open a block, in a language where headers are recognised by their words. -/
  header : Option Pattern := none
  /-- The lines that continue a block; without it, those that start with the token. -/
  continuation : Option Pattern := none

namespace Closer

open Text

/-- The text ends with the word, and the word does not begin within a longer one. -/
def endsWithWord (text word : List Char) : Bool :=
  endsWith text word && !(text.reverse.drop word.length).head?.any isWord

/-- The opener, unless it is empty, ends the line. -/
def endsWithOpener (closer : Closer) (line : List Char) : Bool :=
  closer.opener.any fun opener => !opener.isEmpty && endsWith (trimEnd line) opener.toList

/-- The line ends with the opener or with the token. A token that is a word has to stand there as a
word of its own. -/
def endsBlock (closer : Closer) (line : List Char) : Bool :=
  closer.endsWithOpener line ||
    if isLetters closer.token.toList then endsWithWord (trimEnd line) closer.token.toList
    else endsWith (trimEnd line) closer.token.toList

/-- The line continues a block instead of following it. -/
def continues (closer : Closer) (line : List Char) : Bool :=
  match closer.continuation with
  | some pattern => pattern.starts line
  | none => startsWith (trimStart line) closer.token.toList

/-- The line opens a block. -/
def opens (closer : Closer) (line : List Char) : Bool :=
  match closer.header with
  | some pattern => pattern.occursIn line
  | none => closer.endsWithOpener line

/-- Blocks are opened by headers that have to be recognised by their words. -/
def isKeyword (closer : Closer) : Bool := closer.header.isSome

/-- A line that ends a block whose header is `width` wide indented. -/
def line (closer : Closer) (width : Nat) : List Char :=
  List.replicate width ' ' ++ closer.token.toList

/-! ## The closers of the chains -/

/-- Blocks stand between braces. -/
def brace : Closer := { token := "\x7d", opener := some "\x7b" }

/-- One of the words at the start of the line, behind its indentation. -/
def leadingWord (words : List String) : Pattern :=
  .all [.edge .start, .many isBlank, .anyWord words, .edge .word]

/-- `do`, perhaps with the names of the block between bars, at the end of the line. -/
def trailingDo : Pattern :=
  .all [.edge .word, .text "do",
    .optional (.all [.many isBlank, .text "|", .many (· != '|'), .text "|"]), .many isBlank,
    .edge .finish]

/-- The words that headers start with. -/
def headerWords : List String :=
  ["if", "elsif", "else", "unless", "while", "until", "def", "class", "module", "begin", "rescue",
    "ensure"]

/-- The words that continue a block. -/
def continuationWords : List String := ["else", "elsif", "rescue", "ensure", "when"]

/-- Blocks start with a header word or end their header with `do`, and end with `end`. -/
def endWord : Closer where
  token := "end"
  header := some (.alt (leadingWord headerWords) trailingDo)
  continuation := some (leadingWord continuationWords)

end Closer

end Recast
