import Recast.Text.Ranges

/-!
# Text/Blank — white space, and what is left when it is taken off the ends

Blank characters are those of the Unicode standard's white space together with the four information
separators U+001C to U+001F. `trim` takes them off both ends of a text; the width of a line's
indentation counts them one by one, so a tab is as wide as a space.
-/

namespace Recast.Text

/-- The blank characters. -/
def blankRanges : Ranges :=
  [(0x9, 0xD), (0x1C, 0x20), (0x85, 0x85), (0xA0, 0xA0), (0x1680, 0x1680), (0x2000, 0x200A),
    (0x2028, 0x2029), (0x202F, 0x202F), (0x205F, 0x205F), (0x3000, 0x3000)]

/-- A space, tab, line break or other character that leaves no ink. -/
def isBlank (c : Char) : Bool := blankRanges.holds c

/-- The text without the blanks it starts with. -/
def trimStart (text : List Char) : List Char := text.dropWhile isBlank

/-- The text without the blanks it ends with. -/
def trimEnd (text : List Char) : List Char := (text.reverse.dropWhile isBlank).reverse

/-- The text without the blanks at its two ends. -/
def trim (text : List Char) : List Char := trimEnd (trimStart text)

/-- The line holds blanks only, or nothing. -/
def isBlankLine (line : List Char) : Bool := line.all isBlank

/-- **The width of a line's indentation:** the number of blanks it starts with. -/
def indentWidth (line : List Char) : Nat := (line.takeWhile isBlank).length

/-- `word` ends the text. -/
def endsWith (text word : List Char) : Bool := word.isSuffixOf text

/-- `word` starts the text. -/
def startsWith (text word : List Char) : Bool := word.isPrefixOf text

end Recast.Text
