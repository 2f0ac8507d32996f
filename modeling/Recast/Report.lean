import Recast.Recaster
import Recast.Text.Quoted

/-!
# Report — a result for other programs

A result is written as an object with four fields, each on a line of its own. In its texts the
quote, the backslash and the control characters below the space are escaped, and nothing else.
-/

namespace Recast

namespace Report

/-- One character of a text: itself, or its escape. -/
def escape (c : Char) : List Char :=
  if c == '"' || c == '\\' then ['\\', c]
  else if c == '\n' then ['\\', 'n']
  else if c == '\t' then ['\\', 't']
  else if c == '\r' then ['\\', 'r']
  else if c == '\x08' then ['\\', 'b']
  else if c == '\x0c' then ['\\', 'f']
  else if c.toNat < 0x20 then '\\' :: 'u' :: Text.hex 4 c.toNat
  else [c]

/-- The text between quotes. -/
def text (words : String) : String :=
  String.ofList ('"' :: words.toList.flatMap escape ++ ['"'])

/-- A field of the object. -/
def field (name value : String) : String := "  " ++ text name ++ ": " ++ value

/-- **The result as an object.** -/
def ofOutcome (outcome : Outcome) : String :=
  "\x7b\n" ++
    ",\n".intercalate
      [ field "translated_code" (text outcome.code),
        field "confidence" (toString outcome.confidence),
        field "is_fallback" (toString outcome.isFallback),
        field "strategy" (text outcome.strategy.name) ] ++
    "\n\x7d"

end Report

end Recast
