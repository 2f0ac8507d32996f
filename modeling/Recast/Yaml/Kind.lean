import Recast.Yaml.Number
import Recast.Yaml.Timestamp

/-!
# Yaml/Kind — what a node stands for

A tag says what a node stands for. Without one, a collection is a sequence or a mapping as it is
written, a scalar between quotes is a text, and a plain scalar is whatever its characters look like:
`yes` is a truth value and `1:30` is ninety.
-/

namespace Recast.Yaml

/-- What a node stands for. -/
inductive Kind
  | null
  | truth
  | whole
  | fraction
  | moment
  | binary
  | text
  | sequence
  | mapping
  | set
  /-- A sequence of mappings with one entry each. -/
  | pairs
  /-- The key of a mapping whose entries are to be taken over. -/
  | merge
  /-- The key of the entry that a mapping is mainly about. -/
  | default
  /-- Something that is not known here. -/
  | other
deriving Repr, DecidableEq

namespace Kind

/-- What the known tags start with. -/
def commonLead : String := "tag:yaml.org,2002:"

/-- What a tag says. -/
def ofTag (tag : String) : Kind :=
  if !commonLead.toList.isPrefixOf tag.toList then .other
  else match String.ofList (tag.toList.drop commonLead.length) with
    | "null" => .null
    | "bool" => .truth
    | "int" => .whole
    | "float" => .fraction
    | "timestamp" => .moment
    | "binary" => .binary
    | "str" => .text
    | "seq" => .sequence
    | "map" => .mapping
    | "set" => .set
    | "pairs" | "omap" => .pairs
    | "merge" => .merge
    | "value" => .default
    | _ => .other

/-- The words for no value. -/
def nullWords : List String := ["", "~", "null", "Null", "NULL"]

/-- The words for true. -/
def trueWords : List String := ["yes", "true", "on"]

/-- The words for false. -/
def falseWords : List String := ["no", "false", "off"]

/-- The word in small letters, with a capital at its start, and in capitals. -/
def casings (word : String) : List String := [word, word.capitalize, word.toUpper]

/-- What a plain scalar stands for. -/
def ofPlain (text : String) : Kind :=
  let chars := text.toList
  if nullWords.contains text then .null
  else if ((trueWords ++ falseWords).flatMap casings).contains text then .truth
  else if Number.isWhole chars then .whole
  else if Number.isFraction chars then .fraction
  else if Timestamp.isTimestamp chars then .moment
  else if text == "<<" then .merge
  else if text == "=" then .default
  else .text

end Kind

end Recast.Yaml
