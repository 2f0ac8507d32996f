import Recast.Settings.Record
import Recast.Text.Lines
import Recast.Text.Utf8
import Recast.Yaml.Reading

/-!
# Settings/Tools — the work on settings that is left to others

Settings are kept in documents of a format that others have defined, and their fields are checked in
a way that others have laid down. So reading a document, writing one and checking the fields of a
mapping are `Settings.Tools`, and whatever settings are loaded or written with them is said of any
tools. The ones at hand are the reader of `Yaml`, a writer for mappings of sections, and
`Settings.ofEntries`.
-/

namespace Recast

/-- Why a document has no value. -/
inductive Unreadable
  /-- It breaks the rules of the format. -/
  | malformed
  /-- It holds no text. -/
  | notText (fault : Text.Utf8Fault)
  /-- One of its scalars stands for no value. -/
  | badScalar (fault : Yaml.ScalarFault)
  /-- Reading it has failed in another way. -/
  | failed (kind message : String)
deriving Repr, DecidableEq

namespace Settings

/-! ## Documents -/

/-- The value of the document that the bytes hold. -/
def readDocument (content : List UInt8) : Except Unreadable Value :=
  match Text.decode content with
  | .error fault => .error (.notText fault)
  | .ok text =>
    match Yaml.read (Text.unifyReturns text) with
    | .ok value => .ok value
    | .error .malformed => .error .malformed
    | .error (.scalar fault) => .error (.badScalar fault)

/-- A simple value as it is written; names are written without quotes. -/
def renderScalar : Value → String
  | .bool true => "true"
  | .bool false => "false"
  | .int number => toString number
  | .text words => words
  | _ => "null"

/-- A field of a section on a line of its own. -/
def renderField (field : Value × Value) : String :=
  "  " ++ renderScalar field.1 ++ ": " ++ renderScalar field.2 ++ "\n"

/-- A section: its name, and its fields below. -/
def renderSection : Value × Value → String
  | (name, .mapping fields) => renderScalar name ++ ":\n" ++ String.join (fields.map renderField)
  | (name, value) => renderScalar name ++ ": " ++ renderScalar value ++ "\n"

/-- The text of a document that says the sections. -/
def renderDocument (sections : Entries) : String := String.join (sections.map renderSection)

/-! ## Tools -/

/-- **What settings are read, written and checked with.** -/
structure Tools where
  /-- The value of the document that the bytes of a file hold. -/
  read : (content : List UInt8) → Except Unreadable Value := readDocument
  /-- The text of a document that says the mapping. -/
  write : (entries : Entries) → String := renderDocument
  /-- The settings that the fields of a mapping say, or all that is wrong with the fields. -/
  check : (entries : Entries) → Checked Settings := ofEntries

end Settings

end Recast
