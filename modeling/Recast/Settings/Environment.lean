import Recast.Files
import Recast.Settings.Tools

/-!
# Settings/Environment — settings from a mapping, overlaid by the environment

Three environment variables replace what a settings mapping says; a variable that is empty counts as
unset. The overlay comes before any field is read, so a bad field is no fault if a variable replaces
it. Variables that are kept in a file of their own have been read into the environment before: what
is said here is said of the environment as it is then.

The mapping's two sections should be mappings themselves. A section that says nothing counts as
empty, and one that is a list of pairs is taken for a mapping; anything else is a `SectionFault`.
-/

namespace Recast

/-- The variables of the environment, with their values, among them those that a file of variables
has added. -/
abbrev Environment := List (String × String)

/-- The value of a variable that is set and not empty. -/
def Environment.value? (env : Environment) (name : String) : Option String :=
  (env.lookup name).filter (!·.isEmpty)

/-- Why a section is no mapping. -/
inductive SectionFault
  /-- It is a single value. -/
  | notMany (kind : String)
  /-- One of its members has no members. -/
  | memberNotMany (index : Nat)
  /-- One of its members is not a pair. -/
  | memberNotPair (index length : Nat)
  /-- A key is a list, a set or a mapping. -/
  | badKey (kind : String)
deriving Repr, DecidableEq

/-- What is said about the section. -/
def SectionFault.message : SectionFault → String
  | .notMany kind => "'" ++ kind ++ "' object is not iterable"
  | .memberNotMany index =>
    s!"cannot convert dictionary update sequence element #{index} to a sequence"
  | .memberNotPair index length =>
    s!"dictionary update sequence element #{index} has length {length}; 2 is required"
  | .badKey kind => "unhashable type: '" ++ kind ++ "'"

/-- Why there are no settings. -/
inductive SettingsError
  | noFile (path : String)
  | badSyntax
  | emptyFile
  | notMapping
  | badMatching (value : String)
  | badTruth (name value : String)
  | badFields (faults : List Fault)
  | badSection (fault : SectionFault)
  | keysNotText
  /-- There is something at the path, but no file. -/
  | badFile (fault : FileFault)
  /-- The file holds no text. -/
  | notText (fault : Text.Utf8Fault)
  /-- A scalar of the file stands for no value. -/
  | badScalar (fault : Yaml.ScalarFault)
  /-- Reading the file has failed in another way. -/
  | failed (kind message : String)
deriving Repr, DecidableEq

/-- What is wrong if a document cannot be read. -/
def SettingsError.ofUnreadable : Unreadable → SettingsError
  | .malformed => .badSyntax
  | .notText fault => .notText fault
  | .badScalar fault => .badScalar fault
  | .failed kind message => .failed kind message

/-- The bytes at fault, and where they are. A character that breaks off is read by itself once the
file has ended, so it is at position 0. -/
def decodingPlace (fault : Text.Utf8Fault) : String :=
  let position := if fault.reason = .ending then 0 else fault.position
  match fault.bytes with
  | [byte] =>
    "byte 0x" ++ String.ofList (Text.hex 2 byte.toNat) ++ s!" in position {position}"
  | bytes => s!"bytes in position {position}-{position + bytes.length - 1}"

/-- What is said when there are no settings. -/
def SettingsError.message : SettingsError → String
  | .noFile path => "Configuration file not found: " ++ path
  | .badSyntax => "Invalid YAML in configuration file:"
  | .emptyFile => "Configuration file is empty"
  | .notMapping => "Configuration file must contain a mapping"
  | .badMatching value =>
    "Invalid RULEMORPH_BLOCK_MATCHING '" ++ value ++ "'. Valid values: " ++
      Text.quotedList (Matching.all.map Matching.name)
  | .badTruth name value => "Invalid boolean for " ++ name ++ ": '" ++ value ++ "'"
  | .badFields _ => "Configuration validation failed:"
  | .badSection fault => fault.message
  | .keysNotText => "keywords must be strings"
  | .badFile fault => fault.message
  | .notText fault =>
    "'utf-8' codec can't decode " ++ decodingPlace fault ++ ": " ++ fault.reason.message
  | .badScalar fault => fault.message
  | .failed _ message => message

/-- The settings are at fault. The other errors come from a file or a section that is not even of
the right kind to hold settings. -/
def SettingsError.isSettingsFault : SettingsError → Bool
  | .badSection _ | .keysNotText | .badFile _ | .notText _ | .badScalar _ | .failed .. => false
  | _ => true

namespace Value

/-- The members that a value is made of, if it is made of any. -/
def members? : Value → Option (List Value)
  | .text words => some (words.toList.map fun c => .text (String.ofList [c]))
  | .bytes content => some (content.map fun byte => .int byte.toNat)
  | .pair first second => some [first, second]
  | .list items => some items
  | .set members => some members
  | .mapping entries => some (entries.map Prod.fst)
  | _ => none

/-- The pair that a member is, counted from 0. -/
def toPair (member : Value) (index : Nat) : Except SectionFault (Value × Value) :=
  match member.members? with
  | none => .error (.memberNotMany index)
  | some [key, value] => if key.isKey then .ok (key, value) else .error (.badKey key.keyFault)
  | some members => .error (.memberNotPair index members.length)

/-- The value as a mapping. -/
def toEntries : Value → Except SectionFault Entries
  | .mapping entries => .ok entries
  | value =>
    match value.members? with
    | none => .error (.notMany value.kindName)
    | some members => do
      let pairs ← members.zipIdx.mapM fun (member, index) => member.toPair index
      return Entries.ofPairs pairs

end Value

namespace Settings

/-- The section of a mapping; one that says nothing is empty. -/
def section? (raw : Entries) (name : String) : Except SectionFault Entries :=
  match raw.get? name with
  | none => .ok []
  | some value => if value.isVoid then .ok [] else value.toEntries

/-- The variable that chooses how closing tokens are matched. -/
def matchingVariable : String := "RULEMORPH_BLOCK_MATCHING"

/-- The variable that says whether templates come first. -/
def templatesVariable : String := "RULEMORPH_PREFER_TEMPLATES"

/-- The variable that chooses which messages are shown. -/
def levelVariable : String := "RULEMORPH_LOG_LEVEL"

/-- The small letters of a text. -/
def small (words : String) : String := String.ofList (Text.lower words.toList)

/-- The truth value that a variable holds, blanks around it ignored. -/
def truthOf (name value : String) : Except SettingsError Bool :=
  let word := small (String.ofList (Text.trim value.toList))
  if ["1", "true", "yes", "on"].contains word then .ok true
  else if ["0", "false", "no", "off"].contains word then .ok false
  else .error (.badTruth name value)

/-- The section on recasting, with what the environment says about it. -/
def overlayEngine (env : Environment) (engine : Entries) : Except SettingsError Entries := do
  let engine ← match env.value? matchingVariable with
    | none => pure engine
    | some value =>
      match Matching.ofName? (small value) with
      | none => throw (.badMatching value)
      | some matching => pure (engine.set "block_matching" (.text matching.name))
  match env.value? templatesVariable with
  | none => pure engine
  | some value =>
    return engine.set "prefer_templates" (.bool (← truthOf templatesVariable value))

/-- The section on messages, with what the environment says about it. -/
def overlayLogging (env : Environment) (logging : Entries) : Entries :=
  match env.value? levelVariable with
  | none => logging
  | some value => logging.set "level" (.text value)

/-- **The mapping with both sections in it, overlaid by the environment.** -/
def overlay (env : Environment) (raw : Entries) : Except SettingsError Entries := do
  let engine ← (section? raw "engine").mapError .badSection
  let logging ← (section? raw "logging").mapError .badSection
  let engine ← overlayEngine env engine
  return (raw.set "engine" (.mapping engine)).set "logging" (.mapping (overlayLogging env logging))

/-! ## Settings of a mapping -/

/-- The key is a text. -/
def isTextKey : Value × Value → Bool
  | (.text _, _) => true
  | _ => false

/-- **The settings of a mapping in an environment.** -/
def build (env : Environment) (raw : Entries) (tools : Tools := {}) :
    Except SettingsError Settings := do
  let merged ← overlay env raw
  if merged.all isTextKey then (tools.check merged).mapError .badFields
  else throw .keysNotText

end Settings

end Recast
