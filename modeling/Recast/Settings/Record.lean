import Recast.Recaster
import Recast.Settings.Fields

/-!
# Settings/Record — settings, languages, requests and outcomes read from fields

Each record of this library can be read from the fields of a mapping. Fields are read in the order
in which the record declares them, all faults are reported in that order, and fields the record does
not have are passed over.
-/

namespace Recast

open Fields

/-- The way of matching, by its name. -/
def Matching.ofValue : Value → Checked Matching := named (Matching.all.map Matching.name) ofName?

/-- The way of recasting, by its name. -/
def Strategy.ofValue : Value → Checked Strategy := named (Strategy.all.map Strategy.name) ofName?

/-- The choices of a user. -/
def Options.ofEntries (entries : Entries) : Checked Options :=
  let matching := withDefault entries "block_matching" Matching.lookahead Matching.ofValue
  let preferTemplates := withDefault entries "prefer_templates" true truth
  let maxLines :=
    withDefault entries "max_source_lines" none (nullable (wholeBetween (some 1) none))
  (Checked.both matching (.both preferTemplates maxLines)).map
    fun (matching, preferTemplates, maxLines) =>
      { matching, preferTemplates, maxLines := maxLines.map Int.toNat }

namespace Level

/-- The capital form of a character, as far as it is one of the letters A to Z. The dotless i and
the long s have such a form besides the letters a to z. -/
def capital (c : Char) : Char :=
  if c == 'ı' then 'I' else if c == 'ſ' then 'S' else c.toUpper

/-- The level of that name, in large or small letters. -/
def ofText? (name : String) : Option Level := ofName? (name.map capital)

/-- The level, by its name. -/
def ofValue (value : Value) : Checked Level := do
  let name ← text value
  match ofText? name with
  | some level => .ok level
  | none => .fault (.refused ("Invalid log level: " ++ name))

/-- The level of the messages that are shown. -/
def ofEntries (entries : Entries) : Checked Level := withDefault entries "level" .info ofValue

end Level

/-! ## Settings -/

/-- Everything a user can set. -/
structure Settings where
  options : Options := {}
  /-- The least important messages that are shown. -/
  level : Level := .info
deriving Repr, DecidableEq, Inhabited

namespace Settings

/-- The section as a record of its own. -/
def readSection {α : Type} (entries : Entries) (name : String) (otherwise : α)
    (read : Entries → Checked α) : Checked α :=
  withDefault entries name otherwise fun
    | .mapping fields => read fields
    | _ => .fault (.notRecord name)

/-- The settings of a mapping with both sections in it. -/
def ofEntries (entries : Entries) : Checked Settings :=
  (Checked.both (readSection entries "engine" {} Options.ofEntries)
    (readSection entries "logging" .info Level.ofEntries)).map
      fun (options, level) => { options, level }

end Settings

/-! ## Languages, requests and outcomes -/

namespace Language

/-- A language. -/
def ofEntries (entries : Entries) : Checked Language :=
  let id := required entries "id" text
  let displayName := required entries "display_name" text
  let commentPrefix := withDefault entries "comment_prefix" "//" text
  (Checked.both id (.both displayName commentPrefix)).map
    fun (id, displayName, commentPrefix) => of id displayName commentPrefix

/-- A language, which has to be a record of its own. -/
def ofValue : Value → Checked Language
  | .mapping entries => ofEntries entries
  | _ => .fault (.notRecord "Language")

end Language

/-- A text to be recast, and the two languages. -/
structure Request where
  code : String
  source : Language
  target : Language
deriving Repr, DecidableEq

namespace Request

/-- A request. -/
def ofEntries (entries : Entries) : Checked Request :=
  let code := required entries "source_code" text
  let source := required entries "source_language" Language.ofValue
  let target := required entries "target_language" Language.ofValue
  (Checked.both code (.both source target)).map fun (code, source, target) =>
    { code, source, target }

end Request

namespace Outcome

/-- A mark that has to be set: every outcome stands in for one that could not be had. -/
def standIn (value : Value) : Checked Unit := do
  if ← truth value then .ok () else .fault (.refused "Fallback results must set is_fallback=True")

/-- An outcome. -/
def ofEntries (entries : Entries) : Checked Outcome :=
  let code := required entries "translated_code" text
  let confidence := required entries "confidence" (wholeBetween (some 0) (some 100))
  let mark := withDefault entries "is_fallback" () standIn
  let strategy := required entries "strategy" Strategy.ofValue
  (Checked.both code (.both confidence (.both mark strategy))).map
    fun (code, confidence, _, strategy) => { code, strategy, confidence := confidence.toNat }

end Outcome

end Recast
