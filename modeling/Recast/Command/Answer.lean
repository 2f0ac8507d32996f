import Recast.Command.Basic
import Recast.Command.Consent
import Recast.Display.Colour
import Recast.Display.Table
import Recast.Report
import Recast.Settings.File

/-!
# Command/Answer — what a command answers, and what it changes

A command is answered from what it finds: the variables of the environment and the files. The answer
holds what is shown, what is logged, the exit code and the changes of files. A command that fails
may have made directories. It has written nothing, unless the name of a language is no text: then
the output file is opened, and so emptied, before it turns out that the result cannot be written.

Asking the user and writing a result as an object are the work of others, like reading settings
(`Command.Tools`).
-/

namespace Recast

/-- What a command finds. -/
structure Surroundings where
  env : Environment
  files : Files

/-- What ends a command before it can say anything about it. -/
inductive Breakdown
  | settings (error : SettingsError)
  | file (fault : FileFault)
deriving Repr, DecidableEq

/-- What is said about the breakdown. -/
def Breakdown.message : Breakdown → String
  | .settings error => error.message
  | .file fault => fault.message

/-- The answer of a command. -/
structure Answer where
  exitCode : Nat := 0
  shown : String := ""
  logged : String := ""
  breakdown : Option Breakdown := none
  /-- The result holds bytes that write no text, and cannot be written. -/
  isUnwritable : Bool := false
  changes : List Change := []

namespace Answer

/-- The answer to a source that is not there. -/
def misuse : Answer := { exitCode := 2 }

/-- The answer of a command that has broken down. -/
def broken (breakdown : Breakdown) (logged : String := "") : Answer :=
  { exitCode := 1, logged, breakdown := some breakdown }

/-- What is said of a result that cannot be written. -/
def unwritableMessage : String := "surrogates not allowed"

/-- The answer of a command whose result cannot be written. -/
def unwritable (logged : String) (changes : List Change := []) : Answer :=
  { exitCode := 1, logged, isUnwritable := true, changes }

/-- The answer of a command whose result takes an effort; `shown` is shown if there was no fault. -/
def ofEffort (effort : Effort) (shown : String) (logged : String := "") : Answer :=
  match effort.fault with
  | none => { shown, logged, changes := effort.changes }
  | some fault => { broken (.file fault) logged with changes := effort.changes }

end Answer

namespace Command

/-- **What commands leave to others.** -/
structure Tools extends Settings.Tools where
  /-- What is shown while the question is asked, and what the user's lines say to it. -/
  confirm : (question : String) → (lines : List String) → String × Consent := Consent.ask
  /-- The result as an object. -/
  report : (outcome : Outcome) → String := Report.ofOutcome

/-! ## Recasting a file -/

/-- The lines of the events that are shown. -/
def log (level : Level) (events : List Event) : String :=
  String.join <| (events.filter fun event => level.rank ≤ event.level.rank).map fun event =>
    event.speaker ++ ": " ++ event.message ++ "\n"

/-- What is said about the way that was gone. -/
def summary (outcome : Outcome) : String :=
  Display.message (Display.Span.plain
      [{ words := s!"Strategy: {outcome.strategy.name}  Confidence: " },
        .ofConfidence outcome.confidence]) ++
    if outcome.strategy = .generic then
      Display.message "⚠ No rule set covers this pair; the source was echoed as comments."
    else ""

section Recasting

variable (tools : Tools) (found : Surroundings) (order : Order)

/-- What is written to the output file. -/
def outputText (outcome : Outcome) : String :=
  if order.asObject then tools.report outcome else outcome.code ++ "\n"

/-- The answer with a result that is written to a file. -/
def written (outcome : Outcome) (logged path : String) : Answer :=
  let content := Text.encode (outputText tools order outcome).toList
  let shown :=
    if order.asObject then Display.message ("✓ Wrote result to " ++ path)
    else Display.message ("✓ Wrote translation to " ++ path) ++ summary outcome
  .ofEffort (found.files.write (Path.ofText path) content) shown logged

/-- The answer with a result that cannot be written to the file, which has been emptied for it. -/
def emptied (logged path : String) : Answer :=
  let effort := found.files.write (Path.ofText path) []
  match effort.fault with
  | none => .unwritable logged effort.changes
  | some fault => .broken (.file fault) logged

/-- The answer with a result that is shown. -/
def shown (outcome : Outcome) (logged : String) : Answer :=
  if order.asObject then { shown := tools.report outcome ++ "\n", logged }
  else
    { shown :=
        Display.panel (order.source.shown ++ " → " ++ order.target.shown) outcome.code ++
          summary outcome
      logged }

/-- The answer for a source of that text. Of names that are no texts no object is made. -/
def recastText (settings : Settings) (text : List Char) : Answer :=
  let (outcome, events) := ({ options := settings.options } : Recaster).recast
    (String.ofList (Text.unifyReturns text)) (.id order.source.shown) (.id order.target.shown)
  let logged := log (if order.verbose then .debug else settings.level) events
  if order.asObject && !order.hasTextNames then .unwritable logged
  else
    match order.output with
    | some path =>
      if order.hasTextNames then written tools found order outcome logged path
      else emptied found logged path
    | none => shown tools order outcome logged

/-- The answer to the request to recast a file. The settings are read before the source. -/
def answerRecast : Answer :=
  match Settings.load found.env found.files (order.settings.map Path.ofText) tools.toTools with
  | .error error =>
    if error.isSettingsFault then
      { exitCode := 1, shown := Display.message ("Configuration Error: " ++ error.message) }
    else .broken (.settings error)
  | .ok settings =>
    let path := Path.ofText order.path
    match found.files.place path with
    | .ok .nothing | .error _ => .misuse
    | .ok .directory => .broken (.file (.isDirectory path.toText))
    | .ok (.file content) =>
      match Text.decode content with
      | .ok text => recastText tools found order settings text
      | .error fault =>
        { exitCode := 1
          shown := Display.message
            ("Error: Source file is not valid UTF-8: " ++ order.path ++
              " (" ++ fault.reason.message ++ ")") }

end Recasting

/-! ## Tables -/

/-- The table of the languages that are known. -/
def languageTable : String :=
  let catalog := Catalog.standard
  Display.table "Languages"
    [ { head := "ID" }, { head := "Name" }, { head := "Comment" },
      { head := "Template", alignment := .centred } ]
    (catalog.languages.map fun language =>
      [ language.id, language.displayName, language.commentPrefix,
        Display.Span.plain [if catalog.hasTemplate language.id then
          { words := "✓", colour := some .green } else { words := "-" }] ])

/-- The table of the pairs that have a chain. -/
def pairTable : String :=
  let catalog := Catalog.standard
  Display.table "Pairwise Rule Chains"
    [ { head := "Source" }, { head := "Target" },
      { head := "Confidence", alignment := .right },
      { head := "Shadowed by templates", alignment := .centred } ]
    (Chain.pairs.map fun (source, target) =>
      [ source, target, Display.Span.plain [.ofConfidence (Confidence.ofPair source target)],
        Display.Span.plain [if catalog.hasTemplate source && catalog.hasTemplate target then
          { words := "yes", colour := some .yellow } else { words := "no" }] ])

/-! ## The initial settings -/

/-- Writing the initial settings, into a directory that is made if need be. -/
def initEffort (files : Files) (path : Path) (tools : Settings.Tools := {}) : Effort :=
  files.andThen (files.makeDirectories path.parent)
    (·.write path (Text.encode (Settings.render tools).toList))

/-- The answer to the request for a file with the initial settings. -/
def answerInit (tools : Tools) (found : Surroundings) (text : String) (consent : Consent) :
    Answer :=
  let path := Path.ofText text
  if found.files.holds path && consent = .refused then
    { exitCode := 1, logged := "Aborted.\n" }
  else
    .ofEffort (initEffort found.files path tools.toTools)
      (Display.message ("✓ Wrote default configuration to " ++ path.toText))

/-! ## Every command -/

/-- The paths that matter to a command. -/
def paths : Command → List Path
  | .recast order =>
    [Path.ofText order.path] ++ (order.settings.map Path.ofText).toList ++
      (order.output.map Path.ofText).toList
  | .initSettings path => [Path.ofText path]
  | _ => []

/-- What the user has to be asked before the command is answered. -/
def question? (found : Surroundings) : Command → Option String
  | .initSettings text =>
    let path := Path.ofText text
    if found.files.holds path then some (Consent.overwriteQuestion path.toText) else none
  | _ => none

/-- **The answer to a command,** once the user has been asked. -/
def answerWith (tools : Tools) (found : Surroundings) (consent : Consent) : Command → Answer
  | .recast order => answerRecast tools found order
  | .languages => { shown := languageTable }
  | .pairs => { shown := pairTable }
  | .initSettings path => answerInit tools found path consent
  | .version => { shown := Display.message "RuleMorph version 1.0.0" }

/-- **The answer to a command,** with the question and the user's lines shown in front. -/
def answer (tools : Tools) (found : Surroundings) (lines : List String) (command : Command) :
    Answer :=
  match command.question? found with
  | none => command.answerWith tools found .given
  | some question =>
    let (asked, consent) := tools.confirm question lines
    let answer := command.answerWith tools found consent
    { answer with shown := asked ++ answer.shown }

end Command

/-- The answer to an invocation. -/
def Invocation.answer (tools : Command.Tools) (found : Surroundings) (lines : List String) :
    Invocation → Answer
  | .call command => command.answer tools found lines
  | .ended exitCode => { exitCode }

/-- **The answer to arguments.** -/
def Command.answerTo (found : Surroundings) (lines args : List String) (tools : Tools := {}) :
    Answer :=
  (Invocation.ofArguments args).answer tools found lines

end Recast
