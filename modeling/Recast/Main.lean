import Recast.Command.Answer

/-!
# Main — the command line

Finds out what the command needs to know, has it answered, and does what the answer says.
-/

namespace Recast.Console

/-- The variables of the environment that matter. -/
def readEnvironment : IO Environment := do
  let names := [Settings.matchingVariable, Settings.templatesVariable, Settings.levelVariable]
  let values ← names.mapM fun name => do
    return (← IO.getEnv name).map fun value => (name, value)
  return values.reduceOption

/-- What the path leads to, put with the files; those on the way have been put there before. A
directory is what cannot be read for not being a file. -/
def readPlace (files : Files) (path : Path) : IO Files := do
  match files.locate path with
  | .error _ => return files
  | .ok place =>
    try
      let content ← IO.FS.readBinFile path.toText
      return { files with contents := files.contents ++ [(place, content.toList)] }
    catch
      | .inappropriateType .. => return { files with directories := files.directories ++ [place] }
      | _ => return files

/-- The files that matter to the command. -/
def readFiles (command : Command) : IO Files :=
  (command.paths.flatMap Path.ancestry).foldlM readPlace { contents := [] }

/-- The user's answer to the question. -/
partial def askUser (question : String) : IO Consent := do
  IO.print question
  (← IO.getStdout).flush
  let line ← (← IO.getStdin).getLine
  if line.isEmpty then return .refused
  match Consent.ofLine? line with
  | some consent => return consent
  | none =>
    IO.print Consent.notUnderstood
    askUser question

/-- Makes the change. -/
def perform : Change → IO Unit
  | .makeDirectory path => IO.FS.createDirAll path.toText
  | .write path content => IO.FS.writeBinFile path.toText ⟨content.toArray⟩

/-- Gives the answer. -/
def give (answer : Answer) : IO UInt32 := do
  IO.eprint answer.logged
  answer.changes.forM perform
  IO.print answer.shown
  match answer.breakdown with
  | some breakdown => IO.eprintln breakdown.message
  | none => pure ()
  if answer.isUnwritable then IO.eprintln Answer.unwritableMessage
  return answer.exitCode.toUInt32

/-- Answers the arguments. -/
def answer (args : List String) : IO UInt32 := do
  match Invocation.ofArguments args with
  | .ended exitCode => return exitCode.toUInt32
  | .call command =>
    let found : Surroundings := { env := ← readEnvironment, files := ← readFiles command }
    let consent ←
      match command.question? found with
      | some question => askUser question
      | none => pure .given
    give (command.answerWith {} found consent)

end Recast.Console

/-- Answers the arguments of the command line. -/
def main (args : List String) : IO UInt32 := Recast.Console.answer args
