import Recast.Text.Blank
import Recast.Text.Lower

/-!
# Command/Consent — a question that is asked until it is answered

A file that is there already is overwritten only with the user's consent. The answer is yes, no, or
an empty line, which means no; any other line has the question asked again. Without an answer there
is no consent.
-/

namespace Recast

/-- The outcome of a question. -/
inductive Consent
  | given
  | refused
deriving Repr, DecidableEq

namespace Consent

/-- What a line answers, if it is an answer. -/
def ofLine? (line : String) : Option Consent :=
  match String.ofList (Text.trim (Text.lower line.toList)) with
  | "y" | "yes" => some .given
  | "n" | "no" | "" => some .refused
  | _ => none

/-- The question about a file. -/
def overwriteQuestion (path : String) : String := path ++ " already exists. Overwrite? [y/N]: "

/-- What is said to a line that is no answer. -/
def notUnderstood : String := "Error: invalid input\n"

/-- **What is shown while the question is asked,** the answers among it, and the outcome. -/
def ask (question : String) : List String → String × Consent
  | [] => (question, .refused)
  | line :: lines =>
    match ofLine? line with
    | some consent => (question ++ line ++ "\n", consent)
    | none =>
      let (shown, consent) := ask question lines
      (question ++ line ++ "\n" ++ notUnderstood ++ shown, consent)

end Consent

end Recast
