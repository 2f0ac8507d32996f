import Recast.Pattern.Replace
import Recast.Phrase

/-!
# Rule — a named replacement step

A rule replaces every stretch of a text that its pattern reads. It never fails: a text in which the
pattern cannot be read stays as it is. Rules of a chain run one after the other, each over the whole
text that the one before it left.
-/

namespace Recast

/-- A named replacement step. -/
structure Rule where
  /-- What the rule is called in its chain. -/
  name : String
  /-- What the rule looks for. -/
  pattern : Pattern
  /-- What it writes in its place. -/
  phrase : Phrase

/-- The phrase with its blanks filled from a reading. -/
def Phrase.fillFrom (phrase : Phrase) (spot : Spot) : List Char :=
  phrase.fill fun number => (spot.keptText? number).getD []

namespace Rule

/-- The text after the rule. -/
def apply (rule : Rule) (text : List Char) : List Char :=
  rule.pattern.replaceAll rule.phrase.fillFrom text

/-- The rule looks at where lines begin or end. -/
def perLine (rule : Rule) : Bool := rule.pattern.mentionsLines

/-- The text after the rules, one after the other. -/
def applyAll (rules : List Rule) (text : List Char) : List Char :=
  rules.foldl (fun text rule => rule.apply text) text

/-- The rules that change the text at their turn, each with the text it leaves. -/
def trace : List Rule → List Char → List (String × List Char)
  | [], _ => []
  | rule :: rules, text =>
    let next := rule.apply text
    if next = text then trace rules next else (rule.name, next) :: trace rules next

end Rule

end Recast
