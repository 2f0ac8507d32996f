import Recast.Block.Inference
import Recast.Journal
import Recast.Rule
import Recast.Wrapper

/-!
# Chain/Basic — recasting one language into another by an ordered list of rules

A chain runs its rules over the text, then puts in the closing tokens of the target language, then
wraps the body. The order matters: closing tokens are found from headers that the rules have already
written, and the wrapper's own lines are never looked at.
-/

namespace Recast

/-- The way from one language to another. -/
structure Chain where
  source : String
  target : String
  rules : List Rule
  /-- How blocks of the target end; without it no token is put in. -/
  closer : Option Closer := none
  /-- What stands around every body. -/
  wrapper : Option Wrapper := none

namespace Chain

/-- The text after the rules. -/
def runRules (chain : Chain) (code : List Char) : List Char := Rule.applyAll chain.rules code

/-- The text that the rules left, with its closing tokens put in. -/
def closeBlocks (chain : Chain) (matching : Matching) (recast : List Char) : List Char :=
  match chain.closer with
  | some closer => closer.closeText matching recast
  | none => recast

/-- A body between the chain's header and footer. -/
def wrapBody (chain : Chain) (body : List Char) : List Char :=
  match chain.wrapper with
  | some wrapper => wrapper.wrap body
  | none => body

/-- **The text in the target language.** -/
def transform (chain : Chain) (matching : Matching) (code : List Char) : List Char :=
  chain.wrapBody (chain.closeBlocks matching (chain.runRules code))

/-- What is reported while the text is recast. -/
def events (chain : Chain) (matching : Matching) (code : List Char) : List Event :=
  .appliedRules chain.rules.length chain.source chain.target ::
    (chain.closer.map fun closer =>
      .closedBlocks (closer.closingCount matching (chain.runRules code)) closer.token
        matching).toList

/-- The rule of that name. -/
def rule? (chain : Chain) (name : String) : Option Rule := chain.rules.find? (·.name == name)

end Chain

end Recast
