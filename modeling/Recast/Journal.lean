import Recast.Block.Inference
import Recast.Strategy

/-!
# Journal — what is reported while a text is recast

Each step reports what it did as an `Event`. An event has a level, a speaker and a message; which
levels are shown is for the reader to choose.
-/

namespace Recast

/-- How much an event matters. -/
inductive Level
  | debug
  | info
  | warning
  | error
  | critical
deriving Repr, DecidableEq, Inhabited

namespace Level

/-- Every level, the least important first. -/
def all : List Level := [.debug, .info, .warning, .error, .critical]

/-- What the level is called. -/
def name : Level → String
  | .debug => "DEBUG"
  | .info => "INFO"
  | .warning => "WARNING"
  | .error => "ERROR"
  | .critical => "CRITICAL"

/-- The level's place among the levels. -/
def rank : Level → Nat
  | .debug => 0
  | .info => 1
  | .warning => 2
  | .error => 3
  | .critical => 4

/-- The level of that name. -/
def ofName? (name : String) : Option Level := all.find? (·.name == name)

/-- A level is found by its name. -/
theorem ofName?_name (level : Level) : ofName? level.name = some level := by
  cases level <;> decide

end Level

/-- Something that happened while a text was recast. -/
inductive Event
  /-- The text has more lines than the limit. -/
  | longSource (lineCount limit : Nat)
  /-- A way was chosen for the pair. -/
  | chosen (source target : String) (strategy : Strategy)
  /-- There is neither a template nor a chain for the pair. -/
  | nothingFits (source target : String)
  /-- The rules of a chain were run. -/
  | appliedRules (count : Nat) (source target : String)
  /-- Closing tokens were put in. -/
  | closedBlocks (count : Nat) (token : String) (matching : Matching)
  /-- The body was put into the target's main function. -/
  | wrapped (language : String)
  /-- The chosen way could not be gone. -/
  | degraded (strategy : Strategy) (source target : String)
  /-- The result is there. -/
  | finished (source target : String) (strategy : Strategy) (confidence : Nat)
deriving Repr, DecidableEq

namespace Event

/-- How much the event matters. -/
def level : Event → Level
  | .longSource .. => .warning
  | .degraded .. => .error
  | .finished .. => .info
  | _ => .debug

/-- Who reports the event. -/
def speaker : Event → String
  | .chosen .. | .nothingFits .. => "rulemorph.engine.strategy"
  | .appliedRules .. => "rulemorph.engine.pairwise"
  | .closedBlocks .. => "rulemorph.engine.blocks"
  | .wrapped .. => "rulemorph.engine.template_engine"
  | .longSource .. | .degraded .. | .finished .. => "rulemorph.engine.translator"

/-- What the event says. -/
def message : Event → String
  | .longSource lineCount limit =>
    s!"Source has {lineCount} lines (limit {limit}); translation may be slow"
  | .chosen source target strategy =>
    source ++ " -> " ++ target ++ ": " ++ strategy.name ++ " strategy"
  | .nothingFits source target =>
    source ++ " -> " ++ target ++ ": no template or chain, using generic strategy"
  | .appliedRules count source target => s!"Applying {count} rules for {source} -> {target}"
  | .closedBlocks count token matching =>
    s!"Inserted {count} " ++ "'" ++ token ++ "' closer(s) (" ++ matching.name ++ ")"
  | .wrapped language => "Wrapping " ++ language ++ " body in an entry point"
  | .degraded strategy source target =>
    strategy.name ++ " translation " ++ source ++ " -> " ++ target ++
      " failed; degrading to generic"
  | .finished source target strategy confidence =>
    "Fallback translation " ++ source ++ " -> " ++ target ++ " via " ++ strategy.name ++
      s!" (confidence {confidence})"

end Event

end Recast
