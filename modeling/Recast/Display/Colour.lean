/-!
# Display/Colour — the colours of confidence

A confidence is shown in the colour of a traffic light, where the console has colours. Words are
therefore kept with their colours (`Span`), and a console without colours shows the words alone.
-/

namespace Recast.Display

/-- A colour of the console. -/
inductive Colour
  | green
  | yellow
  | red
deriving Repr, DecidableEq

namespace Colour

/-- What the colour is called. -/
def name : Colour → String
  | .green => "green"
  | .yellow => "yellow"
  | .red => "red"

/-- **The colour of a confidence.** -/
def ofConfidence (confidence : Int) : Colour :=
  if 60 ≤ confidence then .green
  else if 40 ≤ confidence then .yellow
  else .red

end Colour

/-- Words that may have a colour of their own. -/
structure Span where
  words : String
  colour : Option Colour := none
deriving Repr, DecidableEq

namespace Span

/-- The words alone. -/
def plain (spans : List Span) : String := String.join (spans.map Span.words)

/-- A confidence in its colour. -/
def ofConfidence (confidence : Nat) : Span :=
  { words := toString confidence, colour := some (.ofConfidence confidence) }

end Span

end Recast.Display
