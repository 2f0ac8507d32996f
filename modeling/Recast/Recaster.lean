import Recast.Catalog
import Recast.Chain.Catalog
import Recast.Echo
import Recast.Template.Carry

/-!
# Recaster — from any text and any two languages to a result

A recaster chooses a way by the two languages alone: through their templates, by the chain of the
pair, or by showing the source as comments. Every text has a result. Where the chosen way cannot be
gone, because a template is missing that the catalog announces, or because one of its generators
fails, the source is shown as comments, and the result says so.
-/

namespace Recast

/-- What the user of a recaster may choose. -/
structure Options where
  /-- How closing tokens are matched with the blocks that end. -/
  matching : Matching := .lookahead
  /-- Templates come before the chain of the pair, where both would do. -/
  preferTemplates : Bool := true
  /-- A longer text is reported, though treated like any other. -/
  maxLines : Option Nat := none
deriving Repr, DecidableEq, Inhabited

/-- A recast text, and how it came about. -/
structure Outcome where
  code : String
  strategy : Strategy
  confidence : Nat
  /-- The result stands in for one that could not be had, as every result does. -/
  isFallback : Bool := true
deriving Repr, DecidableEq, Inhabited

/-- The choices of the user, and the languages that are known. -/
structure Recaster where
  options : Options := {}
  catalog : Catalog := .standard

namespace Recaster

/-! ## Choosing a way -/

/-- The way for a pair of languages, known by their ids. -/
def choose (catalog : Catalog) (preferTemplates : Bool) (source target : String) : Strategy :=
  let templates := catalog.hasTemplate source && catalog.hasTemplate target
  let chain := (Chain.find? source target).isSome
  if preferTemplates then
    if templates then .template else if chain then .pairwise else .generic
  else
    if chain then .pairwise else if templates then .template else .generic

/-- What is reported of the choice. -/
def choiceEvent (strategy : Strategy) (source target : String) : Event :=
  if strategy = .generic then .nothingFits source target else .chosen source target strategy

/-! ## Going it -/

/-- The text in the target language, if the way can be gone. -/
def follow? (recaster : Recaster) (strategy : Strategy) (code : List Char)
    (source target : Language) : Option (List Char) :=
  match strategy with
  | .template => do
    let sourceGenerators ← recaster.catalog.template? source.id
    let targetGenerators ← recaster.catalog.template? target.id
    Generators.carry code sourceGenerators targetGenerators
  | .pairwise => do
    let chain ← Chain.find? source.id target.id
    return chain.transform recaster.options.matching code
  | .generic => some (Echo.render code source target)

/-- What is reported on the way, as far as it can be gone. -/
def wayEvents (recaster : Recaster) (strategy : Strategy) (code : List Char)
    (source target : Language) : List Event :=
  let reported? : Option (List Event) :=
    match strategy with
    | .template => do
      let sourceGenerators ← recaster.catalog.template? source.id
      let targetGenerators ← recaster.catalog.template? target.id
      Generators.events code sourceGenerators targetGenerators
    | .pairwise => do
      let chain ← Chain.find? source.id target.id
      return chain.events recaster.options.matching code
    | .generic => none
  reported?.getD []

/-- The event of a text with more lines than the limit. -/
def lengthEvents (options : Options) (code : List Char) : List Event :=
  match options.maxLines with
  | none => []
  | some limit =>
    let lineCount := code.count '\n' + 1
    if limit < lineCount then [.longSource lineCount limit] else []

/-- **The text in the target language,** as it is given, together with what is reported. -/
def recastText (recaster : Recaster) (code : List Char) (source target : Language) :
    Outcome × List Event :=
  let chosen := choose recaster.catalog recaster.options.preferTemplates source.id target.id
  let (strategy, result, failure) : Strategy × List Char × List Event :=
    match recaster.follow? chosen code source target with
    | some result => (chosen, result, [])
    | none =>
      (.generic, Echo.render code source target, [.degraded chosen source.id target.id])
  let confidence := Confidence.estimate strategy source.id target.id
  ({ code := String.ofList result, strategy, confidence },
    lengthEvents recaster.options code ++ choiceEvent chosen source.id target.id ::
      recaster.wayEvents chosen code source target ++ failure ++
      [.finished source.id target.id strategy confidence])

/-- **The text in the target language,** with line ends made uniform first. A text that is missing
counts as an empty one. -/
def recast (recaster : Recaster) (code : Option String) (source target : LanguageRef) :
    Outcome × List Event :=
  recaster.recastText (Text.joinReturns (code.getD "").toList) (recaster.catalog.resolveRef source)
    (recaster.catalog.resolveRef target)

end Recaster

end Recast
