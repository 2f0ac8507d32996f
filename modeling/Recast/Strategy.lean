/-!
# Strategy — the ways of recasting a text, and how far each is trusted

Confidence is fixed for each way and each pair of languages. It is advice to the reader of the
result and decides nothing.
-/

namespace Recast

/-- A way of recasting a text. -/
inductive Strategy
  /-- Through the templates of the two languages. -/
  | template
  /-- By the chain of the pair. -/
  | pairwise
  /-- By showing the source as comments. -/
  | generic
deriving Repr, DecidableEq, Inhabited

namespace Strategy

/-- Every way there is. -/
def all : List Strategy := [.template, .pairwise, .generic]

/-- What the way is called in results and messages. -/
def name : Strategy → String
  | .template => "template"
  | .pairwise => "pairwise"
  | .generic => "generic"

/-- The way of that name. -/
def ofName? (name : String) : Option Strategy := all.find? (·.name == name)

/-- A strategy is found by its name. -/
theorem ofName?_name (strategy : Strategy) : ofName? strategy.name = some strategy := by
  cases strategy <;> decide

end Strategy

/-! ## Confidence -/

namespace Confidence

/-- How far a result through templates is trusted. -/
def template : Nat := 60

/-- How far a commented source is trusted. -/
def generic : Nat := 25

/-- How far a chain is trusted, lower where types have to be guessed from literals. -/
def pairwise : List ((String × String) × Nat) :=
  [ (("python", "javascript"), 70),
    (("python", "typescript"), 70),
    (("python", "java"), 65),
    (("python", "ruby"), 65),
    (("python", "cpp"), 60),
    (("python", "go"), 60),
    (("python", "php"), 60),
    (("python", "csharp"), 60),
    (("python", "c"), 55),
    (("python", "swift"), 55),
    (("javascript", "python"), 50),
    (("java", "csharp"), 40) ]

/-- How far the chain of a pair is trusted; a pair without one is trusted as little as a comment. -/
def ofPair (source target : String) : Nat := (pairwise.lookup (source, target)).getD generic

/-- **How far a result is trusted,** between 0 and 100. -/
def estimate (strategy : Strategy) (source target : String) : Nat :=
  match strategy with
  | .template => template
  | .pairwise => ofPair source target
  | .generic => generic

end Confidence

end Recast
