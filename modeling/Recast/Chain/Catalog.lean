import Recast.Chain.FromJavaScript
import Recast.Chain.JavaToCSharp
import Recast.Chain.ToC
import Recast.Chain.ToCSharp
import Recast.Chain.ToCpp
import Recast.Chain.ToGo
import Recast.Chain.ToJava
import Recast.Chain.ToJavaScript
import Recast.Chain.ToPhp
import Recast.Chain.ToRuby
import Recast.Chain.ToSwift
import Recast.Chain.ToTypeScript
import Recast.Language

/-!
# Chain/Catalog — the pairs of languages that have a chain

Ten chains start from Python, one leads back to it, and one goes between two brace languages. A pair
is looked up by its ids in their normal form.
-/

namespace Recast.Chain

/-- The chains that start from Python. -/
def fromPython : List Chain :=
  [toJavaScript, toTypeScript, toJava, toCpp, toC, toGo, toRuby, toPhp, toSwift, toCSharp]

/-- **Every chain there is.** -/
def catalog : List Chain := fromPython ++ [fromJavaScript, javaToCSharp]

/-- The chain from one language to another, each known by its id. -/
def find? (source target : String) : Option Chain :=
  catalog.find? fun chain => chain.source == normalId source && chain.target == normalId target

/-- The pairs that have a chain. -/
def pairs : List (String × String) := catalog.map fun chain => (chain.source, chain.target)

end Recast.Chain
