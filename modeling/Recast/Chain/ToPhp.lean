import Recast.Chain.Basic
import Recast.Chain.Shared

/-!
# Chain/ToPhp — Python source into PHP

Variables need no declared type, only a dollar sign, which an assignment, a loop header and the
receiver of a known method get. The body stands between the tags of the language.
-/

namespace Recast.Chain

open Form Pattern Shared

/-- The rules from Python to PHP. -/
def phpRules : List Rule :=
  prints "echo " ";" "'" ++
  [ ⟨"assign_any", assignAny, [1, "$", 2, " = ", 3, ";"]⟩,
    ⟨"def", definition, ["function ", 1, "(", 2, ") \x7b"]⟩,
    returnStatement ] ++
  parenBranches "elseif" ++
  countedLoops "$" "" "$" ++
  [ ⟨"for_each", forEach, ["foreach (", 2, " as $", 1, ") \x7b"]⟩,
    ⟨"append", appendTo, ["array_push($", 1, ", ", 2, ")"]⟩,
    ⟨"len", len, ["count(", 1, ")"]⟩,
    ⟨"strip", methodOn "strip", ["trim($", 1, ")"]⟩,
    ⟨"upper", methodOn "upper", ["strtoupper($", 1, ")"]⟩,
    ⟨"lower", methodOn "lower", ["strtolower($", 1, ")"]⟩ ] ++
  logic "true" "false" "null" ++
  [slashComment]

/-- Python to PHP. -/
def toPhp : Chain where
  source := "python"
  target := "php"
  rules := phpRules
  closer := some .brace
  wrapper := some { header := "<?php\n", footer := "\n?>" }

end Recast.Chain
