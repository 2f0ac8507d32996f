import Recast.Chain.Basic
import Recast.Chain.Shared

/-!
# Chain/ToGo — Python source into Go

Short declarations take their type from the literal. The only loop word is `for`, conditions stand
bare, and `return` needs no rule. The body stands in the main function of the main package.
-/

namespace Recast.Chain

open Form Pattern Shared

/-- The rules from Python to Go. -/
def goRules : List Rule :=
  prints "fmt.Println(" ")" "\"" ++
  assignTexts "" " := " "" ++
  [ ⟨"assign_int", assignInt, [1, 2, " := ", 3]⟩,
    ⟨"assign_float", assignFloat, [1, 2, " := ", 3]⟩,
    ⟨"assign_true", assignWord "True", [1, 2, " := true"]⟩,
    ⟨"assign_false", assignWord "False", [1, 2, " := false"]⟩,
    ⟨"assign_list", assignBetween '[' ']', [1, 2, " := []interface\x7b\x7d\x7b", 3, "\x7d"]⟩,
    ⟨"def", definition, ["func ", 1, "(", 2, ") \x7b"]⟩ ] ++
  bareBranches "for" ++
  [ ⟨"for_range_1", forRange1, ["for ", 1, " := 0; ", 1, " < ", 2, "; ", 1, "++ \x7b"]⟩,
    ⟨"for_range_2", forRange2, ["for ", 1, " := ", 2, "; ", 1, " < ", 3, "; ", 1, "++ \x7b"]⟩,
    ⟨"for_range_3", forRange3,
      ["for ", 1, " := ", 2, "; ", 1, " < ", 3, "; ", 1, " += ", 4, " \x7b"]⟩,
    ⟨"for_each", forEach, ["for _, ", 1, " := range ", 2, " \x7b"]⟩,
    ⟨"append", appendTo, [1, " = append(", 1, ", ", 2, ")"]⟩ ] ++
  logic "true" "false" "nil" ++
  [slashComment]

/-- Python to Go. -/
def toGo : Chain where
  source := "python"
  target := "go"
  rules := goRules
  closer := some .brace
  wrapper := some
    { header := "package main\n\nimport \"fmt\"\n\nfunc main() \x7b\n"
      footer := "\n\x7d"
      indent := "    " }

end Recast.Chain
