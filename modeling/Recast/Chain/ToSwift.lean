import Recast.Chain.Basic
import Recast.Chain.Shared

/-!
# Chain/ToSwift — Python source into Swift

Counted loops run over ranges. The loop with a step is written with labelled arguments, whose colons
must not be taken for the end of a header, so the rule for other loops looks for a colon that ends
the line.
-/

namespace Recast.Chain

open Form Pattern Shared

/-- The rules from Python to Swift. -/
def swiftRules : List Rule :=
  prints "print(" ")" "\"" ++
  assignTexts "var " " = " "" ++
  [ ⟨"assign_int", assignInt, [1, "var ", 2, " = ", 3]⟩,
    ⟨"assign_float", assignFloat, [1, "var ", 2, " = ", 3]⟩,
    ⟨"assign_true", assignWord "True", [1, "var ", 2, " = true"]⟩,
    ⟨"assign_false", assignWord "False", [1, "var ", 2, " = false"]⟩,
    ⟨"assign_none", assignWord "None", [1, "var ", 2, ": Any? = nil"]⟩,
    ⟨"assign_list", assignBetween '[' ']', [1, "var ", 2, " = [", 3, "]"]⟩,
    ⟨"def", definition, ["func ", 1, "(", 2, ") \x7b"]⟩ ] ++
  bareBranches "while" ++
  [ ⟨"for_range_1", forRange1, ["for ", 1, " in 0..<", 2, " \x7b"]⟩,
    ⟨"for_range_2", forRange2, ["for ", 1, " in ", 2, "..<", 3, " \x7b"]⟩,
    ⟨"for_range_3", forRange3,
      ["for ", 1, " in stride(from: ", 2, ", to: ", 3, ", by: ", 4, ") \x7b"]⟩,
    ⟨"for_each", forEachLine, ["for ", 1, " in ", 2, " \x7b"]⟩,
    ⟨"len", len, [1, ".count"]⟩ ] ++
  valueMethods ".trimmingCharacters(in: .whitespaces)" ".uppercased()" ".lowercased()" ++
  logic "true" "false" "nil" ++
  [slashComment]

/-- Python to Swift. -/
def toSwift : Chain where
  source := "python"
  target := "swift"
  rules := swiftRules
  closer := some .brace

end Recast.Chain
