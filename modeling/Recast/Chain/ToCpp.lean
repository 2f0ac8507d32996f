import Recast.Chain.Basic
import Recast.Chain.Shared

/-!
# Chain/ToCpp — Python source into C++

Assignments of literals become typed declarations; an assignment of anything else stays as it is.
The body stands in a main function.
-/

namespace Recast.Chain

open Form Pattern Shared

/-- The rules from Python to C++. -/
def cppRules : List Rule :=
  prints "std::cout << " " << std::endl;" "\"" ++
  assignTexts "std::string " " = " ";" ++
  [ ⟨"assign_int", assignInt, [1, "int ", 2, " = ", 3, ";"]⟩,
    ⟨"assign_float", assignFloat, [1, "double ", 2, " = ", 3, ";"]⟩,
    ⟨"assign_true", assignWord "True", [1, "bool ", 2, " = true;"]⟩,
    ⟨"assign_false", assignWord "False", [1, "bool ", 2, " = false;"]⟩,
    ⟨"assign_list", assignBetween '[' ']', [1, "std::vector<int> ", 2, " = \x7b", 3, "\x7d;"]⟩,
    ⟨"def", definition, ["auto ", 1, "(", 2, ") \x7b"]⟩,
    returnStatement ] ++
  parenBranches "else if" ++
  countedLoops "int " "" "" ++
  [ ⟨"for_each", forEach, ["for (auto ", 1, " : ", 2, ") \x7b"]⟩,
    ⟨"append", methodOpen "append", [".push_back("]⟩,
    ⟨"len", len, [1, ".size()"]⟩ ] ++
  logic "true" "false" "nullptr" ++
  [slashComment]

/-- Python to C++. -/
def toCpp : Chain where
  source := "python"
  target := "cpp"
  rules := cppRules
  closer := some .brace
  wrapper := some
    { header := "#include <iostream>\n#include <string>\n#include <vector>\n\nint main() \x7b\n"
      footer := "\n    return 0;\n\x7d"
      indent := "    " }

end Recast.Chain
