import Recast.Chain.Basic
import Recast.Chain.Shared

/-!
# Chain/ToC — Python source into C

Output goes through format strings, which keep the line feed as an escape. Truth values are numbers.
There is no loop over the members of a collection, so such a header stays as it is. The body stands
in a main function.
-/

namespace Recast.Chain

open Form Pattern Shared

/-- The rules from Python to C. -/
def cRules : List Rule :=
  [ ⟨"print_double", callText "print" '"', ["printf(\"", 1, "\\n\");"]⟩,
    ⟨"print_single", callText "print" '\'', ["printf(\"", 1, "\\n\");"]⟩,
    ⟨"print_expr", printExpr, ["printf(\"%d\\n\", ", 1, ");"]⟩ ] ++
  assignTexts "char " "[] = " ";" ++
  [ ⟨"assign_int", assignInt, [1, "int ", 2, " = ", 3, ";"]⟩,
    ⟨"assign_float", assignFloat, [1, "double ", 2, " = ", 3, ";"]⟩,
    ⟨"assign_true", assignWord "True", [1, "int ", 2, " = 1;"]⟩,
    ⟨"assign_false", assignWord "False", [1, "int ", 2, " = 0;"]⟩,
    ⟨"assign_none", assignWord "None", [1, "void *", 2, " = NULL;"]⟩,
    ⟨"assign_list", assignBetween '[' ']', [1, "int ", 2, "[] = \x7b", 3, "\x7d;"]⟩,
    ⟨"def", definition, ["void ", 1, "(", 2, ") \x7b"]⟩,
    returnStatement ] ++
  parenBranches "else if" ++
  countedLoops "int " "" "" ++
  [ ⟨"len", len, ["(sizeof(", 1, ") / sizeof(", 1, "[0]))"]⟩ ] ++
  logic "1" "0" "NULL" ++
  [slashComment]

/-- Python to C. -/
def toC : Chain where
  source := "python"
  target := "c"
  rules := cRules
  closer := some .brace
  wrapper := some
    { header := "#include <stdio.h>\n\nint main() \x7b\n"
      footer := "\n    return 0;\n\x7d"
      indent := "    " }

end Recast.Chain
