import Recast.Chain.Basic
import Recast.Chain.Shared

/-!
# Chain/ToCSharp — Python source into C#

Assignments of literals become typed declarations; an assignment of anything else stays as it is.
The body stands in the main method of a class, two levels deep.
-/

namespace Recast.Chain

open Form Pattern Shared

/-- The rules from Python to C#. -/
def cSharpRules : List Rule :=
  prints "Console.WriteLine(" ");" "\"" ++
  assignTexts "string " " = " ";" ++
  [ ⟨"assign_int", assignInt, [1, "int ", 2, " = ", 3, ";"]⟩,
    ⟨"assign_float", assignFloat, [1, "double ", 2, " = ", 3, ";"]⟩,
    ⟨"assign_true", assignWord "True", [1, "bool ", 2, " = true;"]⟩,
    ⟨"assign_false", assignWord "False", [1, "bool ", 2, " = false;"]⟩,
    ⟨"assign_none", assignWord "None", [1, "object ", 2, " = null;"]⟩,
    ⟨"assign_list", assignBetween '[' ']',
      [1, "var ", 2, " = new List<object> \x7b ", 3, " \x7d;"]⟩,
    ⟨"def", definition, ["public static void ", 1, "(", 2, ") \x7b"]⟩,
    returnStatement ] ++
  parenBranches "else if" ++
  countedLoops "int " "" "" ++
  [ ⟨"for_each", forEach, ["foreach (var ", 1, " in ", 2, ") \x7b"]⟩,
    ⟨"append", methodOpen "append", [".Add("]⟩,
    ⟨"len", len, [1, ".Count"]⟩ ] ++
  valueMethods ".Trim()" ".ToUpper()" ".ToLower()" ++
  logic "true" "false" "null" ++
  [slashComment]

/-- Python to C#. -/
def toCSharp : Chain where
  source := "python"
  target := "csharp"
  rules := cSharpRules
  closer := some .brace
  wrapper := some
    { header := "using System;\n\nclass Program \x7b\n    static void Main() \x7b\n"
      footer := "\n    \x7d\n\x7d"
      indent := "        " }

end Recast.Chain
