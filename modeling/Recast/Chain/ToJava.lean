import Recast.Chain.Basic
import Recast.Chain.Shared

/-!
# Chain/ToJava — Python source into Java

Assignments of literals become typed declarations; an assignment of anything else stays as it is.
The body stands in the main method of a class, two levels deep.
-/

namespace Recast.Chain

open Form Pattern Shared

/-- The rules from Python to Java. -/
def javaRules : List Rule :=
  prints "System.out.println(" ");" "\"" ++
  assignTexts "String " " = " ";" ++
  [ ⟨"assign_int", assignInt, [1, "int ", 2, " = ", 3, ";"]⟩,
    ⟨"assign_float", assignFloat, [1, "double ", 2, " = ", 3, ";"]⟩,
    ⟨"assign_true", assignWord "True", [1, "boolean ", 2, " = true;"]⟩,
    ⟨"assign_false", assignWord "False", [1, "boolean ", 2, " = false;"]⟩,
    ⟨"assign_none", assignWord "None", [1, "Object ", 2, " = null;"]⟩,
    ⟨"assign_list", assignBetween '[' ']',
      [1, "ArrayList<Object> ", 2, " = new ArrayList<>(Arrays.asList(", 3, "));"]⟩,
    ⟨"def", definition, ["public static void ", 1, "(", 2, ") \x7b"]⟩,
    returnStatement ] ++
  parenBranches "else if" ++
  countedLoops "int " "" "" ++
  [ ⟨"for_each", forEach, ["for (var ", 1, " : ", 2, ") \x7b"]⟩,
    ⟨"append", methodOpen "append", [".add("]⟩,
    ⟨"len", len, [1, ".size()"]⟩ ] ++
  valueMethods ".trim()" ".toUpperCase()" ".toLowerCase()" ++
  logic "true" "false" "null" ++
  [slashComment]

/-- Python to Java. -/
def toJava : Chain where
  source := "python"
  target := "java"
  rules := javaRules
  closer := some .brace
  wrapper := some
    { header := "import java.util.*;\n\npublic class PythonTranslation \x7b\n" ++
        "    public static void main(String[] args) \x7b\n"
      footer := "\n    \x7d\n\x7d"
      indent := "        " }

end Recast.Chain
