import Recast.Chain.Basic
import Recast.Chain.Shared

/-!
# Chain/ToJavaScript — Python source into JavaScript

Assignments become `let` declarations, whatever their value. Exceptions and classes come
last, by headers of their own.
-/

namespace Recast.Chain

open Form Pattern Shared

/-- The rules from Python to JavaScript. -/
def javaScriptRules : List Rule :=
  prints "console.log(" ");" "'" ++
  [ ⟨"assign_str_double", assignText '"', [1, "let ", 2, " = \"", 3, "\";"]⟩,
    ⟨"assign_str_single", assignText '\'', [1, "let ", 2, " = '", 3, "';"]⟩,
    ⟨"assign_number", assignNumber, [1, "let ", 2, " = ", 3, ";"]⟩,
    ⟨"assign_true", assignWord "True", [1, "let ", 2, " = true;"]⟩,
    ⟨"assign_false", assignWord "False", [1, "let ", 2, " = false;"]⟩,
    ⟨"assign_none", assignWord "None", [1, "let ", 2, " = null;"]⟩,
    ⟨"assign_list", assignBetween '[' ']', [1, "let ", 2, " = [", 3, "];"]⟩,
    ⟨"assign_dict", assignBetween '{' '}', [1, "let ", 2, " = \x7b", 3, "\x7d;"]⟩,
    ⟨"assign_any", assignAny, [1, "let ", 2, " = ", 3, ";"]⟩,
    ⟨"def", definition, ["function ", 1, "(", 2, ") \x7b"]⟩,
    returnStatement ] ++
  parenBranches "else if" ++
  countedLoops "let " "" "" ++
  [ ⟨"for_each", forEach, ["for (let ", 1, " of ", 2, ") \x7b"]⟩,
    ⟨"append", methodOpen "append", [".push("]⟩,
    ⟨"extend", methodOpen "extend", [".push(..."]⟩,
    ⟨"len", len, [1, ".length"]⟩ ] ++
  valueMethods ".trim()" ".toUpperCase()" ".toLowerCase()" ++
  logic "true" "false" "null" ++
  [ ⟨"input_double", callText "input" '"', ["prompt(\"", 1, "\")"]⟩,
    ⟨"input_single", callText "input" '\'', ["prompt('", 1, "')"]⟩,
    ⟨"input_expr", inputExpr, ["prompt(", 1, ")"]⟩,
    slashComment,
    ⟨"try", bareHeader "try", ["try \x7b"]⟩,
    ⟨"except_as", exceptAs, ["\x7d catch (", 2, ") \x7b"]⟩,
    ⟨"except_type", exceptKind, ["\x7d catch (", 1, ") \x7b"]⟩,
    ⟨"except_bare", bareHeader "except", ["\x7d catch (error) \x7b"]⟩,
    ⟨"finally", bareHeader "finally", ["\x7d finally \x7b"]⟩,
    ⟨"class", classHeader, ["class ", 1, " \x7b"]⟩,
    ⟨"class_extends", classExtends, ["class ", 1, " extends ", 2, " \x7b"]⟩ ]

/-- Python to JavaScript. -/
def toJavaScript : Chain where
  source := "python"
  target := "javascript"
  rules := javaScriptRules
  closer := some .brace

end Recast.Chain
