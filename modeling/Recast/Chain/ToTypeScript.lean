import Recast.Chain.Basic
import Recast.Chain.Shared

/-!
# Chain/ToTypeScript — Python source into TypeScript

The declared type of a variable comes from the shape of the literal it is given; any other value
leaves it to the compiler.
-/

namespace Recast.Chain

open Form Pattern Shared

/-- The rules from Python to TypeScript. -/
def typeScriptRules : List Rule :=
  prints "console.log(" ");" "'" ++
  [ ⟨"assign_str_double", assignText '"', [1, "let ", 2, ": string = \"", 3, "\";"]⟩,
    ⟨"assign_str_single", assignText '\'', [1, "let ", 2, ": string = '", 3, "';"]⟩,
    ⟨"assign_int", assignInt, [1, "let ", 2, ": number = ", 3, ";"]⟩,
    ⟨"assign_float", assignFloat, [1, "let ", 2, ": number = ", 3, ";"]⟩,
    ⟨"assign_true", assignWord "True", [1, "let ", 2, ": boolean = true;"]⟩,
    ⟨"assign_false", assignWord "False", [1, "let ", 2, ": boolean = false;"]⟩,
    ⟨"assign_none", assignWord "None", [1, "let ", 2, ": any = null;"]⟩,
    ⟨"assign_list", assignBetween '[' ']', [1, "let ", 2, ": any[] = [", 3, "];"]⟩,
    ⟨"assign_any", assignAny, [1, "let ", 2, " = ", 3, ";"]⟩,
    ⟨"def", definition, ["function ", 1, "(", 2, "): void \x7b"]⟩,
    returnStatement ] ++
  parenBranches "else if" ++
  countedLoops "let " ": number" "" ++
  [ ⟨"for_each", forEach, ["for (let ", 1, " of ", 2, ") \x7b"]⟩,
    ⟨"append", methodOpen "append", [".push("]⟩,
    ⟨"len", len, [1, ".length"]⟩ ] ++
  valueMethods ".trim()" ".toUpperCase()" ".toLowerCase()" ++
  logic "true" "false" "null" ++
  [slashComment]

/-- Python to TypeScript. -/
def toTypeScript : Chain where
  source := "python"
  target := "typescript"
  rules := typeScriptRules
  closer := some .brace

end Recast.Chain
