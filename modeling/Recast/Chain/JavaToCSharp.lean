import Recast.Chain.Basic
import Recast.Chain.Forms

/-!
# Chain/JavaToCSharp — Java source into C#

Both are brace languages of much the same shape, so the rules exchange words and method names and
leave the blocks alone. Imports have no direct counterpart and disappear.
-/

namespace Recast.Chain

open Form Pattern Text

/-- `callee(…);`, up to the first closing parenthesis, with or without the semicolon. -/
def callStatement (callee : String) : Pattern :=
  all [.text callee, blanks, "(", blanks, .group 1 (many1 (isNot ')')), blanks, ")", blanks,
    optional ";"]

/-- The header of the main method. -/
def mainHeader : Pattern :=
  all ["public", gap, "static", gap, "void", gap, "main", blanks, "(", blanks, "String[]", gap,
    word, blanks, ")"]

/-- An import on a line of its own, together with its line feed. -/
def importLine : Pattern :=
  all [.edge .lineStart, margin, "import", gap, many1 (fun c => isWord c || c == '.' || c == '*'),
    blanks, ";", margin, optional "\n"]

/-- The rules from Java to C#. -/
def javaToCSharpRules : List Rule :=
  [ ⟨"println", callStatement "System.out.println", ["Console.WriteLine(", 1, ");"]⟩,
    ⟨"print", callStatement "System.out.print", ["Console.Write(", 1, ");"]⟩,
    ⟨"main", mainHeader, ["static void Main(string[] args)"]⟩,
    ⟨"string_type", wholeWord "String", ["string"]⟩,
    ⟨"boolean_type", wholeWord "boolean", ["bool"]⟩,
    ⟨"array_list", keyword "ArrayList<", ["List<"]⟩,
    ⟨"hash_map", keyword "HashMap<", ["Dictionary<"]⟩,
    ⟨"extends", wholeWord "extends", [":"]⟩,
    ⟨"list_add", methodOpen "add", [".Add("]⟩,
    ⟨"size", methodCall "size", [".Count"]⟩,
    ⟨"str_length", methodCall "length", [".Length"]⟩,
    ⟨"equals", methodOpen "equals", [".Equals("]⟩,
    ⟨"to_upper", methodCall "toUpperCase", [".ToUpper()"]⟩,
    ⟨"to_lower", methodCall "toLowerCase", [".ToLower()"]⟩,
    ⟨"trim", methodCall "trim", [".Trim()"]⟩,
    ⟨"import", importLine, []⟩ ]

/-- Java to C#. -/
def javaToCSharp : Chain where
  source := "java"
  target := "csharp"
  rules := javaToCSharpRules
  wrapper := some { header := "using System;\n\n" }

end Recast.Chain
