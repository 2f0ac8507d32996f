import Recast.Chain.Forms
import Recast.Rule

/-!
# Chain/Shared — what several target languages write alike

Many targets share the shape of their statements and differ in a word or two: brace languages write
branches and counted loops alike, and each has its own spelling of the truth values. These lists are
the common parts, with the words that differ as parameters. In emitted text `\x7b` and `\x7d` are
the opening and the closing brace.
-/

namespace Recast.Shared

open Form Pattern

/-- Output statements that put `before` and `after` around what they print. A text that stood
between single quotes is printed between `quote`s. -/
def prints (before after quote : String) : List Rule :=
  [ ⟨"print_double", callText "print" '"', [before, "\"", 1, "\"", after]⟩,
    ⟨"print_single", callText "print" '\'', [before, quote, 1, quote, after]⟩,
    ⟨"print_expr", printExpr, [before, 1, after]⟩ ]

/-- Text assignments, their quotes made double ones. -/
def assignTexts (before between after : String) : List Rule :=
  [ ⟨"assign_str_double", assignText '"', [1, before, 2, between, "\"", 3, "\"", after]⟩,
    ⟨"assign_str_single", assignText '\'', [1, before, 2, between, "\"", 3, "\"", after]⟩ ]

/-- `return value;`. -/
def returnStatement : Rule := ⟨"return", returnLine, [1, "return ", 2, ";"]⟩

/-- Branches and the conditional loop with their conditions between parentheses. -/
def parenBranches (otherwise : String) : List Rule :=
  [ ⟨"if", header "if", ["if (", 1, ") \x7b"]⟩,
    ⟨"elif", header "elif", ["\x7d ", otherwise, " (", 1, ") \x7b"]⟩,
    ⟨"else", bareHeader "else", ["\x7d else \x7b"]⟩,
    ⟨"while", header "while", ["while (", 1, ") \x7b"]⟩ ]

/-- Branches and the conditional loop, started by `whileWord`, with their conditions bare. -/
def bareBranches (whileWord : String) : List Rule :=
  [ ⟨"if", header "if", ["if ", 1, " \x7b"]⟩,
    ⟨"elif", header "elif", ["\x7d else if ", 1, " \x7b"]⟩,
    ⟨"else", bareHeader "else", ["\x7d else \x7b"]⟩,
    ⟨"while", header "while", [whileWord, " ", 1, " \x7b"]⟩ ]

/-- Counted loops over a variable that is declared by `declare` before and `typed` behind its name;
`sigil` stands before each use of it. -/
def countedLoops (declare typed sigil : String) : List Rule :=
  [ ⟨"for_range_1", forRange1,
      ["for (", declare, 1, typed, " = 0; ", sigil, 1, " < ", 2, "; ", sigil, 1, "++) \x7b"]⟩,
    ⟨"for_range_2", forRange2,
      ["for (", declare, 1, typed, " = ", 2, "; ", sigil, 1, " < ", 3, "; ", sigil, 1, "++) \x7b"]⟩,
    ⟨"for_range_3", forRange3,
      ["for (", declare, 1, typed, " = ", 2, "; ", sigil, 1, " < ", 3, "; ", sigil, 1, " += ", 4,
        ") \x7b"]⟩ ]

/-- Methods without arguments that a value has under other names. -/
def valueMethods (strip upper lower : String) : List Rule :=
  [ ⟨"strip", methodCall "strip", [strip]⟩,
    ⟨"upper", methodCall "upper", [upper]⟩,
    ⟨"lower", methodCall "lower", [lower]⟩ ]

/-- Connectives as signs, and the truth values and the absent value in the target's spelling. -/
def logic (yes no absent : String) : List Rule :=
  [ ⟨"and", wholeWord "and", ["&&"]⟩,
    ⟨"or", wholeWord "or", ["||"]⟩,
    ⟨"not", wholeWord "not", ["!"]⟩,
    ⟨"true", wholeWord "True", [yes]⟩,
    ⟨"false", wholeWord "False", [no]⟩,
    ⟨"none", wholeWord "None", [absent]⟩ ]

/-- Line comments behind two slashes. -/
def slashComment : Rule := ⟨"comment", comment, [1, "// ", 2]⟩

end Recast.Shared
