import Recast.Chain.Basic
import Recast.Chain.Forms

/-!
# Chain/FromJavaScript — JavaScript source into Python

Brace headers become colon headers, and lines that hold nothing but a closing brace disappear: the
source's own indentation is trusted to delimit the blocks. Declarations are read at the start of a
line only, so the one in the header of a counted loop is left to the loop's rule.
-/

namespace Recast.Chain

open Form Pattern Text

/-- The words that declare a variable. -/
def declarers : Pattern := anyWord ["let", "const", "var"]

/-- What stands between parentheses, up to the first closing one, kept under a number. -/
def between (number : Nat) : Pattern := .group number (many1 (isNot ')'))

/-- `name (condition) {`, with blanks wherever they are harmless. -/
def braceHeader (head : List Pattern) : Pattern :=
  all (head ++ [blanks, "(", blanks, between 1, blanks, ")", blanks, "\x7b"])

/-- `for (let i = 0; i < n; i++) {`, with the same name in the three places. -/
def countedHeader : Pattern :=
  all [keyword "for", blanks, "(", blanks, "let", gap, .group 1 word, blanks, "=", blanks, "0",
    blanks, ";", blanks, .again 1, blanks, "<", blanks, .group 2 digits, blanks, ";", blanks,
    .again 1, "++", blanks, ")", blanks, "\x7b"]

/-- `for (let item of items) {`. -/
def memberHeader : Pattern :=
  all [keyword "for", blanks, "(", blanks, declarers, gap, .group 1 word, gap, "of", gap, between 2,
    ")", blanks, "\x7b"]

/-- `name.length`, where the name may be a path. -/
def lengthOf : Pattern :=
  all [.edge .word, .group 1 (many1 fun c => isWord c || c == '.'), ".length", .edge .word]

/-- A line with nothing on it but a closing brace, together with its line feed. -/
def closingLine : Pattern :=
  all [.edge .lineStart, margin, "\x7d", optional ";", margin, .alt "\n" (.edge .lineEnd)]

/-- The rules from JavaScript to Python. -/
def fromJavaScriptRules : List Rule :=
  [ ⟨"console_log",
      all ["console.log", blanks, "(", blanks, between 1, blanks, ")", blanks, optional ";"],
      ["print(", 1, ")"]⟩,
    ⟨"declaration",
      all [.edge .lineStart, .group 1 margin, declarers, gap, .group 2 word, blanks, "=", blanks,
        .group 3 (many1 fun c => c != ';' && c != '\n'), optional ";"],
      [1, 2, " = ", 3]⟩,
    ⟨"function",
      all [keyword "function", gap, .group 1 word, blanks, "(", .group 2 (many (isNot ')')), ")",
        blanks, "\x7b"],
      ["def ", 1, "(", 2, "):"]⟩,
    ⟨"if", braceHeader [.edge (.notBehind "else "), keyword "if"], ["if ", 1, ":"]⟩,
    ⟨"else_if", braceHeader ["\x7d", blanks, "else", gap, "if"], ["elif ", 1, ":"]⟩,
    ⟨"else", all ["\x7d", blanks, "else", blanks, "\x7b"], ["else:"]⟩,
    ⟨"for_counted", countedHeader, ["for ", 1, " in range(", 2, "):"]⟩,
    ⟨"for_of", memberHeader, ["for ", 1, " in ", 2, ":"]⟩,
    ⟨"while", braceHeader [keyword "while"], ["while ", 1, ":"]⟩,
    ⟨"push", methodOpen "push", [".append("]⟩,
    ⟨"trim", methodCall "trim", [".strip()"]⟩,
    ⟨"to_upper", methodCall "toUpperCase", [".upper()"]⟩,
    ⟨"to_lower", methodCall "toLowerCase", [".lower()"]⟩,
    ⟨"length", lengthOf, ["len(", 1, ")"]⟩,
    ⟨"strict_eq", "===", ["=="]⟩,
    ⟨"strict_neq", "!==", ["!="]⟩,
    ⟨"and", "&&", ["and"]⟩,
    ⟨"or", "||", ["or"]⟩,
    ⟨"not", .seq "!" (.edge (.ahead fun c => isWord c || c == '(')), ["not "]⟩,
    ⟨"true", wholeWord "true", ["True"]⟩,
    ⟨"false", wholeWord "false", ["False"]⟩,
    ⟨"null", all [.edge .word, anyWord ["null", "undefined"], .edge .word], ["None"]⟩,
    ⟨"comment",
      all [.edge .lineStart, .group 1 margin, "//", margin, .group 2 (many isInline),
        .edge .lineEnd],
      [1, "# ", 2]⟩,
    ⟨"closing_brace", closingLine, []⟩,
    ⟨"semicolon", all [";", margin, .edge .lineEnd], []⟩ ]

/-- JavaScript to Python. -/
def fromJavaScript : Chain where
  source := "javascript"
  target := "python"
  rules := fromJavaScriptRules

end Recast.Chain
