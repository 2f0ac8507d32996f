import Recast.Chain.Forms
import Recast.Pattern.Replace

/-!
# Template/Idioms — the statements that are recognised in a source

For each language with a template, this is the form of its output statement, with the printed
expression as group 1. Declarations are recognised in the two languages that declare with `let`,
`const` or `var`, in the untyped form.

An output statement is read up to the first closing parenthesis and within one line, so nested calls
and chained stream operators are cut short.
-/

namespace Recast.Idiom

open Form Pattern Text

/-- What stands between parentheses on one line, as short as possible. -/
def argument : List Pattern := ["(", .group 1 (few isInline), ")"]

/-- `callee(…)`, with or without a semicolon. -/
def callStatement (callee : Pattern) : Pattern := all ([callee] ++ argument ++ [optional ";"])

/-- `callee(…)`. -/
def callBare (callee : Pattern) : Pattern := all ([callee] ++ argument)

/-- `std::cout << … << std::endl`. -/
def stream : Pattern :=
  all ["std::cout", blanks, "<<", blanks, .group 1 (few isInline), blanks, "<<", blanks,
    "std::endl", optional ";"]

/-- **The output statement of a language.** -/
def output? : String → Option Pattern
  | "javascript" => some (callStatement "console.log")
  | "typescript" => some (callStatement "console.log")
  | "java" => some (callStatement "System.out.println")
  | "kotlin" => some (callBare (keyword "println"))
  | "cpp" => some stream
  | "c" => some (callStatement (keyword "printf"))
  | "go" => some (callBare "fmt.Println")
  | "rust" => some (callStatement (keyword "println!"))
  | "swift" => some (callBare (keyword "print"))
  | "ruby" => some (all [keyword "puts", gap, .group 1 (few isInline), .edge .lineEnd])
  | "php" => some (all [keyword "echo", gap, .group 1 (few isInline), ";"])
  | _ => none

/-! ## Format strings -/

/-- A text between quotes of either kind, as long as possible. -/
def anyQuoted : Pattern :=
  let quote : Char → Bool := fun c => c == '"' || c == '\''
  all [.one quote, .group 1 (many isInline), .one quote]

/-- The argument of a formatted output statement with its first quoted text between double quotes
and its escaped line feeds left out. -/
def plainArgument (argument : List Char) : List Char :=
  replaceAll (.text "\\n") (fun _ => [])
    (replaceFirst anyQuoted (fun spot => '"' :: (spot.keptText? 1).getD [] ++ ['"']) argument)

/-- The expression that an output statement of the language prints, given its argument. Only where
output goes through format strings do the two differ. -/
def printed (language : String) (argument : List Char) : List Char :=
  if language = "c" then plainArgument argument else argument

/-! ## Declarations -/

/-- The language declares its variables with `let`, `const` or `var` and needs no types. -/
def declaresLoosely (language : String) : Bool :=
  language == "javascript" || language == "typescript"

/-- `let name = value;`. -/
def looseDeclaration : Pattern :=
  all [.edge .word, anyWord ["let", "const", "var"], gap, .group 1 word, blanks, "=", blanks,
    .group 2 (few isInline), ";"]

/-! ## Lines that frame a program -/

/-- The letters that count as `c` where large and small letters are not told apart. Besides the two
cases of the letter, these are the long s, the dotless i and the capital i with a dot. -/
def anyCase (c d : Char) : Bool :=
  d == c || d == c.toUpper || (c == 's' && d == 'ſ') || (c == 'i' && (d == 'ı' || d == 'İ'))

/-- The word in large or small letters, or a mixture of both. -/
def wordAnyCase (name : String) : Pattern :=
  all ([.edge .word] ++ name.toList.map (fun c => .one (anyCase c)) ++ [.edge .word])

/-- The word that shows that the text has an entry point of its own. -/
def entryMarker : Pattern := .alt (wordAnyCase "main") (wordAnyCase "class")

/-- A line that imports, includes or names a package, together with its line feed. -/
def preambleLine : Pattern :=
  let ending (name : String) : Pattern := .seq (.text name) (.edge .word)
  all [.edge .lineStart, margin,
    .alt (ending "import")
      (.alt (all ["from", gap, many1 (fun c => !isBlank c), gap, ending "import"])
        (.alt (ending "#include")
          (.alt (ending "using") (.alt (ending "package") "<?php")))),
    many isInline, .alt "\n" (.edge .lineEnd)]

end Recast.Idiom
