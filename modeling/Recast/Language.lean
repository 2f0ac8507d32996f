import Recast.Text.Blank
import Recast.Text.Lower

/-!
# Language — what is known of a programming language

A language is known by its id, shown by its name, and commented by a token at the start of a line.
Ids are compared in small letters and without the blanks around them (`normalId`), and a language
made by `Language.of` carries its id in that form.
-/

namespace Recast

/-- The form in which ids are compared: small letters, no blanks around them. -/
def normalId (id : String) : String :=
  String.ofList (Text.lower (Text.trim id.toList))

/-- A programming language. -/
structure Language where
  id : String
  displayName : String
  /-- What a comment line starts with. -/
  commentPrefix : String := "//"
deriving Repr, DecidableEq, Inhabited

namespace Language

/-- The language of that id and name. -/
def of (id displayName : String) (commentPrefix : String := "//") : Language :=
  { id := normalId id, displayName, commentPrefix }

/-- The language that an unknown id stands for: it is shown by the id itself. -/
def adHoc (id : String) : Language :=
  let shown := String.ofList (Text.trim id.toList)
  of id (if shown.isEmpty then "Unknown" else shown)

/-- The languages that are known from the start. -/
def known : List Language :=
  [ of "python" "Python" "#",
    of "javascript" "JavaScript",
    of "typescript" "TypeScript",
    of "java" "Java",
    of "kotlin" "Kotlin",
    of "scala" "Scala",
    of "cpp" "C++",
    of "c" "C",
    of "csharp" "C#",
    of "go" "Go",
    of "rust" "Rust",
    of "swift" "Swift",
    of "ruby" "Ruby" "#",
    of "php" "PHP",
    of "dart" "Dart",
    of "r" "R" "#" ]

end Language

end Recast
