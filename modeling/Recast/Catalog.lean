import Recast.Language
import Recast.Template.Basic
import Recast.Text.Quoted

/-!
# Catalog — the languages and templates that are known

A catalog lists languages, one to an id, and says which ids have a template. Ids are looked up in
their normal form. A language that is not listed can still be worked with: it is made up on the spot
from its id (`Catalog.resolve`).

What a catalog holds for an id are generators, which need not be those of a template that is known
here, and may fail. The entry of an id may even be empty. Such an id counts as one that has a
template, and only using it shows that there is none.
-/

namespace Recast

/-- The languages and templates that are known. -/
structure Catalog where
  languages : List Language
  templates : List (String × Option (Generators Option))

/-- A language by its id, or the language itself. -/
inductive LanguageRef
  | id (id : String)
  | given (language : Language)

/-- The id is not listed; the listed ids are `supported`. -/
structure UnknownLanguage where
  id : String
  supported : List String
deriving Repr, DecidableEq

/-- What is said about an id that is not listed. -/
def UnknownLanguage.message (unknown : UnknownLanguage) : String :=
  "Unsupported language: " ++ unknown.id ++ ". Supported languages: " ++
    Text.quotedList unknown.supported

namespace Catalog

/-- The languages with one more: it takes the place of the language of its id, or comes last. -/
def insert (languages : List Language) (language : Language) : List Language :=
  if languages.any (·.id == language.id) then
    languages.map fun listed => if listed.id == language.id then language else listed
  else languages ++ [language]

/-- The languages, of those with the same id the last, at the place of the first. -/
def distinct (languages : List Language) : List Language := languages.foldl insert []

/-- The templates there are, each under the id of its language. -/
def builtinTemplates : List (String × Option (Generators Option)) :=
  Template.builtin.map fun template => (template.language, some template.generators)

/-- The catalog of the languages, with the templates there are. -/
def ofLanguages (languages : List Language) : Catalog :=
  { languages := distinct languages, templates := builtinTemplates }

/-- The catalog of the known languages and the templates there are. -/
def standard : Catalog := ofLanguages Language.known

/-- The listed language of that id. -/
def find? (catalog : Catalog) (id : String) : Option Language :=
  catalog.languages.find? (·.id == normalId id)

/-- The listed language of that id. -/
def get (catalog : Catalog) (id : String) : Except UnknownLanguage Language :=
  match catalog.find? id with
  | some language => .ok language
  | none => .error { id, supported := catalog.languages.map (·.id) }

/-- The id is listed. -/
def isKnown (catalog : Catalog) (id : String) : Bool := (catalog.find? id).isSome

/-- **The language of that id, listed or made up.** -/
def resolve (catalog : Catalog) (id : String) : Language :=
  (catalog.find? id).getD (.adHoc id)

/-- The language that is meant. -/
def resolveRef (catalog : Catalog) : LanguageRef → Language
  | .id id => catalog.resolve id
  | .given language => language

/-- The id has an entry among the templates. -/
def hasTemplate (catalog : Catalog) (id : String) : Bool :=
  (catalog.templates.lookup (normalId id)).isSome

/-- The generators of the id, if its entry holds some. -/
def template? (catalog : Catalog) (id : String) : Option (Generators Option) :=
  (catalog.templates.lookup (normalId id)).join

end Catalog

end Recast
