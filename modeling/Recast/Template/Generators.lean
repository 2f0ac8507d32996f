import Recast.Journal
import Recast.Template.Idioms

/-!
# Template/Generators — carrying a program over by the generators of two languages

A language has a generator for each of its simplest statements. Generators are functions that
somebody else wrote, so they may fail or have other effects: what they do they do in a monad, and
the functions here pass it on.

Output statements of the source language are written again as the target's, then loose declarations.
If the target needs an entry point and the text shows none, its own import lines are dropped and it
is wrapped in the target's main function. The target's import lines come first.
-/

namespace Recast

open Pattern

/-- How a language writes its simplest statements. -/
structure Generators (m : Type → Type) where
  /-- The language that statements are written in. -/
  language : String
  /-- A statement that prints the expression. -/
  print : (expr : List Char) → m (List Char)
  /-- A declaration of the name with the value of the expression. -/
  declare : (name expr : List Char) → m (List Char)
  /-- The lines every file starts with. -/
  imports : List String := []
  /-- The body in a main function, in a language where statements cannot stand on their own. -/
  main : Option ((body : List Char) → m (List Char)) := none

/-- The text without its import lines and the blanks at its ends. -/
def Template.stripPreamble (code : List Char) : List Char :=
  Text.trim (Idiom.preambleLine.replaceAll (fun _ => []) code)

namespace Generators

variable {m : Type → Type}

/-- The main function that a text still needs: the target's, if it has one and the text shows no
entry point. -/
def mainFor? (target : Generators m) (code : List Char) : Option (List Char → m (List Char)) :=
  if Idiom.entryMarker.occursIn code then none else target.main

/-- The text behind the target's import lines. -/
def withImports (target : Generators m) (code : List Char) : List Char :=
  if target.imports.isEmpty then code
  else ("\n".intercalate target.imports).toList ++ '\n' :: '\n' :: code

variable [Monad m]

/-- The text with the output statements of a language written as the target's. -/
def recastOutput (code : List Char) (source : String) (target : Generators m) : m (List Char) :=
  match Idiom.output? source with
  | none => pure code
  | some pattern =>
    pattern.replaceAllM
      (fun spot => target.print (Idiom.printed source ((spot.keptText? 1).getD []))) code

/-- The text with loose declarations written as the target's; a language that declares loosely keeps
its own. -/
def recastDeclarations (code : List Char) (source target : String) (generators : Generators m) :
    m (List Char) :=
  if !Idiom.declaresLoosely source || source == target then pure code
  else Idiom.looseDeclaration.replaceAllM
    (fun spot => generators.declare ((spot.keptText? 1).getD []) ((spot.keptText? 2).getD [])) code

/-- The statements of the text, written as the target's. -/
def recastStatements (code : List Char) (source target : Generators m) : m (List Char) := do
  let printed ← recastOutput code source.language target
  recastDeclarations printed source.language target.language target

/-- **The program in the target language.** -/
def carry (code : List Char) (source target : Generators m) : m (List Char) := do
  let statements ← recastStatements code source target
  match target.mainFor? statements with
  | some main => return target.withImports (← main (Template.stripPreamble statements))
  | none => return target.withImports statements

/-- What is reported while the program is carried over, before its main function is written. -/
def events (code : List Char) (source target : Generators m) : m (List Event) := do
  let statements ← recastStatements code source target
  return if (target.mainFor? statements).isSome then [.wrapped target.language] else []

end Generators

end Recast
