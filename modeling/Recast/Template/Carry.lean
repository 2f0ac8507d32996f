import Recast.Template.Basic

/-!
# Template/Carry — carrying a program from one template to another

The generators of templates have no effects, so what they make of a program is a text, the same in
every monad that generators may work in. Each function here is the one on generators where there is
no monad to speak of; beside it stands what it says about templates (`carry_eq`), and that any other
monad would come to the same (`generators_carry`).
-/

namespace Recast.Template

open Pattern

variable {m : Type → Type} [Monad m] [LawfulMonad m]

/-! ## Output statements -/

/-- The text with the output statements of a language written as the target's. -/
def recastOutput (code : List Char) (source : String) (target : Template) : List Char :=
  Id.run (Generators.recastOutput code source target.generators)

/-- Fixed phrases write outputs as the plain templates do, and never fail. -/
theorem generators_recastOutput_eq (code : List Char) (source : String) (target : Template) :
    Generators.recastOutput (m := m) code source target.generators = pure
      (match Idiom.output? source with
      | none => code
      | some pattern => pattern.replaceAll
          (fun spot => target.print (Idiom.printed source ((spot.keptText? 1).getD []))) code) := by
  rw [Generators.recastOutput]
  cases Idiom.output? source with
  | none => rfl
  | some pattern => exact replaceAllM_pure pattern _ code

/-- Outputs are rewritten where the source has an idiom for them. -/
theorem recastOutput_eq (code : List Char) (source : String) (target : Template) :
    recastOutput code source target =
      match Idiom.output? source with
      | none => code
      | some pattern => pattern.replaceAll
          (fun spot => target.print (Idiom.printed source ((spot.keptText? 1).getD []))) code :=
  congrArg Id.run (generators_recastOutput_eq code source target)

/-! ## Declarations -/

/-- The text with loose declarations written as the target's; a language that declares loosely keeps
its own. -/
def recastDeclarations (code : List Char) (source target : String) (template : Template) :
    List Char :=
  Id.run (Generators.recastDeclarations code source target template.generators)

/-- Fixed phrases write declarations as the plain templates do, and never fail. -/
theorem generators_recastDeclarations_eq (code : List Char) (source target : String)
    (template : Template) :
    Generators.recastDeclarations (m := m) code source target template.generators = pure
      (if !Idiom.declaresLoosely source || source == target then code
      else Idiom.looseDeclaration.replaceAll
        (fun spot => template.declare ((spot.keptText? 1).getD []) ((spot.keptText? 2).getD []))
        code) := by
  rw [Generators.recastDeclarations]
  split
  · rfl
  · exact replaceAllM_pure _ _ code

/-- Loose declarations are rewritten between two languages, of which the first has them. -/
theorem recastDeclarations_eq (code : List Char) (source target : String) (template : Template) :
    recastDeclarations code source target template =
      if !Idiom.declaresLoosely source || source == target then code
      else Idiom.looseDeclaration.replaceAll
        (fun spot => template.declare ((spot.keptText? 1).getD []) ((spot.keptText? 2).getD []))
        code :=
  congrArg Id.run (generators_recastDeclarations_eq code source target template)

/-! ## Statements -/

/-- The statements of the text, written as the target's. -/
def recastStatements (code : List Char) (source target : Template) : List Char :=
  Id.run (Generators.recastStatements code source.generators target.generators)

theorem recastStatements_eq (code : List Char) (source target : Template) :
    recastStatements code source target =
      recastDeclarations (recastOutput code source.language target) source.language target.language
        target := rfl

/-- Outputs and declarations together are written the same way, too. -/
theorem generators_recastStatements (code : List Char) (source target : Template) :
    Generators.recastStatements (m := m) code source.generators target.generators =
      pure (recastStatements code source target) := by
  rw [Generators.recastStatements, recastStatements_eq, recastDeclarations_eq, recastOutput_eq]
  change (Generators.recastOutput (m := m) code source.language target.generators >>= _) = _
  rw [generators_recastOutput_eq, pure_bind]
  exact generators_recastDeclarations_eq _ _ _ _

/-! ## Whole programs -/

/-- The main function that a text still needs: the target's, if it has one and the text shows no
entry point. -/
def entryFor? (target : Template) (code : List Char) : Option Wrapper :=
  if Idiom.entryMarker.occursIn code then none else target.entry

/-- The text behind the target's import lines. -/
def withImports (target : Template) (code : List Char) : List Char :=
  Generators.withImports (m := Id) target.generators code

/-- **The program in the target language.** -/
def carry (code : List Char) (source target : Template) : List Char :=
  Id.run (Generators.carry code source.generators target.generators)

/-- What is reported while the program is carried over. -/
def events (code : List Char) (source target : Template) : List Event :=
  Id.run (Generators.events code source.generators target.generators)

omit [LawfulMonad m] in
/-- The entry point is one that the template has, if the text needs one. -/
theorem generators_mainFor? (target : Template) (code : List Char) :
    Generators.mainFor? (m := m) target.generators code =
      (target.entryFor? code).map fun entry body => pure (entry.wrap body) := by
  rw [Generators.mainFor?, entryFor?, generators]
  split
  · rfl
  · simp only [main?]
    cases target.entry <;> rfl

/-- **Fixed phrases carry a text as the plain templates do**, in any setting for failures. -/
theorem generators_carry_eq (code : List Char) (source target : Template) :
    Generators.carry (m := m) code source.generators target.generators = pure (target.withImports
      (match target.entryFor? (recastStatements code source target) with
      | some entry => entry.wrap (stripPreamble (recastStatements code source target))
      | none => recastStatements code source target)) := by
  rw [Generators.carry, generators_recastStatements, pure_bind, generators_mainFor?]
  cases target.entryFor? (recastStatements code source target) with
  | none => rfl
  | some entry => exact pure_bind _ _

/-- The statements are rewritten, wrapped as the target wraps its entry point, and put behind
imports. -/
theorem carry_eq (code : List Char) (source target : Template) :
    carry code source target = target.withImports
      (match target.entryFor? (recastStatements code source target) with
      | some entry => entry.wrap (stripPreamble (recastStatements code source target))
      | none => recastStatements code source target) :=
  congrArg Id.run (generators_carry_eq code source target)

/-- What is journalled on the way is the same for fixed phrases. -/
theorem generators_events_eq (code : List Char) (source target : Template) :
    Generators.events (m := m) code source.generators target.generators = pure
      (match target.entryFor? (recastStatements code source target) with
      | some _ => [.wrapped target.language]
      | none => []) := by
  rw [Generators.events, generators_recastStatements, pure_bind, generators_mainFor?]
  cases target.entryFor? (recastStatements code source target) <;> rfl

theorem events_eq (code : List Char) (source target : Template) :
    events code source target =
      match target.entryFor? (recastStatements code source target) with
      | some _ => [.wrapped target.language]
      | none => [] :=
  congrArg Id.run (generators_events_eq code source target)

end Recast.Template
