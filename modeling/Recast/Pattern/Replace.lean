import Recast.Pattern.Basic

/-!
# Pattern/Replace — replacing the stretches that a pattern reads

`replaceAll` goes through a text from its start. Where the pattern can be read, the stretch it reads
is replaced and the search goes on behind it; elsewhere a character is kept. A reading of no
characters replaces nothing, so every step takes at least one character.

What is filled in may come from a function that fails or has other effects (`replaceAllM`). Without
effects the two are the same (`replaceAllM_pure`).
-/

namespace Recast.Pattern

/-- The rest of a text with its stretches replaced, the first `skip` characters belonging to a
stretch that is replaced already. -/
def replaceFrom (pattern : Pattern) (fill : Spot → List Char) :
    (skip : Nat) → (before rest : List Char) → List Char
  | _, _, [] => []
  | skip + 1, before, c :: rest => replaceFrom pattern fill skip (c :: before) rest
  | 0, before, c :: rest =>
    match pattern.readAt? { before, rest := c :: rest } with
    | none => c :: replaceFrom pattern fill 0 (c :: before) rest
    | some spot =>
      match rest.length + 1 - spot.rest.length with
      | 0 => c :: replaceFrom pattern fill 0 (c :: before) rest
      | width + 1 => fill spot ++ replaceFrom pattern fill width (c :: before) rest

/-- **The text with every stretch that the pattern reads replaced.** -/
def replaceAll (pattern : Pattern) (fill : Spot → List Char) (text : List Char) : List Char :=
  replaceFrom pattern fill 0 [] text

/-! ## Replacing with effects -/

section Effects

variable {m : Type → Type} [Monad m]

/-- The same where filling has effects, which come in the order of the stretches. -/
def replaceFromM (pattern : Pattern) (fill : Spot → m (List Char)) :
    (skip : Nat) → (before rest : List Char) → m (List Char)
  | _, _, [] => pure []
  | skip + 1, before, c :: rest => replaceFromM pattern fill skip (c :: before) rest
  | 0, before, c :: rest =>
    match pattern.readAt? { before, rest := c :: rest } with
    | none => (c :: ·) <$> replaceFromM pattern fill 0 (c :: before) rest
    | some spot =>
      match rest.length + 1 - spot.rest.length with
      | 0 => (c :: ·) <$> replaceFromM pattern fill 0 (c :: before) rest
      | width + 1 => do
        let filled ← fill spot
        return filled ++ (← replaceFromM pattern fill width (c :: before) rest)

/-- **The text with every stretch that the pattern reads replaced,** where filling has effects. -/
def replaceAllM (pattern : Pattern) (fill : Spot → m (List Char)) (text : List Char) :
    m (List Char) :=
  replaceFromM pattern fill 0 [] text

variable [LawfulMonad m]

theorem replaceFromM_pure (pattern : Pattern) (fill : Spot → List Char) (skip : Nat)
    (before rest : List Char) :
    pattern.replaceFromM (m := m) (fun spot => pure (fill spot)) skip before rest =
      pure (pattern.replaceFrom fill skip before rest) := by
  induction rest generalizing skip before with
  | nil => rfl
  | cons c rest ih =>
    cases skip with
    | succ skip => rw [replaceFromM, replaceFrom, ih]
    | zero =>
      rw [replaceFromM, replaceFrom]
      split
      · rw [ih, map_pure]
      · split
        · rw [ih, map_pure]
        · simp only [ih, pure_bind]

/-- Fillings without effects come to what `replaceAll` does. -/
theorem replaceAllM_pure (pattern : Pattern) (fill : Spot → List Char) (text : List Char) :
    pattern.replaceAllM (m := m) (fun spot => pure (fill spot)) text =
      pure (pattern.replaceAll fill text) :=
  replaceFromM_pure pattern fill 0 [] text

end Effects

/-! ## Searching -/

/-- The first place of the text, reached after `before`, at which the pattern can be read: the text
before the place, and the end of the reading. -/
def findFrom? (pattern : Pattern) : (before rest : List Char) → Option (List Char × Spot)
  | before, [] => (pattern.readAt? { before, rest := [] }).map (before, ·)
  | before, c :: rest =>
    match pattern.readAt? { before, rest := c :: rest } with
    | some spot => some (before, spot)
    | none => findFrom? pattern (c :: before) rest

/-- The pattern can be read somewhere in the text. -/
def occursIn (pattern : Pattern) (text : List Char) : Bool :=
  (findFrom? pattern [] text).isSome

/-- The pattern can be read at the start of the text. -/
def starts (pattern : Pattern) (text : List Char) : Bool :=
  (pattern.readAt? (.ofText text)).isSome

/-- The text with the first stretch that the pattern reads replaced. -/
def replaceFirst (pattern : Pattern) (fill : Spot → List Char) (text : List Char) : List Char :=
  match findFrom? pattern [] text with
  | none => text
  | some (before, spot) => before.reverse ++ fill spot ++ spot.rest

end Recast.Pattern
