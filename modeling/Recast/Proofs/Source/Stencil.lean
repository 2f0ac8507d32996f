import Recast.Phrase

/-!
# Proofs/Source/Stencil — a line with blanks, ready to be looked at

A phrase may be cut into texts anyhow. Its **stencil** is the same line with adjoining texts put
together, so that two phrases write the same lines if their stencils are equal, and what stands next
to a blank can be seen.
-/

namespace Recast

/-- Fixed text, or a numbered blank. -/
inductive Part
  | text (chars : List Char)
  | blank (number : Nat)
deriving DecidableEq

/-- A line with blanks. -/
abbrev Stencil := List Part

namespace Stencil

/-- The stencil with its blanks filled. -/
def fill : Stencil → (Nat → List Char) → List Char
  | [], _ => []
  | .text chars :: rest, value => chars ++ fill rest value
  | .blank number :: rest, value => value number ++ fill rest value

/-- The stencil behind some text. -/
def behind : List Char → Stencil → Stencil
  | [], rest => rest
  | chars, .text more :: rest => .text (chars ++ more) :: rest
  | chars, rest => .text chars :: rest

/-- The fixed texts of a stencil. -/
def texts : Stencil → List (List Char)
  | [] => []
  | .text chars :: rest => chars :: texts rest
  | .blank _ :: rest => texts rest

variable {stencil : Stencil} {value : Nat → List Char}

@[simp] theorem fill_nil : fill [] value = [] := rfl

@[simp] theorem fill_text (chars : List Char) :
    fill (.text chars :: stencil) value = chars ++ fill stencil value := rfl

@[simp] theorem fill_blank (number : Nat) :
    fill (.blank number :: stencil) value = value number ++ fill stencil value := rfl

@[simp] theorem fill_behind (chars : List Char) :
    fill (behind chars stencil) value = chars ++ fill stencil value := by
  match chars, stencil with
  | [], _ => rfl
  | _ :: _, [] => rfl
  | _ :: _, .text more :: rest => simp [behind]
  | _ :: _, .blank _ :: rest => rfl

/-- A character of a filled stencil is one of its fixed text, or of what fills its blanks. -/
theorem mem_fill {c : Char} (h : c ∈ stencil.fill value) :
    (∃ text ∈ stencil.texts, c ∈ text) ∨ ∃ n, c ∈ value n := by
  induction stencil with
  | nil => simp at h
  | cons part stencil ih =>
    cases part with
    | text chars =>
      rcases List.mem_append.mp h with h | h
      · exact .inl ⟨_, List.mem_cons_self, h⟩
      · exact (ih h).imp_left fun ⟨text, ht, hc⟩ => ⟨text, List.mem_cons_of_mem _ ht, hc⟩
    | blank n =>
      rcases List.mem_append.mp h with h | h
      · exact .inr ⟨n, h⟩
      · exact ih h

end Stencil

/-- What fills the blanks, given the values in order; the first blank is number one. -/
def fillers (values : List (List Char)) (number : Nat) : List Char := ([] :: values).getD number []

/-- A blank without a value stays empty. -/
theorem fillers_eq_nil_or_mem (values : List (List Char)) (number : Nat) :
    fillers values number = [] ∨ fillers values number ∈ values := by
  rcases number with _ | number
  · exact .inl rfl
  · rw [fillers, List.getD_cons_succ, List.getD_eq_getElem?_getD]
    cases hvalue : values[number]? with
    | none => exact .inl rfl
    | some value => exact .inr (List.mem_of_getElem? hvalue)

/-- The stencil of a phrase. -/
def Phrase.stencil : Phrase → Stencil
  | [] => []
  | .text words :: rest => .behind words.toList (stencil rest)
  | .group number :: rest => .blank number :: stencil rest

/-- **A phrase and its stencil write the same lines.** -/
@[simp] theorem Phrase.fill_stencil (phrase : Phrase) (value : Nat → List Char) :
    phrase.stencil.fill value = phrase.fill value := by
  induction phrase with
  | nil => rfl
  | cons piece phrase ih =>
    cases piece with
    | text words => rw [stencil, Stencil.fill_behind, ih]; rfl
    | group number => rw [stencil, Stencil.fill_blank, ih]; rfl

/-! ## Indentation in the first blank -/

namespace Stencil

/-- The stencil with its blanks counted one less, if the first does not occur. -/
def lowered? : Stencil → Option Stencil
  | [] => some []
  | .text chars :: rest => (lowered? rest).map (.text chars :: ·)
  | .blank (number + 2) :: rest => (lowered? rest).map (.blank (number + 1) :: ·)
  | .blank _ :: _ => none

/-- What a stencil writes behind the indentation, if that is what its first blank is for. -/
def behindMargin? : Stencil → Option Stencil
  | .blank 1 :: rest => lowered? rest
  | _ => none

variable {stencil lowered : Stencil} {margin : List Char} {values : List (List Char)}

/-- With its numbers lowered by one, a stencil is filled with all values but the first. -/
theorem fill_of_lowered? (h : stencil.lowered? = some lowered) :
    stencil.fill (fillers (margin :: values)) = lowered.fill (fillers values) := by
  induction stencil generalizing lowered with
  | nil =>
    obtain rfl : [] = lowered := by simpa [lowered?] using h
    rfl
  | cons part stencil ih =>
    match part with
    | .text chars =>
      obtain ⟨rest, hrest, rfl⟩ := Option.map_eq_some_iff.mp h
      exact congrArg (chars ++ ·) (ih hrest)
    | .blank (number + 2) =>
      obtain ⟨rest, hrest, rfl⟩ := Option.map_eq_some_iff.mp h
      exact congrArg (fillers values (number + 1) ++ ·) (ih hrest)
    | .blank 0 => simp [lowered?] at h
    | .blank 1 => simp [lowered?] at h

/-- **What a phrase writes behind the margin** that it has kept as its first blank. -/
theorem fill_of_behindMargin? (h : stencil.behindMargin? = some lowered) :
    stencil.fill (fillers (margin :: values)) = margin ++ lowered.fill (fillers values) := by
  match stencil, h with
  | .blank 1 :: rest, h => exact congrArg (margin ++ ·) (fill_of_lowered? h)

end Stencil

end Recast
