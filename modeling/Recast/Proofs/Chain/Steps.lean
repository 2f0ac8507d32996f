import Recast.Proofs.Chain.Cues
import Recast.Proofs.Chain.Insight

/-!
# Proofs/Chain/Steps — reading a form part by part

A form is a list of parts, and a line is read by reading one part after the other. Each lemma here
takes one part off the form and its text off the line, so that reading a line is a chain of such
steps. Where a run could give characters back to what follows it, what follows is read first, and
the step says that the run at its full length leads to that reading (`…_of_eq_some`).
-/

namespace Recast

open Text Source

namespace Form

open Pattern

variable {name sign : String} {ps : List Pattern} {next : Next} {before rest x : List Char}
  {kept : List (Nat × Stretch)} {number : Nat} {allowed : Char → Bool} {spot : Spot} {p q : Pattern}

/-! ## Words and signs of the form -/

/-- A keyword is read where no word stands in front of it. -/
theorem read_keyword (hbefore : before.head?.any isWord = false)
    (hname : name.toList.head?.any isWord = true) :
    (all (keyword name :: ps)).read next ⟨before, name.toList ++ rest, kept⟩ =
      (all ps).read next ⟨name.toList.reverse ++ before, rest, kept⟩ := by
  have hedge : (⟨before, name.toList ++ rest, kept⟩ : Spot).meets .word = true := by
    cases hn : name.toList with
    | nil => simp [hn] at hname
    | cons c more =>
      have hc : isWord c = true := by simpa [hn] using hname
      simp [Spot.meets, Spot.atWordEdge, hbefore, hc]
  exact (read_edge _ hedge).trans (read_text _ _ _ _ _)

theorem read_sign : (all (.text sign :: ps)).read next ⟨before, sign.toList ++ rest, kept⟩ =
    (all ps).read next ⟨sign.toList.reverse ++ before, rest, kept⟩ := read_text _ _ _ _ _

/-- A sign that does not stand there. -/
theorem read_sign_of_ne {c d : Char} {more : List Char} (hsign : sign.toList = c :: more)
    (h : d ≠ c) : (all (.text sign :: ps)).read next ⟨before, d :: rest, kept⟩ = none := by
  rw [all_cons, read_seq, read_text_eq, hsign, pass_cons]
  simp [h]

/-! ## Blanks -/

/-- No blank is read where there is none. -/
theorem read_blanks (hrest : rest.head?.any isBlank = false) :
    (all (blanks :: ps)).read next ⟨before, rest, kept⟩ = (all ps).read next ⟨before, rest, kept⟩ :=
  read_many_nil hrest

/-- A space between the parts is read where what follows does not start with a blank. -/
theorem read_blanks_space (hrest : rest.head?.any isBlank = false) (hps : (all ps).Shuns isBlank) :
    (all (blanks :: ps)).read next ⟨before, [' '] ++ rest, kept⟩ =
      (all ps).read next ⟨[' '].reverse ++ before, rest, kept⟩ :=
  read_many (List.all_eq_true.mp (by decide)) hrest (hps next)

theorem read_blanks_space_of_eq_some (hrest : rest.head?.any isBlank = false)
    (h : (all ps).read next ⟨[' '].reverse ++ before, rest, kept⟩ = some spot) :
    (all (blanks :: ps)).read next ⟨before, [' '] ++ rest, kept⟩ = some spot :=
  read_many_of_eq_some (List.all_eq_true.mp (by decide)) hrest h

theorem read_margin (hrest : rest.head?.any isMargin = false) :
    (all (margin :: ps)).read next ⟨before, rest, kept⟩ = (all ps).read next ⟨before, rest, kept⟩ :=
  read_many_nil hrest

/-- A space at the margin is read likewise. -/
theorem read_margin_space (hrest : rest.head?.any isMargin = false)
    (hps : (all ps).Shuns isMargin) :
    (all (margin :: ps)).read next ⟨before, [' '] ++ rest, kept⟩ =
      (all ps).read next ⟨[' '].reverse ++ before, rest, kept⟩ :=
  read_many (List.all_eq_true.mp (by decide)) hrest (hps next)

theorem read_margin_space_of_eq_some (hrest : rest.head?.any isMargin = false)
    (h : (all ps).read next ⟨[' '].reverse ++ before, rest, kept⟩ = some spot) :
    (all (margin :: ps)).read next ⟨before, [' '] ++ rest, kept⟩ = some spot :=
  read_many_of_eq_some (List.all_eq_true.mp (by decide)) hrest h

/-- A single space is a gap, and cannot be given back. -/
theorem read_gap (hrest : rest.head?.any isBlank = false) :
    (all (gap :: ps)).read next ⟨before, [' '] ++ rest, kept⟩ =
      (all ps).read next ⟨[' '].reverse ++ before, rest, kept⟩ := by
  rw [all_cons, gap, many1, read_seq, read_seq, List.singleton_append, read_one, if_pos (by decide)]
  exact read_many_nil hrest

theorem read_one_none (hrest : rest.head?.any allowed = false) :
    (all (.one allowed :: ps)).read next ⟨before, rest, kept⟩ = none := by
  cases rest with
  | nil => rfl
  | cons c rest =>
    rw [all_cons, read_seq, read_one, if_neg (by simpa using hrest)]

/-! ## Choices -/

/-- The first of two patterns will do. -/
theorem read_alt_of_eq_some {s : Spot} (h : p.read ((all ps).read next) s = some spot) :
    (all (.alt p q :: ps)).read next s = some spot := by
  rw [all_cons, read_seq, read_alt, h, Option.some_or]

/-- A sign that may be missing is there. -/
theorem read_optional_of_eq_some
    (h : (all ps).read next ⟨sign.toList.reverse ++ before, rest, kept⟩ = some spot) :
    (all (optional (.text sign) :: ps)).read next ⟨before, sign.toList ++ rest, kept⟩ = some spot :=
  read_alt_of_eq_some ((read_text _ _ _ _ _).trans h)

/-- What was kept stands there again. -/
theorem read_again (hkept : (⟨before, x ++ rest, kept⟩ : Spot).keptText? number = some x) :
    (all (.again number :: ps)).read next ⟨before, x ++ rest, kept⟩ =
      (all ps).read next ⟨x.reverse ++ before, rest, kept⟩ := by
  rw [all_cons, read_seq, read_again_eq, hkept, Option.bind_some, pass_append, Option.bind_some]

/-- A sign that may be missing is not there. -/
theorem read_optional_of_ne {c : Char} {more : List Char} (hsign : sign.toList = c :: more)
    (h : rest.head?.all (· ≠ c) = true) :
    (all (optional (.text sign) :: ps)).read next ⟨before, rest, kept⟩ =
      (all ps).read next ⟨before, rest, kept⟩ := by
  have hnone : ∀ next : Next, (Pattern.text sign).read next ⟨before, rest, kept⟩ = none :=
    fun next => by
    rw [read_text_eq, hsign]
    cases rest with
    | nil => rfl
    | cons d rest => simp [pass_cons, show d ≠ c by simpa using h]
  rw [all_cons, read_seq, Pattern.optional, read_alt, hnone, Option.none_or]
  rfl

/-! ## Ends of lines -/

theorem read_lineStart (hbefore : before.head?.all (· = '\n') = true) :
    (all (.edge .lineStart :: ps)).read next ⟨before, rest, kept⟩ =
      (all ps).read next ⟨before, rest, kept⟩ := read_edge _ hbefore

theorem read_lineEnd (hrest : rest.head?.all (· = '\n') = true) :
    (all (.edge .lineEnd :: ps)).read next ⟨before, rest, kept⟩ =
      (all ps).read next ⟨before, rest, kept⟩ := read_edge _ hrest

theorem shuns_lineEnd : (all (.edge .lineEnd :: ps)).Shuns isInline := by
  intro next c hc before rest kept
  rw [all_cons, read_seq, read_edge_eq]
  have hne : c ≠ '\n' := by simpa [isInline] using hc
  simp [Spot.meets, hne]

theorem isInline_of_isDigit (c : Char) (h : isDigit c = true) : isInline c = true := by
  have hne : c ≠ '\n' := by
    rintro rfl
    exact absurd h (by decide)
  simpa [isInline] using hne

/-! ## Runs that are kept -/

/-- A run of the class, kept under the number. -/
theorem read_group_many1 (hne : x ≠ []) (hx : ∀ c ∈ x, allowed c = true)
    (hrest : rest.head?.any allowed = false) (hps : (all ps).Shuns allowed) :
    (all (.group number (many1 allowed) :: ps)).read next ⟨before, x ++ rest, kept⟩ =
      (all ps).read next ⟨x.reverse ++ before, rest, (number, ⟨x ++ rest, rest⟩) :: kept⟩ :=
  (read_many1 hne hx hrest fun c hc before rest _ => hps next c hc before rest _)

/-- A whole word is read and kept. -/
theorem read_word (hx : IsWordRun x) (hrest : rest.head?.any isWord = false)
    (hps : (all ps).Shuns isWord) :
    (all (.group number word :: ps)).read next ⟨before, x ++ rest, kept⟩ =
      (all ps).read next ⟨x.reverse ++ before, rest, (number, ⟨x ++ rest, rest⟩) :: kept⟩ :=
  read_group_many1 hx.ne_nil hx.isWord hrest hps

/-- A whole number is read and kept. -/
theorem read_digits (n : Numeral) (hrest : rest.head?.any isDigit = false)
    (hps : (all ps).Shuns isDigit) :
    (all (.group number digits :: ps)).read next ⟨before, n.digits ++ rest, kept⟩ =
      (all ps).read next
        ⟨n.digits.reverse ++ before, rest, (number, ⟨n.digits ++ rest, rest⟩) :: kept⟩ :=
  read_group_many1 n.ne_nil (fun c hc => isDigit_of_charIsDigit (n.isDigit c hc)) hrest hps

theorem read_group_many1_of_eq_some (hne : x ≠ []) (hx : ∀ c ∈ x, allowed c = true)
    (hrest : rest.head?.any allowed = false)
    (h : (all ps).read next ⟨x.reverse ++ before, rest, (number, ⟨x ++ rest, rest⟩) :: kept⟩ =
      some spot) :
    (all (.group number (many1 allowed) :: ps)).read next ⟨before, x ++ rest, kept⟩ = some spot :=
  read_many1_of_eq_some hne hx hrest h

/-- A run of the class, perhaps empty, kept under the number. -/
theorem read_group_many (hx : ∀ c ∈ x, allowed c = true) (hrest : rest.head?.any allowed = false)
    (hps : (all ps).Shuns allowed) :
    (all (.group number (.many allowed) :: ps)).read next ⟨before, x ++ rest, kept⟩ =
      (all ps).read next ⟨x.reverse ++ before, rest, (number, ⟨x ++ rest, rest⟩) :: kept⟩ :=
  (read_many hx hrest fun c hc before rest _ => hps next c hc before rest _)

/-- A shortest run that stops at the first sign of its kind, kept under the number. -/
theorem read_group_few1_of_eq_some {stop : Char} (hne : x ≠ [])
    (hx : ∀ c ∈ x, allowed c = true ∧ c ≠ stop) (hps : (all ps).Shuns (· != stop))
    (h : (all ps).read next ⟨x.reverse ++ before, rest, (number, ⟨x ++ rest, rest⟩) :: kept⟩ =
      some spot) :
    (all (.group number (few1 allowed) :: ps)).read next ⟨before, x ++ rest, kept⟩ = some spot :=
  read_few1_of_eq_some hne hx (fun c hc before rest _ => hps next c hc before rest _) h

/-- The same for a run that is perhaps empty. -/
theorem read_group_few_of_eq_some {stop : Char} (hx : ∀ c ∈ x, allowed c = true ∧ c ≠ stop)
    (hps : (all ps).Shuns (· != stop))
    (h : (all ps).read next ⟨x.reverse ++ before, rest, (number, ⟨x ++ rest, rest⟩) :: kept⟩ =
      some spot) :
    (all (.group number (few allowed) :: ps)).read next ⟨before, x ++ rest, kept⟩ = some spot := by
  have hrun : ∀ c ∈ x, allowed c = true ∧ (c != stop) = true := fun c hc => by simpa using hx c hc
  exact read_few_of_eq_some hrun (fun c hc before rest _ => hps next c hc before rest _) h

/-- A shortest run that what follows does not accept before its end, kept under the number. -/
theorem read_group_few_of_first (hx : ∀ c ∈ x, allowed c = true)
    (hskip : ∀ a b kept, x = a ++ b → b ≠ [] →
      (all ps).read next ⟨a.reverse ++ before, b ++ rest, kept⟩ = none)
    (h : (all ps).read next ⟨x.reverse ++ before, rest, (number, ⟨x ++ rest, rest⟩) :: kept⟩ =
      some spot) :
    (all (.group number (few allowed) :: ps)).read next ⟨before, x ++ rest, kept⟩ = some spot :=
  read_few_of_first hx (fun a b hab hb => hskip a b _ hab hb) h

/-- A shortest run that stops only where it must, perhaps empty, kept under the number. -/
theorem read_group_few (hx : ∀ c ∈ x, allowed c = true) (hrest : rest.head?.any allowed = false)
    (hps : (all ps).Shuns allowed) :
    (all (.group number (.few allowed) :: ps)).read next ⟨before, x ++ rest, kept⟩ =
      (all ps).read next ⟨x.reverse ++ before, rest, (number, ⟨x ++ rest, rest⟩) :: kept⟩ :=
  (read_few hx hrest fun c hc before rest _ => hps next c hc before rest _)

/-- The same where it has a character. -/
theorem read_group_few1 (hne : x ≠ []) (hx : ∀ c ∈ x, allowed c = true)
    (hrest : rest.head?.any allowed = false) (hps : (all ps).Shuns allowed) :
    (all (.group number (few1 allowed) :: ps)).read next ⟨before, x ++ rest, kept⟩ =
      (all ps).read next ⟨x.reverse ++ before, rest, (number, ⟨x ++ rest, rest⟩) :: kept⟩ :=
  (read_few1 hne hx hrest fun c hc before rest _ => hps next c hc before rest _)

end Form

end Recast
