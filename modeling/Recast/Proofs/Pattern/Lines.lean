import Mathlib.Data.List.Forall2
import Recast.Proofs.Pattern.Cue
import Recast.Text.Lines

/-!
# Proofs/Pattern/Lines — rules that work line by line

A rule runs over the whole text, but most rules never read beyond the end of a line. Such a rule
**turns** a line into another wherever the line may stand (`Rule.Turns`), so what it does to a text
is known from what it does to each of its lines (`apply_joinLines`), and the same holds for rules
that run one after the other (`applyAll_joinLines`).

A line is turned by finding the places at which the pattern cannot be read (`Pattern.Misses`) and
the one place at which it can.
-/

namespace Recast

open Text

namespace Pattern

variable {p : Pattern} {fill : Spot → List Char} {before line more rest : List Char} {spot : Spot}

/-! ## Places that are passed over -/

/-- The pattern cannot be read at any place of `line`, between `before` and `rest`. -/
def Misses (p : Pattern) (before line rest : List Char) : Prop :=
  ∀ a b, line = a ++ b → b ≠ [] → p.readAt? ⟨a.reverse ++ before, b ++ rest, []⟩ = none

theorem misses_nil : p.Misses before [] rest := by
  intro a b hab hb
  simp only [List.nil_eq, List.append_eq_nil_iff] at hab
  exact absurd hab.2 hb

theorem Misses.cons {c : Char} (hc : p.readAt? ⟨before, c :: (line ++ rest), []⟩ = none)
    (h : p.Misses (c :: before) line rest) : p.Misses before (c :: line) rest := by
  intro a b hab hb
  cases a with
  | nil =>
    obtain rfl : c :: line = b := hab
    exact hc
  | cons d a =>
    obtain ⟨rfl, hline⟩ := List.cons.inj hab
    simpa using h a b hline hb

/-- A pattern misses two stretches if it misses each of them in its place. -/
theorem Misses.append (h : p.Misses before line (more ++ rest))
    (hmore : p.Misses (line.reverse ++ before) more rest) :
      p.Misses before (line ++ more) rest := by
  induction line generalizing before with
  | nil => exact hmore
  | cons c line ih =>
    refine Misses.cons ?_ (ih (fun a b hab hb => ?_) (by simpa using hmore))
    · simpa using h [] (c :: line) rfl (by simp)
    · simpa using h (c :: a) b (congrArg (c :: ·) hab) hb

theorem Misses.of_append (h : p.Misses before (line ++ more) rest) :
    p.Misses (line.reverse ++ before) more rest := fun a b hab hb => by
  simpa using h (line ++ a) b (by rw [hab, List.append_assoc]) hb

/-- The characters of the line are shunned one by one. -/
theorem misses_of_shuns {allowed : Char → Bool} (h : p.Shuns allowed)
    (hline : ∀ c ∈ line, allowed c = true) : p.Misses before line rest := by
  induction line generalizing before with
  | nil => exact misses_nil
  | cons c line ih =>
    exact .cons (h some c (hline c (by simp)) _ _ _) (ih fun d hd => hline d (by simp [hd]))

/-- The line has none of the cues. -/
theorem misses_of_shows {cues : List Cue} (h : p.Shows cues) (hplain : cues.all Cue.isPlain = true)
    (hrest : rest.head?.all (· = '\n') = true) (habsent : ∀ cue ∈ cues, ¬ cue.In line) :
    p.Misses before line rest := fun a b hab _ =>
  h.read_eq_none hplain hrest (by rwa [hab] at habsent) some []

/-- The lines have none of the cues, and the last of them is ended. -/
theorem misses_endedLines_of_shows {cues : List Cue} (h : p.Shows cues)
    (hplain : cues.all Cue.isPlain = true) (habsent : ∀ cue ∈ cues, ¬ cue.In line) :
    p.Misses before (line ++ ['\n']) rest :=
  (misses_of_shows h hplain rfl habsent).append
    (misses_of_shuns (h.shuns_lineFeed hplain) (by simp))

/-- The pattern can only be read at the start of a line. -/
def StartsLine (p : Pattern) : Prop :=
  ∀ next s, (p.read next s).isSome = true → s.meets .lineStart = true

theorem startsLine_edge_seq {q : Pattern} : (Pattern.seq (.edge .lineStart) q).StartsLine :=
  fun _ _ h => (meets_of_read_edge h).1

/-- Behind the first character of a line nothing starts the line. -/
theorem misses_of_startsLine (h : p.StartsLine) (hline : '\n' ∉ line)
    (hfirst : p.readAt? ⟨before, line ++ rest, []⟩ = none) : p.Misses before line rest := by
  intro a b hab hb
  cases ha : a.reverse with
  | nil =>
    obtain rfl : a = [] := by simpa using ha
    obtain rfl : line = b := hab
    exact hfirst
  | cons c a' =>
    by_contra hread
    have hstart := h some _ (Option.isSome_iff_ne_none.mpr hread)
    obtain rfl : c = '\n' := by simpa [Spot.meets] using hstart
    have hmem : '\n' ∈ a := List.mem_reverse.mp (ha ▸ List.mem_cons_self)
    exact hline (hab ▸ List.mem_append_left b hmem)

/-! ## Replacing, place by place -/

/-- A stretch that is missed is left as it is. -/
theorem replaceFrom_of_misses (h : p.Misses before line rest) :
    p.replaceFrom fill 0 before (line ++ rest) =
      line ++ p.replaceFrom fill 0 (line.reverse ++ before) rest := by
  induction line generalizing before with
  | nil => rfl
  | cons c line ih =>
    have hc := h [] (c :: line) rfl (by simp)
    have htail : p.Misses (c :: before) line rest := fun a b hab hb => by
      simpa using h (c :: a) b (congrArg (c :: ·) hab) hb
    rw [List.cons_append, replaceFrom,
      show p.readAt? ⟨before, c :: (line ++ rest), []⟩ = none from hc]
    simp [ih htail]

/-- What is passed over up to the end of the text stays as it is. -/
theorem replaceFrom_eq_self (h : p.Misses before line []) :
    p.replaceFrom fill 0 before line = line := by
  have hline : p.replaceFrom fill 0 before (line ++ []) =
      line ++ p.replaceFrom fill 0 (line.reverse ++ before) [] := replaceFrom_of_misses h
  simpa [replaceFrom] using hline

theorem replaceFrom_length : ∀ (line before rest : List Char),
    p.replaceFrom fill line.length before (line ++ rest) =
      p.replaceFrom fill 0 (line.reverse ++ before) rest
  | [], _, _ => rfl
  | c :: line, before, rest => by
      rw [List.length_cons, List.cons_append, replaceFrom, replaceFrom_length line]
      simp

/-- The stretch that is read is replaced, and the search goes on behind it. -/
theorem replaceFrom_of_read (hne : line ≠ []) (hrest : spot.rest = rest)
    (hread : p.readAt? ⟨before, line ++ rest, []⟩ = some spot) :
    p.replaceFrom fill 0 before (line ++ rest) =
      fill spot ++ p.replaceFrom fill 0 (line.reverse ++ before) rest := by
  cases line with
  | nil => exact absurd rfl hne
  | cons c line =>
    have hwidth : (line ++ rest).length + 1 - spot.rest.length = line.length + 1 := by
      rw [hrest, List.length_append]
      omega
    rw [List.cons_append, replaceFrom,
      show p.readAt? ⟨before, c :: (line ++ rest), []⟩ = some spot from hread]
    simp only [hwidth, replaceFrom_length, List.reverse_cons, List.append_assoc,
      List.singleton_append]

theorem replaceFrom_of_readAt? {before' : List Char} {kept : List (Nat × Stretch)} (hne : line ≠ [])
    (hread : p.readAt? ⟨before, line ++ rest, []⟩ = some ⟨before', rest, kept⟩) :
    p.replaceFrom fill 0 before (line ++ rest) =
      fill ⟨before', rest, kept⟩ ++ p.replaceFrom fill 0 (line.reverse ++ before) rest :=
  replaceFrom_of_read hne rfl hread

/-- **Lines are replaced one by one** by a pattern that does not read beyond their ends, where each
is followed by what that requires. -/
theorem replaceFrom_joinLines {after : List Char → Prop} (hbreak : p.Shuns (· == '\n')) :
    ∀ {ls ls' : List (List Char)},
      List.Forall₂ (fun line line' => ∀ before rest, before.head?.all (· = '\n') = true →
        rest.head?.all (· = '\n') = true → after rest → p.replaceFrom fill 0 before (line ++ rest) =
          line' ++ p.replaceFrom fill 0 (line.reverse ++ before) rest) ls ls' →
      (∀ line ∈ ls, ∀ more, after ('\n' :: (line ++ more))) → after [] →
      ∀ before : List Char, before.head?.all (· = '\n') = true →
        p.replaceFrom fill 0 before (joinLines ls) = joinLines ls' := by
  intro ls ls' h hafter hend
  induction h with
  | nil => exact fun _ _ => rfl
  | @cons line line' more more' h hs ih =>
    intro before hbefore
    cases hs with
    | nil =>
      have hline := h before [] hbefore rfl hend
      simpa [joinLines_singleton, Pattern.replaceFrom] using hline
    | @cons next next' more more' hnext hmore =>
      obtain ⟨tail, htail⟩ : ∃ tail, joinLines (next :: more) = next ++ tail := by
        cases more with
        | nil => exact ⟨[], by simp [joinLines_singleton]⟩
        | cons => exact ⟨_, joinLines_cons_cons _ _ _⟩
      have hline := h before ('\n' :: joinLines (next :: more)) hbefore rfl
        (htail ▸ hafter next (by simp) tail)
      have hfeed : p.Misses (line.reverse ++ before) ['\n'] (joinLines (next :: more)) :=
        misses_of_shuns hbreak (by simp)
      have hbelow := ih (fun l hl => hafter l (List.mem_cons_of_mem _ hl))
        ('\n' :: (line.reverse ++ before)) rfl
      rw [joinLines_cons_cons, joinLines_cons_cons, hline, ← List.singleton_append,
        replaceFrom_of_misses hfeed]
      simp [hbelow]

end Pattern

namespace Rule

/-! ## One line -/

/-- The rule makes `line` into `line'` wherever the line stands between two line ends, provided that
what comes after it is as required. -/
def TurnsBefore (rule : Rule) (after : List Char → Prop) (line line' : List Char) : Prop :=
  ∀ before rest, before.head?.all (· = '\n') = true → rest.head?.all (· = '\n') = true →
    after rest →
    rule.pattern.replaceFrom rule.phrase.fillFrom 0 before (line ++ rest) =
      line' ++ rule.pattern.replaceFrom rule.phrase.fillFrom 0 (line.reverse ++ before) rest

/-- **The rule makes `line` into `line'`** wherever the line stands between two line ends. -/
abbrev Turns (rule : Rule) (line line' : List Char) : Prop :=
  rule.TurnsBefore (fun _ => True) line line'

/-- The rule leaves the line as it is. -/
abbrev Leaves (rule : Rule) (line : List Char) : Prop := rule.Turns line line

variable {rule : Rule} {line line' word word' more : List Char} {after : List Char → Prop}

/-- What comes after the line does not matter. -/
theorem turnsBefore_of_turns (h : rule.Turns line line') : rule.TurnsBefore after line line' :=
  fun before rest hbefore hrest _ => h before rest hbefore hrest trivial

/-- A rule leaves a line that its pattern misses. -/
theorem leaves_of_misses (h : ∀ before rest, before.head?.all (· = '\n') = true →
    rest.head?.all (· = '\n') = true → rule.pattern.Misses before line rest) :
    rule.Leaves line := fun before rest hbefore hrest _ =>
  Pattern.replaceFrom_of_misses (h before rest hbefore hrest)

/-- **A stretch of the line is read**, the places before it being passed over, and those behind it
too. -/
theorem turns_of_read (hne : word ≠ [])
    (hline : ∀ before rest, before.head?.all (· = '\n') = true →
      rule.pattern.Misses before line (word ++ rest))
    (hread : ∀ before rest, before.head?.all (· = '\n') = true →
      rest.head?.all (· = '\n') = true →
      ∃ spot,
        rule.pattern.readAt? ⟨line.reverse ++ before, word ++ (more ++ rest), []⟩ = some spot ∧
        spot.rest = more ++ rest ∧ rule.phrase.fillFrom spot = word')
    (hmore : ∀ before rest, rest.head?.all (· = '\n') = true →
      rule.pattern.Misses before more rest) :
    rule.Turns (line ++ (word ++ more)) (line ++ (word' ++ more)) := by
  intro before rest hbefore hrest _
  obtain ⟨spot, hspot, hend, hfill⟩ := hread before rest hbefore hrest
  have hpassed := hline before (more ++ rest) hbefore
  calc rule.pattern.replaceFrom rule.phrase.fillFrom 0 before (line ++ (word ++ more) ++ rest)
      = rule.pattern.replaceFrom rule.phrase.fillFrom 0 before
        (line ++ (word ++ (more ++ rest))) := by
        simp
    _ = line ++ (word' ++ (more ++ rule.pattern.replaceFrom rule.phrase.fillFrom 0
          (more.reverse ++ (word.reverse ++ (line.reverse ++ before))) rest)) := by
        rw [Pattern.replaceFrom_of_misses hpassed,
          Pattern.replaceFrom_of_read hne hend hspot, hfill,
          Pattern.replaceFrom_of_misses (hmore _ rest hrest)]
    _ = line ++ (word' ++ more) ++ rule.pattern.replaceFrom rule.phrase.fillFrom 0
          ((line ++ (word ++ more)).reverse ++ before) rest := by simp

/-- The same where nothing stands behind the stretch. -/
theorem turns_of_read_to_end (hne : word ≠ [])
    (hline : ∀ before rest, before.head?.all (· = '\n') = true →
      rule.pattern.Misses before line (word ++ rest))
    (hread : ∀ before rest, before.head?.all (· = '\n') = true →
      rest.head?.all (· = '\n') = true →
      ∃ spot, rule.pattern.readAt? ⟨line.reverse ++ before, word ++ rest, []⟩ = some spot ∧
        spot.rest = rest ∧ rule.phrase.fillFrom spot = word') :
    rule.Turns (line ++ word) (line ++ word') := by
  have hturns : rule.Turns (line ++ (word ++ [])) (line ++ (word' ++ [])) :=
    turns_of_read hne hline (by simpa using hread) fun _ _ _ => Pattern.misses_nil
  simpa using hturns

/-! ## Lines one below the other -/

/-- The rule turns each of the lines, where each is followed by what that requires. -/
theorem replaceFrom_joinLines (hbreak : rule.pattern.Shuns (· == '\n'))
    {ls ls' : List (List Char)} (h : List.Forall₂ (rule.TurnsBefore after) ls ls')
    (hafter : ∀ line ∈ ls, ∀ more, after ('\n' :: (line ++ more))) (hend : after [])
    (before : List Char) (hbefore : before.head?.all (· = '\n') = true) :
    rule.pattern.replaceFrom rule.phrase.fillFrom 0 before (joinLines ls) = joinLines ls' :=
  Pattern.replaceFrom_joinLines hbreak h hafter hend before hbefore

/-- **A rule that turns each line makes the lines into what they are turned into.** -/
theorem apply_joinLines (hbreak : rule.pattern.Shuns (· == '\n')) {ls ls' : List (List Char)}
    (h : List.Forall₂ rule.Turns ls ls') : rule.apply (joinLines ls) = joinLines ls' :=
  replaceFrom_joinLines hbreak h (fun _ _ _ => trivial) trivial [] rfl

/-! ## Rules one after the other -/

theorem applyAll_nil (text : List Char) : applyAll [] text = text := rfl

theorem applyAll_cons (rule : Rule) (rules : List Rule) (text : List Char) :
    applyAll (rule :: rules) text = applyAll rules (rule.apply text) := rfl

theorem applyAll_append (rules rules' : List Rule) (text : List Char) :
    applyAll (rules ++ rules') text = applyAll rules' (applyAll rules text) := List.foldl_append

/-- The rules make `line` into `line'`, one after the other. -/
inductive Runs : List Rule → List Char → List Char → Prop
  | nil (line : List Char) : Runs [] line line
  | cons {rule : Rule} {rules : List Rule} {line line' line'' : List Char}
      (turns : rule.Turns line line') (runs : Runs rules line' line'') :
        Runs (rule :: rules) line line''

/-- Rules that leave a line pass it on. -/
theorem runs_of_leaves : ∀ {rules : List Rule}, (∀ rule ∈ rules, rule.Leaves line) →
    Runs rules line line
  | [], _ => .nil line
  | rule :: _, h =>
    .cons (h rule (by simp))
      (runs_of_leaves fun rule hrule => h rule (List.mem_cons_of_mem _ hrule))

/-- Rules that run over lines do so one after the other. -/
theorem exists_of_runs_cons {rules : List Rule} : ∀ {ls ls'' : List (List Char)},
    List.Forall₂ (Runs (rule :: rules)) ls ls'' →
      ∃ ls', List.Forall₂ rule.Turns ls ls' ∧ List.Forall₂ (Runs rules) ls' ls''
  | _, _, .nil => ⟨[], .nil, .nil⟩
  | _, _, .cons (.cons turns runs) hs => by
      obtain ⟨ls', hturns, hruns⟩ := exists_of_runs_cons hs
      exact ⟨_, .cons turns hturns, .cons runs hruns⟩

/-- **Rules that turn each line, one after the other, over a whole text.** -/
theorem applyAll_joinLines : ∀ {rules : List Rule},
    (∀ rule ∈ rules, rule.pattern.Shuns (· == '\n')) → ∀ {ls ls' : List (List Char)},
      List.Forall₂ (Runs rules) ls ls' → applyAll rules (joinLines ls) = joinLines ls'
  | [], _, ls, ls', h => by
      have heq : ls = ls' := List.forall₂_eq_eq_eq ▸ h.imp fun _ _ (.nil _) => rfl
      rw [heq]
      rfl
  | rule :: rules, hbreak, ls, ls', h => by
      obtain ⟨ms, hturns, hruns⟩ := exists_of_runs_cons h
      rw [applyAll_cons, apply_joinLines (hbreak rule (by simp)) hturns]
      exact applyAll_joinLines (fun r hr => hbreak r (List.mem_cons_of_mem _ hr)) hruns

end Rule

end Recast
