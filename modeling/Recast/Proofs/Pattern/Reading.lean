import Mathlib.Data.List.Basic
import Recast.Pattern.Replace

/-!
# Proofs/Pattern/Reading — reading a pattern step by step

`Pattern.read` goes back when what follows refuses, so what a run of characters takes depends on the
rest of the pattern. Where that rest **shuns** the class of the run — it refuses every place at
which a character of the class comes next — there is nothing to go back to: the run takes all it
can, and reading is a plain walk through the text (`read_many`, `read_few`).

Without that, a reading still says that some run was taken (`exists_of_read_many`), which is enough
to find the words that a pattern cannot do without.
-/

namespace Recast.Pattern

variable {allowed : Char → Bool} {next : Next} {before rest run : List Char}
  {kept : List (Nat × Stretch)} {s t : Spot} {p q : Pattern} {word : String} {number : Nat}

/-! ## One part -/

/-- What is tried when the first reading fails. -/
theorem match_eq_or (o o' : Option Spot) :
    (match o with | some spot => some spot | none => o') = o.or o' := by
  cases o <;> rfl

/-- A word is passed sign by sign. -/
theorem pass_cons (c d : Char) (word before rest : List Char) (kept : List (Nat × Stretch)) :
    Spot.pass (c :: word) ⟨before, d :: rest, kept⟩ =
      if d = c then Spot.pass word ⟨d :: before, rest, kept⟩ else none := rfl

theorem pass_cons_nil (c : Char) (word before : List Char) (kept : List (Nat × Stretch)) :
    Spot.pass (c :: word) ⟨before, [], kept⟩ = none := rfl

/-- A long run takes a sign as long as it may, and gives it back when nothing else helps. -/
theorem readMany_cons (allowed : Char → Bool) (next : Next) (c : Char) (before rest : List Char)
    (kept : List (Nat × Stretch)) : readMany allowed next kept before (c :: rest) =
      if allowed c then
        (readMany allowed next kept (c :: before) rest).or (next ⟨before, c :: rest, kept⟩)
      else next ⟨before, c :: rest, kept⟩ := by
  rw [← match_eq_or]
  rfl

/-- A short run takes a sign only when what follows cannot be read in front of it. -/
theorem readFew_cons (allowed : Char → Bool) (next : Next) (c : Char) (before rest : List Char)
    (kept : List (Nat × Stretch)) : readFew allowed next kept before (c :: rest) =
      (next ⟨before, c :: rest, kept⟩).or
        (if allowed c then readFew allowed next kept (c :: before) rest else none) :=
  match_eq_or _ _

theorem read_text_eq (word : String) (next : Next) (s : Spot) :
    (Pattern.text word).read next s = (s.pass word.toList).bind next := rfl

theorem read_one (allowed : Char → Bool) (next : Next) (c : Char) (before rest : List Char)
    (kept : List (Nat × Stretch)) : (Pattern.one allowed).read next ⟨before, c :: rest, kept⟩ =
      if allowed c then next ⟨c :: before, rest, kept⟩ else none := rfl

theorem read_one_nil (allowed : Char → Bool) (next : Next) (before : List Char)
    (kept : List (Nat × Stretch)) : (Pattern.one allowed).read next ⟨before, [], kept⟩ = none := rfl

theorem read_many_eq (allowed : Char → Bool) (next : Next) (before rest : List Char)
    (kept : List (Nat × Stretch)) : (Pattern.many allowed).read next ⟨before, rest, kept⟩ =
      readMany allowed next kept before rest := rfl

theorem read_few_eq (allowed : Char → Bool) (next : Next) (before rest : List Char)
    (kept : List (Nat × Stretch)) : (Pattern.few allowed).read next ⟨before, rest, kept⟩ =
      readFew allowed next kept before rest := rfl

/-- The second way is tried where the first leads nowhere. -/
theorem read_alt (p q : Pattern) (next : Next) (s : Spot) :
    (Pattern.alt p q).read next s = (p.read next s).or (q.read next s) := match_eq_or _ _

/-- A stretch that was kept is passed like a word. -/
theorem read_again_eq (number : Nat) (next : Next) (s : Spot) :
    (Pattern.again number).read next s =
      (s.keptText? number).bind fun word => (s.pass word).bind next := rfl

theorem read_edge_eq (condition : Edge) (next : Next) (s : Spot) :
    (Pattern.edge condition).read next s = if s.meets condition then next s else none := rfl

/-! ## One part after the other -/

@[simp] theorem all_cons (p : Pattern) (ps : List Pattern) : all (p :: ps) = .seq p (all ps) := rfl

/-- What comes first is read in front of what comes next. -/
theorem read_seq (p q : Pattern) (next : Next) (s : Spot) :
    (Pattern.seq p q).read next s = p.read (q.read next) s := rfl

/-- Parts in a row are read one behind the other. -/
theorem read_all_append : ∀ (ps qs : List Pattern) (next : Next) (s : Spot),
    (all (ps ++ qs)).read next s = (all ps).read ((all qs).read next) s
  | [], _, _, _ => rfl
  | p :: ps, qs, next, s => by
      have hrest : (all (ps ++ qs)).read next = (all ps).read ((all qs).read next) :=
        funext (read_all_append ps qs next)
      rw [List.cons_append, all_cons, all_cons, read_seq, read_seq, hrest]

/-- A group keeps the stretch that it has taken. -/
theorem read_group (number : Nat) (p : Pattern) (next : Next) (s : Spot) :
    (Pattern.group number p).read next s =
      p.read (fun t => next { t with kept := (number, ⟨s.rest, t.rest⟩) :: t.kept }) s := rfl

theorem read_edge (condition : Edge) (h : s.meets condition = true) :
    (Pattern.edge condition).read next s = next s := if_pos h

/-- A word that is there is passed. -/
theorem pass_append : ∀ (word : List Char) (before rest : List Char) (kept : List (Nat × Stretch)),
    Spot.pass word ⟨before, word ++ rest, kept⟩ = some ⟨word.reverse ++ before, rest, kept⟩
  | [], _, _, _ => rfl
  | c :: word, before, rest, kept => by
      simp only [List.cons_append, pass_cons, if_true, pass_append word, List.reverse_cons,
        List.append_assoc, List.nil_append]

/-- Only a word that is there is passed. -/
theorem exists_of_pass : ∀ {word : List Char} {s t : Spot}, s.pass word = some t →
    ∃ rest, s.rest = word ++ rest ∧ t = ⟨word.reverse ++ s.before, rest, s.kept⟩
  | [], s, t, h => ⟨s.rest, rfl, (Option.some.inj h).symm⟩
  | c :: word, ⟨before, rest, kept⟩, t, h => by
      cases rest with
      | nil => simp [pass_cons_nil] at h
      | cons d rest =>
        by_cases hd : d = c
        · subst hd
          simp only [pass_cons, if_true] at h
          obtain ⟨tail, hrest, ht⟩ := exists_of_pass h
          exact ⟨tail, congrArg (d :: ·) hrest, by simp [ht]⟩
        · simp [pass_cons, hd] at h

/-- The word is read where it stands. -/
theorem read_text (word : String) (next : Next) (before rest : List Char)
    (kept : List (Nat × Stretch)) :
    (Pattern.text word).read next ⟨before, word.toList ++ rest, kept⟩ =
      next ⟨word.toList.reverse ++ before, rest, kept⟩ := by
  rw [read_text_eq, pass_append]
  rfl

/-- A fixed text is read only where it stands. -/
theorem exists_of_read_text_eq_some (h : (Pattern.text word).read next s = some t) :
    ∃ rest, s.rest = word.toList ++ rest ∧
      next ⟨word.toList.reverse ++ s.before, rest, s.kept⟩ = some t := by
  rw [read_text_eq] at h
  obtain ⟨u, hpass, hnext⟩ := Option.bind_eq_some_iff.mp h
  obtain ⟨rest, hrest, rfl⟩ := exists_of_pass hpass
  exact ⟨rest, hrest, hnext⟩

theorem exists_of_read_text (h : ((Pattern.text word).read next s).isSome = true) :
    ∃ rest, s.rest = word.toList ++ rest ∧
      (next ⟨word.toList.reverse ++ s.before, rest, s.kept⟩).isSome = true := by
  obtain ⟨t, ht⟩ := Option.isSome_iff_exists.mp h
  obtain ⟨rest, hrest, hnext⟩ := exists_of_read_text_eq_some ht
  exact ⟨rest, hrest, Option.isSome_of_eq_some hnext⟩

/-- A fixed text can be read just where it stands, and what follows can be read behind it. -/
theorem isSome_read_text :
    ((Pattern.text word).read next ⟨before, rest, kept⟩).isSome = true ↔ ∃ tail,
      rest = word.toList ++ tail ∧
        (next ⟨word.toList.reverse ++ before, tail, kept⟩).isSome = true := by
  refine ⟨fun h => exists_of_read_text h, fun ⟨tail, hrest, hnext⟩ => ?_⟩
  rwa [hrest, read_text]

/-- Past an edge, its condition holds. -/
theorem meets_of_read_edge {condition : Edge}
    (h : ((Pattern.edge condition).read next s).isSome = true) :
    s.meets condition = true ∧ (next s).isSome = true := by
  rw [read_edge_eq] at h
  split at h
  · exact ⟨‹_›, h⟩
  · simp at h

/-- A choice can be read if one of its sides can. -/
theorem isSome_read_alt (p q : Pattern) : ((Pattern.alt p q).read next s).isSome =
    ((p.read next s).isSome || (q.read next s).isSome) := by
  rw [read_alt]
  cases p.read next s <;> rfl

/-- One of two patterns was read. -/
theorem isSome_of_read_alt (h : ((Pattern.alt p q).read next s).isSome = true) :
    (p.read next s).isSome = true ∨ (q.read next s).isSome = true := by
  rwa [isSome_read_alt, Bool.or_eq_true] at h

/-- One of some words was read. -/
theorem isSome_read_anyWord :
    ∀ {ws : List String}, ((anyWord ws).read next ⟨before, rest, kept⟩).isSome = true ↔
      ∃ w ∈ ws, ∃ tail, rest = w.toList ++ tail ∧
        (next ⟨w.toList.reverse ++ before, tail, kept⟩).isSome = true
  | [] => by cases rest <;> simp [anyWord, read_one, read_one_nil]
  | [w] => by
      have htext : ((Pattern.text w).read next ⟨before, rest, kept⟩).isSome = true ↔
          ∃ tail, rest = w.toList ++ tail ∧
            (next ⟨w.toList.reverse ++ before, tail, kept⟩).isSome = true :=
        isSome_read_text
      simpa [anyWord] using htext
  | w :: w' :: ws => by
      rw [show anyWord (w :: w' :: ws) = .alt (.text w) (anyWord (w' :: ws)) from rfl,
        isSome_read_alt, Bool.or_eq_true, isSome_read_text, isSome_read_anyWord,
        List.exists_mem_cons_iff _ w (w' :: ws)]

/-! ## Shunned characters -/

/-- **No place is accepted at which a character of the class comes next.** -/
def Next.Shuns (next : Next) (allowed : Char → Bool) : Prop :=
  ∀ c, allowed c = true → ∀ before rest kept, next ⟨before, c :: rest, kept⟩ = none

/-- The pattern cannot be read where a character of the class comes next. -/
def Shuns (p : Pattern) (allowed : Char → Bool) : Prop := ∀ next, Next.Shuns (p.read next) allowed

/-- A fixed text shuns the signs that it does not begin with. -/
theorem shuns_text (h : (word.toList.head?.any fun c => !allowed c) = true) :
    (Pattern.text word).Shuns allowed := by
  intro next c hc before rest kept
  cases hw : word.toList with
  | nil => simp [hw] at h
  | cons d word' =>
    have hd : c ≠ d := by rintro rfl; simp [hw, hc] at h
    simp [read_text_eq, hw, pass_cons, hd]

/-- A sign of one kind shuns the signs of another. -/
theorem shuns_one {other : Char → Bool} (h : ∀ c, allowed c = true → other c = false) :
    (Pattern.one other).Shuns allowed := fun next c hc before rest kept => by
    simp [read_one, h c hc]

/-- A sequence shuns what its first part shuns. -/
theorem Shuns.seq (h : p.Shuns allowed) : (Pattern.seq p q).Shuns allowed := fun _ => h _

theorem Shuns.group (h : p.Shuns allowed) : (Pattern.group number p).Shuns allowed :=
  fun _ c hc before rest kept => h _ c hc before rest kept

theorem Shuns.edge_seq {condition : Edge} (h : q.Shuns allowed) :
    (Pattern.seq (.edge condition) q).Shuns allowed := by
  intro next c hc before rest kept
  rw [read_seq, read_edge_eq]
  split
  · exact h next c hc before rest kept
  · rfl

/-- A choice shuns what both its sides shun. -/
theorem Shuns.alt (hp : p.Shuns allowed) (hq : q.Shuns allowed) :
    (Pattern.alt p q).Shuns allowed := by
  intro next c hc before rest kept
  rw [read_alt, hp next c hc before rest kept]
  exact hq next c hc before rest kept

/-- Where the first part may be absent, the second has to shun the signs as well. -/
theorem Shuns.optional_seq (hp : p.Shuns allowed) (hq : q.Shuns allowed) :
    (Pattern.seq (.optional p) q).Shuns allowed := by
  intro next c hc before rest kept
  rw [read_seq, optional, read_alt, hp _ c hc before rest kept]
  exact hq next c hc before rest kept

/-- A run that may be empty shuns what it does not allow, if what follows does so too. -/
theorem Shuns.many_seq {other : Char → Bool} (h : ∀ c, allowed c = true → other c = false)
    (hq : q.Shuns allowed) : (Pattern.seq (.many other) q).Shuns allowed :=
  fun next c hc before rest kept => by
    rw [read_seq, read_many_eq, readMany_cons, if_neg (by simp [h c hc])]
    exact hq next c hc before rest kept

theorem Shuns.group_many_seq {other : Char → Bool} (h : ∀ c, allowed c = true → other c = false)
    (hq : q.Shuns allowed) : (Pattern.seq (.group number (.many other)) q).Shuns allowed :=
  fun next c hc before rest kept => by
    rw [read_seq, read_group, read_many_eq, readMany_cons, if_neg (by simp [h c hc])]
    exact hq next c hc before rest _

/-- Fewer signs are shunned all the more. -/
theorem Shuns.mono {fewer : Char → Bool} (h : p.Shuns allowed)
    (hle : ∀ c, fewer c = true → allowed c = true) : p.Shuns fewer :=
  fun next c hc => h next c (hle c hc)

/-! ## Runs -/

/-- A run that what follows does not give back. -/
theorem read_many (hrun : ∀ c ∈ run, allowed c = true) (hrest : rest.head?.any allowed = false)
    (hnext : Next.Shuns next allowed) :
    (Pattern.many allowed).read next ⟨before, run ++ rest, kept⟩ =
      next ⟨run.reverse ++ before, rest, kept⟩ := by
  change readMany allowed next kept before (run ++ rest) = _
  induction run generalizing before with
  | nil =>
    cases rest with
    | nil => rfl
    | cons c rest => simp [readMany_cons, show allowed c = false by simpa using hrest]
  | cons c run ih =>
    have hc := hrun c (by simp)
    rw [List.cons_append, readMany_cons, if_pos hc, ih fun d hd => hrun d (by simp [hd])]
    cases hend : next ⟨run.reverse ++ c :: before, rest, kept⟩ with
    | some spot => simp [hend]
    | none => simp [hend, hnext c hc]

/-- Nothing of the class comes next. -/
theorem read_many_nil (hrest : rest.head?.any allowed = false) :
    (Pattern.many allowed).read next ⟨before, rest, kept⟩ = next ⟨before, rest, kept⟩ := by
  cases rest with
  | nil => rfl
  | cons c rest => simp [read_many_eq, readMany_cons, show allowed c = false by simpa using hrest]

/-- A run that is accepted at its full length. -/
theorem read_many_of_eq_some (hrun : ∀ c ∈ run, allowed c = true)
    (hrest : rest.head?.any allowed = false)
    (hnext : next ⟨run.reverse ++ before, rest, kept⟩ = some t) :
    (Pattern.many allowed).read next ⟨before, run ++ rest, kept⟩ = some t := by
  change readMany allowed next kept before (run ++ rest) = _
  induction run generalizing before with
  | nil =>
    cases rest with
    | nil => exact hnext
    | cons c rest => simpa [readMany_cons, show allowed c = false by simpa using hrest] using hnext
  | cons c run ih =>
    rw [List.cons_append, readMany_cons, if_pos (hrun c (by simp)),
      ih (fun d hd => hrun d (by simp [hd])) (by simpa using hnext), Option.some_or]

/-- No longer run is accepted. -/
theorem read_many_of_skip (hskip : ∀ a b, rest = a ++ b → a ≠ [] →
    next ⟨a.reverse ++ before, b, kept⟩ = none) :
    (Pattern.many allowed).read next ⟨before, rest, kept⟩ = next ⟨before, rest, kept⟩ := by
  change readMany allowed next kept before rest = _
  induction rest generalizing before with
  | nil => rfl
  | cons c rest ih =>
    rw [readMany_cons]
    split
    · have hlong : readMany allowed next kept (c :: before) rest = none := by
        rw [ih fun a b hab ha => by simpa using hskip (c :: a) b (by rw [hab]; rfl) (by simp)]
        simpa using hskip [c] rest rfl (by simp)
      rw [hlong, Option.none_or]
    · rfl

/-- **A longest run that is accepted where it ends, and nowhere behind.** -/
theorem read_many_of_last (hrun : ∀ c ∈ run, allowed c = true)
    (hskip : ∀ a b, rest = a ++ b → a ≠ [] →
      next ⟨a.reverse ++ (run.reverse ++ before), b, kept⟩ = none)
    (hend : next ⟨run.reverse ++ before, rest, kept⟩ = some t) :
    (Pattern.many allowed).read next ⟨before, run ++ rest, kept⟩ = some t := by
  induction run generalizing before with
  | nil => exact (read_many_of_skip hskip).trans hend
  | cons c run ih =>
    have hmore :=
      ih (fun d hd => hrun d (by simp [hd])) (by simpa using hskip) (by simpa using hend)
    rw [read_many_eq, List.cons_append, readMany_cons, if_pos (hrun c (by simp)), ← read_many_eq,
      hmore, Option.some_or]

/-- A shortest run that stops only where it must. -/
theorem read_few (hrun : ∀ c ∈ run, allowed c = true) (hrest : rest.head?.any allowed = false)
    (hnext : Next.Shuns next allowed) :
    (Pattern.few allowed).read next ⟨before, run ++ rest, kept⟩ =
      next ⟨run.reverse ++ before, rest, kept⟩ := by
  change readFew allowed next kept before (run ++ rest) = _
  induction run generalizing before with
  | nil =>
    cases rest with
    | nil => rfl
    | cons c rest =>
      rw [List.nil_append, readFew_cons, List.reverse_nil, List.nil_append]
      simp only [show allowed c = false by simpa using hrest, Bool.false_eq_true, if_false]
      cases next ⟨before, c :: rest, kept⟩ <;> rfl
  | cons c run ih =>
    have hc := hrun c (by simp)
    rw [List.cons_append, readFew_cons, hnext c hc, if_pos hc, ih fun d hd => hrun d (by simp [hd]),
      Option.none_or, List.reverse_cons, List.append_assoc, List.singleton_append]

/-- **A shortest run that is accepted where it ends, and nowhere before.** -/
theorem read_few_of_first (hrun : ∀ c ∈ run, allowed c = true)
    (hskip : ∀ a b, run = a ++ b → b ≠ [] → next ⟨a.reverse ++ before, b ++ rest, kept⟩ = none)
    (hend : next ⟨run.reverse ++ before, rest, kept⟩ = some t) :
    (Pattern.few allowed).read next ⟨before, run ++ rest, kept⟩ = some t := by
  change readFew allowed next kept before (run ++ rest) = _
  induction run generalizing before with
  | nil =>
    cases rest with
    | nil => exact hend
    | cons c rest =>
      rw [List.nil_append, readFew_cons, show next ⟨before, c :: rest, kept⟩ = some t from hend,
        Option.some_or]
  | cons c run ih =>
    have hfirst : next ⟨before, c :: (run ++ rest), kept⟩ = none :=
      hskip [] (c :: run) rfl (by simp)
    rw [List.cons_append, readFew_cons, hfirst, Option.none_or, if_pos (hrun c (by simp))]
    refine ih (fun d hd => hrun d (by simp [hd])) (fun a b hab hb => ?_) (by simpa using hend)
    simpa using hskip (c :: a) b (congrArg (c :: ·) hab) hb

/-- The same where what follows shuns the characters of the run. -/
theorem read_few_of_eq_some {other : Char → Bool}
    (hrun : ∀ c ∈ run, allowed c = true ∧ other c = true) (hnext : Next.Shuns next other)
    (hend : next ⟨run.reverse ++ before, rest, kept⟩ = some t) :
    (Pattern.few allowed).read next ⟨before, run ++ rest, kept⟩ = some t := by
  refine read_few_of_first (fun c hc => (hrun c hc).1) (fun a b hab hb => ?_) hend
  cases b with
  | nil => exact absurd rfl hb
  | cons c b => exact hnext c (hrun c (by simp [hab])).2 _ _ _

/-- Whatever a run takes, it is a run of the class and what follows it is accepted. -/
theorem exists_of_read_many_eq_some (h : (Pattern.many allowed).read next s = some t) :
    ∃ run rest, s.rest = run ++ rest ∧ (∀ c ∈ run, allowed c = true) ∧
      next ⟨run.reverse ++ s.before, rest, s.kept⟩ = some t := by
  obtain ⟨before, rest, kept⟩ := s
  replace h : readMany allowed next kept before rest = some t := h
  induction rest generalizing before with
  | nil => exact ⟨[], [], rfl, by simp, h⟩
  | cons c rest ih =>
    by_cases hc : allowed c = true
    · rw [readMany_cons, if_pos hc] at h
      rcases Option.or_eq_some_iff.mp h with hlong | ⟨-, hshort⟩
      · obtain ⟨run, tail, hrest, hrun, hnext⟩ := ih (c :: before) hlong
        exact ⟨c :: run, tail, by simpa using hrest, by simpa [hc] using hrun,
          by simpa using hnext⟩
      · exact ⟨[], c :: rest, rfl, by simp, hshort⟩
    · rw [readMany_cons, if_neg hc] at h
      exact ⟨[], c :: rest, rfl, by simp, h⟩

/-- What a long run takes is a stretch of allowed signs. -/
theorem exists_of_read_many (h : ((Pattern.many allowed).read next s).isSome = true) :
    ∃ run rest, s.rest = run ++ rest ∧ (∀ c ∈ run, allowed c = true) ∧
      (next ⟨run.reverse ++ s.before, rest, s.kept⟩).isSome = true := by
  obtain ⟨t, ht⟩ := Option.isSome_iff_exists.mp h
  obtain ⟨run, rest, hrest, hrun, hnext⟩ := exists_of_read_many_eq_some ht
  exact ⟨run, rest, hrest, hrun, Option.isSome_of_eq_some hnext⟩

/-- The same for a shortest run. -/
theorem exists_of_read_few_eq_some (h : (Pattern.few allowed).read next s = some t) :
    ∃ run rest, s.rest = run ++ rest ∧ (∀ c ∈ run, allowed c = true) ∧
      next ⟨run.reverse ++ s.before, rest, s.kept⟩ = some t := by
  obtain ⟨before, rest, kept⟩ := s
  replace h : readFew allowed next kept before rest = some t := h
  induction rest generalizing before with
  | nil => exact ⟨[], [], rfl, by simp, h⟩
  | cons c rest ih =>
    rw [readFew_cons] at h
    rcases Option.or_eq_some_iff.mp h with hshort | ⟨-, hlong⟩
    · exact ⟨[], c :: rest, rfl, by simp, hshort⟩
    · by_cases hc : allowed c = true
      · obtain ⟨run, tail, hrest, hrun, hnext⟩ := ih (c :: before) (by simpa [hc] using hlong)
        exact ⟨c :: run, tail, by simpa using hrest, by simpa [hc] using hrun,
          by simpa using hnext⟩
      · simp [hc] at hlong

/-- What a short run takes is a stretch of allowed signs. -/
theorem exists_of_read_few (h : ((Pattern.few allowed).read next s).isSome = true) :
    ∃ run rest, s.rest = run ++ rest ∧ (∀ c ∈ run, allowed c = true) ∧
      (next ⟨run.reverse ++ s.before, rest, s.kept⟩).isSome = true := by
  obtain ⟨t, ht⟩ := Option.isSome_iff_exists.mp h
  obtain ⟨run, rest, hrest, hrun, hnext⟩ := exists_of_read_few_eq_some ht
  exact ⟨run, rest, hrest, hrun, Option.isSome_of_eq_some hnext⟩

/-- One sign is taken, and it is an allowed one. -/
theorem exists_of_read_one_eq_some (h : (Pattern.one allowed).read next s = some t) :
    ∃ c rest, s.rest = c :: rest ∧ allowed c = true ∧
      next ⟨c :: s.before, rest, s.kept⟩ = some t := by
  obtain ⟨before, rest, kept⟩ := s
  cases rest with
  | nil => simp [read_one_nil] at h
  | cons c rest =>
    by_cases hc : allowed c = true
    · exact ⟨c, rest, rfl, hc, by simpa [read_one, hc] using h⟩
    · simp [read_one, hc] at h

theorem exists_of_read_one (h : ((Pattern.one allowed).read next s).isSome = true) :
    ∃ c rest, s.rest = c :: rest ∧ allowed c = true ∧
      (next ⟨c :: s.before, rest, s.kept⟩).isSome = true := by
  obtain ⟨t, ht⟩ := Option.isSome_iff_exists.mp h
  obtain ⟨c, rest, hrest, hc, hnext⟩ := exists_of_read_one_eq_some ht
  exact ⟨c, rest, hrest, hc, Option.isSome_of_eq_some hnext⟩

/-- A short run that is not empty takes allowed signs. -/
theorem exists_of_read_few1 (h : ((few1 allowed).read next s).isSome = true) :
    ∃ run rest, s.rest = run ++ rest ∧ (∀ c ∈ run, allowed c = true) ∧
      (next ⟨run.reverse ++ s.before, rest, s.kept⟩).isSome = true := by
  obtain ⟨c, rest, hrest, hc, hsome⟩ := exists_of_read_one h
  obtain ⟨run, tail, htail, hrun, hend⟩ := exists_of_read_few hsome
  exact ⟨c :: run, tail, by simpa [hrest] using htail, by simpa [hc] using hrun,
    by simpa using hend⟩

theorem shuns_many1 {other : Char → Bool} (h : ∀ c, allowed c = true → other c = false) :
    (many1 other).Shuns allowed := (shuns_one h).seq

/-- A run behind its first character is read by the rest of the pattern. -/
theorem read_one_of_run {p : Pattern} {read : Option Spot} (hne : run ≠ [])
    (hrun : ∀ c ∈ run, allowed c = true)
    (hmore : ∀ c more, run = c :: more → p.read next ⟨c :: before, more ++ rest, kept⟩ = read) :
    (Pattern.seq (.one allowed) p).read next ⟨before, run ++ rest, kept⟩ = read := by
  obtain ⟨c, more, rfl⟩ := List.exists_cons_of_ne_nil hne
  rw [read_seq, List.cons_append, read_one, if_pos (hrun c (by simp))]
  exact hmore c more rfl

/-- A run is taken whole where what follows shuns its signs. -/
theorem read_many1 (hne : run ≠ []) (hrun : ∀ c ∈ run, allowed c = true)
    (hrest : rest.head?.any allowed = false) (hnext : Next.Shuns next allowed) :
    (many1 allowed).read next ⟨before, run ++ rest, kept⟩ =
      next ⟨run.reverse ++ before, rest, kept⟩ := by
  refine read_one_of_run hne hrun ?_
  rintro c more rfl
  rw [read_many (fun d hd => hrun d (by simp [hd])) hrest hnext]
  simp

/-- A run is taken whole where what follows can be read behind it. -/
theorem read_many1_of_eq_some (hne : run ≠ []) (hrun : ∀ c ∈ run, allowed c = true)
    (hrest : rest.head?.any allowed = false)
    (hnext : next ⟨run.reverse ++ before, rest, kept⟩ = some t) :
    (many1 allowed).read next ⟨before, run ++ rest, kept⟩ = some t := by
  refine read_one_of_run hne hrun ?_
  rintro c more rfl
  exact read_many_of_eq_some (fun d hd => hrun d (by simp [hd])) hrest (by simpa using hnext)

/-- A short run has to be taken whole where what follows shuns its signs. -/
theorem read_few1 (hne : run ≠ []) (hrun : ∀ c ∈ run, allowed c = true)
    (hrest : rest.head?.any allowed = false) (hnext : Next.Shuns next allowed) :
    (few1 allowed).read next ⟨before, run ++ rest, kept⟩ =
      next ⟨run.reverse ++ before, rest, kept⟩ := by
  refine read_one_of_run hne hrun ?_
  rintro c more rfl
  rw [read_few (fun d hd => hrun d (by simp [hd])) hrest hnext]
  simp

/-- A short run goes on up to the sign that stops it. -/
theorem read_few1_of_eq_some {stop : Char} (hne : run ≠ [])
    (hrun : ∀ c ∈ run, allowed c = true ∧ c ≠ stop) (hnext : Next.Shuns next (· != stop))
    (hend : next ⟨run.reverse ++ before, rest, kept⟩ = some t) :
    (few1 allowed).read next ⟨before, run ++ rest, kept⟩ = some t := by
  refine read_one_of_run hne (fun c hc => (hrun c hc).1) ?_
  rintro c more rfl
  exact read_few_of_eq_some (fun d hd => by simpa using hrun d (by simp [hd])) hnext
    (by simpa using hend)

theorem read_many1_nil (hrest : rest.head?.any allowed = false) :
    (many1 allowed).read next ⟨before, rest, kept⟩ = none := by
  cases rest with
  | nil => rfl
  | cons c rest => simp [many1, read_seq, read_one, show allowed c = false by simpa using hrest]

/-! ## What does not look back -/

/-- Whether a place is accepted does not depend on what stands before it. -/
def Next.Forward (next : Next) : Prop :=
  ∀ before before' rest kept,
    (next ⟨before, rest, kept⟩).isSome = (next ⟨before', rest, kept⟩).isSome

/-- No edge of the pattern looks back. -/
def isForward : Pattern → Bool
  | .seq p q | .alt p q => p.isForward && q.isForward
  | .group _ p => p.isForward
  | .edge .finish | .edge .lineEnd | .edge (.ahead _) => true
  | .edge _ => false
  | _ => true

/-- A word leads forward. -/
theorem forward_pass (hnext : next.Forward) (word : List Char) :
    Next.Forward fun s => (s.pass word).bind next := by
  induction word with
  | nil => exact hnext
  | cons c word ih =>
    intro before before' rest kept
    cases rest with
    | nil => rfl
    | cons d rest =>
      simp only [pass_cons]
      split
      · exact ih _ _ rest kept
      · rfl

/-- A long run leads forward if what follows does. -/
theorem forward_many (hnext : next.Forward) : Next.Forward ((Pattern.many allowed).read next) := by
  intro before before' rest kept
  change (readMany allowed next kept before rest).isSome =
    (readMany allowed next kept before' rest).isSome
  induction rest generalizing before before' with
  | nil => exact hnext _ _ [] kept
  | cons c rest ih =>
    rw [readMany_cons, readMany_cons]
    split
    · rw [Option.isSome_or, Option.isSome_or, ih (c :: before) (c :: before'),
        hnext before before']
    · exact hnext _ _ _ kept

theorem forward_few (hnext : next.Forward) : Next.Forward ((Pattern.few allowed).read next) := by
  intro before before' rest kept
  change (readFew allowed next kept before rest).isSome =
    (readFew allowed next kept before' rest).isSome
  induction rest generalizing before before' with
  | nil => exact hnext _ _ [] kept
  | cons c rest ih =>
    rw [readFew_cons, readFew_cons, Option.isSome_or, Option.isSome_or, hnext before before']
    split
    · rw [ih (c :: before) (c :: before')]
    · rfl

/-- **A pattern that does not look back** can be read wherever the same text follows. -/
theorem forward_read (hp : p.isForward = true) (hnext : next.Forward) :
    Next.Forward (p.read next) := by
  induction p generalizing next with
  | text word => exact forward_pass hnext word.toList
  | one allowed =>
    intro before before' rest kept
    cases rest with
    | nil => rfl
    | cons c rest =>
      rw [read_one, read_one]
      split
      · exact hnext _ _ rest kept
      · rfl
  | many allowed => exact forward_many hnext
  | few allowed => exact forward_few hnext
  | seq p q ihp ihq =>
    obtain ⟨hp, hq⟩ := Bool.and_eq_true_iff.mp hp
    exact ihp hp (ihq hq hnext)
  | alt p q ihp ihq =>
    obtain ⟨hp, hq⟩ := Bool.and_eq_true_iff.mp hp
    intro before before' rest kept
    rw [isSome_read_alt, isSome_read_alt, ihp hp hnext before before', ihq hq hnext before before']
  | group number p ih =>
    -- a stretch is kept by where it starts and ends, so that what stands before is not seen
    intro before before' rest kept
    exact ih hp (fun _ _ rest' kept' => hnext _ _ rest' ((number, ⟨rest, rest'⟩) :: kept'))
      before before' rest kept
  | again number =>
    intro before before' rest kept
    rw [read_again_eq, read_again_eq]
    change ((Spot.keptText? ⟨before, rest, kept⟩ number).bind _).isSome =
      ((Spot.keptText? ⟨before, rest, kept⟩ number).bind _).isSome
    cases Spot.keptText? ⟨before, rest, kept⟩ number with
    | none => rfl
    | some word => exact forward_pass hnext word before before' rest kept
  | edge condition =>
    intro before before' rest kept
    have hmeets : Spot.meets ⟨before, rest, kept⟩ condition =
        Spot.meets ⟨before', rest, kept⟩ condition := by
      cases condition with
      | finish | lineEnd | ahead => rfl
      | word | start | lineStart | notBehind => exact absurd hp (by simp [isForward])
    rw [read_edge_eq, read_edge_eq, hmeets]
    split
    · exact hnext _ _ rest kept
    · rfl

/-! ## What a reading has kept -/

/-- A stretch is what stands between its two ends. -/
@[simp] theorem chars_append (word rest : List Char) :
    Stretch.chars ⟨word ++ rest, rest⟩ = word := by
  simp [Stretch.chars]

end Recast.Pattern
