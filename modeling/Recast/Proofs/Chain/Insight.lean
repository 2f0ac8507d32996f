import Recast.Proofs.Pattern.Lines
import Recast.Proofs.Source.Missing

/-!
# Proofs/Chain/Insight — running rules on stencils

What a pattern does on a line depends on the shape of the line, and hardly on what fills its blanks.
An **insight** into a pattern says, for stencils it understands, whether the pattern passes over all
lines of the stencil or reads them from end to end (`Verdict`). With an insight into every rule of a
chain, the chain runs on stencils (`Insight.run`), and what comes out is what the chain makes of all
the lines of the shape (`runs_of_run`).
-/

namespace Recast

open Text Source

/-! ## What a reading keeps -/

/-- The groups have kept the values, in order from number one. -/
def Keeps (kept : List (Nat × Stretch)) (values : List (List Char)) : Prop :=
  ∀ n, ((kept.lookup n).map Stretch.chars).getD [] = fillers values n

theorem keeps_nil : Keeps [] [] := by
  intro n
  rcases fillers_eq_nil_or_mem [] n with h | h
  · exact h.symm
  · simp at h

theorem Keeps.snoc {kept : List (Nat × Stretch)} {values : List (List Char)} (h : Keeps kept values)
    (word rest : List Char) :
    Keeps ((values.length + 1, ⟨word ++ rest, rest⟩) :: kept) (values ++ [word]) := by
  intro n
  by_cases hn : n = values.length + 1
  · subst hn
    simp [fillers]
  · rw [List.lookup_cons, show (n == values.length + 1) = false by simpa using hn]
    refine (h n).trans ?_
    rcases n with _ | n
    · rfl
    · change values.getD n [] = (values ++ [word]).getD n []
      rw [List.getD_eq_getElem?_getD, List.getD_eq_getElem?_getD]
      rcases Nat.lt_trichotomy n values.length with hlt | heq | hgt
      · rw [List.getElem?_append_left hlt]
      · omega
      · rw [List.getElem?_eq_none (by omega), List.getElem?_eq_none (by simp; omega)]

/-- **The pattern reads the line to its end** and keeps the values. -/
def Pattern.Reads (p : Pattern) (before line rest : List Char) (values : List (List Char)) : Prop :=
  ∃ before' kept, p.readAt? ⟨before, line ++ rest, []⟩ = some ⟨before', rest, kept⟩ ∧
    Keeps kept values

theorem Pattern.Reads.intro {p : Pattern} {before line rest before' : List Char}
    {kept : List (Nat × Stretch)} {values : List (List Char)}
    (hread : p.readAt? ⟨before, line ++ rest, []⟩ = some ⟨before', rest, kept⟩)
    (hkept : Keeps kept values) : p.Reads before line rest values := ⟨before', kept, hread, hkept⟩

/-! ## Verdicts -/

/-- What a pattern does on a line. -/
inductive Verdict
  /-- It cannot be read anywhere on the line. -/
  | nothing
  /-- It reads the line behind its indentation, and keeps what fills the blanks. -/
  | body
  /-- It reads the line, and keeps first its indentation, then what fills the blanks. -/
  | line

namespace Verdict

/-- The verdict is what happens on the line of that body and depth, wherever it stands. -/
def Holds (pattern : Pattern) (depth : Nat) (body : List Char) (values : List (List Char)) :
    Verdict → Prop
  | .nothing => ∀ before rest, before.head?.all (· = '\n') = true →
    rest.head?.all (· = '\n') = true → pattern.Misses before (indentation depth ++ body) rest
  | .body => body ≠ [] ∧ pattern.Shuns (· == ' ') ∧ ∀ before rest,
    before.head?.all (· = '\n') = true → rest.head?.all (· = '\n') = true →
    pattern.Reads ((indentation depth).reverse ++ before) body rest values
  | .line => body ≠ [] ∧ ∀ before rest, before.head?.all (· = '\n') = true →
    rest.head?.all (· = '\n') = true →
    pattern.Reads before (indentation depth ++ body) rest (indentation depth :: values)

/-- What a rule with the phrase makes of the stencil. -/
def write? (phrase : Phrase) (stencil : Stencil) : Verdict → Option Stencil
  | .nothing => some stencil
  | .body => some phrase.stencil
  | .line => phrase.stencil.behindMargin?

end Verdict

/-- Spaces behind a line end, or nothing, end no word. -/
theorem head?_behind_indentation {before : List Char} (depth : Nat)
    (h : before.head?.all (· = '\n') = true) :
    ((indentation depth).reverse ++ before).head?.any isWord = false := by
  rw [indentation, List.reverse_replicate]
  cases 4 * depth with
  | zero =>
    cases before with
    | nil => rfl
    | cons c before =>
      obtain rfl : c = '\n' := by simpa using h
      exact (by decide : isWord '\n' = false)
  | succ n => exact (by decide : isWord ' ' = false)

variable {rule : Rule} {depth : Nat} {stencil stencil' : Stencil} {values : List (List Char)}

theorem fillFrom_eq {phrase : Phrase} {before rest : List Char} {kept : List (Nat × Stretch)}
    (h : Keeps kept values) :
    phrase.fillFrom ⟨before, rest, kept⟩ = phrase.stencil.fill (fillers values) := by
  have hkept : (fun n => ((⟨before, rest, kept⟩ : Spot).keptText? n).getD []) = fillers values :=
    funext h
  rw [Phrase.fill_stencil, Phrase.fillFrom, hkept]

/-- **A rule writes its phrase where its pattern reads the front of a line**, and leaves what stands
behind it. -/
theorem Rule.turns_of_reads_front {front more : List Char} (hne : front ≠ [])
    (h : ∀ before rest, before.head?.all (· = '\n') = true → rest.head?.all (· = '\n') = true →
      rule.pattern.Reads before front (more ++ rest) values)
    (hmore : ∀ before rest, rest.head?.all (· = '\n') = true →
      rule.pattern.Misses before more rest) :
    rule.Turns (front ++ more) (rule.phrase.stencil.fill (fillers values) ++ more) := by
  have hturns : rule.Turns ([] ++ (front ++ more))
      ([] ++ (rule.phrase.stencil.fill (fillers values) ++ more)) := by
    refine Rule.turns_of_read hne (fun _ _ _ => Pattern.misses_nil)
      (fun before rest hbefore hrest => ?_) hmore
    obtain ⟨before', kept, hspot, hkept⟩ := h before rest hbefore hrest
    exact ⟨_, by simpa using hspot, rfl, fillFrom_eq hkept⟩
  exact hturns

/-- A rule writes its phrase where its pattern reads the line from end to end. -/
theorem Rule.turns_of_reads {line : List Char} (hne : line ≠ [])
    (h : ∀ before rest, before.head?.all (· = '\n') = true → rest.head?.all (· = '\n') = true →
      rule.pattern.Reads before line rest values) :
    rule.Turns line (rule.phrase.stencil.fill (fillers values)) := by
  have hturns : rule.Turns (line ++ []) (rule.phrase.stencil.fill (fillers values) ++ []) :=
    turns_of_reads_front hne h fun _ _ _ => Pattern.misses_nil
  simpa using hturns

/-- **A rule turns a line as its verdict says.** -/
theorem Verdict.Holds.turns {verdict : Verdict}
    (h : verdict.Holds rule.pattern depth (stencil.fill (fillers values)) values)
    (hwrite : verdict.write? rule.phrase stencil = some stencil') :
    rule.Turns (indentation depth ++ stencil.fill (fillers values))
      (indentation depth ++ stencil'.fill (fillers values)) := by
  cases verdict with
  | nothing =>
    obtain rfl : stencil = stencil' := Option.some.inj hwrite
    exact Rule.leaves_of_misses h
  | body =>
    obtain ⟨hne, hspace, hread⟩ := h
    obtain rfl : rule.phrase.stencil = stencil' := Option.some.inj hwrite
    refine Rule.turns_of_read_to_end hne (fun before rest _ => ?_)
      fun before rest hbefore hrest => ?_
    · exact Pattern.misses_of_shuns hspace (forall_mem_indentation rfl)
    · obtain ⟨before', kept, hspot, hkept⟩ := hread before rest hbefore hrest
      exact ⟨_, hspot, rfl, fillFrom_eq hkept⟩
  | line =>
    obtain ⟨hne, hread⟩ := h
    rw [← Stencil.fill_of_behindMargin? hwrite]
    exact Rule.turns_of_reads (by simp [hne]) hread

/-- The verdict is what happens on every line of the stencil whose blanks are of those kinds. -/
def Verdict.Known (verdict : Verdict) (pattern : Pattern) (kinds : List Blank) (stencil : Stencil) :
    Prop :=
  ∀ values, List.Forall₂ Blank.Fits kinds values → ∀ depth,
    verdict.Holds pattern depth (stencil.fill (fillers values)) values

/-- **What is known of a pattern on stencils.** -/
structure Insight where
  pattern : Pattern
  /-- What the pattern does on lines of the stencil with such blanks, if that is known. -/
  verdict? : List Blank → Stencil → Option Verdict
  shuns_lineFeed : pattern.Shuns (· == '\n')
  known : ∀ {kinds : List Blank} {stencil : Stencil} {verdict : Verdict},
    verdict? kinds stencil = some verdict → verdict.Known pattern kinds stencil

namespace Insight

/-- The rules on a stencil, one after the other, each with the insight into its pattern. -/
def run : List Rule → List Insight → List Blank → Stencil → Option Stencil
  | [], [], _, stencil => some stencil
  | rule :: rules, insight :: insights, kinds, stencil =>
    (insight.verdict? kinds stencil).bind fun verdict =>
      (verdict.write? rule.phrase stencil).bind fun stencil => run rules insights kinds stencil
  | _, _, _, _ => none

/-- The insight is one into the rule's pattern. -/
def Into (rule : Rule) (insight : Insight) : Prop := rule.pattern = insight.pattern

/-- **What the rules make of a stencil they make of each of its lines.** -/
theorem runs_of_run {rules : List Rule} {insights : List Insight}
    (hinto : List.Forall₂ Into rules insights) {kinds : List Blank}
    (hfits : List.Forall₂ Blank.Fits kinds values)
    (h : run rules insights kinds stencil = some stencil') :
    Rule.Runs rules (indentation depth ++ stencil.fill (fillers values))
      (indentation depth ++ stencil'.fill (fillers values)) := by
  induction hinto generalizing stencil with
  | nil =>
    obtain rfl : stencil = stencil' := Option.some.inj h
    exact .nil _
  | @cons rule insight rules insights hpattern _ ih =>
    obtain ⟨verdict, hverdict, h⟩ := Option.bind_eq_some_iff.mp h
    obtain ⟨middle, hwrite, h⟩ := Option.bind_eq_some_iff.mp h
    have hholds := insight.known hverdict values hfits depth
    rw [← hpattern] at hholds
    exact .cons (hholds.turns hwrite) (ih h)

theorem shuns_lineFeed_of_into {rules : List Rule} {insights : List Insight}
    (hinto : List.Forall₂ Into rules insights) :
    ∀ rule ∈ rules, rule.pattern.Shuns (· == '\n') := by
  induction hinto with
  | nil => simp
  | @cons rule insight rules insights hpattern _ ih =>
    refine List.forall_mem_cons.mpr ⟨?_, ih⟩
    rw [hpattern]
    exact insight.shuns_lineFeed

/-! ## Gaining insight -/

/-- A pattern with cues passes over the lines that have none of them. -/
theorem known_nothing_of_missing {pattern : Pattern} {cues : List Cue} (hshows : pattern.Shows cues)
    (hplain : cues.all Cue.isPlain = true) (hreserved : cues.all Cue.isReserved = true)
    {kinds : List Blank} (hmissing : cues.all (Cue.missing stencil) = true) :
    Verdict.nothing.Known pattern kinds stencil :=
  fun _ hfits _ _ _ _ hrest => Pattern.misses_of_shows hshows hplain hrest fun cue hcue =>
    Cue.not_in_of_missing _ (List.all_eq_true.mp hreserved cue hcue) (tame_fillers hfits)
      (List.all_eq_true.mp hmissing cue hcue)

/-- A pattern that looks for a word behind a dot passes over the lines whose dots have other words
behind them. -/
theorem known_nothing_of_missingDot {pattern : Pattern} {sign : List Char}
    (hshows : pattern.Shows [.text sign]) (hplain : (Cue.text sign).isPlain = true)
    {kinds : List Blank} (hmissing : Cue.missingDot kinds stencil sign = true) :
    Verdict.nothing.Known pattern kinds stencil :=
  fun _ hfits _ _ _ _ hrest =>
    Pattern.misses_of_shows hshows (by simpa using hplain) hrest fun cue hcue => by
      rw [List.mem_singleton.mp hcue]
      exact Cue.not_in_of_missingDot _ hfits hmissing

/-- Nothing is known but that the pattern cannot be read at a line end. -/
def bare (pattern : Pattern) (shuns_lineFeed : pattern.Shuns (· == '\n')) : Insight where
  pattern
  verdict? _ _ := none
  shuns_lineFeed
  known := fun h => absurd h (by simp)

/-- The insight with one more stencil understood. -/
def on (insight : Insight) (kinds : List Blank) (stencil : Stencil) (verdict : Verdict)
    (hknown : verdict.Known insight.pattern kinds stencil) : Insight where
  pattern := insight.pattern
  verdict? kinds' stencil' :=
    if kinds' = kinds ∧ stencil' = stencil then some verdict else insight.verdict? kinds' stencil'
  shuns_lineFeed := insight.shuns_lineFeed
  known := fun {kinds' stencil' verdict'} h => by
    split at h
    · rename_i heq
      obtain ⟨rfl, rfl⟩ := heq
      obtain rfl : verdict = verdict' := Option.some.inj h
      exact hknown
    · exact insight.known h

/-- The insight with the stencils on which the pattern is found out to be refused. -/
def refusing (insight : Insight) (refuses : List Blank → Stencil → Bool)
    (hknown : ∀ {kinds : List Blank} {stencil : Stencil}, refuses kinds stencil = true →
      Verdict.nothing.Known insight.pattern kinds stencil) : Insight where
  pattern := insight.pattern
  verdict? kinds stencil :=
    if refuses kinds stencil then some .nothing else insight.verdict? kinds stencil
  shuns_lineFeed := insight.shuns_lineFeed
  known := fun {kinds stencil verdict} h => by
    split at h
    · rename_i hrefuses
      obtain rfl : Verdict.nothing = verdict := Option.some.inj h
      exact hknown hrefuses
    · exact insight.known h

/-- A pattern with cues passes over the lines without them. -/
def ofCues (pattern : Pattern) (cues : List Cue) (hshows : pattern.Shows cues)
    (hplain : cues.all Cue.isPlain = true) (hreserved : cues.all Cue.isReserved = true) : Insight :=
  (bare pattern (hshows.shuns_lineFeed hplain)).refusing
    (fun _ stencil => cues.all (Cue.missing stencil))
      (known_nothing_of_missing hshows hplain hreserved)

end Insight

end Recast
