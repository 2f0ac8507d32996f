import Recast.Proofs.Chain.Braced
import Recast.Proofs.Chain.ToRuby
import Recast.Proofs.Chain.Untouched

/-!
# Proofs/Chain/OrdinaryLines — lines that all chains from Python keep apart

That each line of a text has its parentheses and quotes closed does not keep the rules in their
lines: a `return` without a value takes the line below it for one. What does is said here of the
lines one by one (`IsOrdinary`), so it is seen from the source and not from a run of the rules.

A line in which nothing is looked for is left alone, and the lines of the fragment are known from
their stencils. In between stand the lines in which a single rule finds its cue: a comment, and a
`return` with a value. The rules in front of that one leave the line alone, and those behind it
leave alone what it has written (`Chain.runs_of_alone`). In all cases what comes out is one line, as
wide as before (`Chain.keepsLine_of_isOrdinary`), and so the lines of a whole text stay apart
(`Chain.map_indentWidth_of_isOrdinary`).
-/

namespace Recast

open Text Source Form Pattern

/-- None of the signs and words that the rules from Python look for stand in the line. -/
def IsQuiet (line : List Char) : Prop := ∀ cue ∈ calledCues, ¬ cue.In line

instance (line : List Char) : Decidable (IsQuiet line) :=
  inferInstanceAs (Decidable (∀ cue ∈ calledCues, _))

/-- **A line that stays a line**: a statement at some depth, a line in which nothing is looked for,
and a comment or a `return` behind which nothing is looked for. -/
inductive IsOrdinary : List Char → Prop
  | statement (depth : Nat) (line : Line) : IsOrdinary (indentation depth ++ python.write line)
  | quiet {line : List Char} (quiet : IsQuiet line) : IsOrdinary line
  | comment {blanks words : List Char} (isMargin : ∀ c ∈ blanks, isMargin c = true)
      (quiet : IsQuiet words) : IsOrdinary (blanks ++ '#' :: words)
  | give {blanks value : List Char} (isMargin : ∀ c ∈ blanks, isMargin c = true)
      (starts : value.head?.any (!isBlank ·) = true) (quiet : IsQuiet value) :
      IsOrdinary (blanks ++ ("return ".toList ++ value))

/-! ## Cues in the parts of a line -/

namespace Cue

variable {cue : Cue} {front text a b : List Char} {c : Char}

theorem infix_of_in (h : cue.In text) : cue.chars <:+: text := by
  cases cue with
  | word w =>
    obtain ⟨a, b, htext, -⟩ := exists_of_mem_words h
    exact ⟨a, b, by rw [htext, List.append_assoc]; rfl⟩
  | text w => exact h

theorem not_in_nil (hplain : cue.isPlain = true) : ¬ cue.In [] := fun h => by
  have hnil : cue.chars = [] := List.infix_nil.mp (infix_of_in h)
  match cue, hnil with
  | .word [], _ | .text [], _ => exact absurd hplain (by decide)

/-- A cue without the sign stands on one side of it. -/
theorem in_append_sign (hword : isWord c = false) (hc : c ∉ cue.chars) (h : cue.In (a ++ c :: b)) :
    cue.In a ∨ cue.In b := by
  cases cue with
  | word w =>
    have hin : w ∈ words (a ++ c :: b) := h
    rwa [words_append_sign a hword, List.mem_append] at hin
  | text w => exact infix_append_sign hc h

/-- Signs that are none of the cue's are passed over. -/
theorem in_of_in_append (hplain : cue.isPlain = true)
    (hfront : ∀ c ∈ front, isWord c = false ∧ c ∉ cue.chars) (h : cue.In (front ++ text)) :
    cue.In text := by
  induction front with
  | nil => exact h
  | cons c front ih =>
    obtain ⟨hword, hc⟩ := hfront c (by simp)
    have hsides := in_append_sign (a := []) hword hc h
    exact ih (fun d hd => hfront d (by simp [hd])) (hsides.resolve_left (not_in_nil hplain))

/-- A cue stands in a text with signs in front of it if it stands in the text. -/
theorem in_append_of_in (hfront : ∀ c ∈ front, isWord c = false) (h : cue.In text) :
    cue.In (front ++ text) := by
  cases cue with
  | text w => exact List.IsInfix.trans h (List.suffix_append front text).isInfix
  | word w =>
    induction front with
    | nil => exact h
    | cons c front ih =>
      have hrest : w ∈ words (front ++ text) := ih fun d hd => hfront d (by simp [hd])
      change w ∈ words (c :: (front ++ text))
      rw [words_cons, hfront c (by simp)]
      exact List.mem_cons_of_mem _ hrest

end Cue

namespace Rule

variable {rule : Rule} {cues : List Cue} {line : List Char}

theorem exists_cue_of_passes (hcalled : rule.pattern.Called)
    (hpasses : rule.passes (fun _ => true) cues = true) :
    ∃ cue ∈ cues, cue.isPlain = true ∧ rule.pattern.Shows [cue] := by
  have hnever : rule.pattern.lacks (fun _ => true) = false := by
    rw [lacks, List.any_eq_false]
    rintro (_ | _ | _) - <;> simp
  rw [passes, hnever, Bool.false_or, Option.any_eq_true] at hpasses
  obtain ⟨cue, hcue, hmem⟩ := hpasses
  obtain ⟨hplain, hmem⟩ := Bool.and_eq_true_iff.mp hmem
  exact ⟨cue, of_decide_eq_true hmem, hplain, hcalled.shows hcue hplain⟩

/-- **A rule leaves a line without its cue alone**, wherever the line stands. -/
theorem leaves_of_passes (hcalled : rule.pattern.Called)
    (hpasses : rule.passes (fun _ => true) cues = true) (habsent : ∀ cue ∈ cues, ¬ cue.In line) :
    rule.Leaves line := by
  obtain ⟨cue, hcue, hplain, hshows⟩ := exists_cue_of_passes hcalled hpasses
  exact leaves_of_misses fun before rest _ hrest =>
    misses_of_shows hshows (by simpa using hplain) hrest (by simpa using habsent cue hcue)

theorem Runs.append {rules rules' : List Rule} {line line' line'' : List Char}
    (h : Runs rules line line') (h' : Runs rules' line' line'') :
    Runs (rules ++ rules') line line'' := by
  induction h with
  | nil => exact h'
  | cons turns _ ih => exact .cons turns (ih h')

end Rule

namespace Chain

variable {chain : Chain} {cue : Cue} {line line' : List Char}

/-! ## Lines that one rule finds its cue in -/

/-- The cues but one. -/
def cuesBut (cue : Cue) : List Cue := calledCues.erase cue

/-- **The rule is the only one of the chain that looks for the cue.** -/
def LooksAlone (chain : Chain) (cue : Cue) (rule : Rule) : Prop :=
  ∃ n, chain.rules[n]? = some rule ∧
    (chain.rules.eraseIdx n).all (Rule.passes (fun _ => true) (cuesBut cue)) = true

/-- A line without the cues is left alone by rules that look for nothing else. -/
theorem runs_of_absent {rules : List Rule} {cues : List Cue} (hchain : chain ∈ fromPython)
    (hrules : rules ⊆ chain.rules) (hpasses : rules.all (Rule.passes (fun _ => true) cues) = true)
    (habsent : ∀ cue ∈ cues, ¬ cue.In line) : Rule.Runs rules line line :=
  Rule.runs_of_leaves fun rule hrule =>
    Rule.leaves_of_passes ((called_of_mem_fromPython hchain).called rule (hrules hrule))
      (List.all_eq_true.mp hpasses rule hrule) habsent

/-- **A line that one rule finds its cue in** becomes what that rule writes. -/
theorem runs_of_alone {rule : Rule} (hchain : chain ∈ fromPython) (h : chain.LooksAlone cue rule)
    (hturns : rule.Turns line line') (hline : ∀ other ∈ cuesBut cue, ¬ other.In line)
    (hline' : ∀ other ∈ cuesBut cue, ¬ other.In line') : Rule.Runs chain.rules line line' := by
  obtain ⟨n, hrule, hpasses⟩ := h
  obtain ⟨hn, rfl⟩ := List.getElem?_eq_some_iff.mp hrule
  rw [List.eraseIdx_eq_take_drop_succ, List.all_append, Bool.and_eq_true] at hpasses
  -- the rules before it see the line as it was, those behind it the line as it is written
  have hfront : Rule.Runs (chain.rules.take n) line line :=
    runs_of_absent hchain (List.take_subset _ _) hpasses.1 hline
  have hback : Rule.Runs (chain.rules.drop (n + 1)) line' line' :=
    runs_of_absent hchain (List.drop_subset _ _) hpasses.2 hline'
  have hruns := hfront.append (.cons hturns hback)
  rwa [← List.drop_eq_getElem_cons hn, List.take_append_drop] at hruns

/-! ## Comments -/

theorem exists_comment (hchain : chain ∈ fromPython) : ∃ sign ∈ ["// ", "# "],
    chain.LooksAlone (.text ['#']) ⟨"comment", comment, [1, .text sign, 2]⟩ := by
  simp only [fromPython, List.mem_cons, List.not_mem_nil, or_false] at hchain
  rcases hchain with rfl | rfl | rfl | rfl | rfl | rfl | rfl | rfl | rfl | rfl
  · exact ⟨_, .head _, 37, rfl, by decide⟩
  · exact ⟨_, .head _, 33, rfl, by decide⟩
  · exact ⟨_, .head _, 32, rfl, by decide⟩
  · exact ⟨_, .head _, 28, rfl, by decide⟩
  · exact ⟨_, .head _, 27, rfl, by decide⟩
  · exact ⟨_, .head _, 26, rfl, by decide⟩
  · exact ⟨_, .tail _ (.head _), 25, rfl, by decide⟩
  · exact ⟨_, .head _, 25, rfl, by decide⟩
  · exact ⟨_, .head _, 30, rfl, by decide⟩
  · exact ⟨_, .head _, 32, rfl, by decide⟩

/-- No other cue has a sign of a comment in it. -/
theorem commentSigns_not_mem : ∀ cue ∈ cuesBut (.text ['#']), cue.isPlain = true ∧
    ∀ c ∈ cue.chars, c ∉ "#/ \t".toList := by
  decide

/-- The signs in front of a comment are in no cue but its own. -/
theorem not_in_comment {front words : List Char} (hfront : ∀ c ∈ front, c ∈ "#/ \t".toList)
    (hquiet : IsQuiet words) : ∀ other ∈ cuesBut (.text ['#']), ¬ other.In (front ++ words) := by
  intro other hother hin
  obtain ⟨hplain, hsigns⟩ := commentSigns_not_mem other hother
  have hnone : ∀ c ∈ "#/ \t".toList, isWord c = false := by decide
  have hpast : ∀ c ∈ front, isWord c = false ∧ c ∉ other.chars := fun c hc =>
    ⟨hnone c (hfront c hc), fun hmem => hsigns c hmem (hfront c hc)⟩
  exact hquiet other (List.mem_of_mem_erase hother) (Cue.in_of_in_append hplain hpast hin)

theorem mem_of_isMargin {c : Char} (h : isMargin c = true) : c ∈ "#/ \t".toList := by
  rcases Bool.or_eq_true_iff.mp h with h | h <;> rw [beq_iff_eq.mp h] <;> decide

/-- Blanks in front of a quiet text are no part of what is looked for. -/
theorem isQuiet_of_append {gap words : List Char} (hgap : ∀ c ∈ gap, isMargin c = true)
    (h : IsQuiet (gap ++ words)) : IsQuiet words := fun cue hcue hin =>
  h cue hcue (Cue.in_append_of_in (fun c hc => isWord_of_isMargin c (hgap c hc)) hin)

/-- **A comment is written behind the sign of the target**, on the same line. -/
theorem exists_runs_comment (hchain : chain ∈ fromPython) {blanks gap words : List Char}
    (hblanks : ∀ c ∈ blanks, isMargin c = true) (hgap : ∀ c ∈ gap, isMargin c = true)
    (hwords : words.head?.any isMargin = false) (hfeed : '\n' ∉ words)
    (hquiet : IsQuiet (gap ++ words)) : ∃ sign ∈ ["// ", "# "],
      Rule.Runs chain.rules (blanks ++ '#' :: (gap ++ words))
        (blanks ++ (sign.toList ++ words)) := by
  obtain ⟨sign, hsign, halone⟩ := exists_comment hchain
  have hinline : ∀ c ∈ words, isInline c = true := fun c hc => by
    simpa [isInline] using fun heq : c = '\n' => hfeed (heq ▸ hc)
  have hturns : Rule.Turns ⟨"comment", comment, [1, .text sign, 2]⟩
      (blanks ++ '#' :: (gap ++ words)) (blanks ++ (sign.toList ++ words)) := by
    have hreads := @Rule.turns_of_reads ⟨"comment", comment, [1, .text sign, 2]⟩ _ _
      (by simp) fun before rest hbefore hrest =>
        comment_reads hblanks hgap hwords hinline hbefore hrest
    rw [Phrase.fill_stencil] at hreads
    simpa [Phrase.fill, Piece.fill, fillers] using hreads
  have hsigns : ∀ c ∈ sign.toList, c ∈ "#/ \t".toList := by
    have hall : ∀ sign ∈ ["// ", "# "], ∀ c ∈ sign.toList, c ∈ "#/ \t".toList := by decide
    exact hall sign hsign
  refine ⟨sign, hsign, runs_of_alone hchain halone hturns ?_ ?_⟩
  · have hfront : ∀ c ∈ blanks ++ ['#'], c ∈ "#/ \t".toList := by
      simpa [or_imp, forall_and] using fun c hc => mem_of_isMargin (hblanks c hc)
    simpa using not_in_comment hfront hquiet
  · have hfront : ∀ c ∈ blanks ++ sign.toList, c ∈ "#/ \t".toList := fun c hc =>
      (List.mem_append.mp hc).elim (fun hc => mem_of_isMargin (hblanks c hc)) (hsigns c)
    simpa using not_in_comment hfront (isQuiet_of_append hgap hquiet)

/-! ## Returned values -/

/-- The rule for `return`, with what is written behind the value. -/
def returnRule (close : Phrase) : Rule := ⟨"return", returnLine, 1 :: "return " :: 2 :: close⟩

/-- The chain has one rule for `return`, or none. -/
theorem exists_returnRule (hchain : chain ∈ fromPython) :
    chain.rules.all (Rule.passes (fun _ => true) (cuesBut (.word "return".toList))) = true ∨
      ∃ close, (close = [] ∨ close = [.text ";"]) ∧
        chain.LooksAlone (.word "return".toList) (returnRule close) := by
  simp only [fromPython, List.mem_cons, List.not_mem_nil, or_false] at hchain
  rcases hchain with rfl | rfl | rfl | rfl | rfl | rfl | rfl | rfl | rfl | rfl
  · exact .inr ⟨_, .inr rfl, 13, rfl, by decide⟩
  · exact .inr ⟨_, .inr rfl, 13, rfl, by decide⟩
  · exact .inr ⟨_, .inr rfl, 12, rfl, by decide⟩
  · exact .inr ⟨_, .inr rfl, 11, rfl, by decide⟩
  · exact .inr ⟨_, .inr rfl, 12, rfl, by decide⟩
  · exact .inl (by decide)
  · exact .inr ⟨_, .inl rfl, 5, rfl, by decide⟩
  · exact .inr ⟨_, .inr rfl, 5, rfl, by decide⟩
  · exact .inl (by decide)
  · exact .inr ⟨_, .inr rfl, 12, rfl, by decide⟩

/-- Nothing but the word itself is looked for in front of a value. -/
theorem not_in_front : ∀ cue ∈ cuesBut (.word "return".toList), cue.isPlain = true ∧
    ¬ cue.In "return".toList ∧ ∀ c ∈ cue.chars, c ∉ " \t;".toList := by
  decide

theorem not_in_give {blanks value : List Char} (hblanks : ∀ c ∈ blanks, isMargin c = true)
    (hquiet : IsQuiet value) : ∀ other ∈ cuesBut (.word "return".toList),
      ¬ other.In (blanks ++ ("return ".toList ++ value)) := by
  intro other hother hin
  obtain ⟨hplain, hfront, hsigns⟩ := not_in_front other hother
  have hpast : ∀ c ∈ blanks, isWord c = false ∧ c ∉ other.chars := fun c hc =>
    ⟨isWord_of_isMargin c (hblanks c hc), fun hmem => hsigns c hmem ?_⟩
  · have hbehind : other.In ("return".toList ++ ' ' :: value) := by
      simpa using Cue.in_of_in_append hplain hpast hin
    exact (Cue.in_append_sign (by decide) (fun hmem => hsigns ' ' hmem (by decide)) hbehind).elim
      hfront (hquiet other (List.mem_of_mem_erase hother))
  · rcases Bool.or_eq_true_iff.mp (hblanks c hc) with h | h <;> rw [beq_iff_eq.mp h] <;> decide

theorem isQuiet_append_semicolon {value : List Char} (h : IsQuiet value) :
    IsQuiet (value ++ ";".toList) := fun cue hcue hin => by
  have hsemicolon : ∀ cue ∈ calledCues, cue.isPlain = true ∧ ';' ∉ cue.chars := by decide
  obtain ⟨hplain, hsign⟩ := hsemicolon cue hcue
  exact (Cue.in_append_sign (by decide) hsign hin).elim (h cue hcue) (Cue.not_in_nil hplain)

/-- **A value stays behind its `return`**, on the same line. -/
theorem exists_runs_give (hchain : chain ∈ fromPython) {blanks value : List Char}
    (hblanks : ∀ c ∈ blanks, isMargin c = true) (hstarts : value.head?.any (!isBlank ·) = true)
    (hfeed : '\n' ∉ value) (hquiet : IsQuiet value) : ∃ close ∈ ["", ";"],
      Rule.Runs chain.rules (blanks ++ ("return ".toList ++ value))
        (blanks ++ ("return ".toList ++ (value ++ close.toList))) := by
  have hinline : ∀ c ∈ value, isInline c = true := fun c hc => by
    simpa [isInline] using fun heq : c = '\n' => hfeed (heq ▸ hc)
  have hturns (close : Phrase) : (returnRule close).Turns (blanks ++ ("return ".toList ++ value))
      (blanks ++ ("return ".toList ++ (value ++ close.fill (fillers [blanks, value])))) := by
    have hreads := @Rule.turns_of_reads (returnRule close) _ _ (by simp)
      fun before rest hbefore hrest => returnLine_reads_text hblanks hstarts hinline hbefore hrest
    rw [Phrase.fill_stencil] at hreads
    simpa [returnRule, Phrase.fill, Piece.fill, fillers] using hreads
  rcases exists_returnRule hchain with hnone | ⟨_, rfl | rfl, halone⟩
  · refine ⟨"", by simp, ?_⟩
    simpa using runs_of_absent hchain (List.Subset.refl _) hnone (not_in_give hblanks hquiet)
  · refine ⟨"", by simp, runs_of_alone hchain halone (hturns []) (not_in_give hblanks hquiet) ?_⟩
    simpa using not_in_give hblanks hquiet
  · exact ⟨";", by simp, runs_of_alone hchain halone (hturns [.text ";"])
      (not_in_give hblanks hquiet) (not_in_give hblanks (isQuiet_append_semicolon hquiet))⟩

/-! ## Statements -/

/-- Whatever the chain makes of a shape starts behind its indentation, and is one line. -/
theorem exists_writes (hchain : chain ∈ fromPython) : ∃ insights write,
    chain.Writes insights write ∧ ∀ shape : Shape,
      (write shape).startsInk shape.kinds = true ∧ (write shape).isFree '\n' = true := by
  have hcases : chain.closer = some .brace ∨ chain = toRuby := by
    simp only [fromPython, List.mem_cons, List.not_mem_nil, or_false] at hchain
    rcases hchain with rfl | rfl | rfl | rfl | rfl | rfl | rfl | rfl | rfl | rfl <;>
      first | exact .inl rfl | exact .inr rfl
  rcases hcases with hcloser | rfl
  · obtain ⟨insights, depth, hbraced⟩ := exists_braced hchain hcloser
    obtain ⟨write, hwrites, hshape⟩ := hbraced.exists_writes
    exact ⟨insights, write, hwrites, fun shape =>
      Bool.and_eq_true_iff.mp (Bool.and_eq_true_iff.mp (hshape shape)).1⟩
  · exact ⟨_, _, writes_toRuby, fun shape =>
      ⟨(isWorded_ruby shape).startsInk, (isWorded_ruby shape).isFree⟩⟩

/-- The source language starts its lines behind their indentation, too. -/
theorem startsInk_inPython (shape : Shape) :
    Stencil.startsInk shape.kinds shape.inPython.stencil = true := by
  cases shape <;> decide

/-! ## Ordinary lines -/

/-- **Each rule makes something of the line by itself**: what comes out is one line, as wide as
before. -/
def KeepsLine (chain : Chain) (line : List Char) : Prop :=
  ∃ line', Rule.Runs chain.rules line line' ∧ '\n' ∉ line' ∧ indentWidth line' = indentWidth line

theorem keepsLine_of_runs {blanks body body' : List Char}
    (hblanks : ∀ c ∈ blanks, isBlank c = true)
    (hruns : Rule.Runs chain.rules (blanks ++ body) (blanks ++ body'))
    (hinline : '\n' ∉ blanks ++ body') (hbody : ∃ c rest, body = c :: rest ∧ isBlank c = false)
    (hbody' : ∃ c rest, body' = c :: rest ∧ isBlank c = false) :
    chain.KeepsLine (blanks ++ body) :=
  ⟨_, hruns, hinline, by rw [indentWidth_append hblanks hbody', indentWidth_append hblanks hbody]⟩

theorem keepsLine_statement (hchain : chain ∈ fromPython) (depth : Nat) (line : Line) :
    chain.KeepsLine (indentation depth ++ python.write line) := by
  obtain ⟨insights, write, hwrites, hshape⟩ := exists_writes hchain
  obtain ⟨hink, hfree⟩ := hshape line.shape
  have hinline := Stencil.not_mem_fill_of_isFree (tame_fillers line.fits) hfree
  rw [show python.write line = _ from (Phrase.fill_stencil _ _).symm]
  exact keepsLine_of_runs (forall_mem_indentation (by decide))
    (Insight.runs_of_run hwrites.into line.fits (hwrites.run line.shape))
    (not_mem_indentation (by decide) hinline depth)
    (Stencil.exists_fill_of_startsInk line.fits (startsInk_inPython line.shape))
    (Stencil.exists_fill_of_startsInk line.fits hink)

theorem keepsLine_comment (hchain : chain ∈ fromPython) {blanks words : List Char}
    (hblanks : ∀ c ∈ blanks, isMargin c = true) (hquiet : IsQuiet words)
    (hfeed : '\n' ∉ blanks ++ '#' :: words) : chain.KeepsLine (blanks ++ '#' :: words) := by
  have hwords := List.takeWhile_append_dropWhile (p := isMargin) (l := words)
  have hfeeds : '\n' ∉ blanks ∧ '\n' ∉ words.dropWhile isMargin :=
    ⟨fun hmem => hfeed (by simp [hmem]),
      fun hmem => hfeed (by simp [(List.dropWhile_suffix isMargin).subset hmem])⟩
  obtain ⟨sign, hsign, hruns⟩ := exists_runs_comment hchain hblanks
    (List.all_eq_true.mp List.all_takeWhile) (head?_dropWhile isMargin words) hfeeds.2
    (hwords.symm ▸ hquiet)
  have hsigns : ∀ sign ∈ ["// ", "# "], '\n' ∉ sign.toList ∧
      (sign.toList.head?.any fun c => !isBlank c) = true := by decide
  obtain ⟨hinline, hink⟩ := hsigns sign hsign
  rw [hwords] at hruns
  exact keepsLine_of_runs (fun c hc => isBlank_of_isMargin (hblanks c hc)) hruns
    (by simp [hfeeds, hinline]) ⟨_, _, rfl, by decide⟩
    (exists_of_head?_any (head?_append_of_any _ hink))

theorem keepsLine_give (hchain : chain ∈ fromPython) {blanks value : List Char}
    (hblanks : ∀ c ∈ blanks, isMargin c = true) (hstarts : value.head?.any (!isBlank ·) = true)
    (hquiet : IsQuiet value) (hfeed : '\n' ∉ blanks ++ ("return ".toList ++ value)) :
    chain.KeepsLine (blanks ++ ("return ".toList ++ value)) := by
  have hfeeds : '\n' ∉ blanks ∧ '\n' ∉ value :=
    ⟨fun hmem => hfeed (by simp [hmem]), fun hmem => hfeed (by simp [hmem])⟩
  obtain ⟨close, hclose, hruns⟩ := exists_runs_give hchain hblanks hstarts hfeeds.2 hquiet
  have hcloses : ∀ close ∈ ["", ";"], '\n' ∉ close.toList := by decide
  exact keepsLine_of_runs (fun c hc => isBlank_of_isMargin (hblanks c hc)) hruns
    (by simp [hfeeds, hcloses close hclose]) ⟨_, _, rfl, by decide⟩ ⟨_, _, rfl, by decide⟩

/-- **An ordinary line stays a line** through all the rules of a chain, wherever it stands. -/
theorem keepsLine_of_isOrdinary (hchain : chain ∈ fromPython) (h : IsOrdinary line)
    (hfeed : '\n' ∉ line) : chain.KeepsLine line := by
  cases h with
  | statement depth line => exact keepsLine_statement hchain depth line
  | quiet hquiet =>
    have hpasses := passes_of_mem_fromPython chain hchain
    exact ⟨line, runs_of_absent hchain (List.Subset.refl _) hpasses hquiet, hfeed, rfl⟩
  | comment hblanks hquiet => exact keepsLine_comment hchain hblanks hquiet hfeed
  | give hblanks hstarts hquiet => exact keepsLine_give hchain hblanks hstarts hquiet hfeed

/-- **Ordinary lines stay lines, and keep their widths**, through all the rules of a chain. -/
theorem map_indentWidth_of_isOrdinary (hchain : chain ∈ fromPython) {text : List Char}
    (h : ∀ line ∈ lines text, IsOrdinary line) :
    (lines (chain.runRules text)).map indentWidth = (lines text).map indentWidth := by
  have hline : ∀ line ∈ lines text, chain.KeepsLine line := fun line hmem =>
    keepsLine_of_isOrdinary hchain (h line hmem) (not_mem_of_mem_lines hmem)
  choose! write hruns hfeed hwidth using hline
  -- no rule starts at a line feed, so the lines are rewritten one by one
  have hbreak : ∀ rule ∈ chain.rules, rule.pattern.Shuns (· == '\n') := fun rule hrule => by
    obtain ⟨cue, -, hplain, hshows⟩ := Rule.exists_cue_of_passes
      ((called_of_mem_fromPython hchain).called rule hrule)
      (List.all_eq_true.mp (passes_of_mem_fromPython chain hchain) rule hrule)
    exact hshows.shuns_lineFeed (by simpa using hplain)
  have htext : chain.runRules text = joinLines ((lines text).map write) := by
    have hall : List.Forall₂ (Rule.Runs chain.rules) (lines text) ((lines text).map write) :=
      List.forall₂_map_right_iff.mpr (List.forall₂_same.mpr hruns)
    have hjoined := Rule.applyAll_joinLines hbreak hall
    rwa [joinLines_lines] at hjoined
  have hlines : lines (joinLines ((lines text).map write)) = (lines text).map write :=
    lines_joinLines (by simpa using hfeed) (by simpa using lines_ne_nil text)
  rw [htext, hlines, List.map_map]
  exact List.map_congr_left hwidth

end Chain

end Recast
