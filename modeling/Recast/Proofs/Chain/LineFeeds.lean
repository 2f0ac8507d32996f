import Recast.Proofs.Chain.OrdinaryLines

/-!
# Proofs/Chain/LineFeeds — what rules do to the lines of a text

Closing tokens are found from the widths of the lines that the rules have left, so the rules should
leave each line in its place. A rule runs over the whole text, though, and blanks between the parts
of a statement may be line ends, as may the characters of an argument.

A rule adds no line where each stretch that may hold a line feed is written once at most
(`Rule.splitsNothing`). This is so for all rules from Python but the one for `len` in C, which
writes its argument twice. But a rule may take a line end and write none, and so merge two lines,
even if the parentheses and quotes of each line are closed (`merges_bareReturn`). The lines stay,
and so do their widths, where each line is an ordinary one (`IsOrdinary`), and also where no rule at
its turn can be read over a line end, given that what is written at the start of a line is indented
as what was read there (`Rule.allStayInLines`). All three are said by `map_indentWidth_runRules`.
-/

namespace Recast

open Text

/-! ## Line feeds -/

/-- A text has one line more than line feeds. -/
theorem Text.length_lines (text : List Char) : (lines text).length = text.count '\n' + 1 := by
  induction text with
  | nil => rfl
  | cons c rest ih =>
    rw [lines, List.count_cons]
    by_cases hc : c = '\n'
    · simp [hc, ih]
    · cases hlines : lines rest with
      | nil => exact absurd hlines (lines_ne_nil rest)
      | cons line more =>
        rw [hlines] at ih
        simpa [hc] using ih

namespace Phrase

variable {phrase : Phrase}

/-- The numbers of the blanks. -/
def numbers (phrase : Phrase) : List Nat :=
  phrase.filterMap fun
    | .text _ => none
    | .group number => some number

/-- The fixed text of the phrase has no line feed. -/
def isInline (phrase : Phrase) : Bool :=
  phrase.all fun
    | .text words => !words.toList.contains '\n'
    | .group _ => true

/-- The line feeds of a phrase are those that its blanks are filled with. -/
theorem count_fill (h : phrase.isInline = true) (value : Nat → List Char) :
    (phrase.fill value).count '\n' = (phrase.numbers.flatMap value).count '\n' := by
  induction phrase with
  | nil => rfl
  | cons piece phrase ih =>
    obtain ⟨hpiece, hrest⟩ := Bool.and_eq_true_iff.mp h
    rw [fill, List.flatMap_cons, List.count_append]
    cases piece with
    | text words =>
      have hwords : '\n' ∉ words.toList := by simpa using hpiece
      rw [Piece.fill, List.count_eq_zero.mpr hwords, Nat.zero_add]
      exact ih hrest
    | group number =>
      change _ = ((number :: numbers phrase).flatMap value).count '\n'
      rw [List.flatMap_cons, List.count_append]
      exact congrArg ((value number).count '\n' + ·) (ih hrest)

end Phrase

/-! ## Lines that are not split -/

namespace Rule

variable {rule : Rule} {rules : List Rule} {text taken before rest : List Char}
  {kept : List (Nat × Stretch)}

/-- Groups are not nested, and line feeds are written from groups only. -/
def copiesLineFeeds (rule : Rule) : Bool := rule.pattern.isFlat && rule.phrase.isInline

/-- **The rule writes no line feed twice**: of its groups those that may keep one are written once
at most. -/
def splitsNothing (rule : Rule) : Bool :=
  rule.copiesLineFeeds &&
    decide (rule.phrase.numbers.filter fun n => !rule.pattern.keepsInline n).Nodup

theorem count_fillFrom (h : rule.phrase.isInline = true) :
    (rule.phrase.fillFrom ⟨before, rest, kept⟩).count '\n' =
      (rule.phrase.numbers.flatMap (Pattern.keptText kept)).count '\n' :=
  Phrase.count_fill h _

/-- Texts without line feeds may be left out. -/
theorem count_flatMap_filter {value : Nat → List Char} {isInline : Nat → Bool}
    (h : ∀ number, isInline number = true → '\n' ∉ value number) :
    ∀ numbers : List Nat, (numbers.flatMap value).count '\n' =
      ((numbers.filter fun number => !isInline number).flatMap value).count '\n'
  | [] => rfl
  | number :: numbers => by
      rw [List.flatMap_cons, List.count_append, count_flatMap_filter h numbers, List.filter_cons]
      cases hinline : isInline number with
      | true => simp [List.count_eq_zero.mpr (h number hinline)]
      | false => simp

/-- What is written has no more line feeds than what was read, where no stretch is written twice. -/
theorem count_fillFrom_le (h : rule.splitsNothing = true)
    (htakes : rule.pattern.Takes taken kept) :
    (rule.phrase.fillFrom ⟨before, rest, kept⟩).count '\n' ≤ taken.count '\n' := by
  rw [splitsNothing, copiesLineFeeds, Bool.and_eq_true, Bool.and_eq_true, decide_eq_true_eq] at h
  obtain ⟨⟨hflat, hinline⟩, hnodup⟩ := h
  calc (rule.phrase.fillFrom ⟨before, rest, kept⟩).count '\n'
      = (rule.phrase.numbers.flatMap (Pattern.keptText kept)).count '\n' := count_fillFrom hinline
    _ = ((rule.phrase.numbers.filter fun n => !rule.pattern.keepsInline n).flatMap
          (Pattern.keptText kept)).count '\n' :=
        count_flatMap_filter (fun _ => htakes.lineFeed_not_mem_keptText) _
    _ ≤ Pattern.lineFeeds kept := Pattern.count_keptText_le kept hnodup
    _ ≤ taken.count '\n' := htakes.lineFeeds_le hflat

/-- **A rule that writes no line feed twice adds none.** -/
theorem count_apply_le (h : rule.splitsNothing = true) (text : List Char) :
    (rule.apply text).count '\n' ≤ text.count '\n' := by
  refine Pattern.replaceFrom_induction
    (P := fun _ rest out => out.count '\n' ≤ rest.count '\n') (fun _ => Nat.le_refl _) ?_ ?_ [] text
  · intro before c rest out ih
    rw [List.count_cons, List.count_cons]
    omega
  · intro before taken rest kept out htakes _ ih
    have : (rule.phrase.fillFrom ⟨taken.reverse ++ before, rest, kept⟩).count '\n' ≤
        taken.count '\n' := count_fillFrom_le h htakes
    rw [List.count_append, List.count_append]
    omega

/-- **Rules that split nothing** add no line. -/
theorem count_applyAll_le (h : ∀ rule ∈ rules, rule.splitsNothing = true) (text : List Char) :
    (applyAll rules text).count '\n' ≤ text.count '\n' := by
  induction rules generalizing text with
  | nil => exact Nat.le_refl _
  | cons rule rules ih =>
    obtain ⟨hrule, hrules⟩ := List.forall_mem_cons.mp h
    exact Nat.le_trans (ih hrules (rule.apply text)) (count_apply_le hrule text)

end Rule

/-! ## Widths of lines -/

namespace Text

variable {line rest before : List Char} {inked : Bool} {width : Nat}

/-- The widths of the lines of a text that goes on behind `width` blanks, or, if the line is `inked`
there already, behind a line whose indentation is `width` wide. -/
def widthsFrom : (inked : Bool) → (width : Nat) → List Char → List Nat
  | _, width, [] => [width]
  | inked, width, c :: rest =>
    if c = '\n' then width :: widthsFrom false 0 rest
    else if !inked && isBlank c then widthsFrom false (width + 1) rest
    else widthsFrom true width rest

theorem widthsFrom_eq (inked : Bool) (width : Nat) (text : List Char) :
    widthsFrom inked width text = match lines text with
      | [] => []
      | line :: more =>
        (if inked then width else width + indentWidth line) :: more.map indentWidth := by
  induction text generalizing inked width with
  | nil => cases inked <;> rfl
  | cons c rest ih =>
    rw [widthsFrom, lines]
    cases hlines : lines rest with
    | nil => exact absurd hlines (lines_ne_nil rest)
    | cons line more =>
      by_cases hc : c = '\n'
      · rw [if_pos hc, if_pos hc, ih, hlines]
        cases inked <;> simp [indentWidth]
      · rw [if_neg hc, if_neg hc, ih, ih, hlines]
        cases inked <;> cases hblank : isBlank c <;> simp [indentWidth, hblank]; omega

/-- The widths of the lines are found in one go. -/
theorem map_indentWidth_lines (text : List Char) :
    (lines text).map indentWidth = widthsFrom false 0 text := by
  rw [widthsFrom_eq]
  cases hlines : lines text with
  | nil => rfl
  | cons line more => simp

/-- Within a line it only matters whether there is ink yet, and where it starts. -/
theorem widthsFrom_append (h : '\n' ∉ line) (inked : Bool) (width : Nat) (rest : List Char) :
    widthsFrom inked width (line ++ rest) = widthsFrom (inked || !isBlankLine line)
      (if inked then width else width + indentWidth line) rest := by
  induction line generalizing inked width with
  | nil => cases inked <;> simp [isBlankLine, indentWidth]
  | cons c line ih =>
    obtain ⟨hc, hline⟩ : '\n' ≠ c ∧ '\n' ∉ line := by simpa using h
    rw [List.cons_append, widthsFrom, if_neg (Ne.symm hc), ih hline, ih hline]
    cases inked <;> cases hblank : isBlank c <;>
      simp [isBlankLine, indentWidth, hblank, Nat.add_comm, Nat.add_left_comm]

/-- Something that is not blank stands before the place on its line; `before` is the text before the
place, nearest character first. -/
def inkedBefore (before : List Char) : Bool := !isBlankLine (before.takeWhile (· ≠ '\n'))

theorem inkedBefore_append (h : '\n' ∉ line) (before : List Char) :
    inkedBefore (line.reverse ++ before) = (inkedBefore before || !isBlankLine line) := by
  have hline : ∀ c ∈ line.reverse, decide (c ≠ '\n') = true := fun c hc =>
    decide_eq_true fun heq => h (heq ▸ List.mem_reverse.mp hc)
  rw [inkedBefore, inkedBefore, List.takeWhile_append_of_pos hline, isBlankLine, isBlankLine,
    isBlankLine, List.all_append, List.all_reverse, Bool.not_and, Bool.or_comm]

end Text

namespace Rule

variable {rule : Rule} {rules : List Rule} {taken before rest : List Char}
  {kept : List (Nat × Stretch)}

/-- What the rule reads at the place has no line feed, and what it writes at the start of a line is
indented as what it read there. -/
def staysInLine (rule : Rule) (before rest : List Char) : Bool :=
  (rule.pattern.readAt? { before, rest }).all fun spot =>
    let taken := Stretch.chars ⟨rest, spot.rest⟩
    let written := rule.phrase.fillFrom spot
    !taken.contains '\n' && (inkedBefore before ||
      indentWidth written == indentWidth taken && isBlankLine written == isBlankLine taken)

/-- **The rule stays in the lines of the text**, wherever it can be read. -/
def staysInLines (rule : Rule) (text : List Char) : Bool :=
  (List.range (text.length + 1)).all fun i => rule.staysInLine (text.take i).reverse (text.drop i)

/-- Each of the rules at its turn stays in the lines. -/
def allStayInLines : List Rule → List Char → Bool
  | [], _ => true
  | rule :: rules, text => rule.staysInLines text && allStayInLines rules (rule.apply text)

/-- A rule that stays in all lines does so at each place. -/
theorem staysInLine_of_staysInLines {text : List Char} (h : rule.staysInLines text = true)
    {before rest : List Char} (heq : text = before ++ rest) :
    rule.staysInLine before.reverse rest = true := by
  have hplace := List.all_eq_true.mp h before.length
    (List.mem_range.mpr (by rw [heq, List.length_append]; omega))
  rwa [heq, List.take_left, List.drop_left] at hplace

/-- From a stretch without line feeds none is written. -/
theorem lineFeed_not_mem_fillFrom (h : rule.copiesLineFeeds = true)
    (htakes : rule.pattern.Takes taken kept) (htaken : '\n' ∉ taken) :
    '\n' ∉ rule.phrase.fillFrom ⟨before, rest, kept⟩ := by
  obtain ⟨hflat, hinline⟩ := Bool.and_eq_true_iff.mp h
  have hnone : ∀ number, '\n' ∉ Pattern.keptText kept number := fun number => by
    have hone := Pattern.count_keptText_le kept (List.pairwise_singleton _ number)
    have hle := Nat.le_trans hone (htakes.lineFeeds_le hflat)
    rw [List.count_eq_zero.mpr htaken] at hle
    simpa [List.count_eq_zero] using hle
  refine List.count_eq_zero.mp ?_
  rw [count_fillFrom hinline, List.count_eq_zero]
  simpa using fun number _ => hnone number

/-- What `rest` was made into has lines of the same widths, if the rule stays in them. -/
def KeepsWidths (rule : Rule) (before rest out : List Char) : Prop :=
  (∀ a b, rest = a ++ b → rule.staysInLine (a.reverse ++ before) b = true) →
    ∀ width, widthsFrom (inkedBefore before) width out = widthsFrom (inkedBefore before) width rest

theorem KeepsWidths.cons {c : Char} {out : List Char}
    (h : rule.KeepsWidths (c :: before) rest out) :
    rule.KeepsWidths before (c :: rest) (c :: out) := by
  intro hstays width
  have hrest : ∀ a b, rest = a ++ b → rule.staysInLine (a.reverse ++ (c :: before)) b = true :=
    fun a b hab => by simpa using hstays (c :: a) b (congrArg (c :: ·) hab)
  rw [widthsFrom, widthsFrom]
  by_cases hc : c = '\n'
  · subst hc
    rw [if_pos rfl, if_pos rfl]
    exact congrArg (width :: ·) (h hrest 0)
  · have hinked := @inkedBefore_append [c] (by simpa using Ne.symm hc) before
    rw [if_neg hc, if_neg hc]
    cases hbefore : inkedBefore before <;> cases hblank : isBlank c <;>
      simp [hbefore, hblank, isBlankLine] at hinked ⊢ <;>
      exact hinked ▸ h hrest _

/-- A stretch that is replaced keeps the widths if what is behind it does. -/
theorem KeepsWidths.append {out : List Char} (hrule : rule.copiesLineFeeds = true)
    (htakes : rule.pattern.Takes taken kept)
    (hread : rule.pattern.readAt? ⟨before, taken ++ rest, []⟩ =
      some ⟨taken.reverse ++ before, rest, kept⟩)
    (h : rule.KeepsWidths (taken.reverse ++ before) rest out) :
    rule.KeepsWidths before (taken ++ rest)
      (rule.phrase.fillFrom ⟨taken.reverse ++ before, rest, kept⟩ ++ out) := by
  intro hstays width
  have hhere := hstays [] (taken ++ rest) rfl
  rw [List.reverse_nil, List.nil_append, staysInLine, hread, Option.all_some,
    Pattern.chars_append, Bool.and_eq_true, Bool.or_eq_true] at hhere
  obtain ⟨hinline, hindent⟩ := hhere
  have htaken : '\n' ∉ taken := by simpa using hinline
  have hwritten : '\n' ∉ rule.phrase.fillFrom ⟨taken.reverse ++ before, rest, kept⟩ :=
    lineFeed_not_mem_fillFrom hrule htakes htaken
  have hbehind := h fun a b hab => by
    simpa using hstays (taken ++ a) b (by rw [hab, List.append_assoc])
  rw [inkedBefore_append htaken] at hbehind
  rw [widthsFrom_append hwritten, widthsFrom_append htaken]
  cases hbefore : inkedBefore before with
  | true => simpa [hbefore] using hbehind width
  | false =>
    obtain ⟨hwidth, hblank⟩ : _ ∧ _ := by simpa [hbefore] using hindent
    rw [hbefore] at hbehind
    rw [hwidth, hblank]
    simpa using hbehind _

/-- **A rule that stays in the lines** keeps them, and their widths. -/
theorem map_indentWidth_apply (hrule : rule.copiesLineFeeds = true) {text : List Char}
    (h : rule.staysInLines text = true) :
    (lines (rule.apply text)).map indentWidth = (lines text).map indentWidth := by
  have hkeeps : rule.KeepsWidths [] text (rule.apply text) :=
    Pattern.replaceFrom_induction (fun _ _ _ => rfl) (fun _ _ _ _ => .cons)
      (fun _ _ _ _ _ => .append hrule) [] text
  rw [map_indentWidth_lines, map_indentWidth_lines]
  exact hkeeps (fun a b hab => by simpa using staysInLine_of_staysInLines h hab) 0

theorem map_indentWidth_applyAll (hrules : ∀ rule ∈ rules, rule.copiesLineFeeds = true)
    {text : List Char} (h : allStayInLines rules text = true) :
    (lines (applyAll rules text)).map indentWidth = (lines text).map indentWidth := by
  induction rules generalizing text with
  | nil => rfl
  | cons rule rules ih =>
    obtain ⟨hfirst, hrest⟩ := List.forall_mem_cons.mp hrules
    obtain ⟨hrule, hothers⟩ := Bool.and_eq_true_iff.mp h
    exact (ih hrest hothers).trans (map_indentWidth_apply hfirst hrule)

end Rule

/-! ## Chains from Python -/

namespace Chain

variable {chain : Chain} {text : List Char}

/-- No rule writes a line feed twice, but for those of one chain, as the tables show. -/
theorem rules_fromPython : (fromPython.all fun chain => chain.rules.all fun rule =>
    rule.splitsNothing || chain.target == "c" && rule.copiesLineFeeds) = true := by
  decide +kernel

theorem splitsNothing_of_mem (hchain : chain ∈ fromPython) (htarget : chain.target ≠ "c") :
    ∀ rule ∈ chain.rules, rule.splitsNothing = true := by
  intro rule hrule
  have hrules := List.all_eq_true.mp rules_fromPython chain hchain
  have hchecked := List.all_eq_true.mp hrules rule hrule
  rwa [beq_false_of_ne htarget, Bool.false_and, Bool.or_false] at hchecked

theorem copiesLineFeeds_of_mem (hchain : chain ∈ fromPython) :
    ∀ rule ∈ chain.rules, rule.copiesLineFeeds = true := by
  intro rule hrule
  have hrules := List.all_eq_true.mp rules_fromPython chain hchain
  have hchecked := List.all_eq_true.mp hrules rule hrule
  rcases Bool.or_eq_true_iff.mp hchecked with hsplits | hc
  · exact (Bool.and_eq_true_iff.mp hsplits).1
  · exact (Bool.and_eq_true_iff.mp hc).2

/-- **What becomes of the lines of a text** on the way from Python. None is split, but for C, where
the argument of `len` is written twice. All of them stay, as wide as they are, if the rules stay in
the lines, and in particular if the lines are ordinary. -/
theorem map_indentWidth_runRules (hchain : chain ∈ fromPython) (text : List Char) :
    (chain.target ≠ "c" → (lines (chain.runRules text)).length ≤ (lines text).length) ∧
    (Rule.allStayInLines chain.rules text = true →
      (lines (chain.runRules text)).map indentWidth = (lines text).map indentWidth) ∧
    ((∀ line ∈ lines text, IsOrdinary line) →
      (lines (chain.runRules text)).map indentWidth = (lines text).map indentWidth) := by
  refine ⟨fun htarget => ?_, fun hstay => ?_, map_indentWidth_of_isOrdinary hchain⟩
  · have hle := Rule.count_applyAll_le (splitsNothing_of_mem hchain htarget) text
    rw [length_lines, length_lines]
    exact Nat.add_le_add_right hle 1
  · exact Rule.map_indentWidth_applyAll (copiesLineFeeds_of_mem hchain) hstay

/-- A comment, a loop, a value that is returned from it, and a line end behind it. -/
def returningLoop : List Char := "# every\nwhile i < n:\n\treturn f(n)\n".toList

/-- Its lines are ordinary. -/
theorem isOrdinary_returningLoop : ∀ line ∈ lines returningLoop, IsOrdinary line := by
  let condition : Source.Condition :=
    { left := .name ⟨['i'], by decide, by decide⟩
      comparison := .lt
      right := .name ⟨['n'], by decide, by decide⟩ }
  have hloop : Source.indentation 0 ++ Source.python.write (.header (.repeatWhile condition)) =
      "while i < n:".toList := by decide
  have hlines : lines returningLoop = ["# every".toList, "while i < n:".toList,
      "\treturn f(n)".toList, []] := by decide
  rw [hlines]
  simp only [List.forall_mem_cons]
  refine ⟨?_, ?_, ?_, ?_, by simp⟩
  · show IsOrdinary ([] ++ '#' :: " every".toList)
    exact .comment (by simp) (by decide)
  · exact hloop ▸ .statement 0 _
  · show IsOrdinary (['\t'] ++ ("return ".toList ++ "f(n)".toList))
    exact .give (by decide) rfl (by decide)
  · exact .quiet (by decide)

/-- Its lines stay. -/
theorem map_indentWidth_runRules_loop : toGo ∈ fromPython ∧ toGo.target ≠ "c" ∧
    Rule.allStayInLines toGo.rules returningLoop = true ∧
    (∀ line ∈ lines returningLoop, IsOrdinary line) ∧
    (lines (toGo.runRules returningLoop)).length ≤ (lines returningLoop).length ∧
    (lines (toGo.runRules returningLoop)).map indentWidth =
      (lines returningLoop).map indentWidth := by
  have hchain : toGo ∈ fromPython := by simp [fromPython]
  have htarget : toGo.target ≠ "c" := by decide
  have hstay : Rule.allStayInLines toGo.rules returningLoop = true := by decide +kernel
  obtain ⟨hlength, hwidths, -⟩ := map_indentWidth_runRules hchain returningLoop
  exact ⟨hchain, htarget, hstay, isOrdinary_returningLoop, hlength htarget, hwidths hstay⟩

/-- A function that returns nothing, and a statement behind it. -/
def bareReturn : List Char := "def f():\n    return\nx = 1".toList

/-- **A `return` without a value is merged with the next line.** -/
theorem merges_bareReturn :
    (∀ line ∈ lines bareReturn,
      line.count '(' = line.count ')' ∧ '"' ∉ line ∧ '\'' ∉ line) ∧
    (lines (toJavaScript.runRules bareReturn)).length < (lines bareReturn).length := by
  decide +kernel

end Chain

end Recast
