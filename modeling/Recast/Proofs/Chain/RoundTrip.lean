import Recast.Proofs.Chain.BraceKnown
import Recast.Proofs.Chain.ClosingLines
import Recast.Proofs.Chain.ElseLines
import Recast.Proofs.Chain.ToJavaScript

/-!
# Proofs/Chain/RoundTrip — programs into JavaScript and back

The chain from JavaScript undoes what the chain to JavaScript does to a program, but for a line feed
at the end: where a program ends in a block statement, the line with the last brace leaves its line
feed behind (`transform_fromJavaScript_toJavaScript`).

On the way back the lines of some shapes are Python already and the others are JavaScript still
(`Shape.partly`). Most rules work line by line and are run on stencils (`applyAll_partly`); the two
rules for `else`, the rule that takes away closing lines and the one that takes away semicolons have
a section each.
-/

namespace Recast

open Form Pattern Text

/-! ## Programs -/

namespace Source

/-- Every counted loop of the program starts at zero and counts by one. -/
def CountsFromZero (program : Program) : Prop :=
  ∀ depth line, (depth, .line line) ∈ program.outline 0 →
    line.shape ≠ .count2 ∧ line.shape ≠ .count3

/-- The last statement of the program is a block statement. -/
def endsInBlock : Program → Bool
  | .last (.step _) => false
  | .last _ => true
  | .next _ rest => endsInBlock rest

/-- An outline ends with a line, or with the end of a block statement. -/
theorem exists_outline_eq : ∀ (body : Body) (depth : Nat), ∃ before entry,
    body.outline depth = before ++ [(depth, entry)] ∧ match entry with
      | .line _ => endsInBlock body = false
      | .close _ => endsInBlock body = true
  | .last (.step step), depth => ⟨[], .line (.step step), rfl, rfl⟩
  | .last (.block header body), depth => ⟨_ :: body.outline (depth + 1), .close (.header header),
      rfl, rfl⟩
  | .last (.branch condition body rest), depth =>
      ⟨_ :: (body.outline (depth + 1) ++ rest.outline depth), .close (.branch condition), rfl, rfl⟩
  | .next statement rest, depth => by
      obtain ⟨before, entry, hrest, hentry⟩ := exists_outline_eq rest depth
      refine ⟨statement.outline depth ++ before, entry, ?_, hentry⟩
      rw [Body.outline, hrest, List.append_assoc]

/-! ## Lines on the way back -/

/-- The stencil of a shape, in Python if that is one of those done. -/
def Shape.partly (done : List Shape) (shape : Shape) : Stencil :=
  if shape ∈ done then shape.inPython.stencil else shape.inJavaScript.stencil

/-- The lines of some shapes in Python, and the others in JavaScript. -/
def Style.partly (done : List Shape) : Style where
  write line := (line.shape.partly done).fill (fillers line.values)
  close _ := some ['}']

/-- Nothing is turned back at first. -/
theorem partly_nil : Style.partly [] = javaScript := by
  have hwrite : (Style.partly []).write = javaScript.write :=
    funext fun line => Phrase.fill_stencil _ _
  exact congrArg₂ Style.mk hwrite rfl

/-- A shape that has been turned back is written as in the source. -/
theorem partly_write_of_mem {done : List Shape} {line : Line} (h : line.shape ∈ done) :
    (Style.partly done).write line = python.write line := by
  have hwrite : (Style.partly done).write line =
      (line.shape.partly done).fill (fillers line.values) := rfl
  rw [hwrite, Shape.partly, if_pos h, Phrase.fill_stencil]
  rfl

end Source

namespace Chain

open Source

variable {done done' : List Shape} {program : Program} {rule : Rule} {insight : Insight}
  {rules : List Rule} {insights : List Insight}

/-- What rules make of the shapes of programs, told by the insights into them. -/
def Turns (rules : List Rule) (insights : List Insight) (done done' : List Shape) : Prop :=
  ∀ shape : Shape, shape ≠ .count2 → shape ≠ .count3 →
    Insight.run rules insights shape.kinds (shape.partly done) = some (shape.partly done')

/-- **Rules that turn shapes back** turn back the lines of these shapes, and no others. -/
theorem runs_partly (hinto : List.Forall₂ Insight.Into rules insights)
    (hturns : Turns rules insights done done') (hcounts : CountsFromZero program) (depth : Nat)
    (line : Line) (hline : (depth, .line line) ∈ program.outline 0) :
    Rule.Runs rules (indentation depth ++ (Style.partly done).write line)
      (indentation depth ++ (Style.partly done').write line) := by
  obtain ⟨h2, h3⟩ := hcounts depth line hline
  exact Insight.runs_of_run hinto line.fits (hturns line.shape h2 h3)

/-- **Rules that work line by line**, on the way back. -/
theorem applyAll_partly (hinto : List.Forall₂ Insight.Into rules insights)
    (hturns : Turns rules insights done done')
    (hclose : Insight.run rules insights [] [.text ['}']] = some [.text ['}']])
    (hcounts : CountsFromZero program) :
    Rule.applyAll rules (program.text (Style.partly done)) = program.text (Style.partly done') := by
  refine Rule.applyAll_joinLines (Insight.shuns_lineFeed_of_into hinto)
    (forall₂_textLines (runs_partly hinto hturns hcounts) fun depth head => .cons ?_ .nil)
  have hbrace : List.Forall₂ Blank.Fits [] [] := .nil
  exact Insight.runs_of_run hinto hbrace hclose

/-! ## Rules for `else` -/

/-- Lines that do not start with `else` leave the braces above them alone. -/
theorem skipsElse_partly (hskips : ∀ shape : Shape, ((shape.partly done).startsInk shape.kinds &&
    (shape.partly done).skipsElse) = true) {line : List Char}
    (hline : line ∈ (Style.partly done).textLines (program.outline 0)) (more : List Char) :
    SkipsElse ('\n' :: (line ++ more)) := by
  obtain ⟨depth, ⟨line, rfl⟩ | ⟨head, token, htoken, rfl⟩⟩ := mem_textLines hline
  · obtain ⟨hink, hskip⟩ := Bool.and_eq_true_iff.mp (hskips line.shape)
    exact skipsElse_fill line.fits hink hskip depth more
  · obtain rfl : ['}'] = token := Option.some.inj htoken
    have hbrace : List.Forall₂ Blank.Fits [] [] := .nil
    have hskip : SkipsElse ('\n' :: (indentation depth ++
        Stencil.fill [.text ['}']] (fillers []) ++ more)) :=
      skipsElse_fill hbrace (by decide) (by decide) depth more
    exact hskip

/-- **A rule for `else`** works line by line as well, since no line starts with that word. -/
theorem apply_partly {ps : List Pattern}
    (hpattern : rule.pattern = all (.text "\x7d" :: blanks :: .text "else" :: ps))
    (hps : (all ps).Shuns isWord) (hinto : Insight.Into rule insight)
    (hturns : Turns [rule] [insight] done done')
    (hskips : ∀ shape : Shape, ((shape.partly done).startsInk shape.kinds &&
      (shape.partly done).skipsElse) = true) (hcounts : CountsFromZero program) :
    rule.apply (program.text (Style.partly done)) = program.text (Style.partly done') := by
  have hshuns : rule.pattern.Shuns (· == '\n') := by
    rw [hpattern]
    exact shuns_sign rfl
  have hlines : List.Forall₂ (rule.TurnsBefore SkipsElse)
      ((Style.partly done).textLines (program.outline 0))
      ((Style.partly done').textLines (program.outline 0)) := by
    refine forall₂_textLines (fun depth line hline => ?_)
      fun depth head => .cons (turnsBefore_brace hpattern hps depth) .nil
    cases runs_partly (.cons hinto .nil) hturns hcounts depth line hline with
    | cons hturn hend =>
      cases hend
      exact fun before rest hbefore hrest _ => hturn before rest hbefore hrest trivial
  exact Rule.replaceFrom_joinLines hshuns hlines (fun line hline => skipsElse_partly hskips hline)
    skipsElse_nil [] rfl

/-! ## Closing lines -/

/-- An empty line at the end, if the program ends in a block statement. -/
def leftOver (program : Program) : List (List Char) := if endsInBlock program then [[]] else []

/-- A brace on a line of its own closes a block. -/
theorem isClosing_brace (depth : Nat) : isClosing (indentation depth ++ ['}']) = true := by
  have hmargin : ∀ c ∈ indentation depth, isMargin c = true := forall_mem_indentation (by decide)
  exact isClosing_iff.mpr ⟨indentation depth, [], [], rfl, hmargin, .inl rfl, by simp⟩

theorem isClosing_of_not_mem {line : List Char} (h : '}' ∉ line) : isClosing line = false := by
  by_contra hclosing
  obtain ⟨margin, tail, blank, rfl, -⟩ := isClosing_iff.mp (by simpa using hclosing)
  exact h (by simp)

/-- Without its closing lines, a text has the lines of an outline that closes nothing. -/
theorem filter_closing {style : Style} (hclose : ∀ head, style.close head = some ['}'])
    (hfree : ∀ line, '}' ∉ style.write line) : ∀ outline : List (Nat × Entry),
    (style.textLines outline).filter (!isClosing ·) = style.unclosed.textLines outline
  | [] => rfl
  | (depth, .line line) :: more => by
      have hline : isClosing (indentation depth ++ style.write line) = false :=
        isClosing_of_not_mem (not_mem_indentation (by decide) (hfree line) depth)
      rw [Closer.textLines_cons_line, Closer.textLines_cons_line, List.filter_cons,
        if_pos (by rw [hline]; rfl), filter_closing hclose hfree more]
      rfl
  | (depth, .close head) :: more => by
      have hbrace : style.textLines [(depth, .close head)] = [indentation depth ++ ['}']] := by
        simp [Style.textLines, Style.entryText?, hclose]
      rw [← List.singleton_append, Closer.textLines_append, Closer.textLines_append, hbrace,
        List.filter_append, filter_closing hclose hfree more, List.filter_cons,
        if_neg (by simp [isClosing_brace])]
      rfl

/-- **What is kept of a program's lines** are those without the closing ones. -/
theorem linesLeft_textLines {style : Style} (hclose : ∀ head, style.close head = some ['}'])
    (hfree : ∀ line, '}' ∉ style.write line) (program : Program) :
    linesLeft isClosing (style.textLines (program.outline 0)) =
      style.unclosed.textLines (program.outline 0) ++ leftOver program := by
  obtain ⟨before, entry, houtline, hentry⟩ := exists_outline_eq program 0
  have hlast : ((style.textLines (program.outline 0)).getLast?.any isClosing) =
    endsInBlock program := by
    rw [houtline, Closer.textLines_append]
    cases entry with
    | line line =>
      have hline : style.textLines [(0, .line line)] = [indentation 0 ++ style.write line] := rfl
      rw [hline, List.getLast?_concat, hentry]
      exact isClosing_of_not_mem (hfree line)
    | close head =>
      have hbrace : style.textLines [(0, .close head)] = [indentation 0 ++ ['}']] := by
        simp [Style.textLines, Style.entryText?, hclose]
      rw [hbrace, List.getLast?_concat, hentry]
      exact isClosing_brace 0
  rw [linesLeft, filter_closing hclose hfree, hlast, leftOver]

/-! ## Semicolons -/

/-- The rule that takes away the semicolon at the end of a line. -/
def semicolonRule : Rule := ⟨"semicolon", all [";", margin, .edge .lineEnd], []⟩

theorem shuns_semicolon : semicolonRule.pattern.Shuns (· != ';') := shuns_sign rfl

theorem ne_semicolon {line : List Char} (h : ';' ∉ line) : ∀ c ∈ line, (c != ';') = true :=
  fun c hc => by
    rw [bne_iff_ne]
    rintro rfl
    exact h hc

theorem leaves_semicolon {line : List Char} (h : ';' ∉ line) : semicolonRule.Leaves line :=
  Rule.leaves_of_misses fun _ _ _ _ => misses_of_shuns shuns_semicolon (ne_semicolon h)

/-- The semicolon at the end of a line is dropped. -/
theorem turns_semicolon {line : List Char} (h : ';' ∉ line) :
    semicolonRule.Turns (line ++ [';']) line := by
  have hturns : semicolonRule.Turns (line ++ [';']) (line ++ []) := by
    refine Rule.turns_of_read_to_end (by simp)
      (fun _ _ _ => misses_of_shuns shuns_semicolon (ne_semicolon h)) fun before rest _ hrest => ?_
    have hread : semicolonRule.pattern.readAt? ⟨line.reverse ++ before, ";".toList ++ rest, []⟩ =
        some ⟨";".toList.reverse ++ (line.reverse ++ before), rest, []⟩ := by
      rw [readAt?, semicolonRule, read_sign, read_margin (head?_of_lineFeed rfl hrest),
        read_lineEnd hrest]
      rfl
    exact ⟨_, hread, rfl, rfl⟩
  rwa [List.append_nil] at hturns

theorem not_mem_python (line : Line) : ';' ∉ python.write line := by
  have hpython : Stencil.isFree ';' line.shape.inPython.stencil = true := by
    cases line.shape <;> decide
  have hline := Stencil.not_mem_fill_of_isFree (tame_fillers line.fits) hpython
  rwa [Phrase.fill_stencil] at hline

/-- Only the semicolon of a `return` is left to take away. -/
theorem write_give (hgive : Shape.give ∉ done) {line : Line} (hshape : line.shape = .give) :
    (Style.partly done).write line = python.write line ++ [';'] := by
  have hpartly : (Style.partly done).write line =
      (line.shape.partly done).fill (fillers line.values) := rfl
  have hpython : python.write line = line.shape.inPython.fill (fillers line.values) := rfl
  rw [hpartly, hpython, hshape, Shape.partly, if_neg hgive, Phrase.fill_stencil]
  simp [Shape.inPython, Shape.inJavaScript, Phrase.fill, Piece.fill]

/-- **Lines without their semicolons** are Python, and what is left over stays. -/
theorem apply_semicolon (hcounts : CountsFromZero program)
    (hdone : ∀ shape : Shape, shape ≠ .count2 → shape ≠ .count3 → shape ≠ .give → shape ∈ done)
    (hgive : Shape.give ∉ done) :
    semicolonRule.apply (joinLines ((Style.partly done).unclosed.textLines (program.outline 0) ++
      leftOver program)) =
        joinLines (python.textLines (program.outline 0) ++ leftOver program) := by
  have hfree : ∀ (depth : Nat) (line : Line), ';' ∉ indentation depth ++ python.write line :=
    fun depth line => not_mem_indentation (by decide) (not_mem_python line) depth
  have hleft : List.Forall₂ semicolonRule.Turns (leftOver program) (leftOver program) := by
    rw [leftOver]
    split
    · exact .cons (leaves_semicolon (by simp)) .nil
    · exact .nil
  refine Rule.apply_joinLines (shuns_semicolon.mono fun c hc => by rw [beq_iff_eq.mp hc]; decide)
    (List.rel_append (forall₂_textLines (fun depth line hline => ?_) fun _ _ => .nil) hleft)
  obtain ⟨h2, h3⟩ := hcounts depth line hline
  by_cases hshape : line.shape = .give
  · have hwrite : (Style.partly done).unclosed.write line = python.write line ++ [';'] :=
      write_give hgive hshape
    rw [hwrite, ← List.append_assoc]
    exact turns_semicolon (hfree depth line)
  · have hwrite : (Style.partly done).unclosed.write line = python.write line :=
      partly_write_of_mem (hdone line.shape h2 h3 hshape)
    rw [hwrite]
    exact leaves_semicolon (hfree depth line)

/-! ## The way back -/

/-- The shapes that are Python once the declarations have been read. -/
def declared : List Shape := [.assignName, .assignNumber, .print, .define, .branch]

/-- The shapes that are Python once the loops have been read. -/
def looped : List Shape :=
  [.repeatWhile, .count1, .each, .otherwise, .elseBranch] ++ declared

/-- The rules in front of those for `else`. -/
def declarationRules : List Rule := fromJavaScriptRules.take 4

/-- The rules behind those for `else` that work line by line. -/
def loopRules : List Rule := (fromJavaScriptRules.drop 6).take 17

def elseIfRule : Rule := ⟨"else_if", elseIfHeader, ["elif ", 1, ":"]⟩

def elseRule : Rule := ⟨"else", elseHeader, ["else:"]⟩

def closingRule : Rule := ⟨"closing_brace", closingLine, []⟩

/-- The rules back from JavaScript, in the groups in which they act. -/
theorem rules_fromJavaScript : fromJavaScript.rules = declarationRules ++
    ([elseIfRule, elseRule] ++ (loopRules ++ [closingRule, semicolonRule])) := rfl

/-- **First, declarations** are turned back, and with them output, definitions and branches. -/
theorem apply_declarations (hcounts : CountsFromZero program) :
    Rule.applyAll declarationRules (program.text javaScript) =
      program.text (Style.partly declared) := by
  have hinto : List.Forall₂ Insight.Into declarationRules Insight.declarations := by
    repeat' first | exact .nil | refine .cons rfl ?_
  have hturns : Turns declarationRules Insight.declarations [] declared := fun shape h2 h3 => by
    cases shape <;> first | exact absurd rfl h2 | exact absurd rfl h3 | decide
  rw [← partly_nil]
  exact applyAll_partly hinto hturns (by decide) hcounts

/-- Further branches are turned back next. -/
theorem apply_elseIf (hcounts : CountsFromZero program) :
    elseIfRule.apply (program.text (Style.partly declared)) =
      program.text (Style.partly (.elseBranch :: declared)) := by
  have hinto : Insight.Into elseIfRule Insight.elseIfHeader := rfl
  have hturns : Turns [elseIfRule] [Insight.elseIfHeader] declared (.elseBranch :: declared) :=
    fun shape h2 h3 => by
      cases shape <;> first | exact absurd rfl h2 | exact absurd rfl h3 | decide
  exact apply_partly rfl shuns_gap hinto hturns
    (fun shape => by cases shape <;> decide) hcounts

/-- The last branches are turned back behind them. -/
theorem apply_else (hcounts : CountsFromZero program) :
    elseRule.apply (program.text (Style.partly (.elseBranch :: declared))) =
      program.text (Style.partly (.otherwise :: .elseBranch :: declared)) := by
  have hinto : Insight.Into elseRule Insight.elseHeader := rfl
  have hturns : Turns [elseRule] [Insight.elseHeader] (.elseBranch :: declared)
      (.otherwise :: .elseBranch :: declared) := fun shape h2 h3 => by
    cases shape <;> first | exact absurd rfl h2 | exact absurd rfl h3 | decide
  exact apply_partly rfl (shuns_blanks isBlank_of_isWord (shuns_sign rfl)) hinto hturns
    (fun shape => by cases shape <;> decide) hcounts

/-- Loops are turned back when no branch is left. -/
theorem apply_loops (hcounts : CountsFromZero program) :
    Rule.applyAll loopRules (program.text (Style.partly (.otherwise :: .elseBranch :: declared))) =
      program.text (Style.partly looped) := by
  have hinto : List.Forall₂ Insight.Into loopRules Insight.loops := by
    repeat' first | exact .nil | refine .cons rfl ?_
  have hturns : Turns loopRules Insight.loops (.otherwise :: .elseBranch :: declared) looped :=
    fun shape h2 h3 => by
      cases shape <;> first | exact absurd rfl h2 | exact absurd rfl h3 | decide
  exact applyAll_partly hinto hturns (by decide) hcounts

/-- Closing lines are left out when all lines are turned back. -/
theorem apply_closing : closingRule.apply (program.text (Style.partly looped)) =
    joinLines ((Style.partly looped).unclosed.textLines (program.outline 0) ++
      leftOver program) := by
  have hfree : ∀ c, c = '}' ∨ c = '\n' → ∀ line, c ∉ (Style.partly looped).write line := by
    intro c hc line
    have hstencil : Stencil.isFree c (line.shape.partly looped) = true := by
      rcases hc with rfl | rfl <;> cases line.shape <;> decide
    exact Stencil.not_mem_fill_of_isFree (tame_fillers line.fits) hstencil
  have hlines : ∀ line ∈ (Style.partly looped).textLines (program.outline 0), '\n' ∉ line := by
    intro line hline
    obtain ⟨depth, ⟨line, rfl⟩ | ⟨head, token, htoken, rfl⟩⟩ := mem_textLines hline
    · exact not_mem_indentation (by decide) (hfree '\n' (.inr rfl) line) depth
    · obtain rfl : ['}'] = token := Option.some.inj htoken
      exact not_mem_indentation (by decide) (by decide) depth
  have hfill : ∀ spot, closingRule.phrase.fillFrom spot = [] := fun _ => rfl
  change closingLine.replaceFrom _ 0 [] (joinLines _) = _
  rw [replaceFrom_closingLine hfill _ hlines rfl,
    dropLines_eq (textLines_ne_nil _ program),
    linesLeft_textLines (fun _ => rfl) (hfree '}' (.inl rfl))]

/-- **The rules from JavaScript** make a program Python again. -/
theorem runRules_fromJavaScript (hcounts : CountsFromZero program) :
    fromJavaScript.runRules (program.text javaScript) =
      joinLines (python.textLines (program.outline 0) ++ leftOver program) := by
  have hdone : ∀ shape : Shape, shape ≠ .count2 → shape ≠ .count3 → shape ≠ .give →
      shape ∈ looped := fun shape h2 h3 hgive => by
    cases shape <;> first
      | exact absurd rfl h2
      | exact absurd rfl h3
      | exact absurd rfl hgive
      | decide
  rw [runRules, rules_fromJavaScript, Rule.applyAll_append, apply_declarations hcounts,
    Rule.applyAll_append, Rule.applyAll_cons, apply_elseIf hcounts, Rule.applyAll_cons,
    apply_else hcounts, Rule.applyAll_nil, Rule.applyAll_append, apply_loops hcounts,
    Rule.applyAll_cons, apply_closing, Rule.applyAll_cons,
    apply_semicolon hcounts hdone (by decide), Rule.applyAll_nil]

/-- **A program goes into JavaScript and comes back as it was**, with a line feed behind it if it
ends in a block statement. -/
theorem transform_fromJavaScript_toJavaScript (hcounts : CountsFromZero program)
    (matching : Matching) :
    fromJavaScript.transform matching (toJavaScript.transform .stack (program.text python)) =
      program.text python ++ if endsInBlock program then ['\n'] else [] := by
  have hthere : toJavaScript.transform .stack (program.text python) = program.text javaScript :=
    writes_toJavaScript.closeBlocks_runRules javaScript_write rfl suits_javaScript
      (not_mem_write javaScript_write isBraced_javaScript) program
  have hback : fromJavaScript.transform matching (program.text javaScript) =
      fromJavaScript.runRules (program.text javaScript) := rfl
  rw [hthere, hback, runRules_fromJavaScript hcounts, leftOver]
  split
  · exact joinLines_concat_nil (textLines_ne_nil python program)
  · rw [List.append_nil, List.append_nil]
    rfl

/-- A loop with a choice in it. -/
def counting : Program :=
  let i : Name := ⟨"i".toList, by decide, by decide⟩
  let x : Name := ⟨"x".toList, by decide, by decide⟩
  .last (.block (.count i (.stop ⟨"10".toList, by decide, List.all_eq_true.mp (by decide)⟩))
    (.last (.branch ⟨.name i, .lt, .name x⟩ (.last (.step (.print (.name i))))
      (.otherwise (.last (.step (.give (.name x))))))))

/-- A loop that counts from zero comes back. -/
theorem transform_counting : CountsFromZero counting ∧
    fromJavaScript.transform .stack (toJavaScript.transform .stack (counting.text python)) =
      counting.text python ++ if endsInBlock counting then ['\n'] else [] := by
  have hcounts : CountsFromZero counting := by
    intro depth line hline
    simp only [counting, Body.outline, Statement.outline, Branches.outline, List.mem_cons,
      List.mem_append, Prod.mk.injEq, Entry.line.injEq, List.not_mem_nil, or_false, reduceCtorEq,
      and_false] at hline
    rcases hline with ⟨-, rfl⟩ | ⟨-, rfl⟩ | ⟨-, rfl⟩ | ⟨-, rfl⟩ | ⟨-, rfl⟩ <;>
    exact ⟨by decide, by decide⟩
  exact ⟨hcounts, transform_fromJavaScript_toJavaScript hcounts .stack⟩

end Chain

end Recast
