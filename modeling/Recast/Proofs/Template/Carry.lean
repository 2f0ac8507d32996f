import Recast.Proofs.Template.Idioms
import Recast.Proofs.Text.Lines
import Recast.Template.Carry

/-!
# Proofs/Template/Carry — scripts carried over

The two passes over a script are rules, and each of them turns every line: the first writes the
output statements as the target's, the second the declarations (`recastStatements_text`). The lines
that come out show no entry point and are no preamble, so a target with a main function puts all of
them in it, each indented once, and its import lines come first (`carry_text`).
-/

namespace Recast.Template

open Pattern Script Text

variable {source target : Template}

/-! ## The passes are rules -/

/-- Output statements are written as the target's. -/
def outputRule (target : Template) : Rule :=
  ⟨"output", Idiom.callStatement "console.log", target.output⟩

/-- Loose declarations are written as the target's. -/
def declarationRule (target : Template) : Rule :=
  ⟨"declaration", Idiom.looseDeclaration, target.declaration⟩

/-- The lines of a preamble are left out. -/
def preambleRule : Rule := ⟨"preamble", Idiom.preambleLine, []⟩

theorem recastOutput_eq_apply (h : target.output.isWithin 1 = true) (code : List Char) :
    recastOutput code "javascript" target = target.outputRule.apply code := by
  have hfill : (fun spot : Spot => target.print
      (Idiom.printed "javascript" ((spot.keptText? 1).getD []))) = target.output.fillFrom := by
    funext spot
    refine Phrase.fill_congr h fun n hpos hle => ?_
    obtain rfl : n = 1 := by omega
    rfl
  rw [recastOutput_eq, Rule.apply, outputRule, ← hfill]
  rfl

theorem recastDeclarations_eq_apply (h : target.declaration.isWithin 2 = true)
    (hlanguage : target.language ≠ "javascript") (code : List Char) :
    recastDeclarations code "javascript" target.language target =
      target.declarationRule.apply code := by
  have hfill : (fun spot : Spot => target.declare ((spot.keptText? 1).getD [])
      ((spot.keptText? 2).getD [])) = target.declaration.fillFrom := by
    funext spot
    refine Phrase.fill_congr h fun n hpos hle => ?_
    obtain rfl | rfl : n = 1 ∨ n = 2 := by omega
    · rfl
    · rfl
  have hpass :
      (!Idiom.declaresLoosely "javascript" || "javascript" == target.language) = false := by
    rw [show Idiom.declaresLoosely "javascript" = true by decide]
    simpa using hlanguage.symm
  rw [recastDeclarations_eq, hpass, Rule.apply, declarationRule, ← hfill]
  rfl

/-! ## What the passes make of a line -/

/-- A rule that reads a line to its end writes its phrase instead. -/
theorem turns_of_reads {rule : Rule} {line : List Char} {values : List (List Char)}
    (hne : line ≠ []) (hreads : ∀ before rest, before.head?.all (· = '\n') = true →
      rest.head?.all (· = '\n') = true → rule.pattern.Reads before line rest values) :
    rule.Turns line (rule.phrase.stencil.fill (fillers values)) := by
  have hturns : rule.Turns ([] ++ line) ([] ++ rule.phrase.stencil.fill (fillers values)) := by
    refine Rule.turns_of_read_to_end hne (fun _ _ _ => misses_nil)
      fun before rest hbefore hrest => ?_
    obtain ⟨before', kept, hspot, hkept⟩ := hreads before rest hbefore hrest
    exact ⟨_, hspot, rfl, fillFrom_eq hkept⟩
  exact hturns

/-- The line when only output statements are written as the target's. -/
def printed (target : Template) : Line → List Char
  | .print value => target.print value.chars
  | line => line.text

/-- A declaration has no parenthesis, so it is no output statement. -/
theorem parenthesis_not_mem {keyword : String} (h : keyword ∈ declaringWords) (name : Name)
    (value : Expression) : '(' ∉ (Line.declare keyword h name value).text := by
  have hkeyword : ∀ w ∈ declaringWords, '(' ∉ w.toList := by decide
  have hname : '(' ∉ name.chars := fun hmem =>
    absurd (name.isWordRun.isWord _ hmem) (by decide)
  have hvalue : '(' ∉ value.chars := value.not_mem '(' (by simp)
  rw [Line.text_declare]
  simp only [List.mem_append, not_or]
  exact ⟨hkeyword keyword h, by decide, hname, by decide, hvalue, by decide⟩

theorem turns_output (target : Template) (line : Line) :
    target.outputRule.Turns line.text (target.printed line) := by
  cases line with
  | print value =>
    have hline : (Line.print value).text =
        "console.log".toList ++ ("(".toList ++ (value.chars ++ ");".toList)) := by
      simp [Line.text_print]
    rw [printed, print_eq_fill, hline]
    exact turns_of_reads (by simp) fun before rest hbefore _ =>
      Idiom.callStatement_reads (Idiom.calls_text _) (value.inline_ne ')' (by simp)) hbefore
  | declare keyword isDeclaring name value =>
    have hshows : target.outputRule.pattern.Shows [.text "(".toList] :=
      Idiom.callStatement_shows (by decide)
    refine Rule.leaves_of_misses fun before rest _ hrest =>
      misses_of_shows hshows (by decide) hrest fun cue hcue hin => ?_
    rw [List.mem_singleton.mp hcue] at hin
    exact parenthesis_not_mem isDeclaring name value (hin.subset (by decide))

/-- What is printed has none of the words by which declarations are found. -/
theorem avoids_print (htidy : target.IsTidy) (value : Expression) :
    Avoids reserved (target.print value.chars) := by
  rw [print_eq_fill]
  exact Stencil.avoids_fill (by decide) htidy.output_avoids
    (avoids_fillers (by decide) (List.forall_mem_singleton.mpr value.avoids))

theorem turns_declaration (htidy : target.IsTidy) (line : Line) :
    target.declarationRule.Turns (target.printed line) (line.recast target) := by
  cases line with
  | print value =>
    refine Rule.leaves_of_misses fun before rest _ hrest =>
      misses_of_shows Idiom.looseDeclaration_shows (by decide) hrest fun cue hcue hin => ?_
    obtain ⟨w, hw, rfl⟩ := List.mem_map.mp hcue
    have hreserved : ∀ w ∈ declaringWords, isAmong reserved w.toList = true := by decide
    have hfree := (avoids_print htidy value).isAmong _ hin
    rw [hreserved w hw] at hfree
    exact absurd hfree (by decide)
  | declare keyword isDeclaring name value =>
    have hreads (before rest : List Char) (hbefore : before.head?.all (· = '\n') = true) :
        target.declarationRule.pattern.Reads before
          (Line.declare keyword isDeclaring name value).text rest [name.chars, value.chars] :=
      Idiom.looseDeclaration_reads isDeclaring name.isWordRun value.ne_nil value.trim_chars
        (value.inline_ne ';' (by simp)) (head?_of_lineFeed (by decide) hbefore)
    rw [Line.recast, declare_eq_fill]
    exact turns_of_reads (by simp [printed, Line.text_declare]) fun before rest hbefore _ =>
      hreads before rest hbefore

/-- **The statements of a script** are those of its lines. -/
theorem recastStatements_text (hsource : source.language = "javascript") (htidy : target.IsTidy)
    (hlanguage : target.language ≠ "javascript") (lines : List Line) :
    recastStatements (Script.text lines) source target =
      joinLines (lines.map (Line.recast target)) := by
  have houtput : List.Forall₂ target.outputRule.Turns (lines.map Line.text)
      (lines.map target.printed) :=
    List.forall₂_map_left_iff.mpr (List.forall₂_map_right_iff.mpr
      (List.forall₂_same.mpr fun line _ => turns_output target line))
  have hdeclaration : List.Forall₂ target.declarationRule.Turns (lines.map target.printed)
      (lines.map (Line.recast target)) :=
    List.forall₂_map_left_iff.mpr (List.forall₂_map_right_iff.mpr
      (List.forall₂_same.mpr fun line _ => turns_declaration htidy line))
  have hshows : target.outputRule.pattern.Shows [.text "(".toList] :=
    Idiom.callStatement_shows (by decide)
  rw [recastStatements_eq, hsource, recastOutput_eq_apply htidy.output_isWithin,
    recastDeclarations_eq_apply htidy.declaration_isWithin hlanguage, Script.text,
    Rule.apply_joinLines (hshows.shuns_lineFeed (by decide)) houtput,
    Rule.apply_joinLines (Idiom.looseDeclaration_shows.shuns_lineFeed (by decide)) hdeclaration]

/-! ## The lines that come out -/

theorem avoids_recast (htidy : target.IsTidy) (line : Line) :
    Avoids (entryWords ++ preambleWords) (line.recast target) := by
  have hsub : entryWords ++ preambleWords ⊆ reserved := by decide
  cases line with
  | print value => exact (avoids_print htidy value).mono hsub
  | declare keyword isDeclaring name value =>
    rw [Line.recast, declare_eq_fill]
    refine Stencil.avoids_fill (by decide) htidy.declaration_avoids (avoids_fillers (by decide) ?_)
    simp [name.avoids.mono hsub, value.avoids.mono hsub]

/-- In a main function, lines start with a word. -/
theorem head?_recast (htidy : target.IsTidy) (hentry : target.entry.isSome) (line : Line) :
    (line.recast target).head?.any isWord = true := by
  cases line with
  | print value =>
    rw [Line.recast, print_eq_fill]
    exact Stencil.head?_fill_of_startsIn (by simp) (htidy.output_starts hentry)
  | declare keyword isDeclaring name value =>
    rw [Line.recast, declare_eq_fill]
    refine Stencil.head?_fill_of_startsIn (fun n hn => ?_) (htidy.declaration_starts hentry)
    obtain rfl : n = 1 := beq_iff_eq.mp hn
    exact name.head?

theorem getLast?_recast (htidy : target.IsTidy) (line : Line) :
    (line.recast target).getLast?.any (!isBlank ·) = true := by
  cases line with
  | print value =>
    rw [Line.recast, print_eq_fill]
    refine Stencil.getLast?_fill_of_endsIn (fun n hn => ?_) htidy.output_ends
    obtain rfl : n = 1 := beq_iff_eq.mp hn
    exact value.getLast?
  | declare keyword isDeclaring name value =>
    rw [Line.recast, declare_eq_fill]
    refine Stencil.getLast?_fill_of_endsIn (fun n hn => ?_) htidy.declaration_ends
    obtain rfl : n = 2 := beq_iff_eq.mp hn
    exact value.getLast?

/-! ## Lines in a main function -/

/-- A line that shows no entry point, is no part of a preamble and has nothing to trim. -/
structure IsStatement (line : List Char) : Prop where
  avoids : Avoids (entryWords ++ preambleWords) line
  head? : line.head?.any isWord = true
  getLast? : line.getLast?.any (!isBlank ·) = true

theorem isStatement_recast (htidy : target.IsTidy) (hentry : target.entry.isSome) (line : Line) :
    IsStatement (line.recast target) :=
  ⟨avoids_recast htidy line, head?_recast htidy hentry line, getLast?_recast htidy line⟩

variable {body : List (List Char)}

/-- **Lines that show no entry point** are put in the main function, if there is one. -/
theorem entryFor?_joinLines (hne : body ≠ [])
    (h : ∀ line ∈ body, Avoids (entryWords ++ preambleWords) line) :
    target.entryFor? (joinLines body) = target.entry := by
  have hascii : ∀ c ∈ joinLines body, c.toNat < 0x80 := by
    intro c hc
    rcases mem_joinLines hc with rfl | ⟨line, hline, hc⟩
    · decide
    · have hplain := (h line hline).isPlain c hc
      exact of_decide_eq_true (Bool.and_eq_true_iff.mp hplain).1
  have hwords : ∀ w ∈ words (joinLines body), isAmong entryWords w = false := by
    intro w hw
    obtain ⟨line, hline, hw⟩ := mem_words_joinLines hne hw
    exact ((h line hline).mono (by decide)).isAmong w hw
  rw [entryFor?, Idiom.entryMarker_occursIn_eq_false hascii hwords]
  rfl

/-- **Statements are no preamble**, and there is nothing to trim. -/
theorem stripPreamble_joinLines (hne : body ≠ []) (h : ∀ line ∈ body, IsStatement line) :
    stripPreamble (joinLines body) = joinLines body := by
  have hleaves : List.Forall₂ preambleRule.Turns body body :=
    List.forall₂_same.mpr fun line hline => Rule.leaves_of_misses fun before rest _ hrest =>
      Idiom.preambleLine_misses (h line hline).head? ((h line hline).avoids.mono (by decide)) hrest
  have hkept : Idiom.preambleLine.replaceAll (fun _ => []) (joinLines body) = joinLines body :=
    Rule.apply_joinLines Idiom.preambleLine_shuns hleaves
  have hfirst := head?_joinLines hne fun line hline => (h line hline).head?
  have hlast := getLast?_joinLines hne fun line hline => (h line hline).getLast?
  rw [stripPreamble, hkept]
  refine trim_eq_self ?_ ?_
  · cases hhead : (joinLines body).head? with
    | none => rfl
    | some c => simpa using isBlank_of_isWord c (by simpa [hhead] using hfirst)
  · cases hend : (joinLines body).getLast? with
    | none => rfl
    | some c => simpa [hend] using hlast

theorem wrap_joinLines (entry : Wrapper) (hne : body ≠ []) (h : ∀ line ∈ body, IsStatement line) :
    entry.wrap (joinLines body) = entry.header.toList ++
      joinLines (body.map (entry.indent.toList ++ ·)) ++ entry.footer.toList := by
  have hfeed : ∀ line ∈ body, '\n' ∉ line := fun line hline =>
    (h line hline).avoids.lineFeed_not_mem
  have hink : ∀ line ∈ body, isBlankLine line = false := by
    intro line hline
    have hfirst := (h line hline).head?
    cases line with
    | nil => simp at hfirst
    | cons c line => simp [isBlankLine, isBlank_of_isWord c (by simpa using hfirst)]
  rw [Wrapper.wrap, Wrapper.indented_eq, indentLines_joinLines hfeed hne hink]

/-! ## Scripts -/

/-- The import lines with a blank line behind them, in a language that has any. -/
def preamble (target : Template) : List Char :=
  if target.imports = [] then []
  else joinLines (target.imports.map String.toList) ++ ['\n', '\n']

/-- The lines in the main function, each indented once; in a language without one, the lines. -/
def framed (target : Template) (body : List (List Char)) : List Char :=
  match target.entry with
  | none => joinLines body
  | some entry =>
    entry.header.toList ++ joinLines (body.map (entry.indent.toList ++ ·)) ++ entry.footer.toList

theorem withImports_eq (target : Template) (code : List Char) :
    target.withImports code = target.preamble ++ code := by
  rw [withImports, Generators.withImports, preamble,
    show (target.generators (m := Id)).imports = target.imports from rfl]
  cases target.imports with
  | nil => rfl
  | cons first more => simp [String.toList_intercalate, joinLines]

/-- **A script carried over** is the target's import lines and a blank line, then its statements as
the target writes them, one by one and in order, in the main function if the target has one. -/
theorem carry_text (hsource : source.language = "javascript") (htarget : target ∈ builtin)
    (hlanguage : target.language ≠ "javascript") {lines : List Line} (hlines : lines ≠ []) :
    carry (Script.text lines) source target =
      target.preamble ++ target.framed (lines.map (Line.recast target)) := by
  have htidy := isTidy_of_mem htarget
  have hne : lines.map (Line.recast target) ≠ [] := by simpa using hlines
  rw [carry_eq, recastStatements_text hsource htidy hlanguage, withImports_eq,
    entryFor?_joinLines hne (List.forall_mem_map.mpr fun line _ => avoids_recast htidy line),
    framed]
  cases hentry : target.entry with
  | none => rfl
  | some entry =>
    have hbody : ∀ text ∈ lines.map (Line.recast target), IsStatement text :=
      List.forall_mem_map.mpr fun line _ => isStatement_recast htidy (by simp [hentry]) line
    simp only [stripPreamble_joinLines hne hbody, wrap_joinLines entry hne hbody]

/-- Two lines of JavaScript in the main function of a Go program. -/
theorem carry_text_toGo :
    let x : Name :=
      { chars := ['x']
        isIdentifier := rfl
        avoids := ⟨List.all_eq_true.mp rfl, by decide⟩ }
    let sum : Expression :=
      { chars := "1 + y".toList
        ne_nil := by decide
        trim_chars := by decide
        avoids := ⟨List.all_eq_true.mp rfl, by decide⟩
        not_mem := by simp }
    let lines : List Line := [.declare "const" (by decide) x sum, .print sum]
    String.ofList (Script.text lines) = "const x = 1 + y;\nconsole.log(1 + y);" ∧
      String.ofList (carry (Script.text lines) builtin[0] builtin[6]) =
        "package main\nimport \"fmt\"\n\n" ++
          "func main() \x7b\n    x := 1 + y\n    fmt.Println(1 + y)\n\x7d" := by
  intro x sum lines
  refine ⟨rfl, ?_⟩
  rw [carry_text rfl (List.getElem_mem _) (by decide) (by simp [lines])]
  rfl

end Recast.Template
