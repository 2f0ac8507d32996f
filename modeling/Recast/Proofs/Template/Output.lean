import Recast.Proofs.Template.Carry

/-!
# Proofs/Template/Output — output statements written and read back

Nine of the languages write the printed expression into the statement as it is. Their output
statements are recognised in four styles: as a call, up to a closing parenthesis; between two stream
operators; and behind a word, up to a semicolon or the end of the line. In each style the shortest
reading stops at the end of the statement and not before (`Template.ReadsBack`), so lines of output
statements are carried from any of the nine languages to any language at all, and it does not matter
which of the nine they pass through (`recastOutput_outputs`).
-/

namespace Recast

open Form Pattern Text

namespace Script

/-- What is printed, free of the signs at which output statements end. -/
structure Operand where
  chars : List Char
  ne_nil : chars ≠ []
  trim_chars : trim chars = chars
  not_mem : ∀ c ∈ ['\n', '(', ')', ';'], c ∉ chars
  not_infix : ¬ ['<', '<'] <:+: chars

variable {before rest : List Char} {kept : List (Nat × Stretch)} {next : Next}

namespace Operand

theorem inline_ne (v : Operand) (stop : Char) (hstop : stop ∈ ['\n', '(', ')', ';']) :
    ∀ c ∈ v.chars, isInline c = true ∧ c ≠ stop := by
  intro c hc
  constructor
  · rw [isInline, bne_iff_ne]
    rintro rfl
    exact v.not_mem _ (by simp) hc
  · rintro rfl
    exact v.not_mem _ hstop hc

theorem head?_append (v : Operand) (rest : List Char) :
    (v.chars ++ rest).head?.any isBlank = false := head?_append_of_trim v.ne_nil v.trim_chars rest

/-- The operand is not cut short by a stream operator: what is left of it does not begin with one,
even behind blanks. -/
theorem read_operator_of_suffix (v : Operand) {a b : List Char} (hab : v.chars = a ++ b)
    (hb : b ≠ []) {ps : List Pattern} :
    (all (blanks :: "<<" :: ps)).read next ⟨before, b ++ (' ' :: rest), kept⟩ = none := by
  by_contra hread
  obtain ⟨run, tail, hrun, hblank, hread⟩ :=
    exists_of_read_many (Option.isSome_iff_ne_none.mpr hread)
  obtain ⟨more, htail, -⟩ := exists_of_read_text hread
  replace hrun : b ++ ' ' :: rest = run ++ ("<<".toList ++ more) := by rw [← htail, ← hrun]
  have hend : b.getLast?.any (!isBlank ·) = true := by
    have hlast := getLast?_of_trim v.ne_nil v.trim_chars
    rwa [hab, List.getLast?_append_of_ne_nil _ hb] at hlast
  rcases List.append_eq_append_iff.mp hrun with ⟨skip, hskip, -⟩ | ⟨cut, hcut, hop⟩
  · -- the blanks do not reach beyond the last character, which is none
    obtain ⟨c, hc⟩ : ∃ c, b.getLast? = some c := by
      cases h : b.getLast? with
      | none => exact absurd (List.getLast?_eq_none_iff.mp h) hb
      | some c => exact ⟨c, rfl⟩
    have hmem : c ∈ run := by
      rw [hskip]
      exact List.mem_append_left _ (List.mem_of_getLast? hc)
    rw [hc, Option.any_some, hblank c hmem] at hend
    exact absurd hend (by decide)
  · match cut with
    | [] => exact absurd hop (by simp)
    | [c] => exact absurd hop (by simp)
    | c :: d :: cut =>
      obtain ⟨rfl, rfl, -⟩ : '<' = c ∧ '<' = d ∧ more = cut ++ ' ' :: rest := by simpa using hop
      exact v.not_infix ⟨a ++ run, cut, by simp [hab, hcut]⟩

end Operand

end Script

namespace Idiom

open Script

variable {before rest : List Char}

/-! ## What the styles read -/

theorem stream_reads (v : Operand) : stream.Reads before
    ("std::cout << ".toList ++ (v.chars ++ " << std::endl;".toList)) rest [v.chars] := by
  have hline : "std::cout << ".toList ++ (v.chars ++ " << std::endl;".toList) ++ rest =
      "std::cout".toList ++ ([' '] ++ ("<<".toList ++ ([' '] ++ (v.chars ++ ([' '] ++
        ("<<".toList ++ ([' '] ++ ("std::endl".toList ++ (";".toList ++ rest))))))))) := by simp
  apply Reads.intro
  · rw [hline, readAt?, stream, read_sign, read_blanks_space rfl (shuns_sign rfl), read_sign]
    refine read_blanks_space_of_eq_some (v.head?_append _) ?_
    refine read_group_few_of_first (fun c hc => (v.inline_ne '\n' (by simp) c hc).1)
      (fun a b _ hab hb => v.read_operator_of_suffix hab hb) ?_
    rw [read_blanks_space rfl (shuns_sign rfl), read_sign,
      read_blanks_space rfl (shuns_sign rfl), read_sign]
    exact read_optional_of_eq_some rfl
  · exact keeps_nil.snoc v.chars _

/-- A word, and what stands behind it up to a semicolon. -/
theorem statement_reads {name : String} (hname : name.toList.head?.any isWord = true) (v : Operand)
    (hbefore : before.head?.all (· = '\n') = true) :
    (all [keyword name, gap, .group 1 (few isInline), ";"]).Reads before
      (name.toList ++ (" ".toList ++ (v.chars ++ ";".toList))) rest [v.chars] := by
  have hline : name.toList ++ (" ".toList ++ (v.chars ++ ";".toList)) ++ rest =
      name.toList ++ ([' '] ++ (v.chars ++ (";".toList ++ rest))) := by simp
  apply Reads.intro
  · rw [hline, readAt?, read_keyword (head?_of_lineFeed (by decide) hbefore) hname,
      read_gap (v.head?_append _)]
    refine read_group_few_of_eq_some (v.inline_ne ';' (by simp)) (shuns_sign rfl) ?_
    rw [read_sign]
    rfl
  · exact keeps_nil.snoc v.chars _

/-- A word, and what stands behind it up to the end of the line. -/
theorem wholeLine_reads {name : String} (hname : name.toList.head?.any isWord = true) (v : Operand)
    (hbefore : before.head?.all (· = '\n') = true) (hrest : rest.head?.all (· = '\n') = true) :
    (all [keyword name, gap, .group 1 (few isInline), .edge .lineEnd]).Reads before
      (name.toList ++ (" ".toList ++ v.chars)) rest [v.chars] := by
  have hline : name.toList ++ (" ".toList ++ v.chars) ++ rest =
      name.toList ++ ([' '] ++ (v.chars ++ rest)) := by simp
  have hinline : ∀ c ∈ v.chars, isInline c = true := fun c hc =>
    (v.inline_ne '\n' (by simp) c hc).1
  apply Reads.intro
  · rw [hline, readAt?, read_keyword (head?_of_lineFeed (by decide) hbefore) hname,
      read_gap (v.head?_append _)]
    refine read_group_few_of_first hinline (fun a b kept hab hb => ?_) ?_
    · cases b with
      | nil => exact absurd rfl hb
      | cons c b => exact shuns_lineEnd _ c (hinline c (by simp [hab])) _ _ _
    · rw [read_lineEnd hrest]
      rfl
  · exact keeps_nil.snoc v.chars _

end Idiom

namespace Template

open Script

variable {source target : Template}

/-- The languages whose output statements hold the printed expression as it is. -/
def readBack : List String :=
  ["javascript", "typescript", "java", "kotlin", "cpp", "go", "swift", "ruby", "php"]

/-- Lines that print the operands one by one. -/
def outputs (template : Template) (operands : List Operand) : List Char :=
  joinLines (operands.map fun v => template.print v.chars)

/-- **The pattern reads the template's output statements from end to end.** -/
structure ReadsBack (template : Template) (pattern : Pattern) : Prop where
  shuns_lineFeed : pattern.Shuns (· == '\n')
  print_ne_nil : ∀ expr, template.print expr ≠ []
  reads : ∀ (v : Operand) (before rest : List Char), before.head?.all (· = '\n') = true →
    rest.head?.all (· = '\n') = true → pattern.Reads before (template.print v.chars) rest [v.chars]

/-- A printed expression between two fixed texts. -/
theorem print_eq_of_stencil {opening closing : List Char}
    (h : source.output.stencil = [.text opening, .blank 1, .text closing]) (expr : List Char) :
    source.print expr = opening ++ (expr ++ closing) := by
  rw [print_eq_fill, h]
  simp [fillers]

section Styles

variable {callee : Pattern} {name : String}

theorem readsBack_callStatement (hcallee : Idiom.Calls callee name)
    (hfeed : callee.Shuns (· == '\n')) (h : source.output.stencil =
      [.text (name.toList ++ "(".toList), .blank 1, .text ");".toList]) :
    source.ReadsBack (Idiom.callStatement callee) where
  shuns_lineFeed := hfeed.seq
  print_ne_nil expr := by simp [print_eq_of_stencil h]
  reads v before rest hbefore _ := by
    rw [print_eq_of_stencil h, List.append_assoc]
    exact Idiom.callStatement_reads hcallee (v.inline_ne ')' (by simp)) hbefore

theorem readsBack_callBare (hcallee : Idiom.Calls callee name)
    (hfeed : callee.Shuns (· == '\n')) (h : source.output.stencil =
      [.text (name.toList ++ "(".toList), .blank 1, .text ")".toList]) :
    source.ReadsBack (Idiom.callBare callee) where
  shuns_lineFeed := hfeed.seq
  print_ne_nil expr := by simp [print_eq_of_stencil h]
  reads v before rest hbefore _ := by
    rw [print_eq_of_stencil h, List.append_assoc]
    exact Idiom.callBare_reads hcallee (v.inline_ne ')' (by simp)) hbefore

theorem readsBack_stream (h : source.output.stencil =
    [.text "std::cout << ".toList, .blank 1, .text " << std::endl;".toList]) :
    source.ReadsBack Idiom.stream where
  shuns_lineFeed := (shuns_text (by decide)).seq
  print_ne_nil expr := by simp [print_eq_of_stencil h]
  reads v before rest _ _ := by
    rw [print_eq_of_stencil h]
    exact Idiom.stream_reads v

theorem readsBack_statement (name : String) (hname : name.toList.head?.any isWord = true)
    (hfeed : (keyword name).Shuns (· == '\n')) (h : source.output.stencil =
      [.text (name.toList ++ " ".toList), .blank 1, .text ";".toList]) :
    source.ReadsBack (all [keyword name, gap, .group 1 (few isInline), ";"]) where
  shuns_lineFeed := hfeed.seq
  print_ne_nil expr := by simp [print_eq_of_stencil h]
  reads v before rest hbefore _ := by
    rw [print_eq_of_stencil h, List.append_assoc]
    exact Idiom.statement_reads hname v hbefore

theorem readsBack_wholeLine (name : String) (hname : name.toList.head?.any isWord = true)
    (hfeed : (keyword name).Shuns (· == '\n'))
    (h : source.output.stencil = [.text (name.toList ++ " ".toList), .blank 1]) :
    source.ReadsBack (all [keyword name, gap, .group 1 (few isInline), .edge .lineEnd]) where
  shuns_lineFeed := hfeed.seq
  print_ne_nil expr := by simp [print_eq_fill, h]
  reads v before rest hbefore hrest := by
    have hprint : source.print v.chars = name.toList ++ (" ".toList ++ v.chars) := by
      rw [print_eq_fill, h]
      simp [fillers]
    rw [hprint]
    exact Idiom.wholeLine_reads hname v hbefore hrest

end Styles

/-- **What the nine languages print is read back.** -/
theorem exists_readsBack (h : source ∈ builtin) (hlanguage : source.language ∈ readBack) :
    ∃ pattern, Idiom.output? source.language = some pattern ∧ source.ReadsBack pattern := by
  have hkeyword : ∀ {name : String}, (name.toList.head?.any fun c => !(c == '\n')) = true →
      (keyword name).Shuns (· == '\n') := fun h => (shuns_text h).edge_seq
  simp only [builtin, List.mem_cons, List.not_mem_nil, or_false] at h
  rcases h with rfl | rfl | rfl | rfl | rfl | rfl | rfl | rfl | rfl | rfl | rfl
  · exact ⟨_, rfl, readsBack_callStatement (Idiom.calls_text "console.log") (shuns_text rfl) rfl⟩
  · exact ⟨_, rfl, readsBack_callStatement (Idiom.calls_text "console.log") (shuns_text rfl) rfl⟩
  · exact ⟨_, rfl, readsBack_callStatement (Idiom.calls_text "System.out.println") (shuns_text rfl)
      rfl⟩
  · exact ⟨_, rfl, readsBack_callBare (Idiom.calls_keyword "println" rfl) (hkeyword rfl) rfl⟩
  · exact ⟨_, rfl, readsBack_stream rfl⟩
  · exact absurd hlanguage (by decide)
  · exact ⟨_, rfl, readsBack_callBare (Idiom.calls_text "fmt.Println") (shuns_text rfl) rfl⟩
  · exact absurd hlanguage (by decide)
  · exact ⟨_, rfl, readsBack_callBare (Idiom.calls_keyword "print" rfl) (hkeyword rfl) rfl⟩
  · exact ⟨_, rfl, readsBack_wholeLine "puts" rfl (hkeyword rfl) rfl⟩
  · exact ⟨_, rfl, readsBack_statement "echo" rfl (hkeyword rfl) rfl⟩

/-! ## Lines of output statements -/

/-- What is recognised in the nine languages is printed as it is. -/
theorem printed_of_readBack {language : String} (h : language ∈ readBack) (argument : List Char) :
    Idiom.printed language argument = argument := by
  have hne : language ≠ "c" := by
    rintro rfl
    exact absurd h (by decide)
  rw [Idiom.printed, if_neg hne]

/-- The first pass is a rule. -/
theorem recastOutput_eq_rule {pattern : Pattern} (hlanguage : source.language ∈ readBack)
    (hpattern : Idiom.output? source.language = some pattern)
    (htarget : target.output.isWithin 1 = true) (code : List Char) :
    recastOutput code source.language target =
      (⟨"output", pattern, target.output⟩ : Rule).apply code := by
  have hfill : (fun spot : Spot => target.print
      (Idiom.printed source.language ((spot.keptText? 1).getD []))) = target.output.fillFrom := by
    funext spot
    rw [printed_of_readBack hlanguage]
    refine Phrase.fill_congr htarget fun n hpos hle => ?_
    obtain rfl : n = 1 := by omega
    rfl
  rw [Rule.apply, ← hfill, recastOutput_eq, hpattern]

theorem recastOutput_outputs_eq (hsource : source ∈ builtin)
    (hlanguage : source.language ∈ readBack) (htarget : target ∈ builtin)
    (operands : List Operand) :
    recastOutput (source.outputs operands) source.language target = target.outputs operands := by
  obtain ⟨pattern, hpattern, hreads⟩ := exists_readsBack hsource hlanguage
  have hturns : List.Forall₂ (⟨"output", pattern, target.output⟩ : Rule).Turns
      (operands.map fun v => source.print v.chars) (operands.map fun v => target.print v.chars) :=
    List.forall₂_map_left_iff.mpr <| List.forall₂_map_right_iff.mpr <|
      List.forall₂_same.mpr fun v _ => by
        rw [print_eq_fill target]
        exact turns_of_reads (hreads.print_ne_nil _) (hreads.reads v)
  rw [recastOutput_eq_rule hlanguage hpattern (isTidy_of_mem htarget).output_isWithin, outputs,
    Rule.apply_joinLines hreads.shuns_lineFeed hturns, outputs]

/-- **Output statements are carried over one by one.** Lines that print something in one of the nine
languages become the lines that print it in the target; on the way they may pass through any other
of the nine. -/
theorem recastOutput_outputs (hsource : source ∈ builtin) (hlanguage : source.language ∈ readBack)
    (htarget : target ∈ builtin) (operands : List Operand) :
    recastOutput (source.outputs operands) source.language target = target.outputs operands ∧
      ∀ via ∈ builtin, via.language ∈ readBack →
        recastOutput (recastOutput (source.outputs operands) source.language via) via.language
          target = recastOutput (source.outputs operands) source.language target := by
  have hdirect := recastOutput_outputs_eq hsource hlanguage htarget operands
  refine ⟨hdirect, fun via hvia hlanguage' => ?_⟩
  rw [recastOutput_outputs_eq hsource hlanguage hvia,
    recastOutput_outputs_eq hvia hlanguage' htarget, hdirect]

/-- Comparisons and signs of operators, from C++ through Ruby to Rust. -/
theorem recastOutput_outputs_toRust :
    let less : Operand :=
      { chars := "a < b".toList
        ne_nil := by simp
        trim_chars := by decide +kernel
        not_mem := by simp
        not_infix := by decide +kernel }
    let text : Operand :=
      { chars := "\"std::endl <\"".toList
        ne_nil := by simp
        trim_chars := by decide +kernel
        not_mem := by simp
        not_infix := by decide +kernel }
    String.ofList (outputs builtin[4] [less, text]) =
        "std::cout << a < b << std::endl;\nstd::cout << \"std::endl <\" << std::endl;" ∧
      String.ofList (recastOutput (recastOutput (outputs builtin[4] [less, text]) "cpp" builtin[9])
        "ruby" builtin[7]) =
        "println!(\"\x7b\x7d\", a < b);\nprintln!(\"\x7b\x7d\", \"std::endl <\");" := by
  intro less text
  have hcpp : builtin[4] ∈ builtin := List.getElem_mem _
  have hruby : builtin[9] ∈ builtin := List.getElem_mem _
  have hrust : builtin[7] ∈ builtin := List.getElem_mem _
  obtain ⟨hdirect, hvia⟩ := recastOutput_outputs hcpp (by decide +kernel) hrust [less, text]
  refine ⟨rfl, ?_⟩
  have hruns := (hvia builtin[9] hruby (by decide +kernel)).trans hdirect
  exact (congrArg String.ofList hruns).trans rfl

end Template

end Recast
