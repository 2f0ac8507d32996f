import Recast.Proofs.Chain.Triggers

/-!
# Proofs/Chain/Printing — what becomes of a printed text

A chain runs its rules over whole texts and does not tell the content of a text literal from code:
`and` within quotes becomes `&&` in ten languages (`Chain.runRules_printing_and`). A literal keeps
its content where no trigger of a rule stands in it, the end of the statement counted in
(`Chain.runRules_printing`).

The statement is written by the first rule, and the rest of the table then leaves it alone. In Swift
the statement is a call of `print` again, so two more rules look at it: one refuses it, and one
writes it as it was.
-/

namespace Recast

open Text Source Form Pattern

/-- The source statement that prints a text, between double quotes. -/
def printing (s : List Char) : List Char := "print(".toList ++ ('"' :: (s ++ ['"', ')']))

namespace Chain

/-- What the chain writes for a printed text, with a blank for the text. -/
def printStencil (chain : Chain) : Stencil :=
  ((chain.rule? "print_double").map (·.phrase.stencil)).getD []

/-- **The statement that prints the text**, in the target language. -/
def printed (chain : Chain) (s : List Char) : List Char := chain.printStencil.fill fun _ => s

/-- The same statement from the text on. -/
def printedFrom (chain : Chain) (s : List Char) : List Char :=
  Stencil.fill (chain.printStencil.dropWhile (· ≠ .blank 1)) fun _ => s

end Chain

/-! ## One rule -/

namespace Rule

variable {rule : Rule} {line rest : List Char} {values : List (List Char)}

/-- **A rule that reads the start of a text**, and nothing behind it. -/
theorem apply_of_reads (hne : line ≠ []) (hreads : rule.pattern.Reads [] line rest values)
    (hrest : rule.pattern.Misses line.reverse rest []) :
    rule.apply (line ++ rest) = rule.phrase.stencil.fill (fillers values) ++ rest := by
  obtain ⟨before, kept, hread, hkept⟩ := hreads
  have hread : rule.apply (line ++ rest) = rule.phrase.fillFrom ⟨before, rest, kept⟩ ++
      rule.pattern.replaceFrom rule.phrase.fillFrom 0 (line.reverse ++ []) rest :=
    replaceFrom_of_read hne rfl hread
  rw [hread, List.append_nil, replaceFrom_eq_self hrest, fillFrom_eq hkept]

theorem apply_of_reads_nil (hne : line ≠ []) (hreads : rule.pattern.Reads [] line [] values) :
    rule.apply line = rule.phrase.stencil.fill (fillers values) := by
  simpa using apply_of_reads hne hreads misses_nil

end Rule

/-! ## The statement that is written -/

namespace Chain

/-- **How the chain prints texts:** by its first rule, between the front and the tail. -/
structure Prints (chain : Chain) (phrase : Phrase) (front tail : List Char) (rules : List Rule) :
    Prop where
  rules : chain.rules = ⟨"print_double", callText "print" '"', phrase⟩ :: rules
  stencil : phrase.stencil = [.text front, .blank 1, .text tail]
  startsCall : startsCall front = true
  not_mem : '\n' ∉ tail

namespace Prints

variable {chain : Chain} {phrase : Phrase} {front tail s : List Char} {rules : List Rule}
  (h : chain.Prints phrase front tail rules)

include h

theorem printStencil : chain.printStencil = [.text front, .blank 1, .text tail] := by
  rw [Chain.printStencil, rule?, h.rules, List.find?_cons_of_pos rfl, Option.map_some,
    Option.getD_some]
  exact h.stencil

theorem printed (s : List Char) : chain.printed s = front ++ (s ++ tail) := by
  rw [Chain.printed, h.printStencil]
  simp

theorem printedFrom (s : List Char) : chain.printedFrom s = s ++ tail := by
  rw [Chain.printedFrom, h.printStencil]
  simp

/-- The first rule writes the statement. -/
theorem runRules (hne : s ≠ []) (hquote : '"' ∉ s) :
    chain.runRules (printing s) = Rule.applyAll rules (chain.printed s) := by
  have hreads : (callText "print" '"').Reads []
      ("print".toList ++ ("(".toList ++ ('"' :: (s ++ ('"' :: ")".toList))))) [] [s] :=
    callText_reads hne hquote (by decide) (by decide) rfl
  have hfirst : (⟨"print_double", callText "print" '"', phrase⟩ : Rule).apply (printing s) =
      phrase.stencil.fill (fillers [s]) := Rule.apply_of_reads_nil (List.cons_ne_nil _ _) hreads
  have hfill : phrase.stencil.fill (fillers [s]) = front ++ (s ++ (tail ++ [])) := by
    rw [h.stencil]
    rfl
  rw [Chain.runRules, h.rules, Rule.applyAll_cons, hfirst, hfill, h.printed, List.append_nil]

/-- **Rules that find nothing in the front leave the statement alone** if they have no trigger in
the text. -/
theorem apply_printed (hchain : chain ∈ fromPython) {rule : Rule} (hrule : rule ∈ rules)
    (hpast : rule.isPast front = true) (hfeed : '\n' ∉ s)
    (hfree : ∀ trigger ∈ rule.pattern.trigger?, ¬ trigger.In (chain.printedFrom s)) :
    rule.apply (chain.printed s) = chain.printed s := by
  have hmem : rule ∈ chain.rules := by
    rw [h.rules]
    exact List.mem_cons_of_mem _ hrule
  rw [h.printedFrom] at hfree
  rw [h.printed]
  exact Rule.apply_eq_self ((called_of_mem_fromPython hchain).called rule hmem) hpast h.startsCall
    (by simp [hfeed, h.not_mem]) hfree

/-- **A table that finds nothing in the front keeps the text.** -/
theorem runRules_of_isPast (hchain : chain ∈ fromPython)
    (hpast : (rules.all fun rule => rule.isPast front) = true) (hne : s ≠ []) (hquote : '"' ∉ s)
    (hfeed : '\n' ∉ s) (hfree : ∀ rule ∈ chain.rules, ∀ trigger ∈ rule.pattern.trigger?,
      ¬ trigger.In (chain.printedFrom s)) :
    chain.runRules (printing s) = chain.printed s := by
  rw [h.runRules hne hquote]
  refine Rule.applyAll_eq_self fun rule hrule => ?_
  refine h.apply_printed hchain hrule (List.all_eq_true.mp hpast rule hrule) hfeed
    (hfree rule ?_)
  rw [h.rules]
  exact List.mem_cons_of_mem _ hrule

end Prints

/-- Swift is the one chain that writes a call of `print` again. -/
theorem eq_toSwift_or_mem {chain : Chain} (h : chain ∈ fromPython) : chain = toSwift ∨ chain ∈
    [toJavaScript, toTypeScript, toJava, toCpp, toC, toGo, toRuby, toPhp, toCSharp] := by
  simp only [fromPython, List.mem_cons, List.not_mem_nil, or_false] at h ⊢
  tauto

/-- In the other languages no rule behind the first finds anything in the front. -/
theorem exists_prints {chain : Chain}
    (h : chain ∈ [toJavaScript, toTypeScript, toJava, toCpp, toC, toGo, toRuby, toPhp, toCSharp]) :
    ∃ phrase front tail rules, chain.Prints phrase front tail rules ∧
      (rules.all fun rule => rule.isPast front) = true := by
  simp only [List.mem_cons, List.not_mem_nil, or_false] at h
  rcases h with rfl | rfl | rfl | rfl | rfl | rfl | rfl | rfl | rfl <;>
  exact ⟨_, _, _, _, ⟨rfl, rfl, by decide, by decide⟩, by decide⟩

/-! ## Swift -/

/-- No text between single quotes is printed. -/
theorem misses_callText {s : List Char}
    (hrest : (callText "print" '\'').Misses ('"' :: "print(".toList.reverse) s []) :
    (callText "print" '\'').Misses [] ("print(".toList ++ '"' :: s) [] := by
  have hfirst : (callText "print" '\'').readAt?
      ⟨[], 'p' :: (['r', 'i', 'n', 't', '(', '"'] ++ s ++ []), []⟩ = none := by
    change (callText "print" '\'').readAt?
      ⟨[], "print".toList ++ ("(".toList ++ '"' :: (s ++ [])), []⟩ = none
    rw [readAt?, callText, call, quotedText]
    simp only [List.cons_append, List.nil_append]
    rw [read_keyword rfl (by decide), read_blanks rfl, read_sign, read_blanks rfl,
      read_one_none rfl]
  have hshuns : (callText "print" '\'').Shuns (· != 'p') := shuns_keyword (by decide)
  have hbehind : (callText "print" '\'').Misses ['p'] ['r', 'i', 'n', 't', '(', '"'] (s ++ []) :=
    misses_of_shuns hshuns (List.all_eq_true.mp rfl)
  exact .cons hfirst (hbehind.append hrest)

/-- What is printed is a call that ends at the first parenthesis, and is printed again. -/
theorem apply_printExpr {s : List Char} (hparen : ')' ∈ s)
    (hrest : printExpr.Misses ('"' :: "print(".toList.reverse) s []) :
    (⟨"print_expr", printExpr, ["print(", 1, ")"]⟩ : Rule).apply ("print(".toList ++ '"' :: s) =
      "print(".toList ++ '"' :: s := by
  obtain ⟨inside, behind, rfl, hinside⟩ := List.eq_append_cons_of_mem hparen
  have hline : "print(".toList ++ '"' :: (inside ++ ')' :: behind) =
      "print(".toList ++ (('"' :: inside) ++ ")".toList) ++ behind := by simp
  have hreads : printExpr.Reads [] ("print(".toList ++ (('"' :: inside) ++ ")".toList)) behind
      ['"' :: inside] :=
    printExpr_reads_argument (by simp) (by simpa using hinside) rfl rfl
  have hbehind : printExpr.Misses ("print(".toList ++ (('"' :: inside) ++ ")".toList)).reverse
      behind [] := by
    have hcut : (inside ++ [')'] ++ behind) = inside ++ ')' :: behind := by simp
    rw [← hcut] at hrest
    simpa using hrest.of_append
  rw [hline, Rule.apply_of_reads (by simp) hreads hbehind]
  rfl

theorem prints_toSwift : toSwift.Prints ["print(", "\"", 1, "\"", ")"] ("print(".toList ++ ['"'])
    ['"', ')'] swiftRules.tail where
  rules := rfl
  stencil := by decide
  startsCall := by decide +kernel
  not_mem := by decide

/-- **The two rules of Swift that find `print` again** leave the statement as it is. -/
theorem apply_printed_toSwift {s : List Char}
    (hfree : ∀ rule ∈ toSwift.rules, ∀ trigger ∈ rule.pattern.trigger?,
      ¬ trigger.In (toSwift.printedFrom s)) :
    ∀ rule ∈ swiftRules.tail.take 2, rule.apply (toSwift.printed s) = toSwift.printed s := by
  have hprinted : toSwift.printed s = "print(".toList ++ '"' :: (s ++ ['"', ')']) := by
    simp [prints_toSwift.printed s]
  rw [prints_toSwift.printedFrom] at hfree
  have hmisses : ∀ p before, (∃ rule ∈ toSwift.rules, rule.pattern = p) → p.Called →
      (∃ trigger, p.trigger? = some trigger ∧ trigger.cue.isPlain = true) →
      p.Misses before (s ++ ['"', ')']) [] := by
    rintro p before ⟨rule, hrule, rfl⟩ hcalled ⟨trigger, htrigger, hplain⟩
    exact hcalled.misses htrigger hplain (hfree rule hrule trigger htrigger) before
  have hsingle := hmisses (callText "print" '\'') ('"' :: "print(".toList.reverse)
    ⟨_, .tail _ (.head _), rfl⟩ inferInstance ⟨_, rfl, by decide⟩
  have hexpr := hmisses printExpr ('"' :: "print(".toList.reverse)
    ⟨_, .tail _ (.tail _ (.head _)), rfl⟩ inferInstance ⟨_, rfl, by decide⟩
  have htwo : swiftRules.tail.take 2 =
    [⟨"print_single", callText "print" '\'', ["print(", "\"", 1, "\"", ")"]⟩,
      ⟨"print_expr", printExpr, ["print(", 1, ")"]⟩] := rfl
  rw [htwo, hprinted]
  simp only [List.mem_cons, List.not_mem_nil, or_false]
  rintro rule (rfl | rfl)
  · exact replaceFrom_eq_self (misses_callText hsingle)
  · exact apply_printExpr (by simp) hexpr

/-! ## Every chain -/

/-- **A printed text keeps its content**, in every chain from Python, if no trigger of a rule stands
in it. -/
theorem runRules_printing {chain : Chain} (hchain : chain ∈ fromPython) {s : List Char}
    (hne : s ≠ []) (hquote : '"' ∉ s) (hfeed : '\n' ∉ s)
    (hfree : ∀ rule ∈ chain.rules, ∀ trigger ∈ rule.pattern.trigger?,
      ¬ trigger.In (chain.printedFrom s)) :
    chain.runRules (printing s) = chain.printed s := by
  rcases eq_toSwift_or_mem hchain with rfl | hmem
  · rw [prints_toSwift.runRules hne hquote]
    refine Rule.applyAll_eq_self fun rule hrule => ?_
    rw [← List.take_append_drop 2 swiftRules.tail, List.mem_append] at hrule
    rcases hrule with hrule | hrule
    · exact apply_printed_toSwift hfree rule hrule
    · have hpast : ((swiftRules.tail.drop 2).all fun rule =>
          rule.isPast ("print(".toList ++ ['"'])) = true := by decide
      have hrule' : rule ∈ swiftRules.tail := List.mem_of_mem_drop hrule
      exact prints_toSwift.apply_printed hchain hrule' (List.all_eq_true.mp hpast rule hrule) hfeed
        (hfree rule (List.mem_cons_of_mem _ hrule'))
  · obtain ⟨phrase, front, tail, rules, hprints, hpast⟩ := exists_prints hmem
    exact hprints.runRules_of_isPast hchain hpast hne hquote hfeed hfree

/-- Words of rules call no rule where they do not go on like its statement. -/
theorem runRules_printing_note : toJavaScript ∈ fromPython ∧
    toJavaScript.runRules (printing "note: try to print it (if you can)".toList) =
      toJavaScript.printed "note: try to print it (if you can)".toList :=
  have hchain : toJavaScript ∈ fromPython := .head _
  ⟨hchain, runRules_printing hchain (by decide) (by decide) (by decide) (by decide +kernel)⟩

/-- **No chain tells a text from code:** a connective within quotes is rewritten. -/
theorem runRules_printing_and :
    (fromPython.map fun chain => chain.runRules (printing "a and b".toList)) =
        fromPython.map (fun chain => chain.printed "a && b".toList) ∧
      toJavaScript.runRules (printing "a and b".toList) ≠
        toJavaScript.printed "a and b".toList := by
  decide +kernel

end Chain

end Recast
