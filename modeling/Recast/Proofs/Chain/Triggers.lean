import Recast.Chain.Catalog
import Recast.Proofs.Chain.Refusals
import Recast.Proofs.Pattern.Trigger

/-!
# Proofs/Chain/Triggers — what the rules from Python look for

Every rule of the ten chains has a trigger, or is read at the start of a line only
(`Chain.called_of_mem_fromPython`). The latter are the assignments, `return` and comments, and none
of them can be read where the line starts like a call (`startsCall`). So it is seen from the words
and signs of a statement that a whole table leaves it alone (`Rule.apply_eq_self`).

The forms are instances of a class, so that a table of rules is gone through by looking its forms
up.
-/

namespace Recast

open Text Source Pattern

namespace Form

/-- The line starts with a word, which does not start like `return`, and goes on with something else
than an equality sign. -/
def startsCall (line : List Char) : Bool :=
  line.head?.any (fun c => isWord c && c != 'r') && refusesAssign [] [.text line]

end Form

open Form

/-- **The pattern is read at the start of a line with its cue on it, and not where the line starts
like a call.** -/
structure Pattern.SkipsCalls (p : Pattern) : Prop where
  startsLine : p.StartsLine
  shows : ∀ cue ∈ p.lineCue?, p.Shows [cue]
  refuses : ∀ {line : List Char}, startsCall line = true → ∀ rest,
    p.readAt? ⟨[], line ++ rest, []⟩ = none

/-- The pattern is called by its trigger, or it is one for starts of lines. -/
class Pattern.Called (p : Pattern) : Prop where
  called : match p.trigger? with
    | some trigger => trigger.cue.isPlain = true → p.CalledBy trigger
    | none => p.SkipsCalls

namespace Form

variable {name : String} {ps value : List Pattern} {line : List Char}

/-! ## Starts of lines -/

/-- A line that starts a call ends behind it. -/
theorem not_mem_of_startsCall (h : startsCall line = true) : '\n' ∉ line := by
  have hfree := (Bool.and_eq_true_iff.mp (Bool.and_eq_true_iff.mp h).2).2
  simpa using Stencil.not_mem_fill_of_isFree (tame_fillers .nil) hfree

/-- The line starts with a word character, and not like `return`. -/
theorem exists_of_startsCall (h : startsCall line = true) :
    ∃ c rest, line = c :: rest ∧ isWord c = true ∧ c ≠ 'r' := by
  have hfirst := (Bool.and_eq_true_iff.mp h).1
  cases line with
  | nil => simp at hfirst
  | cons c rest => exact ⟨c, rest, rfl, by simpa using hfirst⟩

theorem assign_skipsCalls (value : List Pattern) : (assign value).SkipsCalls where
  startsLine := startsLine_edge_seq
  shows cue hcue := by
    obtain rfl : .text ['='] = cue := Option.mem_some.mp hcue
    exact assign_shows value
  refuses {line} h rest := by
    obtain ⟨w, m, c, more, hline, hw, hm, hmargin, hequal, hempty, hapart⟩ :=
      exists_of_refusesAssign .nil (Bool.and_eq_true_iff.mp h).2
    have hnone : (assign value).readAt?
        ⟨[], [] ++ (w ++ (m ++ c :: (more ++ rest))), []⟩ = none :=
      assign_refuses (by simp) hw hm hmargin hequal hempty hapart rfl
    have hline : line = w ++ (m ++ c :: more) := by simpa using hline
    simpa [hline] using hnone

theorem returnLine_skipsCalls : returnLine.SkipsCalls where
  startsLine := startsLine_edge_seq
  shows cue hcue := by
    obtain rfl : .word "return".toList = cue := Option.mem_some.mp hcue
    exact returnLine_shows
  refuses {line} h rest := by
    obtain ⟨c, more, rfl, hc, hr⟩ := exists_of_startsCall h
    rw [readAt?, returnLine, read_lineStart rfl, all_cons, read_seq, read_group, margin,
      read_many_nil (by simpa using isMargin_of_isWord c hc)]
    exact read_sign_of_ne rfl hr

theorem comment_skipsCalls : comment.SkipsCalls where
  startsLine := startsLine_edge_seq
  shows cue hcue := by
    obtain rfl : .text ['#'] = cue := Option.mem_some.mp hcue
    exact comment_shows
  refuses {line} h rest := by
    obtain ⟨c, more, rfl, hc, -⟩ := exists_of_startsCall h
    have hsign : c ≠ '#' := by
      rintro rfl
      exact absurd hc (by decide)
    rw [readAt?, comment, read_lineStart rfl, all_cons, read_seq, read_group, margin,
      read_many_nil (by simpa using isMargin_of_isWord c hc)]
    exact read_sign_of_ne rfl hsign

instance (value : List Pattern) : (assign value).Called := ⟨assign_skipsCalls value⟩

instance (quote : Char) : (assignText quote).Called := ⟨assign_skipsCalls _⟩

instance : assignNumber.Called := ⟨assign_skipsCalls _⟩

instance : assignInt.Called := ⟨assign_skipsCalls _⟩

instance : assignFloat.Called := ⟨assign_skipsCalls _⟩

instance (value : String) : (assignWord value).Called := ⟨assign_skipsCalls _⟩

instance (opening closing : Char) : (assignBetween opening closing).Called :=
  ⟨assign_skipsCalls _⟩

instance : assignAny.Called := ⟨assign_skipsCalls _⟩

instance : returnLine.Called := ⟨returnLine_skipsCalls⟩

instance : comment.Called := ⟨comment_skipsCalls⟩

/-! ## Words and texts -/

/-- A keyword is called by its word. -/
theorem called_keyword (h : (all ps).Shuns isWord) : (all (keyword name :: ps)).Called :=
  ⟨show _ → (all (keyword name :: ps)).CalledBy ⟨.word name.toList, _⟩ from
    fun hplain => calledBy_keyword hplain h⟩

/-- A loop is called by its keyword. -/
theorem called_loop (ps : List Pattern) : (all (forIn :: ps)).Called :=
  have hloop : (Pattern.seq (keyword "for") (.seq (all [gap, .group 1 word, gap, "in", gap])
      (all ps))).CalledBy ⟨.word "for".toList, _⟩ :=
    calledBy_keyword (by decide) (Shuns.seq shuns_gap)
  ⟨fun _ => hloop⟩

instance (callee : String) (argument : List Pattern) : (call callee argument).Called :=
  called_keyword (shuns_blanks isBlank_of_isWord (shuns_sign (by decide)))

instance (callee : String) (quote : Char) : (callText callee quote).Called :=
  inferInstanceAs (call callee _).Called

instance : printExpr.Called := inferInstanceAs (call "print" _).Called

instance : inputExpr.Called := inferInstanceAs (call "input" _).Called

instance : definition.Called := called_keyword shuns_gap

instance (name : String) : (header name).Called := called_keyword shuns_gap

instance (name : String) : (bareHeader name).Called :=
  called_keyword (shuns_blanks isBlank_of_isWord (shuns_sign (by decide)))

instance (bounds : List Pattern) : (forRange bounds).Called := called_loop _

instance : forRange1.Called := called_loop _

instance : forRange2.Called := called_loop _

instance : forRange3.Called := called_loop _

instance : forEach.Called := called_loop _

instance : forEachLine.Called := called_loop _

instance : exceptAs.Called := called_keyword shuns_gap

instance : exceptKind.Called := called_keyword shuns_gap

instance : classHeader.Called := called_keyword shuns_gap

instance : classExtends.Called := called_keyword shuns_gap

instance : len.Called := called_keyword (shuns_sign (by decide))

instance (word : String) : (wholeWord word).Called :=
  ⟨show _ → (wholeWord word).CalledBy ⟨.word word.toList, _⟩ from calledBy_word⟩

instance (name : String) : (methodOpen name).Called :=
  ⟨show _ → (methodOpen name).CalledBy ⟨.text _, _⟩ from fun _ => calledBy_text⟩

instance (name : String) : (methodCall name).Called :=
  ⟨show _ → (methodCall name).CalledBy ⟨.text _, _⟩ from fun _ => calledBy_text⟩

instance : appendTo.Called :=
  ⟨show _ → appendTo.CalledBy ⟨.text ".append(".toList, _⟩ from
    fun _ => calledBy_behind stays_receiver⟩

instance (name : String) : (methodOn name).Called :=
  ⟨show _ → (methodOn name).CalledBy ⟨.text ("." ++ name ++ "()").toList, _⟩ from
    fun _ => calledBy_behind stays_receiver⟩

end Form

/-! ## Statements that are left alone -/

/-- **What a pattern cannot do without stands ahead on the line** wherever it is read. -/
theorem Pattern.Called.shows {p : Pattern} {cue : Cue} (h : p.Called) (hcue : p.cue? = some cue)
    (hplain : cue.isPlain = true) : p.Shows [cue] := by
  rw [cue?] at hcue
  have hcalled := h.called
  cases htrigger : p.trigger? with
  | some trigger =>
    rw [htrigger] at hcue hcalled
    obtain rfl := Option.some.inj hcue
    exact (hcalled hplain).shows
  | none =>
    rw [htrigger] at hcue hcalled
    exact hcalled.shows cue hcue

/-- A pattern with a trigger passes over a text without it. -/
theorem Pattern.Called.misses {p : Pattern} {trigger : Trigger} {text : List Char} (h : p.Called)
    (htrigger : p.trigger? = some trigger) (hplain : trigger.cue.isPlain = true)
    (hnot : ¬ trigger.In text) (before : List Char) : p.Misses before text [] := by
  have hcalled := h.called
  rw [htrigger] at hcalled
  exact (hcalled hplain).misses hnot before

namespace Rule

variable {rule : Rule} {front more text : List Char}

/-- What the rule looks for does not stand in the text, and cannot run over its end. -/
def isPast (rule : Rule) (front : List Char) : Bool :=
  rule.pattern.trigger?.all fun trigger => trigger.cue.isPlain && trigger.cue.isPast front

/-- **A statement that starts like a call is left alone** by a rule that finds nothing in its front
and no trigger behind it. -/
theorem apply_eq_self (hcalled : rule.pattern.Called) (hpast : rule.isPast front = true)
    (hstart : startsCall front = true) (hfeed : '\n' ∉ more)
    (hfree : ∀ trigger ∈ rule.pattern.trigger?, ¬ trigger.In more) :
    rule.apply (front ++ more) = front ++ more := by
  refine replaceFrom_eq_self ?_
  rw [isPast] at hpast
  cases htrigger : rule.pattern.trigger? with
  | none =>
    have hskips := hcalled.called
    rw [htrigger] at hskips
    refine misses_of_startsLine hskips.startsLine ?_ ?_
    · simp [not_mem_of_startsCall hstart, hfeed]
    · simpa using hskips.refuses hstart more
  | some trigger =>
    rw [htrigger] at hpast hfree
    obtain ⟨hplain, hpast⟩ := Bool.and_eq_true_iff.mp hpast
    exact hcalled.misses htrigger hplain
      (fun hin => hfree trigger rfl (Trigger.in_of_append hplain hpast hin)) []

/-- Where there is no quote, no text is printed or asked for. -/
theorem apply_callText {callee : String} {quote : Char}
    (hpattern : rule.pattern = callText callee quote)
    (hplain : (Cue.word callee.toList).isPlain = true) (hquote : quote ∉ text) :
    rule.apply text = text := by
  have hnone : ∀ c ∈ text, (c == quote) = false := fun c hc =>
    beq_false_of_ne fun heq => hquote (heq ▸ hc)
  have hmark : .one (· == quote) ∈ (all ([blanks, "(", blanks] ++ quotedText quote ++
      [blanks, ")"])).marks := by
    simp [quotedText, all_cons, marks]
  have hcalled : (callText callee quote).Called := inferInstance
  rw [apply, hpattern]
  exact replaceFrom_eq_self
    (hcalled.misses rfl hplain (Trigger.not_in_of_mem_marks hmark hnone) [])

theorem applyAll_eq_self : ∀ {rules : List Rule}, (∀ rule ∈ rules, rule.apply text = text) →
    applyAll rules text = text
  | [], _ => rfl
  | rule :: rules, h => by
      rw [applyAll_cons, h rule (by simp)]
      exact applyAll_eq_self fun rule hrule => h rule (List.mem_cons_of_mem _ hrule)

end Rule

/-! ## Whole tables -/

/-- Every rule of the list is called by its trigger or is one for starts of lines. -/
class Called (rules : List Rule) : Prop where
  called : ∀ rule ∈ rules, rule.pattern.Called

namespace Called

instance : Called [] := ⟨fun _ h => absurd h List.not_mem_nil⟩

instance (name : String) (pattern : Pattern) (phrase : Phrase) (rules : List Rule)
    [h : pattern.Called] [hs : Called rules] : Called (⟨name, pattern, phrase⟩ :: rules) :=
  ⟨List.forall_mem_cons.mpr ⟨h, hs.called⟩⟩

instance (rules rules' : List Rule) [h : Called rules] [h' : Called rules'] :
    Called (rules ++ rules') := ⟨List.forall_mem_append.mpr ⟨h.called, h'.called⟩⟩

instance (before after quote : String) : Called (Shared.prints before after quote) := by
  unfold Shared.prints
  infer_instance

instance (before between after : String) : Called (Shared.assignTexts before between after) := by
  unfold Shared.assignTexts
  infer_instance

instance (otherwise : String) : Called (Shared.parenBranches otherwise) := by
  unfold Shared.parenBranches
  infer_instance

instance (whileWord : String) : Called (Shared.bareBranches whileWord) := by
  unfold Shared.bareBranches
  infer_instance

instance (declare typed sigil : String) : Called (Shared.countedLoops declare typed sigil) := by
  unfold Shared.countedLoops
  infer_instance

instance (strip upper lower : String) : Called (Shared.valueMethods strip upper lower) := by
  unfold Shared.valueMethods
  infer_instance

instance (yes no absent : String) : Called (Shared.logic yes no absent) := by
  unfold Shared.logic
  infer_instance

end Called

namespace Chain

/-- **Every rule from Python is called by its trigger, or is one for starts of lines.** -/
theorem called_of_mem_fromPython {chain : Chain} (h : chain ∈ fromPython) :
    Called chain.rules := by
  simp only [fromPython, List.mem_cons, List.not_mem_nil, or_false] at h
  rcases h with rfl | rfl | rfl | rfl | rfl | rfl | rfl | rfl | rfl | rfl
  · rw [toJavaScript, javaScriptRules, Shared.returnStatement, Shared.slashComment]
    infer_instance
  · rw [toTypeScript, typeScriptRules, Shared.returnStatement, Shared.slashComment]
    infer_instance
  · rw [toJava, javaRules, Shared.returnStatement, Shared.slashComment]
    infer_instance
  · rw [toCpp, cppRules, Shared.returnStatement, Shared.slashComment]
    infer_instance
  · rw [toC, cRules, Shared.returnStatement, Shared.slashComment]
    infer_instance
  · rw [toGo, goRules, Shared.slashComment]
    infer_instance
  · rw [toRuby, rubyRules]
    infer_instance
  · rw [toPhp, phpRules, Shared.returnStatement, Shared.slashComment]
    infer_instance
  · rw [toSwift, swiftRules, Shared.slashComment]
    infer_instance
  · rw [toCSharp, cSharpRules, Shared.returnStatement, Shared.slashComment]
    infer_instance

theorem called_toJavaScript : Called toJavaScript.rules := called_of_mem_fromPython (.head _)

end Chain

end Recast
