import Mathlib.Data.List.TakeWhile
import Recast.Proofs.Chain.Printing

/-!
# Proofs/Chain/Calls — what becomes of a printed call

The rule for what is printed reads to the first closing parenthesis, whatever was opened before it.
So a statement that prints a call is closed within its argument, and what is left of the argument
stands behind the semicolon (`Chain.runRules_printCall`). A statement that prints no call is closed
where it should be.

The rest of the table has no say in this. What is printed is made of names, numbers, commas and
parentheses, and a rule that looks for a word finds none of its own among them
(`Argument.Quiet.not_in`).
-/

namespace Recast

open Text Source Form Pattern

/-! ## What is printed -/

/-- The fixed texts of a pattern. -/
def Pattern.texts : Pattern → List (List Char)
  | .text word => [word.toList]
  | .seq p q | .alt p q => p.texts ++ q.texts
  | .group _ p => p.texts
  | _ => []

/-- The cue is one of the texts, as a word, or has a dot in it. -/
def Cue.isNamed (texts : List (List Char)) : Cue → Bool
  | .word w => texts.contains w && !w.isEmpty
  | .text w => w.contains '.'

/-- An ASCII identifier that no rule to JavaScript looks for. -/
structure Unmentioned where
  chars : List Char
  isIdentifier : isIdentifier chars = true
  not_mem : ∀ rule ∈ Chain.javaScriptRules, chars ∉ rule.pattern.texts

theorem Unmentioned.isWordRun (n : Unmentioned) : IsWordRun n.chars :=
  isWordRun_of_isIdentifier n.isIdentifier

/-- **Names, whole numbers and calls, nested to any depth**, with commas between them. -/
inductive Argument
  | name (name : Unmentioned)
  | number (negative : Bool) (digits : Numeral)
  | call (callee : Argument)
  | callWith (callee arguments : Argument)
  | comma (first : Argument) (spaces : Nat) (second : Argument)

namespace Argument

/-- How it is written. -/
def text : Argument → List Char
  | .name n => n.chars
  | .number negative n => (if negative then ['-'] else []) ++ n.digits
  | .call callee => callee.text ++ ['(', ')']
  | .callWith callee arguments => callee.text ++ '(' :: (arguments.text ++ [')'])
  | .comma first spaces second => first.text ++ ',' :: (List.replicate spaces ' ' ++ second.text)

/-- A call is part of it. -/
def hasCall : Argument → Bool
  | .name _ | .number _ _ => false
  | .call _ | .callWith _ _ => true
  | .comma first _ second => first.hasCall || second.hasCall

/-- The signs that stand between the words. -/
def isSign (c : Char) : Bool := c == '(' || c == ')' || c == ',' || c == ' ' || c == '-'

variable {c : Char} {w : List Char}

theorem head?_isWordRun {x : List Char} (hx : IsWordRun x) :
    x.head?.any (fun c => !isBlank c && c != ')') = true :=
  head?_any_of_isWordRun hx fun c hc => by
    have hparen : c ≠ ')' := ne_of_isWord (by decide) hc
    simp [isBlank_of_isWord c hc, hparen]

/-- It starts with something else than a blank or the end of a call. -/
theorem head?_text : ∀ e : Argument, e.text.head?.any (fun c => !isBlank c && c != ')') = true
  | .name n => head?_isWordRun n.isWordRun
  | .number true _ => by
      have hminus : isBlank '-' = false := by decide
      simp [text, hminus]
  | .number false n => head?_isWordRun n.isWordRun
  | .call callee => head?_append_of_any _ (head?_text callee)
  | .callWith callee _ => head?_append_of_any _ (head?_text callee)
  | .comma first _ _ => head?_append_of_any _ (head?_text first)

theorem mem_text : ∀ {e : Argument}, c ∈ e.text → isWord c = true ∨ isSign c = true
  | .name n, hc => .inl (n.isWordRun.isWord c hc)
  | .number true n, hc => by
      rcases List.mem_cons.mp hc with rfl | hc
      · exact .inr rfl
      · exact .inl (n.isWordRun.isWord c hc)
  | .number false n, hc => .inl (n.isWordRun.isWord c hc)
  | .call callee, hc => by
      rcases List.mem_append.mp hc with hc | hc
      · exact mem_text hc
      · refine .inr ?_
        simp only [List.mem_cons, List.not_mem_nil, or_false] at hc
        rcases hc with rfl | rfl <;> rfl
  | .callWith callee arguments, hc => by
      simp only [text, List.mem_append, List.mem_cons, List.not_mem_nil, or_false] at hc
      rcases hc with hc | rfl | hc | rfl
      · exact mem_text hc
      · exact .inr rfl
      · exact mem_text hc
      · exact .inr rfl
  | .comma first spaces second, hc => by
      simp only [text, List.mem_append, List.mem_cons] at hc
      rcases hc with hc | rfl | hc | hc
      · exact mem_text hc
      · exact .inr rfl
      · rw [List.eq_of_mem_replicate hc]
        exact .inr rfl
      · exact mem_text hc

theorem not_mem_text {e : Argument} (hword : isWord c = false) (hsign : isSign c = false) :
    c ∉ e.text := fun hc => by
  rcases mem_text hc with h | h
  · simp [h] at hword
  · simp [h] at hsign

/-- **It is closed where a call is closed.** -/
theorem mem_text_iff : ∀ e : Argument, ')' ∈ e.text ↔ e.hasCall = true
  | .name n => by
      have hword : ')' ∉ n.chars := fun hc => absurd (n.isWordRun.isWord _ hc) (by decide)
      simp [text, hasCall, hword]
  | .number negative n => by
      have hword : ')' ∉ n.digits := fun hc => absurd (n.isWordRun.isWord _ hc) (by decide)
      cases negative <;> simp [text, hasCall, hword]
  | .call callee => by simp [text, hasCall]
  | .callWith callee arguments => by simp [text, hasCall]
  | .comma first spaces second => by
      simp [text, hasCall, mem_text_iff first, mem_text_iff second]

/-! ## Words that are looked for -/

/-- No rule to JavaScript looks for the word. -/
def IsIdle (w : List Char) : Prop := w = [] ∨ ∀ rule ∈ Chain.javaScriptRules, w ∉ rule.pattern.texts

/-- No rule looks for a number. -/
theorem isIdle_of_mem_words_digits {n : Numeral} (hw : w ∈ words n.digits) : IsIdle w := by
  have hfirst : ∀ rule ∈ Chain.javaScriptRules, ∀ word ∈ rule.pattern.texts,
      word.head?.all (fun c => !c.isDigit) = true := by decide
  rw [words_of_all n.isWordRun.isWord, List.mem_singleton] at hw
  subst hw
  refine .inr fun rule hrule hmem => ?_
  have hnone := hfirst rule hrule n.digits hmem
  cases hn : n.digits with
  | nil => exact n.ne_nil hn
  | cons c more => simp [hn, n.isDigit c (by simp [hn])] at hnone

/-- **No rule looks for a word that stands in it.** -/
theorem isIdle_of_mem_words : ∀ {e : Argument}, w ∈ words e.text → IsIdle w
  | .name n, hw => by
      rw [text, words_of_all n.isWordRun.isWord, List.mem_singleton] at hw
      rw [hw]
      exact .inr n.not_mem
  | .number true n, hw => by
      rcases List.mem_cons.mp hw with rfl | hw
      · exact .inl rfl
      · exact isIdle_of_mem_words_digits hw
  | .number false n, hw => isIdle_of_mem_words_digits hw
  | .call callee, hw => by
      rw [text, words_append_sign _ (by decide), List.mem_append] at hw
      rcases hw with hw | hw
      · exact isIdle_of_mem_words hw
      · exact .inl (by simpa [words_cons, show isWord ')' = false by decide] using hw)
  | .callWith callee arguments, hw => by
      rw [text, words_append_sign _ (by decide), words_append_sign _ (by decide), words_nil,
        List.mem_append, List.mem_append, List.mem_singleton] at hw
      rcases hw with hw | hw | hw
      · exact isIdle_of_mem_words hw
      · exact isIdle_of_mem_words hw
      · exact .inl hw
  | .comma first spaces second, hw => by
      rw [text, words_append_sign _ (by decide), List.mem_append] at hw
      rcases hw with hw | hw
      · exact isIdle_of_mem_words hw
      · cases spaces with
        | zero => exact isIdle_of_mem_words hw
        | succ n =>
          have hlast : (List.replicate (n + 1) ' ').getLast?.any isWord = false := by
            rw [List.getLast?_replicate]
            rfl
          rcases mem_words_append (.inl hlast) hw with hw | hw
          · exact .inl (eq_nil_of_mem_words (fun _ => isWord_of_mem_replicate rfl) hw)
          · exact isIdle_of_mem_words hw

/-! ## Where it is cut -/

/-- Its start, up to the first closing parenthesis. -/
def taken (e : Argument) : List Char := (e.text ++ [')']).takeWhile (· ≠ ')')

/-- What stands behind that parenthesis when it is printed. -/
def left (e : Argument) : List Char := ((e.text ++ [')']).dropWhile (· ≠ ')')).tail

variable (e : Argument)

theorem not_mem_taken : ')' ∉ e.taken := fun h => by
  simpa using List.mem_takeWhile_imp h

theorem text_eq_taken : e.text ++ [')'] = e.taken ++ ')' :: e.left := by
  have hcut : e.taken ++ (e.text ++ [')']).dropWhile (· ≠ ')') = e.text ++ [')'] :=
    List.takeWhile_append_dropWhile
  have hfirst := head?_dropWhile (· ≠ ')') (e.text ++ [')'])
  rw [← hcut, left]
  cases hdrop : (e.text ++ [')']).dropWhile (· ≠ ')') with
  | nil => simpa using List.dropWhile_eq_nil_iff.mp hdrop ')' (by simp)
  | cons c rest =>
    rw [hdrop] at hfirst
    obtain rfl : c = ')' := by simpa using hfirst
    rfl

/-- The start is not empty, and nothing blank stands in front. -/
theorem head?_taken : e.taken.head?.any (!isBlank ·) = true := by
  have hfirst := head?_text e
  rw [taken]
  cases htext : e.text with
  | nil => simp [htext] at hfirst
  | cons c rest =>
    obtain ⟨hblank, hparen⟩ : isBlank c = false ∧ c ≠ ')' := by simpa [htext] using hfirst
    simp [hparen, hblank]

/-- **Everything is taken where no call is closed.** -/
theorem left_eq_nil_iff : e.left = [] ↔ e.hasCall = false := by
  rw [← Bool.not_eq_true, ← mem_text_iff]
  constructor
  · intro hleft hmem
    have hcut := text_eq_taken e
    rw [hleft] at hcut
    exact not_mem_taken e (List.append_cancel_right hcut ▸ hmem)
  · intro hmem
    have hall : ∀ c ∈ e.text, decide (c ≠ ')') = true := fun c hc =>
      decide_eq_true fun heq => hmem (heq ▸ hc)
    rw [left, List.dropWhile_append_of_pos hall]
    rfl

/-- What is taken is the whole of it where nothing is left. -/
theorem taken_eq_text (h : e.left = []) : e.taken = e.text := by
  have hcut := text_eq_taken e
  rw [h] at hcut
  exact (List.append_cancel_right hcut).symm

theorem not_mem_cut (hword : isWord c = false) (hsign : isSign c = false) :
    c ∉ e.taken ∧ c ∉ e.left := by
  have hparen : c ≠ ')' := by
    rintro rfl
    exact absurd hsign (by decide)
  have hcut : c ∉ e.text ++ [')'] := by simp [not_mem_text hword hsign, hparen]
  rw [text_eq_taken] at hcut
  exact ⟨fun h => hcut (List.mem_append_left _ h),
    fun h => hcut (List.mem_append_right _ (List.mem_cons_of_mem _ h))⟩

/-! ## The statement that prints it -/

/-- The source statement that prints it. -/
def printing (e : Argument) : List Char := "print(".toList ++ (e.text ++ [')'])

/-- **The statement that is written:** closed at the first closing parenthesis, whatever is left
behind the semicolon. -/
def printed (e : Argument) : List Char :=
  "console.log(".toList ++ (e.taken ++ (");".toList ++ e.left))

theorem printing_eq : e.printing = "print(".toList ++ (e.text ++ [')']) := rfl

theorem printed_eq :
    e.printed = "console.log(".toList ++ (e.taken ++ (");".toList ++ e.left)) := rfl

/-- What is taken and what is left have the words of the argument. -/
theorem isIdle_of_mem_words_cut (hw : w ∈ words e.taken ∨ w ∈ words e.left) : IsIdle w := by
  have hcut : w ∈ words (e.text ++ [')']) := by
    rw [text_eq_taken, words_append_sign _ (by decide)]
    exact List.mem_append.mpr hw
  rw [words_append_sign _ (by decide), words_nil, List.mem_append, List.mem_singleton] at hcut
  exact hcut.elim isIdle_of_mem_words .inl

/-- A text in which no rule to JavaScript finds what it looks for. -/
structure Quiet (text : List Char) : Prop where
  isIdle : ∀ w ∈ words text, IsIdle w
  dotless : '.' ∉ text

theorem quiet_left : Quiet e.left where
  isIdle _ hw := isIdle_of_mem_words_cut e (.inr hw)
  dotless := (not_mem_cut e (by decide) (by decide)).2

/-- A rule looks for a word of its own, or for something with a dot. -/
theorem isNamed_of_mem_rules : ∀ rule ∈ Chain.javaScriptRules, ∀ trigger ∈ rule.pattern.trigger?,
    trigger.cue.isPlain = true ∧ trigger.cue.isNamed rule.pattern.texts = true := by
  decide

/-- **No rule finds its trigger in a quiet text.** -/
theorem Quiet.not_in {text : List Char} (h : Quiet text) {rule : Rule}
    (hrule : rule ∈ Chain.javaScriptRules) {trigger : Trigger}
    (htrigger : trigger ∈ rule.pattern.trigger?) : ¬ trigger.In text := fun hin => by
  obtain ⟨hplain, hnamed⟩ := isNamed_of_mem_rules rule hrule trigger htrigger
  replace hin := hin.cue hplain
  cases hcue : trigger.cue with
  | word w =>
    rw [hcue] at hin hnamed
    obtain ⟨hmem, hne⟩ : w ∈ rule.pattern.texts ∧ w ≠ [] := by simpa [Cue.isNamed] using hnamed
    rcases h.isIdle w hin with rfl | hidle
    · exact hne rfl
    · exact hidle rule hrule hmem
  | text w =>
    rw [hcue] at hin hnamed
    have hdot : '.' ∈ w := by simpa [Cue.isNamed] using hnamed
    exact h.dotless (hin.subset hdot)

/-- What is written behind the name of the function. -/
theorem quiet_behind : Quiet ('(' :: (e.taken ++ (");".toList ++ e.left))) where
  isIdle w hw := by
    have hline : '(' :: (e.taken ++ (");".toList ++ e.left)) =
        [] ++ '(' :: (e.taken ++ ')' :: ([] ++ ';' :: e.left)) := rfl
    rw [hline, words_append_sign _ (by decide), words_append_sign _ (by decide),
      words_append_sign _ (by decide), words_nil] at hw
    simp only [List.mem_append, List.mem_singleton] at hw
    rcases hw with hw | hw | hw | hw
    · exact .inl hw
    · exact isIdle_of_mem_words_cut e (.inl hw)
    · exact .inl hw
    · exact isIdle_of_mem_words_cut e (.inr hw)
  dotless := by
    have hcut : '.' ∉ e.taken ∧ '.' ∉ e.left := not_mem_cut e (by decide) (by decide)
    simp [hcut]

/-! ## The rules for what is printed -/

theorem not_mem_printing (hword : isWord c = false) (hsign : isSign c = false) :
    c ∉ e.printing := by
  have hcall : "print(".toList.all (fun d => isWord d || isSign d) = true := by decide
  have hparen : isSign ')' = true := rfl
  intro hc
  rw [printing_eq, List.mem_append, List.mem_append, List.mem_singleton] at hc
  rcases hc with hc | hc | rfl
  · simpa [hword, hsign] using List.all_eq_true.mp hcall c hc
  · exact not_mem_text hword hsign hc
  · simp [hparen] at hsign

/-- The rule for anything else writes the statement. -/
theorem apply_printExpr_printing (name : String) :
    (⟨name, printExpr, ["console.log(", 1, ");"]⟩ : Rule).apply e.printing = e.printed := by
  have hne : e.taken ≠ [] := fun hnil => by
    simpa [hnil] using head?_taken e
  have hblank : (e.taken ++ []).head?.any isBlank = false := head?_of_ink (head?_taken e)
  rw [List.append_nil] at hblank
  have hline : e.printing = "print(".toList ++ (e.taken ++ ")".toList) ++ e.left := by
    rw [printing_eq, text_eq_taken, List.append_assoc, List.append_assoc]
    rfl
  have hreads : printExpr.Reads [] ("print(".toList ++ (e.taken ++ ")".toList)) e.left [e.taken] :=
    printExpr_reads_argument hne (not_mem_taken e) hblank rfl
  have hmisses : printExpr.Misses ("print(".toList ++ (e.taken ++ ")".toList)).reverse e.left
      [] := by
    have hcalled : printExpr.Called := inferInstance
    have hrule : ⟨"print_expr", printExpr, ["console.log(", 1, ");"]⟩ ∈ Chain.javaScriptRules :=
      .tail _ (.tail _ (.head _))
    have htrigger : printExpr.trigger? = some ⟨.word "print".toList, _⟩ := rfl
    have hplain : (Cue.word "print".toList).isPlain = true := by decide
    exact hcalled.misses htrigger hplain ((quiet_left e).not_in hrule htrigger) _
  have hstencil : Phrase.stencil ["console.log(", 1, ");"] =
      [.text "console.log(".toList, .blank 1, .text ");".toList] := by decide
  have hfill : Stencil.fill [.text "console.log(".toList, .blank 1, .text ");".toList]
      (fillers [e.taken]) = "console.log(".toList ++ (e.taken ++ (");".toList ++ [])) := rfl
  have hstart : "print(".toList ++ (e.taken ++ ")".toList) ≠ [] := by simp
  rw [hline, Rule.apply_of_reads hstart hreads hmisses, hstencil, hfill, printed_eq,
    List.append_nil, List.append_assoc, List.append_assoc]

/-- The other rules find nothing in the statement that is written. -/
theorem apply_printed {rule : Rule} (hrule : rule ∈ Chain.javaScriptRules.drop 3) :
    rule.apply e.printed = e.printed := by
  have hpast : (Chain.javaScriptRules.drop 3).all (·.isPast "console.log".toList) = true := by
    decide
  have hstart : startsCall "console.log".toList = true := by decide
  have hmem : rule ∈ Chain.javaScriptRules := List.mem_of_mem_drop hrule
  have hcut : '\n' ∉ e.taken ∧ '\n' ∉ e.left := not_mem_cut e (by decide) (by decide)
  have hfeed : '\n' ∉ '(' :: (e.taken ++ (");".toList ++ e.left)) := by simp [hcut]
  have hline : e.printed =
      "console.log".toList ++ '(' :: (e.taken ++ (");".toList ++ e.left)) := rfl
  rw [hline]
  exact Rule.apply_eq_self (Chain.called_toJavaScript.called rule hmem)
    (List.all_eq_true.mp hpast rule hrule) hstart hfeed fun trigger htrigger =>
      (quiet_behind e).not_in hmem htrigger

/-- The statement is the one that is meant where nothing is left. -/
theorem printed_eq_iff :
    e.printed = "console.log(".toList ++ (e.text ++ ");".toList) ↔ e.hasCall = false := by
  rw [← left_eq_nil_iff, printed_eq, List.append_cancel_left_eq]
  constructor
  · intro heq
    have hsemi : e.taken ++ ')' :: (';' :: e.left) = e.taken ++ ')' :: (e.left ++ [';']) := by
      calc e.taken ++ ')' :: (';' :: e.left) = (e.text ++ [')']) ++ [';'] := by simpa using heq
        _ = e.taken ++ ')' :: (e.left ++ [';']) := by simp [text_eq_taken]
    -- the semicolon would stand in what is left
    have hturn : ';' :: e.left = e.left ++ [';'] := by simpa using hsemi
    cases hleft : e.left with
    | nil => rfl
    | cons c more =>
      rw [hleft, List.cons_append] at hturn
      obtain rfl : ';' = c := (List.cons.inj hturn).1
      have hnone : ';' ∉ e.left := (not_mem_cut e (by decide) (by decide)).2
      simp [hleft] at hnone
  · intro hleft
    rw [taken_eq_text e hleft, hleft, List.append_nil]

end Argument

namespace Chain

/-- **A printed call is closed at the first closing parenthesis.** The statement is the one that is
meant if no call is printed, and only then. -/
theorem runRules_printCall (e : Argument) :
    toJavaScript.runRules e.printing = e.printed ∧
      (toJavaScript.runRules e.printing = "console.log(".toList ++ (e.text ++ ");".toList) ↔
        e.hasCall = false) := by
  have hrules : javaScriptRules =
      ⟨"print_double", callText "print" '"', ["console.log(", "\"", 1, "\"", ");"]⟩ ::
      ⟨"print_single", callText "print" '\'', ["console.log(", "'", 1, "'", ");"]⟩ ::
      ⟨"print_expr", printExpr, ["console.log(", 1, ");"]⟩ :: javaScriptRules.drop 3 := rfl
  have hrun : toJavaScript.runRules e.printing = e.printed := by
    have hdouble : '"' ∉ e.printing := e.not_mem_printing (by decide) (by decide)
    have hsingle : '\'' ∉ e.printing := e.not_mem_printing (by decide) (by decide)
    rw [runRules, toJavaScript, hrules, Rule.applyAll_cons, Rule.applyAll_cons, Rule.applyAll_cons,
      Rule.apply_callText rfl (by decide) hdouble, Rule.apply_callText rfl (by decide) hsingle,
      e.apply_printExpr_printing]
    exact Rule.applyAll_eq_self fun rule hrule => e.apply_printed hrule
  rw [hrun]
  exact ⟨rfl, e.printed_eq_iff⟩

/-- The call of a function is closed within its argument. -/
theorem runRules_printCall_nested :
    let call : Argument := .callWith (.name ⟨['f'], by decide, by decide⟩)
      (.name ⟨['x'], by decide, by decide⟩)
    call.printing = "print(f(x))".toList ∧
      toJavaScript.runRules call.printing = "console.log(f(x);)".toList ∧
      toJavaScript.runRules call.printing ≠ "console.log(f(x));".toList := by
  decide

end Chain

end Recast
