import Recast.Proofs.Block.Balance
import Recast.Proofs.Block.Settled
import Recast.Proofs.Chain.Declarations
import Recast.Proofs.Chain.ToJavaScript
import Recast.Proofs.Source.OneLine

/-!
# Proofs/Chain/OneLine — blocks that are opened and never closed

A header is written wherever it stands, so one with its body behind the colon opens a block in the
middle of its line. Blocks are found from the ends of lines: this one is not seen, and nothing
closes it (`transform_oneLines`).

The rules run over such lines in turn. A rule for calls passes over a name where no call opens
behind it (`misses_spelled`), even if the name is the one it looks for; a rule at the start of a
line stops at the header; and the other rules have no cue in the line (`Spelled.IsIdle`).
-/

namespace Recast

open Text Source Form Pattern

namespace Form

variable {ps : List Pattern} {name : String} {before rest x : List Char}

/-! ## Calls -/

/-- A parenthesis opens, perhaps behind blanks. -/
def opensCall (rest : List Char) : Bool := (rest.dropWhile isBlank).head? == some '('

/-- A parenthesis opens, and is not closed at once. -/
def opensArgument (rest : List Char) : Bool :=
  opensCall rest && (rest.dropWhile isBlank).tail.head?.any (· != ')')

/-- What opens an argument opens a call. -/
theorem opensCall_of_opensArgument (h : opensArgument rest = true) : opensCall rest = true :=
  (Bool.and_eq_true_iff.mp h).1

/-- Behind a keyword the pattern can only be read where a call opens. -/
structure ReadsCall (opens : List Char → Bool) (ps : List Pattern) : Prop where
  shuns_word : (all ps).Shuns isWord
  opens_of_read : ∀ next before rest kept, ((all ps).read next ⟨before, rest, kept⟩).isSome = true →
    opens rest = true
  isCall : ∀ {rest}, opens rest = true → opensCall rest = true

theorem ReadsCall.eq_false {opens : List Char → Bool} (h : ReadsCall opens ps)
    (hrest : opensCall rest = false) : opens rest = false := by
  by_contra hopens
  exact absurd (h.isCall (by simpa using hopens)) (by simp [hrest])

/-- Blanks are dropped up to the first ink. -/
theorem dropWhile_blanks {run rest : List Char} {c : Char} (hrun : ∀ d ∈ run, isBlank d = true)
    (hc : isBlank c = false) : (run ++ c :: rest).dropWhile isBlank = c :: rest := by
  rw [List.dropWhile_append_of_pos hrun, List.dropWhile_cons_of_neg (by simp [hc])]

/-- The call for input may have no argument. -/
theorem readsCall_input : ReadsCall opensCall
    [blanks, "(", blanks, .group 1 (many (isNot ')')), blanks, ")"] where
  shuns_word := shuns_blanks isBlank_of_isWord (shuns_sign (by decide))
  opens_of_read next before rest kept hread := by
    obtain ⟨run, behind, hrest, hrun, hread⟩ := exists_of_read_many hread
    obtain ⟨more, hmore, -⟩ := exists_of_read_text hread
    obtain rfl : behind = '(' :: more := hmore
    obtain rfl : rest = run ++ '(' :: more := hrest
    rw [opensCall, dropWhile_blanks hrun (by decide)]
    rfl
  isCall := id

/-- The call for output has an argument. -/
theorem readsCall_print :
    ReadsCall opensArgument [blanks, "(", blanks, .group 1 (many1 (isNot ')')), blanks, ")"] where
  shuns_word := shuns_blanks isBlank_of_isWord (shuns_sign (by decide))
  opens_of_read next before rest kept hread := by
    obtain ⟨run, behind, hrest, hrun, hread⟩ := exists_of_read_many hread
    obtain ⟨more, hmore, hread⟩ := exists_of_read_text hread
    obtain rfl : behind = '(' :: more := hmore
    obtain rfl : rest = run ++ '(' :: more := hrest
    obtain ⟨gap, inside, hgap, hblank, hread⟩ := exists_of_read_many hread
    obtain ⟨c, tail, hinside, hc, -⟩ := exists_of_read_one hread
    obtain rfl : inside = c :: tail := hinside
    obtain rfl : more = gap ++ c :: tail := hgap
    rw [opensArgument, opensCall, dropWhile_blanks hrun (by decide)]
    cases gap with
    | nil => simpa [isNot] using hc
    | cons d gap =>
      have hd : d ≠ ')' := by
        rintro rfl
        exact absurd (hblank ')' (by simp)) (by decide)
      simpa using hd
  isCall := opensCall_of_opensArgument

/-- The call for a length has an argument, and no blanks around its parentheses. -/
theorem readsCall_len : ReadsCall opensArgument ["(", .group 1 (many1 (isNot ')')), ")"] where
  shuns_word := shuns_sign (by decide)
  opens_of_read next before rest kept hread := by
    obtain ⟨more, hmore, hread⟩ := exists_of_read_text hread
    obtain rfl : rest = '(' :: more := hmore
    obtain ⟨c, tail, hinside, hc, -⟩ := exists_of_read_one hread
    obtain rfl : more = c :: tail := hinside
    rw [opensArgument, opensCall, List.dropWhile_cons_of_neg (by decide)]
    simpa [isNot] using hc
  isCall := opensCall_of_opensArgument

/-! ## Words that are not called -/

/-- **A word is passed over** where it is another one, or no call opens behind it. -/
theorem misses_word {opens : List Char → Bool} (hname : ∀ c ∈ name.toList, isWord c = true)
    (hps : ReadsCall opens ps) (hx : IsWordRun x) (hrest : rest.head?.any isWord = false)
    (h : x = name.toList → opens rest = false) :
    (all (keyword name :: ps)).Misses before x rest := by
  intro a b hab hb
  by_contra hread
  obtain ⟨hedge, hread⟩ := meets_of_read_edge (Option.isSome_iff_ne_none.mpr hread)
  obtain rfl := eq_nil_of_meets_word (hab ▸ hx.isWord) hb hedge
  obtain rfl : x = b := hab
  by_cases hsame : x = name.toList
  · obtain ⟨tail, htail, hread⟩ := exists_of_read_text hread
    obtain rfl : rest = tail := List.append_cancel_left (hsame ▸ htail)
    exact absurd (hps.opens_of_read _ _ _ _ hread) (by simp [h hsame])
  · exact Option.isSome_iff_ne_none.mp hread
      (read_text_of_word hname hps.shuns_word hx hsame hrest)

/-- None of the words is the name with a call behind it. -/
def Uncalled (opens : List Char → Bool) (name : String) (rest : List Char) : Spelled → Prop
  | [] => True
  | (word, signs) :: more =>
    (word = name.toList → opens (signs ++ (Spelled.text more ++ rest)) = false) ∧
      Uncalled opens name rest more

/-- Nothing is called in two parts if nothing is in either. -/
theorem uncalled_append {opens : List Char → Bool} {more : Spelled} :
    ∀ {spelled : Spelled}, Uncalled opens name (more.text ++ rest) spelled →
      Uncalled opens name rest more → Uncalled opens name rest (spelled ++ more)
  | [], _, hmore => hmore
  | _ :: _, ⟨hcall, h⟩, hmore => ⟨by simpa using hcall, uncalled_append h hmore⟩

/-- **A line without such a call is passed over.** -/
theorem misses_spelled {opens : List Char → Bool} (hname : IsWordRun name.toList)
    (hps : ReadsCall opens ps) : ∀ {spelled : Spelled} {before : List Char}, spelled.IsApart →
      ((∃ part ∈ spelled, part.2 = []) → rest.head?.any isWord = false) →
      Uncalled opens name rest spelled → (all (keyword name :: ps)).Misses before spelled.text rest
  | [], _, _, _, _ => misses_nil
  | (word, signs) :: more, before, ⟨hword, hsigns, hlast, hmore⟩, hrest, ⟨hcall, huncalled⟩ => by
    have hshuns : (all (keyword name :: ps)).Shuns (!isWord ·) :=
      shuns_keyword (by simpa using head?_any_of_isWordRun hname fun _ h => h)
    have hbehind : (signs ++ (Spelled.text more ++ rest)).head?.any isWord = false :=
      Spelled.head?_signs hsigns hlast fun hnil => hrest ⟨_, List.mem_cons_self, hnil⟩
    have hlater : (∃ part ∈ more, part.2 = []) → rest.head?.any isWord = false :=
      fun ⟨part, hpart, hnil⟩ => hrest ⟨part, List.mem_cons_of_mem _ hpart, hnil⟩
    rw [Spelled.text_cons]
    refine .append ?_ (.append ?_ (misses_spelled hname hps hmore hlater huncalled))
    · exact misses_word hname.isWord hps hword (by simpa using hbehind) (by simpa using hcall)
    · exact misses_of_shuns hshuns (by simpa using hsigns)

/-- The signs go on with something else than a call. -/
def closesOff (signs : List Char) : Bool := (signs.dropWhile isBlank).head?.any (· != '(')

theorem opensCall_append {signs : List Char} (h : closesOff signs = true) (rest : List Char) :
    opensCall (signs ++ rest) = false := by
  have hsigns : (signs ++ rest).dropWhile isBlank = signs.dropWhile isBlank ++ rest := by
    rw [List.dropWhile_append, if_neg]
    intro hnil
    rw [closesOff, List.isEmpty_iff.mp hnil] at h
    exact absurd h (by simp)
  rw [opensCall, hsigns]
  cases hdrop : signs.dropWhile isBlank with
  | nil => simp [closesOff, hdrop] at h
  | cons c more => simpa [closesOff, hdrop] using h

end Form

/-! ## Statements on one line -/

/-- The keywords that stand in no statement on one line. -/
def idleKeywords : List String := pythonWords.filter fun w => w ∉ ["if", "while", "return"]

/-- The signs that stand in none. -/
def idleSigns : List String := [".append(", ".extend(", ".strip()", ".upper()", ".lower()"]

/-- The characters of such statements. -/
def isOneLineChar (c : Char) : Bool := isWord c || " ()\x7b:<>=!.;".toList.contains c

namespace Source

/-- **A line that only the rules for output, calls and headers look at.** -/
structure Spelled.IsIdle (spelled : Spelled) : Prop where
  isApart : spelled.IsApart
  words : ∀ part ∈ spelled, ∀ w ∈ idleKeywords, w.toList ≠ part.1
  signs : ∀ part ∈ spelled, ∀ c ∈ part.2, isOneLineChar c = true
  dotted : ∀ w ∈ dotted spelled.text, w = "log".toList

namespace Spelled.IsIdle

variable {spelled : Spelled} {w signs : List Char}

theorem nil : IsIdle [] where
  isApart := trivial
  words _ h := absurd h List.not_mem_nil
  signs _ h := absurd h List.not_mem_nil
  dotted _ h := absurd h List.not_mem_nil

/-- A word that no rule looks for may stand in front of idle ones. -/
theorem cons (hw : IsWordRun w) (hidle : ∀ k ∈ idleKeywords, k.toList ≠ w)
    (hsigns : signs.all (fun c => isOneLineChar c && !isWord c && c != '.') = true)
    (hlast : signs = [] → spelled = []) (h : IsIdle spelled) : IsIdle ((w, signs) :: spelled) := by
  have hsign (c : Char) (hc : c ∈ signs) :
      (isOneLineChar c = true ∧ isWord c = false) ∧ c ≠ '.' := by
    simpa using List.all_eq_true.mp hsigns c hc
  refine ⟨⟨hw, fun c hc => (hsign c hc).1.2, hlast, h.isApart⟩, ?_, ?_, ?_⟩
  · exact List.forall_mem_cons.mpr ⟨hidle, h.words⟩
  · exact List.forall_mem_cons.mpr ⟨fun c hc => (hsign c hc).1.1, h.signs⟩
  · have hdot : '.' ∉ w ++ signs := fun hmem => by
      rcases List.mem_append.mp hmem with hmem | hmem
      · exact absurd (hw.isWord _ hmem) (by decide)
      · exact (hsign _ hmem).2 rfl
    rw [text_cons, ← List.append_assoc, dotted_append_of_not_mem _ hdot]
    exact h.dotted

/-- Behind a dot the word of the console may stand. -/
theorem console (h : IsIdle (("log".toList, signs) :: spelled)) (hne : signs ≠ []) :
    IsIdle (("console".toList, ".".toList) :: ("log".toList, signs) :: spelled) := by
  have hdot : '.' ∉ "console".toList := by decide
  obtain ⟨-, hsigns, -, -⟩ := h.isApart
  refine ⟨⟨by decide, by decide, by simp, h.isApart⟩, ?_, ?_, ?_⟩
  · exact List.forall_mem_cons.mpr ⟨by decide, h.words⟩
  · exact List.forall_mem_cons.mpr ⟨by decide, h.signs⟩
  · have hlog : ("log".toList ++ (signs ++ text spelled)).takeWhile isWord = "log".toList := by
      refine takeWhile_word (List.all_eq_true.mp (by decide)) ?_
      cases signs with
      | nil => exact absurd rfl hne
      | cons c more => simpa using hsigns c (by simp)
    have hbehind := h.dotted
    rw [text_cons] at hbehind
    rw [text_cons, dotted_append_of_not_mem _ hdot, text_cons]
    refine List.forall_mem_cons.mpr ⟨hlog, hbehind⟩

/-- The cues of the other rules. -/
def cues : List Cue := wordCues idleKeywords ++ signCues idleSigns

/-- **The other rules pass over the line.** -/
theorem idle (h : IsIdle spelled) : Rule.Idle isOneLineChar cues spelled.text where
  allowed c hc := by
    rcases mem_text h.isApart hc with hword | ⟨part, hpart, hc⟩
    · simp [isOneLineChar, hword]
    · exact h.signs part hpart c hc
  absent := by
    simp only [cues, wordCues, signCues, List.forall_mem_append, List.forall_mem_map]
    constructor
    · intro k hk hin
      rcases mem_words_text h.isApart hin with hnil | ⟨part, hpart, hword⟩
      · have hne : idleKeywords.all (fun k => !k.toList.isEmpty) = true := by decide
        simpa [hnil] using List.all_eq_true.mp hne k hk
      · exact h.words part hpart k hk hword
    · intro k hk hin
      have hdots : idleSigns.all (fun k => k.toList.head? == some '.' &&
          k.toList.tail.any (!isWord ·) && k.toList.tail.takeWhile isWord != "log".toList) =
          true := by decide
      have hdot := List.all_eq_true.mp hdots k hk
      cases hchars : k.toList with
      | nil => simp [hchars] at hdot
      | cons c more =>
        obtain ⟨⟨rfl, hend⟩, hlog⟩ : (c = '.' ∧ more.any (!isWord ·) = true) ∧
            more.takeWhile isWord ≠ "log".toList := by simpa [hchars] using hdot
        have hin : '.' :: more <:+: text spelled := hchars ▸ hin
        exact hlog (h.dotted _ (takeWhile_mem_dotted_of_isInfix hend hin))

end Spelled.IsIdle

namespace OneLine

variable {s : OneLine} {b : Spelled} {written : Bool} {opens : List Char → Bool} {name : String}
  {ps : List Pattern} {before rest : List Char}

theorem isWordRun_word (loops : Bool) : IsWordRun (word loops).toList := by
  cases loops <;> decide

/-! ### The words of a statement -/

/-- No name is one of the words that rules look for. -/
theorem ne_name (x : Identifier) : ∀ k ∈ idleKeywords, k.toList ≠ x.chars := fun k hk =>
  x.not_keyword k (List.mem_filter.mp hk).1

/-- The head of a statement is idle, and stays so in front of an idle body. -/
theorem isIdle_head_append (hb : b.IsIdle) : (s.head written ++ b).IsIdle := by
  refine .cons (isWordRun_word _) ?_ ?_ ?_ (.cons s.left.isWordRun (ne_name _) ?_ (by simp)
    (.cons s.right.isWordRun (ne_name _) ?_ ?_ hb))
  · cases s.loops <;> decide
  · cases written <;> decide
  · cases written <;> simp
  · cases s.comparison <;> decide
  · cases written <;> decide
  · cases written <;> simp

theorem isIdle_word {w signs : List Char} (hw : IsWordRun w)
    (hidle : ∀ k ∈ idleKeywords, k.toList ≠ w)
    (hsigns : signs.all (fun c => isOneLineChar c && !isWord c && c != '.') = true) :
    Spelled.IsIdle [(w, signs)] := .cons hw hidle hsigns (fun _ => rfl) .nil

theorem isIdle_name (x : Identifier) {signs : List Char}
    (hsigns : signs.all (fun c => isOneLineChar c && !isWord c && c != '.') = true) :
    Spelled.IsIdle [(x.chars, signs)] := isIdle_word x.isWordRun (ne_name x) hsigns

/-- **The body of a statement is idle** in all its spellings. -/
theorem isIdle_body (s : OneLine) : s.body.IsIdle := by
  unfold body
  split
  · exact .cons (by decide) (by decide) (by decide) (by simp)
      (isIdle_name _ (by decide))
  · exact .cons (by decide) (by decide) (by decide) (by simp)
      (isIdle_name _ (by decide))
  · exact isIdle_name _ (by decide)

theorem isIdle_bodyPrinted (s : OneLine) : s.bodyPrinted.IsIdle := by
  unfold bodyPrinted
  split
  · exact .console (.cons (by decide) (by decide) (by decide)
      (by simp) (isIdle_name _ (by decide))) (by simp)
  · exact isIdle_body s

theorem isIdle_bodyCalled (s : OneLine) : s.bodyCalled.IsIdle := by
  unfold bodyCalled
  split
  · split
    · exact isIdle_word (by decide) (by decide) (by decide)
    · exact isIdle_name _ (by decide)
  · exact isIdle_bodyPrinted s

/-! ### The statement between the rules -/

/-- The output is written. -/
def outputWritten (s : OneLine) : Spelled := s.head false ++ s.bodyPrinted

/-- The header of a branch is written too. -/
def branchWritten (s : OneLine) : Spelled := s.head (!s.loops) ++ s.bodyPrinted

/-- All headers are written. -/
def headerWritten (s : OneLine) : Spelled := s.head true ++ s.bodyPrinted

theorem isIdle_inPython (s : OneLine) : s.inPython.IsIdle := isIdle_head_append (isIdle_body s)

theorem isIdle_outputWritten (s : OneLine) : s.outputWritten.IsIdle :=
  isIdle_head_append (isIdle_bodyPrinted s)

theorem isIdle_branchWritten (s : OneLine) : s.branchWritten.IsIdle :=
  isIdle_head_append (isIdle_bodyPrinted s)

theorem isIdle_headerWritten (s : OneLine) : s.headerWritten.IsIdle :=
  isIdle_head_append (isIdle_bodyPrinted s)

theorem isIdle_inJavaScript (s : OneLine) : s.inJavaScript.IsIdle :=
  isIdle_head_append (isIdle_bodyCalled s)

/-! ### Words that are not called -/

/-- Nothing is called in the head of a statement. -/
theorem uncalled_head (hps : ReadsCall opens ps) (hname : name ∉ ["if", "while"]) :
    Uncalled opens name rest (s.head written) := by
  have hclosed {signs more : List Char} (hsigns : closesOff signs = true) :
      opens (signs ++ more) = false := hps.eq_false (opensCall_append hsigns _)
  refine ⟨fun hword => ?_, fun _ => hclosed ?_, fun _ => hclosed ?_, trivial⟩
  · refine absurd (String.toList_inj.mp hword) fun heq => hname ?_
    rw [← heq]
    cases s.loops <;> decide
  · cases s.comparison <;> decide
  · cases written <;> decide

/-- The header passes over, whatever stands behind it. -/
theorem misses_head (hname : IsWordRun name.toList) (hps : ReadsCall opens ps)
    (hheader : name ∉ ["if", "while"]) :
    (all (keyword name :: ps)).Misses before (Spelled.text (s.head written)) rest := by
  have hapart : (s.head written ++ []).IsApart := (isIdle_head_append .nil).isApart
  refine misses_spelled hname hps (by simpa using hapart) ?_ (uncalled_head hps hheader)
  cases written <;> simp [head]

/-- Nothing is called in a body whose output was written, but for a call of that name. -/
theorem uncalled_bodyPrinted (hps : ReadsCall opens ps)
    (hname : name ∉ ["return", "console", "log"])
    (hcall : s.deed = .call → s.name.chars = name.toList →
      ∀ more, opens ("()".toList ++ more) = false)
    (hrest : opensCall rest = false) : Uncalled opens name rest s.bodyPrinted := by
  have hother {w : String} {signs more : List Char} (hw : w ∈ ["return", "console", "log"])
      (heq : w.toList = name.toList) : opens (signs ++ more) = false :=
    absurd (String.toList_inj.mp heq ▸ hw) hname
  cases hdeed : s.deed with
  | give =>
    simp only [bodyPrinted, body, hdeed]
    exact ⟨hother (by simp), fun _ => hps.eq_false hrest, trivial⟩
  | print =>
    simp only [bodyPrinted, hdeed]
    exact ⟨hother (by simp), hother (by simp),
      fun _ => hps.eq_false (opensCall_append (by decide) _), trivial⟩
  | call =>
    simp only [bodyPrinted, body, hdeed]
    exact ⟨fun heq => hcall hdeed heq _, trivial⟩

/-! ### Rules on a statement -/

/-- A header ends with a space. -/
theorem head?_behind_head (s : OneLine) (written : Bool) (before : List Char) :
    ((Spelled.text (s.head written)).reverse ++ before).head?.any isWord = false := by
  have hspace : isWord ' ' = false := by decide
  cases written <;> simp [head, hspace]

/-- A rule for calls leaves the line alone if it finds none. -/
theorem leaves_of_uncalled {rule : Rule} (hpattern : rule.pattern = all (keyword name :: ps))
    (hname : IsWordRun name.toList) (hps : ReadsCall opens ps) (hheader : name ∉ ["if", "while"])
    (hb : b.IsIdle) (huncalled : ∀ rest, opensCall rest = false → Uncalled opens name rest b) :
    rule.TurnsBefore (opensCall · = false) (Spelled.text (s.head written ++ b))
      (Spelled.text (s.head written ++ b)) := fun before rest _ hrest hafter => by
  refine replaceFrom_of_misses ?_
  rw [hpattern]
  exact misses_spelled hname hps (isIdle_head_append hb).isApart
    (fun _ => head?_of_lineFeed rfl hrest)
    (uncalled_append (uncalled_head hps hheader) (huncalled rest hafter))

/-- A rule for calls writes the body if that is a call. -/
theorem turns_of_reads {rule : Rule} {b' : Spelled} {values : List (List Char)}
    (hpattern : rule.pattern = all (keyword name :: ps)) (hname : IsWordRun name.toList)
    (hps : ReadsCall opens ps) (hheader : name ∉ ["if", "while"]) (hne : b.text ≠ [])
    (hreads : ∀ before rest, before.head?.any isWord = false →
      rule.pattern.Reads before b.text rest values)
    (hfill : rule.phrase.stencil.fill (fillers values) = b'.text) :
    rule.Turns (Spelled.text (s.head written ++ b)) (Spelled.text (s.head written ++ b')) := by
  rw [Spelled.text_append, Spelled.text_append]
  refine Rule.turns_of_read_to_end hne (fun before rest _ => ?_) fun before rest _ _ => ?_
  · rw [hpattern]
    exact misses_head hname hps hheader
  · obtain ⟨before', kept, hspot, hkept⟩ :=
      hreads _ rest (head?_behind_head s written before)
    exact ⟨_, hspot, rfl, (fillFrom_eq hkept).trans hfill⟩

/-- **The output on the line is written**, wherever it stands. -/
theorem turns_print (s : OneLine) :
    (⟨"print_expr", printExpr, ["console.log(", 1, ");"]⟩ : Rule).TurnsBefore (opensCall · = false)
      s.inPython.text s.outputWritten.text := by
  have hname : IsWordRun "print".toList := by decide
  by_cases hdeed : s.deed = .print
  · have hbody : Spelled.text s.body = "print(".toList ++ (s.name.chars ++ ")".toList) := by
      simp [body, hdeed]
    have hprinted : Spelled.text s.bodyPrinted =
        "console.log(".toList ++ (s.name.chars ++ ");".toList) := by simp [bodyPrinted, hdeed]
    have hreads (before rest : List Char) (hbefore : before.head?.any isWord = false) :
        printExpr.Reads before (Spelled.text s.body) rest [s.name.chars] :=
      hbody ▸ printExpr_reads s.name.isWordRun hbefore
    exact Rule.turnsBefore_of_turns (turns_of_reads (by rfl) hname readsCall_print (by decide)
      (by simp [hbody]) hreads (by rw [hprinted]; rfl))
  · have hprinted : s.bodyPrinted = s.body := by
      unfold bodyPrinted
      split
      · exact absurd ‹_› hdeed
      · rfl
    rw [inPython, outputWritten, ← hprinted]
    exact leaves_of_uncalled (by rfl) hname readsCall_print (by decide)
      (isIdle_bodyPrinted s) fun rest hrest =>
        uncalled_bodyPrinted readsCall_print (by decide) (fun _ _ _ => rfl) hrest

/-- The rule for lengths leaves the statements. -/
theorem leaves_len (s : OneLine) : (⟨"len", len, [1, ".length"]⟩ : Rule).TurnsBefore
    (opensCall · = false) (Spelled.text (s.head true ++ s.bodyPrinted))
      (Spelled.text (s.head true ++ s.bodyPrinted)) :=
  leaves_of_uncalled (by rfl) (by decide) readsCall_len (by decide) (isIdle_bodyPrinted s)
    fun _ hrest => uncalled_bodyPrinted readsCall_len (by decide) (fun _ _ _ => rfl) hrest

/-- Nothing is between the parentheses. -/
theorem inputExpr_reads (hbefore : before.head?.any isWord = false) :
    inputExpr.Reads before "input()".toList rest [[]] := by
  have hline : "input()".toList ++ rest =
      "input".toList ++ ("(".toList ++ (")".toList ++ rest)) := by simp
  apply Reads.intro
  · rw [hline, readAt?, inputExpr, call]
    simp only [List.cons_append, List.nil_append]
    rw [read_keyword hbefore rfl, read_blanks rfl, read_sign, read_blanks rfl, all_cons, read_seq,
      read_group, read_many_nil rfl, read_blanks rfl, read_sign]
    rfl
  · exact keeps_nil.snoc [] _

/-- **The rule for input** turns the call of `input`. -/
theorem turns_input (s : OneLine) :
    (⟨"input_expr", inputExpr, ["prompt(", 1, ")"]⟩ : Rule).TurnsBefore (opensCall · = false)
      (Spelled.text (s.head true ++ s.bodyPrinted))
      (Spelled.text (s.head true ++ s.bodyCalled)) := by
  have hname : IsWordRun "input".toList := by decide
  by_cases hcall : s.deed = .call ∧ s.name.chars = "input".toList
  · obtain ⟨hdeed, hinput⟩ := hcall
    have hbody : Spelled.text s.bodyPrinted = "input()".toList := by
      simp [bodyPrinted, body, hdeed, hinput]
    have hcalled : Spelled.text s.bodyCalled = "prompt()".toList := by
      simp [bodyCalled, hdeed, hinput]
    have hreads (before rest : List Char) (hbefore : before.head?.any isWord = false) :
        inputExpr.Reads before (Spelled.text s.bodyPrinted) rest [[]] :=
      hbody ▸ inputExpr_reads hbefore
    exact Rule.turnsBefore_of_turns (turns_of_reads (by rfl) hname readsCall_input (by decide)
      (by simp [hbody]) hreads (by rw [hcalled]; rfl))
  · have hcalled : s.bodyCalled = s.bodyPrinted := by
      unfold bodyCalled
      split
      · rename_i hdeed
        rw [if_neg fun hinput => hcall ⟨hdeed, hinput⟩]
        simp only [bodyPrinted, body, hdeed]
      · rfl
    rw [hcalled]
    exact leaves_of_uncalled (by rfl) hname readsCall_input (by decide) (isIdle_bodyPrinted s)
      fun rest hrest => uncalled_bodyPrinted readsCall_input (by decide)
        (fun hdeed heq => absurd ⟨hdeed, heq⟩ hcall) hrest

/-! ### Headers -/

/-- No word of the body is that of a header. -/
theorem ne_word_bodyPrinted (loops : Bool) :
    ∀ part ∈ s.bodyPrinted, part.1 ≠ (word loops).toList := by
  have hname : s.name.chars ≠ (word loops).toList :=
    (s.name.not_keyword _ (by cases loops <;> decide)).symm
  have hother {w : String} (hw : w ∈ ["return", "console", "log"]) :
      w.toList ≠ (word loops).toList := by
    revert w
    cases loops <;> decide
  unfold bodyPrinted body
  split
  · simpa using ⟨by cases loops <;> decide, by cases loops <;> decide, hname⟩
  · split
    · simpa using ⟨by cases loops <;> decide, hname⟩
    · exact absurd ‹_› ‹_›
    · simpa using hname

theorem isPlain_word (loops : Bool) : (Cue.word (word loops).toList).isPlain = true := by
  cases loops <;> decide

/-- A header is not found where its word is missing. -/
theorem misses_header {spelled : Spelled} {loops : Bool} (hidle : spelled.IsIdle)
    (hnot : ∀ part ∈ spelled, part.1 ≠ (word loops).toList)
    (hrest : rest.head?.all (· = '\n') = true) :
    (header (word loops)).Misses before spelled.text rest := by
  refine misses_of_shows (header_shows _ (isPlain_word loops)) (by simpa using isPlain_word loops)
    hrest fun cue hcue hin => ?_
  obtain rfl := List.mem_singleton.mp hcue
  rcases Spelled.mem_words_text hidle.isApart hin with hnil | ⟨part, hpart, hword⟩
  · exact (isWordRun_word loops).ne_nil hnil
  · exact hnot part hpart hword.symm

/-- The condition of the header. -/
def condition (s : OneLine) : List Char :=
  s.left.chars ++ ((' ' :: (s.comparison.sign.toList ++ [' '])) ++ s.right.chars)

theorem head?_condition (s : OneLine) : s.condition.head?.any (!isBlank ·) = true :=
  head?_append_of_any _ (head?_ink_of_isWordRun s.left.isWordRun)

theorem not_mem_condition (s : OneLine) : ∀ c ∈ s.condition, (c != ':' && c != '\n') = true := by
  have hword {c : Char} (hc : isWord c = true) : (c != ':' && c != '\n') = true := by
    have hcolon : c ≠ ':' := ne_of_isWord (by decide) hc
    have hfeed : c ≠ '\n' := ne_of_isWord (by decide) hc
    simp [hcolon, hfeed]
  simp only [condition, List.forall_mem_append]
  refine ⟨fun c hc => hword (s.left.isWordRun.isWord c hc), ?_,
    fun c hc => hword (s.right.isWordRun.isWord c hc)⟩
  cases s.comparison <;> decide

/-- **The header is written and opens a block**, and the body stays behind it. -/
theorem turns_header {rule : Rule} (hpattern : rule.pattern = header (word s.loops))
    (hphrase : ∀ x, rule.phrase.fill (fillers [x]) =
      (word s.loops).toList ++ (" (".toList ++ (x ++ ") \x7b".toList)))
    (hb : b.IsIdle) (hnot : ∀ part ∈ b, part.1 ≠ (word s.loops).toList) :
    rule.Turns (Spelled.text (s.head false ++ b)) (Spelled.text (s.head true ++ b)) := by
  have hfill : rule.phrase.stencil.fill (fillers [s.condition]) =
      (word s.loops).toList ++ (" (".toList ++ (s.condition ++ ") \x7b".toList)) := by
    rw [Phrase.fill_stencil, hphrase]
  have hname : (word s.loops).toList.head?.any isWord = true := by cases s.loops <;> decide
  have hspace : (header (word s.loops)).Shuns (· == ' ') :=
    shuns_keyword (by cases s.loops <;> decide)
  have hsource : Spelled.text (s.head false ++ b) =
      (word s.loops).toList ++ (" ".toList ++ (s.condition ++ ":".toList)) ++
        ([' '] ++ b.text) := by
    simp [head, condition]
  have htarget : Spelled.text (s.head true ++ b) =
      rule.phrase.stencil.fill (fillers [s.condition]) ++ ([' '] ++ b.text) := by
    rw [hfill]
    simp [head, condition]
  rw [hsource, htarget]
  refine Rule.turns_of_reads_front ?_ (fun before rest hbefore _ => ?_)
    fun before rest hrest => ?_
  · simp
  · rw [hpattern]
    exact header_reads_text (head?_condition s) (not_mem_condition s) hname
      (head?_of_lineFeed rfl hbefore)
  · rw [hpattern]
    exact .append (misses_of_shuns hspace (by simp)) (misses_header hb hnot hrest)

/-- A header of the other kind is left alone. -/
theorem leaves_header {rule : Rule} (loops : Bool) (hpattern : rule.pattern = header (word loops))
    (hloops : s.loops = !loops) : rule.Leaves (Spelled.text (s.head written ++ s.bodyPrinted)) := by
  have hname (x : Identifier) : x.chars ≠ (word loops).toList :=
    (x.not_keyword _ (by cases loops <;> decide)).symm
  have hhead : ∀ part ∈ s.head written, part.1 ≠ (word loops).toList := by
    simpa [head, hloops] using ⟨by cases loops <;> decide, hname s.left, hname s.right⟩
  refine Rule.leaves_of_misses fun before rest _ hrest => ?_
  rw [hpattern]
  refine misses_header (isIdle_head_append (isIdle_bodyPrinted s)) ?_ hrest
  exact List.forall_mem_append.mpr ⟨hhead, ne_word_bodyPrinted loops⟩

/-- **The rule for branches** turns the statements with `if`. -/
theorem turns_if (s : OneLine) : (⟨"if", header "if", ["if (", 1, ") \x7b"]⟩ : Rule).Turns
    (Spelled.text (s.head false ++ s.bodyPrinted))
    (Spelled.text (s.head (!s.loops) ++ s.bodyPrinted)) := by
  cases hloops : s.loops with
  | false =>
    have hphrase (x : List Char) : Phrase.fill ["if (", 1, ") \x7b"] (fillers [x]) =
        (word s.loops).toList ++ (" (".toList ++ (x ++ ") \x7b".toList)) := by
      simp [Phrase.fill, Piece.fill, fillers, word, hloops]
    exact turns_header (hloops ▸ rfl) hphrase (isIdle_bodyPrinted s) (ne_word_bodyPrinted _)
  | true => exact leaves_header false rfl hloops

/-- **The rule for loops** turns the statements with `while`. -/
theorem turns_while (s : OneLine) :
    (⟨"while", header "while", ["while (", 1, ") \x7b"]⟩ : Rule).Turns
      (Spelled.text (s.head (!s.loops) ++ s.bodyPrinted))
      (Spelled.text (s.head true ++ s.bodyPrinted)) := by
  cases hloops : s.loops with
  | false => exact leaves_header true rfl hloops
  | true =>
    have hphrase (x : List Char) : Phrase.fill ["while (", 1, ") \x7b"] (fillers [x]) =
        (word s.loops).toList ++ (" (".toList ++ (x ++ ") \x7b".toList)) := by
      simp [Phrase.fill, Piece.fill, fillers, word, hloops]
    exact turns_header (hloops ▸ rfl) hphrase (isIdle_bodyPrinted s) (ne_word_bodyPrinted _)

/-! ### Rules at the start of a line -/

/-- A line starts with a word, a space and a name. -/
theorem exists_text_eq (s : OneLine) (b : Spelled) : ∃ c more, isWord c = true ∧
    Spelled.text (s.head false ++ b) = (word s.loops).toList ++ ([' '] ++ c :: more) := by
  obtain ⟨c, left, hleft, hc⟩ := s.left.isWordRun.exists_cons
  obtain ⟨tail, htail⟩ : ∃ tail, Spelled.text (s.head false ++ b) =
      (word s.loops).toList ++ ([' '] ++ (s.left.chars ++ tail)) :=
    ⟨_, by simp only [head, List.cons_append, Spelled.text_cons]; rfl⟩
  exact ⟨c, left ++ tail, hc, by rw [htail, hleft]; rfl⟩

/-- **A pattern that is read at the start of a line** passes over one that it cannot be read at. -/
theorem leaves_of_startsLine {rule : Rule} (hstarts : rule.pattern.StartsLine)
    (hrefuses : ∀ {before more : List Char} {c : Char}, before.head?.all (· = '\n') = true →
      isWord c = true → rule.pattern.readAt?
        ⟨before, (word s.loops).toList ++ ([' '] ++ c :: more), []⟩ = none) :
    rule.Leaves (Spelled.text (s.head false ++ s.bodyPrinted)) := by
  obtain ⟨c, more, hc, htext⟩ := s.exists_text_eq s.bodyPrinted
  have hidle := (isIdle_outputWritten s).idle
  refine Rule.leaves_of_misses fun before rest hbefore _ => ?_
  refine misses_of_startsLine hstarts (fun hfeed => absurd (hidle.allowed _ hfeed) (by decide)) ?_
  rw [htext]
  have hnone : rule.pattern.readAt?
      ⟨before, (word s.loops).toList ++ ([' '] ++ c :: (more ++ rest)), []⟩ = none :=
    hrefuses hbefore hc
  simpa using hnone

/-- No rule for assignments takes a statement behind a header. -/
theorem leaves_assign (s : OneLine) {rule : Rule} {value : List Pattern}
    (hpattern : rule.pattern = assign value) :
    rule.Leaves (Spelled.text (s.head false ++ s.bodyPrinted)) := by
  refine leaves_of_startsLine (hpattern ▸ startsLine_edge_seq) fun {before more c} hbefore hc => ?_
  have hnone : (assign value).readAt?
      ⟨before, [] ++ ((word s.loops).toList ++ ([' '] ++ c :: more)), []⟩ = none :=
    assign_refuses (by simp) (isWordRun_word _).isWord (by decide) (isMargin_of_isWord c hc)
      (ne_of_isWord (by decide) hc) (fun hnil => absurd hnil (isWordRun_word _).ne_nil) (by simp)
      hbefore
  rw [hpattern]
  exact hnone

/-- The rule for `return` takes no statement behind a header. -/
theorem leaves_return (s : OneLine) :
    Shared.returnStatement.Leaves (Spelled.text (s.head false ++ s.bodyPrinted)) := by
  refine leaves_of_startsLine startsLine_edge_seq fun {before more c} hbefore _ => ?_
  have hline : ∃ d tail, (word s.loops).toList ++ ([' '] ++ c :: more) = d :: tail ∧
      isMargin d = false ∧ d ≠ 'r' := by
    cases s.loops
    · exact ⟨'i', _, rfl, by decide, by decide⟩
    · exact ⟨'w', _, rfl, by decide, by decide⟩
  obtain ⟨d, tail, hline, hmargin, hd⟩ := hline
  have hnone : returnLine.readAt? ⟨before, [] ++ d :: tail, []⟩ = none := by
    rw [readAt?, returnLine, read_lineStart hbefore,
      read_indentation (by simp) (by simpa using hmargin) (shuns_sign (by decide))]
    exact read_sign_of_ne rfl hd
  rw [hline]
  exact hnone

end OneLine

end Source

/-! ## Texts of statements -/

namespace Chain

open OneLine

variable {f g : OneLine → Spelled} {rule : Rule} {rules : List Rule}

/-- A statement on each line. -/
def oneLines (f : OneLine → Spelled) (ss : List OneLine) : List Char :=
  joinLines (ss.map fun s => (f s).text)

/-- Rules that look for something else leave the text alone. -/
theorem applyAll_oneLines (hrules : rules ⊆ javaScriptRules)
    (hpasses : rules.all
      (Rule.passes (Rule.orLineFeed isOneLineChar) Spelled.IsIdle.cues) = true)
    (hf : ∀ s, (f s).IsIdle) (ss : List OneLine) :
    Rule.applyAll rules (oneLines f ss) = oneLines f ss := by
  refine Rule.applyAll_of_passes called_toJavaScript hrules hpasses
    (Rule.Idle.joinLines ?_ (by decide))
  simpa using fun s _ => (hf s).idle

/-- A rule that turns each statement turns the text. -/
theorem apply_oneLines (hbreak : rule.pattern.Shuns (· == '\n'))
    (h : ∀ s, rule.TurnsBefore (opensCall · = false) (f s).text (g s).text)
    (hstart : ∀ s rest, opensCall ((f s).text ++ rest) = false) (ss : List OneLine) :
    rule.apply (oneLines f ss) = oneLines g ss := by
  have hfeed (rest : List Char) : opensCall ('\n' :: rest) = opensCall rest := by
    rw [opensCall, opensCall, List.dropWhile_cons_of_pos (by decide)]
  have hturns : List.Forall₂ (rule.TurnsBefore (opensCall · = false))
      (ss.map fun s => (f s).text) (ss.map fun s => (g s).text) := by
    rw [List.forall₂_map_left_iff, List.forall₂_map_right_iff, List.forall₂_same]
    exact fun s _ => h s
  refine Rule.replaceFrom_joinLines hbreak hturns ?_ rfl [] rfl
  rw [List.forall_mem_map]
  exact fun s _ rest => (hfeed _).trans (hstart s rest)

/-- A word starts each line. -/
theorem opensCall_line (s : OneLine) (written : Bool) (b : Spelled) (rest : List Char) :
    opensCall (Spelled.text (s.head written ++ b) ++ rest) = false := by
  have hword : closesOff (word s.loops).toList = true := by cases s.loops <;> decide
  rw [head, List.cons_append, Spelled.text_cons, List.append_assoc]
  exact opensCall_append hword _

/-- No text stands between quotes. -/
theorem apply_oneLines_callText {callee : String} {quote : Char}
    (hpattern : rule.pattern = callText callee quote)
    (hplain : (Cue.word callee.toList).isPlain = true)
    (hquote : Rule.orLineFeed isOneLineChar quote = false) (hf : ∀ s, (f s).IsIdle)
    (ss : List OneLine) : rule.apply (oneLines f ss) = oneLines f ss := by
  have hidle : Rule.Idle (Rule.orLineFeed isOneLineChar) Spelled.IsIdle.cues (oneLines f ss) :=
    Rule.Idle.joinLines (by simpa using fun s _ => (hf s).idle) (by decide)
  refine Rule.apply_callText hpattern hplain fun hmem => ?_
  simp [hidle.allowed quote hmem] at hquote

/-! ### The rules that find something -/

/-- Calls of `print` are turned first. -/
theorem apply_print (ss : List OneLine) :
    (⟨"print_expr", printExpr, ["console.log(", 1, ");"]⟩ : Rule).apply (oneLines inPython ss) =
      oneLines outputWritten ss :=
  apply_oneLines ((call_shows _ _ (by decide)).shuns_lineFeed (by decide)) turns_print
    (fun s => opensCall_line s _ _) ss

/-- The rules for assignments find nothing. -/
theorem applyAll_assigns (ss : List OneLine) :
    Rule.applyAll ((javaScriptRules.drop 3).take 9) (oneLines outputWritten ss) =
      oneLines outputWritten ss := by
  have hpatterns : ((javaScriptRules.drop 3).take 9).map (·.pattern) =
      (assignForms "javascript").map AssignForm.pattern := rfl
  refine Rule.applyAll_eq_self fun rule hrule => ?_
  have hmem : rule.pattern ∈ (assignForms "javascript").map AssignForm.pattern :=
    hpatterns ▸ List.mem_map_of_mem hrule
  obtain ⟨form, -, hform⟩ := List.mem_map.mp hmem
  obtain ⟨value, hvalue⟩ := form.exists_pattern_eq
  have hassign : rule.pattern = assign value := hform.symm.trans hvalue
  exact apply_oneLines (hassign ▸ (assign_shows value).shuns_lineFeed (by decide))
    (fun s => Rule.turnsBefore_of_turns (leaves_assign s hassign))
    (fun s => opensCall_line s _ _) ss

/-- The rule for `return` finds nothing. -/
theorem apply_return (ss : List OneLine) :
    Shared.returnStatement.apply (oneLines outputWritten ss) = oneLines outputWritten ss :=
  apply_oneLines (returnLine_shows.shuns_lineFeed (by decide))
    (fun s => Rule.turnsBefore_of_turns (leaves_return s)) (fun s => opensCall_line s _ _) ss

/-- The headers of branches are turned next. -/
theorem apply_if (ss : List OneLine) :
    (⟨"if", header "if", ["if (", 1, ") \x7b"]⟩ : Rule).apply (oneLines outputWritten ss) =
      oneLines branchWritten ss :=
  apply_oneLines ((header_shows "if" (by decide)).shuns_lineFeed (by decide))
    (fun s => Rule.turnsBefore_of_turns (turns_if s)) (fun s => opensCall_line s _ _) ss

/-- The headers of loops are turned behind them. -/
theorem apply_while (ss : List OneLine) :
    (⟨"while", header "while", ["while (", 1, ") \x7b"]⟩ : Rule).apply (oneLines branchWritten ss) =
      oneLines headerWritten ss :=
  apply_oneLines ((header_shows "while" (by decide)).shuns_lineFeed (by decide))
    (fun s => Rule.turnsBefore_of_turns (turns_while s)) (fun s => opensCall_line s _ _) ss

/-- The rule for lengths finds nothing. -/
theorem apply_len (ss : List OneLine) :
    (⟨"len", len, [1, ".length"]⟩ : Rule).apply (oneLines headerWritten ss) =
      oneLines headerWritten ss :=
  apply_oneLines (len_shows.shuns_lineFeed (by decide)) leaves_len
    (fun s => opensCall_line s _ _) ss

/-- Calls of `input` are turned last. -/
theorem apply_input (ss : List OneLine) :
    (⟨"input_expr", inputExpr, ["prompt(", 1, ")"]⟩ : Rule).apply (oneLines headerWritten ss) =
      oneLines inJavaScript ss :=
  apply_oneLines ((call_shows _ _ (by decide)).shuns_lineFeed (by decide)) turns_input
    (fun s => opensCall_line s _ _) ss

/-! ### The table -/

/-- These rules, and what is between them. -/
theorem rules_toJavaScript : toJavaScript.rules =
    ⟨"print_double", callText "print" '"', ["console.log(", "\"", 1, "\"", ");"]⟩ ::
    ⟨"print_single", callText "print" '\'', ["console.log(", "'", 1, "'", ");"]⟩ ::
    ⟨"print_expr", printExpr, ["console.log(", 1, ");"]⟩ ::
    ((javaScriptRules.drop 3).take 9 ++ ((javaScriptRules.drop 12).take 1 ++
    Shared.returnStatement :: ⟨"if", header "if", ["if (", 1, ") \x7b"]⟩ ::
    ((javaScriptRules.drop 15).take 2 ++
    ⟨"while", header "while", ["while (", 1, ") \x7b"]⟩ ::
    ((javaScriptRules.drop 18).take 6 ++ ⟨"len", len, [1, ".length"]⟩ ::
    ((javaScriptRules.drop 25).take 9 ++
    ⟨"input_double", callText "input" '"', ["prompt(\"", 1, "\")"]⟩ ::
    ⟨"input_single", callText "input" '\'', ["prompt('", 1, "')"]⟩ ::
    ⟨"input_expr", inputExpr, ["prompt(", 1, ")"]⟩ :: javaScriptRules.drop 37))))) := rfl

/-- What is between them looks for something else. -/
theorem passes_toJavaScript : ∀ rules ∈ [(javaScriptRules.drop 12).take 1,
    (javaScriptRules.drop 15).take 2, (javaScriptRules.drop 18).take 6,
    (javaScriptRules.drop 25).take 9, javaScriptRules.drop 37],
      rules.all (Rule.passes (Rule.orLineFeed isOneLineChar) Spelled.IsIdle.cues) = true := by
  decide

/-- **The rules write each of the statements**, and no other text. -/
theorem runRules_oneLines (ss : List OneLine) :
    toJavaScript.runRules (oneLines inPython ss) = oneLines inJavaScript ss := by
  have hdef := passes_toJavaScript _ (.head _)
  have helse := passes_toJavaScript _ (.tail _ (.head _))
  have hfor := passes_toJavaScript _ (.tail _ (.tail _ (.head _)))
  have hvalues := passes_toJavaScript _ (.tail _ (.tail _ (.tail _ (.head _))))
  have hlast := passes_toJavaScript _ (.tail _ (.tail _ (.tail _ (.tail _ (.head _)))))
  have hsub (m n : Nat) : (javaScriptRules.drop m).take n ⊆ javaScriptRules :=
    List.Subset.trans (List.take_subset _ _) (List.drop_subset _ _)
  have hdouble : Rule.orLineFeed isOneLineChar '"' = false := by decide
  have hsingle : Rule.orLineFeed isOneLineChar '\'' = false := by decide
  rw [runRules, rules_toJavaScript, Rule.applyAll_cons,
    apply_oneLines_callText rfl (by decide) hdouble isIdle_inPython, Rule.applyAll_cons,
    apply_oneLines_callText rfl (by decide) hsingle isIdle_inPython, Rule.applyAll_cons,
    apply_print, Rule.applyAll_append, applyAll_assigns, Rule.applyAll_append,
    applyAll_oneLines (hsub _ _) hdef isIdle_outputWritten, Rule.applyAll_cons, apply_return,
    Rule.applyAll_cons, apply_if, Rule.applyAll_append,
    applyAll_oneLines (hsub _ _) helse isIdle_branchWritten, Rule.applyAll_cons, apply_while,
    Rule.applyAll_append, applyAll_oneLines (hsub _ _) hfor isIdle_headerWritten,
    Rule.applyAll_cons, apply_len, Rule.applyAll_append,
    applyAll_oneLines (hsub _ _) hvalues isIdle_headerWritten, Rule.applyAll_cons,
    apply_oneLines_callText rfl (by decide) hdouble isIdle_headerWritten, Rule.applyAll_cons,
    apply_oneLines_callText rfl (by decide) hsingle isIdle_headerWritten, Rule.applyAll_cons,
    apply_input]
  exact applyAll_oneLines (List.drop_subset _ _) hlast isIdle_inJavaScript ss

/-! ### Blocks -/

/-- A body ends with ink, and not with a brace. -/
theorem getLast?_bodyCalled (s : OneLine) :
    ∃ c, s.bodyCalled.text.getLast? = some c ∧ isBlank c = false ∧ c ≠ '{' := by
  cases hdeed : s.deed with
  | give =>
    obtain ⟨c, hc⟩ : ∃ c, s.name.chars.getLast? = some c :=
      ⟨_, List.getLast?_eq_some_getLast s.name.isWordRun.ne_nil⟩
    have hword : isWord c = true := s.name.isWordRun.isWord c (List.mem_of_getLast? hc)
    have htext : s.bodyCalled.text = "return ".toList ++ s.name.chars := by
      simp [bodyCalled, bodyPrinted, body, hdeed]
    refine ⟨c, ?_, isBlank_of_isWord c hword, ne_of_isWord (by decide) hword⟩
    rw [htext, List.getLast?_append, hc]
    rfl
  | print =>
    have htext : s.bodyCalled.text = "console.log(".toList ++ s.name.chars ++ ");".toList := by
      simp [bodyCalled, bodyPrinted, hdeed]
    refine ⟨';', ?_, by decide⟩
    rw [htext, List.getLast?_append]
    rfl
  | call =>
    refine ⟨')', ?_, by decide⟩
    simp only [bodyCalled, hdeed, Spelled.text_cons, Spelled.text_nil, List.append_nil]
    rw [List.getLast?_append]
    rfl

/-- **A line opens its block in its middle**, so it is not seen to open one. -/
theorem opens_inJavaScript (s : OneLine) : Closer.brace.opens s.inJavaScript.text = false := by
  obtain ⟨c, hlast, hblank, hc⟩ := getLast?_bodyCalled s
  have hline : s.inJavaScript.text.getLast? = some c := by
    rw [inJavaScript, Spelled.text_append, List.getLast?_append, hlast]
    rfl
  rw [Closer.opens_brace hline hblank]
  simpa using hc

/-- The only brace of a line is the one behind its condition. -/
theorem braces_inJavaScript (s : OneLine) : braces s.inJavaScript.text = ['{'] := by
  have hword : ∀ c, isWord c = true → isBrace c = false := fun c hc => by
    have hopen : c ≠ '{' := ne_of_isWord (by decide) hc
    have hclose : c ≠ '}' := ne_of_isWord (by decide) hc
    simp [isBrace, hopen, hclose]
  have hhead : ((s.head true).flatMap fun part => part.2.filter isBrace) = ['{'] := by
    unfold head
    cases s.comparison <;> rfl
  have hbody : (s.bodyCalled.flatMap fun part => part.2.filter isBrace) = [] := by
    cases hdeed : s.deed <;> simp only [bodyCalled, bodyPrinted, body, hdeed] <;> rfl
  rw [braces, Spelled.filter_text hword (isIdle_inJavaScript s).isApart, inJavaScript,
    List.flatMap_append, hhead, hbody]
  rfl

/-- No block is closed, for none is seen to be opened. -/
theorem closeText_oneLines (ss : List OneLine) :
    Closer.brace.closeText .stack (oneLines inJavaScript ss) = oneLines inJavaScript ss := by
  have hopens : ∀ line ∈ lines (oneLines inJavaScript ss), Closer.brace.opens line = false := by
    cases ss with
    | nil => decide
    | cons s ss =>
      have hlines : ∀ line ∈ (s :: ss).map (·.inJavaScript.text), '\n' ∉ line :=
        List.forall_mem_map.mpr fun s _ hfeed =>
          absurd ((isIdle_inJavaScript s).idle.allowed _ hfeed) (by decide)
      rw [oneLines, lines_joinLines hlines (by simp)]
      exact List.forall_mem_map.mpr fun s _ => opens_inJavaScript s
  rw [Closer.closeText, Closer.close, Closer.closeStack_eq_self hopens, joinLines_lines]

/-- **Each statement leaves a brace open.** -/
theorem lineBraces_inJavaScript (ss : List OneLine) :
    lineBraces (ss.map (·.inJavaScript.text)) = List.replicate ss.length '{' := by
  induction ss with
  | nil => rfl
  | cons s ss ih =>
    rw [List.map_cons, lineBraces, List.flatMap_cons, braces_inJavaScript, ← lineBraces, ih]
    rfl

/-- **Statements on one line open a block each, and none of the blocks is closed.** Headers are
written wherever they stand, but only the end of a line is looked at for a block that is opened. -/
theorem transform_oneLines (ss : List OneLine) :
    toJavaScript.transform .stack (oneLines inPython ss) = oneLines inJavaScript ss ∧
      (toJavaScript.transform .stack (oneLines inPython ss)).count '{' = ss.length ∧
      (toJavaScript.transform .stack (oneLines inPython ss)).count '}' = 0 := by
  have htransform :
      toJavaScript.transform .stack (oneLines inPython ss) = oneLines inJavaScript ss := by
    have hclose : toJavaScript.closeBlocks .stack (oneLines inJavaScript ss) =
        Closer.brace.closeText .stack (oneLines inJavaScript ss) := rfl
    have hwrap (body : List Char) : toJavaScript.wrapBody body = body := rfl
    rw [transform, hwrap, runRules_oneLines, hclose, closeText_oneLines]
  have hbraces : braces (oneLines inJavaScript ss) = List.replicate ss.length '{' := by
    rw [oneLines, braces_joinLines, lineBraces_inJavaScript]
  have hcount {c : Char} (hc : isBrace c = true) :
      (oneLines inJavaScript ss).count c = (List.replicate ss.length '{').count c := by
    rw [← hbraces, braces, List.count_filter hc]
  rw [htransform]
  refine ⟨rfl, ?_, ?_⟩
  · rw [hcount rfl, List.count_replicate_self]
  · rw [hcount rfl, List.count_replicate, if_neg (by decide)]

/-- A branch that returns from its line. -/
def returningBranch : List Char := "if a < b: return x".toList

/-- Its block is opened and not closed. -/
theorem count_braces_returningBranch :
    (toJavaScript.transform .stack returningBranch).count '{' = 1 ∧
      (toJavaScript.transform .stack returningBranch).count '}' = 0 := by
  decide

end Chain

end Recast
