import Recast.Chain.FromJavaScript
import Recast.Proofs.Chain.Readings

/-!
# Proofs/Chain/BraceForms — the statement forms of JavaScript on their statements

What the rules from JavaScript look for, the cues by which they are missed, and how they read the
statements that they are made for. Blanks are allowed almost anywhere in a header, and they may run
over line ends; between the parts of a line that a program has, there is one space or none.
-/

namespace Recast.Chain

open Form Pattern Text Source

variable {ps : List Pattern} {next : Next} {before rest x y : List Char}
  {kept : List (Nat × Stretch)}
  {depth number : Nat} {sign : String} {spot : Spot} {p q : Pattern} {c : Char}

/-! ## Patterns -/

/-- `console.log(…);`. -/
def consoleLog : Pattern :=
  all ["console.log", blanks, "(", blanks, between 1, blanks, ")", blanks, optional ";"]

/-- `let name = value;` on a line of its own. -/
def declaration : Pattern :=
  all [.edge .lineStart, .group 1 margin, declarers, gap, .group 2 word, blanks, "=", blanks,
    .group 3 (many1 fun c => c != ';' && c != '\n'), optional ";"]

/-- `function name(parameters) {`. -/
def function : Pattern :=
  all [keyword "function", gap, .group 1 word, blanks, "(",
    .group 2 (many (isNot ')')), ")", blanks,
    "\x7b"]

/-- `if (condition) {`, unless it follows `else`. -/
def ifHeader : Pattern := braceHeader [.edge (.notBehind "else "), keyword "if"]

/-- `} else if (condition) {`. -/
def elseIfHeader : Pattern := braceHeader ["\x7d", blanks, "else", gap, "if"]

/-- `} else {`. -/
def elseHeader : Pattern := all ["\x7d", blanks, "else", blanks, "\x7b"]

/-- `while (condition) {`. -/
def whileHeader : Pattern := braceHeader [keyword "while"]

/-! ## Cues -/

/-- Part of a text shows too. -/
theorem shows_text_behind {a b : List Char} {word : String} (hword : word.toList = a ++ b)
    (ha : '\n' ∉ a) : (Pattern.text word).Shows [.text b] := by
  intro _ s h
  obtain ⟨rest, hrest, -⟩ := exists_of_read_text h
  exact ⟨_, List.mem_singleton_self _, a, b ++ rest, ha, by rw [hrest, hword, List.append_assoc],
    rest, rfl⟩

/-- An output shows the name of the method. What it is called on is not read. -/
theorem consoleLog_shows : consoleLog.Shows [.text ".log".toList] :=
  (shows_text_behind (a := "console".toList) rfl (by decide)).seq

/-- A definition shows its keyword, and so do the headers below, but for those that go on with a
block. -/
theorem function_shows : function.Shows [.word "function".toList] :=
  shows_keyword (by decide) shuns_gap

theorem ifHeader_shows : ifHeader.Shows [.word "if".toList] :=
  .behind stays_edge (shows_keyword (by decide) (shuns_blanks isBlank_of_isWord (shuns_sign rfl)))

/-- A header that goes on with a block shows the brace of the block before. -/
theorem elseIfHeader_shows : elseIfHeader.Shows [.text ['}']] := shows_text.seq

theorem elseHeader_shows : elseHeader.Shows [.text ['}']] := shows_text.seq

theorem whileHeader_shows : whileHeader.Shows [.word "while".toList] :=
  shows_keyword (by decide) (shuns_blanks isBlank_of_isWord (shuns_sign rfl))

theorem countedHeader_shows : countedHeader.Shows [.word "for".toList] :=
  shows_keyword (by decide) (shuns_blanks isBlank_of_isWord (shuns_sign rfl))

theorem memberHeader_shows : memberHeader.Shows [.word "for".toList] :=
  shows_keyword (by decide) (shuns_blanks isBlank_of_isWord (shuns_sign rfl))

/-- A length shows its dot and name. -/
theorem lengthOf_shows : lengthOf.Shows [.text ".length".toList] :=
  .behind stays_edge (.behind (stays_many1 (by decide)).group shows_text.seq)

/-! ## Output and declarations -/

/-- A declaration starts with the letter of one of its words. -/
theorem shuns_declarers {allowed : Char → Bool} (hl : allowed 'l' = false)
    (hc : allowed 'c' = false) (hv : allowed 'v' = false) :
    (all (declarers :: ps)).Shuns allowed := by
  have hlet : (Pattern.text "let").Shuns allowed := shuns_text (by simp [hl])
  have hconst : (Pattern.text "const").Shuns allowed := shuns_text (by simp [hc])
  have hvar : (Pattern.text "var").Shuns allowed := shuns_text (by simp [hv])
  exact (hlet.alt (hconst.alt hvar)).seq

/-- An output is read up to its semicolon. -/
theorem consoleLog_reads (hx : IsWordRun x) :
    consoleLog.Reads before ("console.log(".toList ++ (x ++ ");".toList)) rest [x] := by
  have hparen : ∀ c ∈ x, isNot ')' c = true := isNot_of_ne (ne_of_mem_isWordRun hx (by decide))
  have hline : "console.log(".toList ++ (x ++ ");".toList) ++ rest =
      "console.log".toList ++ ("(".toList ++ (x ++ (")".toList ++ (";".toList ++ rest)))) := by simp
  apply Reads.intro
  · rw [hline, readAt?, consoleLog, read_sign, read_blanks rfl, read_sign,
      read_blanks (head?_of_isWordRun hx isBlank_of_isWord)]
    refine read_group_many1_of_eq_some hx.ne_nil hparen rfl ?_
    rw [read_blanks rfl, read_sign, read_blanks rfl]
    exact read_optional_of_eq_some rfl
  · exact keeps_nil.snoc x _

/-- A declaration is read from its indentation to its semicolon. -/
theorem declaration_reads (hx : IsWordRun x) (hy : IsWordRun y)
    (hbefore : before.head?.all (· = '\n') = true) :
    declaration.Reads before
      (indentation depth ++ ("let ".toList ++ (x ++ (" = ".toList ++ (y ++ ";".toList))))) rest
      [indentation depth, x, y] := by
  have hvalue : ∀ c ∈ y, (c != ';' && c != '\n') = true := fun c hc => by
    simp [ne_of_mem_isWordRun hy (d := ';') (by decide) c hc,
      ne_of_mem_isWordRun hy (d := '\n') (by decide) c hc]
  have hline : indentation depth ++ ("let ".toList ++
    (x ++ (" = ".toList ++ (y ++ ";".toList)))) ++ rest =
      indentation depth ++ ("let".toList ++ ([' '] ++ (x ++ ([' '] ++ ("=".toList ++ ([' '] ++
        (y ++ (";".toList ++ rest)))))))) := by simp
  apply Reads.intro
  · rw [hline, readAt?, declaration, read_lineStart hbefore,
      read_indentation isMargin_indentation rfl (shuns_declarers rfl rfl rfl)]
    refine read_alt_of_eq_some ((read_text _ _ _ _ _).trans ?_)
    rw [read_gap (head?_of_isWordRun hx isBlank_of_isWord),
      read_word hx rfl (shuns_blanks isBlank_of_isWord (shuns_sign rfl)),
      read_blanks_space rfl (shuns_sign rfl), read_sign]
    refine read_blanks_space_of_eq_some (head?_of_isWordRun hy isBlank_of_isWord) ?_
    exact read_group_many1_of_eq_some hy.ne_nil hvalue rfl (read_optional_of_eq_some rfl)
  · exact ((keeps_nil.snoc (indentation depth) _).snoc x _).snoc y _

/-- A definition is read up to its brace, with its parameters as one text. -/
theorem function_reads (hx : IsWordRun x) (hy : ∀ c ∈ y, c ≠ ')')
    (hbefore : before.head?.any isWord = false) :
    function.Reads before ("function ".toList ++ (x ++ ("(".toList ++ (y ++ ") \x7b".toList)))) rest
      [x, y] := by
  have hline : "function ".toList ++ (x ++ ("(".toList ++ (y ++ ") \x7b".toList))) ++ rest =
      "function".toList ++ ([' '] ++ (x ++ ("(".toList ++ (y ++ (")".toList ++ ([' '] ++
        ("\x7b".toList ++ rest))))))) := by simp
  apply Reads.intro
  · rw [hline, readAt?, function, read_keyword hbefore rfl,
      read_gap (head?_of_isWordRun hx isBlank_of_isWord),
      read_word hx rfl (shuns_blanks isBlank_of_isWord (shuns_sign rfl)),
        read_blanks rfl, read_sign,
      read_group_many (isNot_of_ne hy) rfl (shuns_sign rfl), read_sign,
      read_blanks_space rfl (shuns_sign rfl), read_sign]
    rfl
  · exact (keeps_nil.snoc x _).snoc y _

/-! ## Headers -/

/-- The condition of a header, between parentheses, and the brace behind it. -/
theorem read_condition (hx : x.head?.any (!isBlank ·) = true) (hparen : ∀ d ∈ x, d ≠ ')') :
    (all [blanks, "(", blanks, between 1, blanks, ")", blanks, "\x7b"]).read some
        ⟨before, " (".toList ++ (x ++ (") \x7b".toList ++ rest)), []⟩ =
      some ⟨") \x7b".toList.reverse ++ (x.reverse ++ (" (".toList.reverse ++ before)), rest,
        [(1, ⟨x ++ (") \x7b".toList ++ rest), ") \x7b".toList ++ rest⟩)]⟩ := by
  have hne : x ≠ [] := by
    rintro rfl
    exact absurd hx (by simp)
  have hline : " (".toList ++ (x ++ (") \x7b".toList ++ rest)) =
      [' '] ++ ("(".toList ++ (x ++ (") \x7b".toList ++ rest))) := by simp
  have hend : ") \x7b".toList ++ rest = ")".toList ++ ([' '] ++ ("\x7b".toList ++ rest)) := by simp
  rw [hline, read_blanks_space rfl (shuns_sign rfl), read_sign, read_blanks (head?_of_ink hx)]
  refine read_group_many1_of_eq_some hne (isNot_of_ne hparen) rfl ?_
  rw [hend, read_blanks rfl, read_sign, read_blanks_space rfl (shuns_sign rfl), read_sign]
  rfl

/-- A condition has no parenthesis in it that would end it. -/
theorem ne_of_mem_condition (c : Condition) : ∀ d ∈ c.text, d ≠ ')' :=
  ne_of_mem_tame c.tame (by decide)

/-- Behind its indentation a line does not continue an `else`. -/
theorem meets_notBehind (hbefore : before.head?.all (· = '\n') = true) :
    (⟨(indentation depth).reverse ++ before, rest, kept⟩ : Spot).meets
      (.notBehind "else ") = true := by
  have hword : "else ".toList.reverse = ' ' :: 'e' :: ['s', 'l', 'e'] := rfl
  rw [Spot.meets, hword, indentation, List.reverse_replicate]
  cases depth with
  | zero =>
    cases before with
    | nil => rfl
    | cons c before =>
      obtain rfl : c = '\n' := by simpa using hbefore
      rfl
  | succ depth => simp [Nat.mul_succ, List.replicate_succ, List.isPrefixOf]

/-- A branch is read up to the parenthesis behind its condition. -/
theorem ifHeader_reads_text (hx : x.head?.any (!isBlank ·) = true) (hparen : ∀ d ∈ x, d ≠ ')')
    (hbefore : before.head?.all (· = '\n') = true) :
    ifHeader.Reads ((indentation depth).reverse ++ before)
      ("if (".toList ++ (x ++ ") \x7b".toList)) rest [x] := by
  have hline : "if (".toList ++ (x ++ ") \x7b".toList) ++ rest =
      "if".toList ++ (" (".toList ++ (x ++ (") \x7b".toList ++ rest))) := by simp
  apply Reads.intro
  · rw [hline, readAt?, ifHeader, braceHeader]
    simp only [List.cons_append, List.nil_append]
    rw [all_cons, read_seq, read_edge _ (meets_notBehind hbefore),
      read_keyword (head?_behind_indentation depth hbefore) rfl, read_condition hx hparen]
  · exact keeps_nil.snoc x _

/-- The conditions of the fragment are such texts. -/
theorem ifHeader_reads (c : Condition) (hbefore : before.head?.all (· = '\n') = true) :
    ifHeader.Reads ((indentation depth).reverse ++ before)
      ("if (".toList ++ (c.text ++ ") \x7b".toList)) rest [c.text] :=
  ifHeader_reads_text (head?_of_condition c) (ne_of_mem_condition c) hbefore

/-- A branch that goes on with a block is read from the brace of that block. -/
theorem elseIfHeader_reads (c : Condition) :
    elseIfHeader.Reads before ("\x7d else if (".toList ++ (c.text ++ ") \x7b".toList)) rest
      [c.text] := by
  have hline : "\x7d else if (".toList ++ (c.text ++ ") \x7b".toList) ++ rest =
      "\x7d".toList ++ ([' '] ++ ("else".toList ++ ([' '] ++ ("if".toList ++ (" (".toList ++
        (c.text ++ (") \x7b".toList ++ rest))))))) := by simp
  apply Reads.intro
  · rw [readAt?, elseIfHeader, braceHeader]
    simp only [List.cons_append, List.nil_append]
    rw [hline, read_sign, read_blanks_space rfl (shuns_sign rfl), read_sign,
      read_gap rfl, read_sign, read_condition (head?_of_condition c) (ne_of_mem_condition c)]
  · exact keeps_nil.snoc c.text _

theorem elseHeader_reads : elseHeader.Reads before "\x7d else \x7b".toList rest [] := by
  have hline : "\x7d else \x7b".toList ++ rest =
      "\x7d".toList ++ ([' '] ++ ("else".toList ++ ([' '] ++ ("\x7b".toList ++ rest)))) := by simp
  apply Reads.intro
  · rw [hline, readAt?, elseHeader, read_sign, read_blanks_space rfl (shuns_sign rfl), read_sign,
      read_blanks_space rfl (shuns_sign rfl), read_sign]
    rfl
  · exact keeps_nil

/-- A loop with a condition is read as a branch is. -/
theorem whileHeader_reads (c : Condition) (hbefore : before.head?.any isWord = false) :
    whileHeader.Reads before ("while (".toList ++ (c.text ++ ") \x7b".toList)) rest [c.text] := by
  have hline : "while (".toList ++ (c.text ++ ") \x7b".toList) ++ rest =
      "while".toList ++ (" (".toList ++ (c.text ++ (") \x7b".toList ++ rest))) := by simp
  apply Reads.intro
  · rw [hline, readAt?, whileHeader, braceHeader]
    simp only [List.cons_append, List.nil_append]
    rw [read_keyword hbefore rfl, read_condition (head?_of_condition c) (ne_of_mem_condition c)]
  · exact keeps_nil.snoc c.text _

/-! ## Loops -/

/-- A counted loop names its counter three times, and each time it is the same. -/
theorem countedHeader_reads (hx : IsWordRun x) (n : Numeral)
    (hbefore : before.head?.any isWord = false) :
    countedHeader.Reads before ("for (let ".toList ++
      (x ++ (" = 0; ".toList ++ (x ++ (" < ".toList ++
      (n.digits ++ ("; ".toList ++ (x ++ "++) \x7b".toList)))))))) rest [x, n.digits] := by
  have hline : "for (let ".toList ++ (x ++ (" = 0; ".toList ++ (x ++ (" < ".toList ++
      (n.digits ++ ("; ".toList ++ (x ++ "++) \x7b".toList))))))) ++ rest =
      "for".toList ++ ([' '] ++ ("(".toList ++ ("let".toList ++ ([' '] ++ (x ++ ([' '] ++
        ("=".toList ++ ([' '] ++ ("0".toList ++ (";".toList ++ ([' '] ++ (x ++ ([' '] ++
          ("<".toList ++ ([' '] ++ (n.digits ++ (";".toList ++ ([' '] ++ (x ++ ("++".toList ++
            (")".toList ++ ([' '] ++ ("\x7b".toList ++ rest))))))))))))))))))))))) := by simp
  have hblank : ∀ more : List Char, (x ++ more).head?.any isBlank = false := fun _ =>
    head?_of_isWordRun hx isBlank_of_isWord
  apply Reads.intro
  · rw [hline, readAt?, countedHeader, read_keyword hbefore rfl,
      read_blanks_space rfl (shuns_sign rfl),
      read_sign, read_blanks rfl, read_sign, read_gap (hblank _),
      read_word hx rfl (shuns_blanks isBlank_of_isWord (shuns_sign rfl)),
      read_blanks_space rfl (shuns_sign rfl), read_sign, read_blanks_space rfl (shuns_sign rfl),
      read_sign, read_blanks rfl, read_sign]
    refine read_blanks_space_of_eq_some (hblank _) ?_
    rw [read_again (by simp [Spot.keptText?, Stretch.chars]),
      read_blanks_space rfl (shuns_sign rfl), read_sign,
      read_blanks_space (head?_of_numeral n isBlank_of_isWord) (shuns_digits isDigit_of_isBlank),
      read_digits n rfl (shuns_blanks isBlank_of_isDigit (shuns_sign rfl)),
        read_blanks rfl, read_sign]
    refine read_blanks_space_of_eq_some (hblank _) ?_
    rw [read_again (by simp [Spot.keptText?, List.lookup_cons, Stretch.chars]), read_sign,
      read_blanks rfl,
      read_sign, read_blanks_space rfl (shuns_sign rfl), read_sign]
    rfl
  · exact (keeps_nil.snoc x _).snoc n.digits _

/-- A loop over members is read up to its brace. -/
theorem memberHeader_reads (hx : IsWordRun x) (hy : IsWordRun y)
    (hbefore : before.head?.any isWord = false) :
    memberHeader.Reads before ("for (let ".toList ++
      (x ++ (" of ".toList ++ (y ++ ") \x7b".toList))))
      rest [x, y] := by
  have hparen : ∀ c ∈ y, isNot ')' c = true := isNot_of_ne (ne_of_mem_isWordRun hy (by decide))
  have hline : "for (let ".toList ++ (x ++ (" of ".toList ++ (y ++ ") \x7b".toList))) ++ rest =
      "for".toList ++ ([' '] ++ ("(".toList ++ ("let".toList ++ ([' '] ++ (x ++ ([' '] ++
        ("of".toList ++ ([' '] ++ (y ++ (")".toList ++ ([' '] ++
          ("\x7b".toList ++ rest)))))))))))) := by simp
  apply Reads.intro
  · rw [hline, readAt?, memberHeader, read_keyword hbefore rfl,
      read_blanks_space rfl (shuns_sign rfl),
      read_sign, read_blanks rfl]
    refine read_alt_of_eq_some ((read_text _ _ _ _ _).trans ?_)
    rw [read_gap (head?_of_isWordRun hx isBlank_of_isWord),
      read_word hx rfl shuns_gap, read_gap rfl,
      read_sign, read_gap (head?_of_isWordRun hy isBlank_of_isWord)]
    refine read_group_many1_of_eq_some hy.ne_nil hparen rfl ?_
    rw [read_sign, read_blanks_space rfl (shuns_sign rfl), read_sign]
    rfl
  · exact (keeps_nil.snoc x _).snoc y _

end Recast.Chain
