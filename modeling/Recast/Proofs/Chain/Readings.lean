import Recast.Proofs.Chain.Steps

/-!
# Proofs/Chain/Readings — the statement forms on the statements they are made for

Each form reads the line of its own shape from end to end, and its groups keep what fills the blanks
of the line. A counted loop is the one header that several forms begin to read: the forms differ in
their bounds, and stop where these do (`forRange1_refuses`, `forRange2_refuses`).
-/

namespace Recast.Form

open Pattern Text Source

variable {name : String} {ps : List Pattern} {next : Next} {before rest m x y : List Char}
  {kept : List (Nat × Stretch)} {number : Nat} {allowed : Char → Bool} {depth : Nat}

/-! ## Characters of values -/

/-- A name starts with nothing but a sign of a word. -/
theorem head?_of_isWordRun (hx : IsWordRun x) (h : ∀ c, isWord c = true → allowed c = false) :
    (x ++ rest).head?.any allowed = false := by
  obtain ⟨c, more, rfl, hc⟩ := hx.exists_cons
  exact h c hc

theorem head?_any_of_isWordRun (hx : IsWordRun x) (h : ∀ c, isWord c = true → allowed c = true) :
    x.head?.any allowed = true := by
  obtain ⟨c, more, rfl, hc⟩ := hx.exists_cons
  exact h c hc

theorem head?_ink_of_isWordRun (hx : IsWordRun x) : x.head?.any (!isBlank ·) = true :=
  head?_any_of_isWordRun hx fun c hc => by simp [isBlank_of_isWord c hc]

theorem ne_of_mem_isWordRun (hx : IsWordRun x) {d : Char} (hd : isWord d = false) :
    ∀ c ∈ x, c ≠ d := fun c hc => ne_of_isWord hd (hx.isWord c hc)

/-- No sign outside of values stands in a tame text. -/
theorem ne_of_mem_tame (hx : Tame x) {d : Char} (hd : isValueChar d = false) : ∀ c ∈ x, c ≠ d := by
  rintro c hc rfl
  rw [hx.valueChar c hc] at hd
  exact absurd hd (by decide)

theorem isNot_of_ne {stop : Char} (h : ∀ c ∈ x, c ≠ stop) : ∀ c ∈ x, isNot stop c = true :=
  fun c hc => by simpa [isNot] using h c hc

/-- What starts with ink does not start with a blank, whatever stands behind it. -/
theorem head?_of_ink (hx : x.head?.any (!isBlank ·) = true) :
    (x ++ rest).head?.any isBlank = false := by
  cases x with
  | nil => exact absurd hx (by simp)
  | cons c x => simpa using hx

/-- A condition starts with a word, and has a comparison behind a space. -/
theorem exists_of_condition (c : Condition) :
    ∃ w sign more, IsWordRun w ∧ isWord sign = false ∧ isBlank sign = false ∧
      c.text = w ++ ' ' :: sign :: more := by
  have hsign : c.comparison.sign.toList.head?.any (fun d => !isWord d && !isBlank d) = true := by
    cases c.comparison <;> decide
  cases hs : c.comparison.sign.toList with
  | nil => simp [hs] at hsign
  | cons sign more =>
    obtain ⟨hword, hblank⟩ : isWord sign = false ∧ isBlank sign = false := by simpa [hs] using hsign
    exact ⟨c.left.text, sign, _, c.left.isWordRun, hword, hblank, by rw [Condition.text, hs]; rfl⟩

/-- A condition starts with ink. -/
theorem head?_of_condition (c : Condition) : c.text.head?.any (!isBlank ·) = true := by
  obtain ⟨w, sign, more, hw, -, -, htext⟩ := exists_of_condition c
  rw [htext]
  exact head?_append_of_any _ (head?_ink_of_isWordRun hw)

theorem head?_of_numeral (n : Numeral) (h : ∀ c, isWord c = true → allowed c = false) :
    (n.digits ++ rest).head?.any allowed = false := head?_of_isWordRun n.isWordRun h

/-! ## Output -/

/-- What is printed reaches to the first closing parenthesis. -/
theorem printExpr_reads_argument (hne : x ≠ []) (hparen : ')' ∉ x)
    (hblank : x.head?.any isBlank = false) (hbefore : before.head?.any isWord = false) :
    printExpr.Reads before ("print(".toList ++ (x ++ ")".toList)) rest [x] := by
  have hinside : ∀ c ∈ x, isNot ')' c = true := isNot_of_ne fun c hc heq => hparen (heq ▸ hc)
  have hhead : (x ++ (")".toList ++ rest)).head?.any isBlank = false := by
    cases x with
    | nil => exact absurd rfl hne
    | cons c x => exact hblank
  have hline : "print(".toList ++ (x ++ ")".toList) ++ rest =
      "print".toList ++ ("(".toList ++ (x ++ (")".toList ++ rest))) := by simp
  apply Reads.intro
  · rw [hline, readAt?, printExpr, call]
    simp only [List.cons_append, List.nil_append]
    rw [read_keyword hbefore rfl, read_blanks rfl, read_sign, read_blanks hhead]
    refine read_group_many1_of_eq_some hne hinside rfl ?_
    rw [read_blanks rfl, read_sign]
    rfl
  · exact keeps_nil.snoc x _

/-- A printed expression is read up to the parenthesis. -/
theorem printExpr_reads (hx : IsWordRun x) (hbefore : before.head?.any isWord = false) :
    printExpr.Reads before ("print(".toList ++ (x ++ ")".toList)) rest [x] := by
  have hhead : (x ++ []).head?.any isBlank = false := head?_of_isWordRun hx isBlank_of_isWord
  exact printExpr_reads_argument hx.ne_nil
    (fun hmem => ne_of_mem_isWordRun hx (by decide) _ hmem rfl) (by simpa using hhead) hbefore

/-- A text between quotes may hold anything but the quote. -/
theorem callText_reads {callee : String} {quote : Char} (hne : x ≠ []) (hquote : quote ∉ x)
    (hcallee : callee.toList.head?.any isWord = true) (hblank : isBlank quote = false)
    (hbefore : before.head?.any isWord = false) :
    (callText callee quote).Reads before
      (callee.toList ++ ("(".toList ++ (quote :: (x ++ (quote :: ")".toList))))) rest [x] := by
  have hinside : ∀ c ∈ x, isNot quote c = true := isNot_of_ne fun c hc heq => hquote (heq ▸ hc)
  have hshuns : ∀ ps, (all (.one (· == quote) :: ps)).Shuns (isNot quote) := fun ps =>
    Shuns.seq (shuns_one fun c hc => by simpa [isNot] using hc)
  have hline : callee.toList ++ ("(".toList ++ (quote :: (x ++ (quote :: ")".toList)))) ++ rest =
      callee.toList ++ ("(".toList ++ (quote :: (x ++ (quote :: (")".toList ++ rest))))) := by simp
  apply Reads.intro
  · rw [hline, readAt?, callText, call, quotedText]
    simp only [List.cons_append, List.nil_append]
    rw [read_keyword hbefore hcallee, read_blanks rfl, read_sign,
      read_blanks (by simpa using hblank), all_cons, read_seq, read_one, if_pos (by simp),
      read_group_many1 hne hinside (by simp [isNot]) (hshuns _), all_cons, read_seq, read_one,
      if_pos (by simp), read_blanks rfl, read_sign]
    rfl
  · exact keeps_nil.snoc x _

/-! ## Headers -/

/-- **A header is read** up to its colon. -/
theorem header_reads_text (hx : x.head?.any (!isBlank ·) = true)
    (hcolon : ∀ d ∈ x, (d != ':' && d != '\n') = true)
    (hname : name.toList.head?.any isWord = true) (hbefore : before.head?.any isWord = false) :
    (header name).Reads before (name.toList ++ (" ".toList ++ (x ++ ":".toList))) rest [x] := by
  have hne : x ≠ [] := by
    rintro rfl
    exact absurd hx (by simp)
  have hline : name.toList ++ (" ".toList ++ (x ++ ":".toList)) ++ rest =
      name.toList ++ ([' '] ++ (x ++ (":".toList ++ rest))) := by simp
  apply Reads.intro
  · rw [hline, readAt?, header, read_keyword hbefore hname]
    rw [read_gap (head?_of_ink hx), read_group_few1 hne hcolon rfl (shuns_sign rfl), read_sign]
    rfl
  · exact keeps_nil.snoc x _

/-- A header with a condition is read with the condition as its value. -/
theorem header_reads (c : Condition) (hname : name.toList.head?.any isWord = true)
    (hbefore : before.head?.any isWord = false) :
    (header name).Reads before (name.toList ++ (" ".toList ++ (c.text ++ ":".toList))) rest
      [c.text] := by
  have hcolon : ∀ d ∈ c.text, (d != ':' && d != '\n') = true := fun d hd => by
    simp [ne_of_mem_tame c.tame (d := ':') (by decide) d hd,
      ne_of_mem_tame c.tame (d := '\n') (by decide) d hd]
  exact header_reads_text (head?_of_condition c) hcolon hname hbefore

/-- A header without a condition is read to its colon. -/
theorem bareHeader_reads (hname : name.toList.head?.any isWord = true)
    (hbefore : before.head?.any isWord = false) :
    (bareHeader name).Reads before (name.toList ++ ":".toList) rest [] := by
  have hline : name.toList ++ ":".toList ++ rest = name.toList ++ (":".toList ++ rest) := by simp
  apply Reads.intro
  · rw [hline, readAt?, bareHeader, read_keyword hbefore hname, read_blanks rfl, read_sign]
    rfl
  · exact keeps_nil

/-- A definition is read with its name and its parameters. -/
theorem definition_reads (hx : IsWordRun x) (hy : ∀ c ∈ y, c ≠ ')')
    (hbefore : before.head?.any isWord = false) :
    definition.Reads before ("def ".toList ++ (x ++ ("(".toList ++ (y ++ "):".toList)))) rest
      [x, y] := by
  have hline : "def ".toList ++ (x ++ ("(".toList ++ (y ++ "):".toList))) ++ rest =
      "def".toList ++ ([' '] ++ (x ++ ("(".toList ++ (y ++ (")".toList ++
        (":".toList ++ rest)))))) := by
    simp
  apply Reads.intro
  · rw [hline, readAt?, definition, read_keyword hbefore rfl,
      read_gap (head?_of_isWordRun hx isBlank_of_isWord),
      read_word hx rfl (shuns_blanks isBlank_of_isWord (shuns_sign rfl)),
        read_blanks rfl, read_sign,
      read_group_many (isNot_of_ne hy) rfl (shuns_sign rfl), read_sign, read_blanks rfl, read_sign]
    rfl
  · exact (keeps_nil.snoc x _).snoc y _

/-! ## Lines that start with their indentation -/

theorem isMargin_indentation : ∀ c ∈ indentation depth, isMargin c = true :=
  forall_mem_indentation (by decide)

/-- The spaces and tabs in front of a line, kept as the first group. -/
theorem read_indentation (hm : ∀ c ∈ m, isMargin c = true)
    (hrest : rest.head?.any isMargin = false) (hps : (all ps).Shuns isMargin) :
    (all (.group 1 margin :: ps)).read next ⟨before, m ++ rest, kept⟩ =
      (all ps).read next ⟨m.reverse ++ before, rest, (1, ⟨m ++ rest, rest⟩) :: kept⟩ :=
  read_group_many hm hrest hps

/-- **A returned value is read** to the end of its line. -/
theorem returnLine_reads_text (hm : ∀ c ∈ m, isMargin c = true)
    (hx : x.head?.any (!isBlank ·) = true) (hinline : ∀ c ∈ x, isInline c = true)
    (hbefore : before.head?.all (· = '\n') = true) (hrest : rest.head?.all (· = '\n') = true) :
    returnLine.Reads before (m ++ ("return ".toList ++ x)) rest [m, x] := by
  have hne : x ≠ [] := by
    rintro rfl
    exact absurd hx (by simp)
  have hline : m ++ ("return ".toList ++ x) ++ rest =
      m ++ ("return".toList ++ ([' '] ++ (x ++ rest))) := by simp
  apply Reads.intro
  · rw [hline, readAt?, returnLine, read_lineStart hbefore,
      read_indentation hm rfl (shuns_sign rfl), read_sign, read_gap (head?_of_ink hx),
      read_group_many1 hne hinline (head?_of_lineFeed rfl hrest) shuns_lineEnd,
      read_lineEnd hrest]
    rfl
  · exact (keeps_nil.snoc m _).snoc x _

theorem returnLine_reads (hx : IsWordRun x) (hbefore : before.head?.all (· = '\n') = true)
    (hrest : rest.head?.all (· = '\n') = true) :
    returnLine.Reads before (indentation depth ++ ("return ".toList ++ x)) rest
      [indentation depth, x] := by
  have hinline : ∀ c ∈ x, isInline c = true := fun c hc => by
    simpa [isInline] using ne_of_mem_isWordRun hx (d := '\n') (by decide) c hc
  exact returnLine_reads_text isMargin_indentation (head?_ink_of_isWordRun hx) hinline hbefore hrest

/-- A comment without the blanks that its text starts with. -/
theorem comment_reads {gap : List Char} (hm : ∀ c ∈ m, isMargin c = true)
    (hgap : ∀ c ∈ gap, isMargin c = true) (hx : x.head?.any isMargin = false)
    (hinline : ∀ c ∈ x, isInline c = true) (hbefore : before.head?.all (· = '\n') = true)
    (hrest : rest.head?.all (· = '\n') = true) :
    comment.Reads before (m ++ '#' :: (gap ++ x)) rest [m, x] := by
  have hline : m ++ '#' :: (gap ++ x) ++ rest = m ++ ("#".toList ++ (gap ++ (x ++ rest))) := by simp
  have hink : (x ++ rest).head?.any isMargin = false := (head?_any_append rfl hrest x).trans hx
  have hend {before : List Char} {kept : List (Nat × Stretch)} :
      (all [.group 2 (few isInline), .edge .lineEnd]).read some ⟨before, x ++ rest, kept⟩ =
        some ⟨x.reverse ++ before, rest, (2, ⟨x ++ rest, rest⟩) :: kept⟩ := by
    rw [read_group_few hinline (head?_of_lineFeed rfl hrest) shuns_lineEnd, read_lineEnd hrest]
    rfl
  apply Reads.intro
  · rw [hline, readAt?, comment, read_lineStart hbefore, read_indentation hm rfl (shuns_sign rfl),
      read_sign]
    exact read_many_of_eq_some hgap hink hend
  · exact (keeps_nil.snoc m _).snoc x _

/-- An assignment up to its equality sign. -/
theorem read_assign (value : List Pattern) (hm : ∀ c ∈ m, isMargin c = true) (hx : IsWordRun x)
    (hbefore : before.head?.all (· = '\n') = true) : ∃ before' : List Char,
    (assign value).readAt? ⟨before, m ++ (x ++ (" = ".toList ++ rest)), []⟩ =
      (all (margin :: (value ++ [.edge .lineEnd]))).read some ⟨before', [' '] ++ rest,
        [(2, ⟨x ++ (" = ".toList ++ rest), " = ".toList ++ rest⟩),
          (1, ⟨m ++ (x ++ (" = ".toList ++ rest)), x ++
            (" = ".toList ++ rest)⟩)]⟩ := by
  have hsign : " = ".toList ++ rest = [' '] ++ ("=".toList ++ ([' '] ++ rest)) := by simp
  refine ⟨?_, ?_⟩
  rotate_left
  · rw [readAt?, assign]
    simp only [List.cons_append, List.nil_append]
    rw [read_lineStart hbefore, read_indentation hm
        (head?_of_isWordRun hx isMargin_of_isWord) (shuns_word isWord_of_isMargin),
      read_word hx rfl (shuns_margin isMargin_of_isWord (shuns_sign rfl)), hsign,
      read_margin_space rfl (shuns_sign rfl), read_sign]
    rfl

/-- **An assignment is read if its value is**, up to the end of the line. -/
theorem assign_reads {value : List Pattern} (hm : ∀ c ∈ m, isMargin c = true) (hx : IsWordRun x)
    (hy : (y ++ rest).head?.any isMargin = false) (hbefore : before.head?.all (· = '\n') = true)
    (hvalue : ∀ before kept,
      (all (value ++ [.edge .lineEnd])).read some ⟨before, y ++ rest, kept⟩ =
        some ⟨y.reverse ++ before, rest, (3, ⟨y ++ rest, rest⟩) :: kept⟩) :
    (assign value).Reads before (m ++ (x ++ (" = ".toList ++ y))) rest
      [m, x, y] := by
  have hline : m ++ (x ++ (" = ".toList ++ y)) ++ rest =
      m ++ (x ++ (" = ".toList ++ (y ++ rest))) := by simp
  obtain ⟨before', hread⟩ := read_assign value hm hx hbefore
  apply Reads.intro
  · rw [hline, hread]
    exact read_margin_space_of_eq_some hy (hvalue _ _)
  · exact ((keeps_nil.snoc (m) _).snoc x _).snoc y _

/-- A whole number that is assigned is read. -/
theorem assignInt_reads (n : Numeral) (hm : ∀ c ∈ m, isMargin c = true) (hx : IsWordRun x)
    (hbefore : before.head?.all (· = '\n') = true) (hrest : rest.head?.all (· = '\n') = true) :
    assignInt.Reads before (m ++ (x ++ (" = ".toList ++ n.digits))) rest
      [m, x, n.digits] := by
  refine assign_reads hm hx (head?_of_isWordRun n.isWordRun isMargin_of_isWord) hbefore
    fun before kept => ?_
  rw [List.singleton_append, read_digits n (head?_of_lineFeed rfl hrest)
    (shuns_lineEnd.mono isInline_of_isDigit), read_lineEnd hrest]
  rfl

/-- A number that is assigned is read. -/
theorem assignNumber_reads (n : Numeral) (hm : ∀ c ∈ m, isMargin c = true) (hx : IsWordRun x)
    (hbefore : before.head?.all (· = '\n') = true) (hrest : rest.head?.all (· = '\n') = true) :
    assignNumber.Reads before (m ++ (x ++ (" = ".toList ++ n.digits))) rest
      [m, x, n.digits] := by
  refine assign_reads hm hx (head?_of_isWordRun n.isWordRun isMargin_of_isWord) hbefore
    fun before kept => ?_
  have hdot : rest.head?.all (· ≠ '.') = true := by
    cases rest with
    | nil => rfl
    | cons c rest =>
      obtain rfl : c = '\n' := by simpa using hrest
      rfl
  have hnone : rest.head?.any isDigit = false := head?_of_lineFeed rfl hrest
  have htail : ∀ next before kept, (all [.optional ".", .many isDigit]).read next
      ⟨before, rest, kept⟩ = next ⟨before, rest, kept⟩ := fun next before kept => by
    rw [read_optional_of_ne rfl hdot]
    exact read_many_nil hnone
  refine read_many1_of_eq_some n.ne_nil
    (fun c hc => isDigit_of_charIsDigit (n.isDigit c hc)) hnone ((htail _ _ _).trans ?_)
  exact read_lineEnd hrest

/-- What is assigned may hold anything but an equality sign. -/
theorem assignAny_reads_value (hm : ∀ c ∈ m, isMargin c = true) (hx : IsWordRun x) (hne : y ≠ [])
    (hall : ∀ c ∈ y, (c != '=' && c != '\n') = true)
    (hmargin : (y ++ rest).head?.any isMargin = false)
    (hbefore : before.head?.all (· = '\n') = true) (hrest : rest.head?.all (· = '\n') = true) :
    assignAny.Reads before (m ++ (x ++ (" = ".toList ++ y))) rest [m, x, y] := by
  refine assign_reads hm hx hmargin hbefore fun before kept => ?_
  rw [List.singleton_append, read_group_many1 hne hall (head?_of_lineFeed rfl hrest)
    (shuns_lineEnd.mono fun c hc => (Bool.and_eq_true_iff.mp hc).2), read_lineEnd hrest]
  rfl

/-- A name that is assigned is read to the end of the line. -/
theorem assignAny_reads (hm : ∀ c ∈ m, isMargin c = true) (hx : IsWordRun x) (hy : IsWordRun y)
    (hbefore : before.head?.all (· = '\n') = true) (hrest : rest.head?.all (· = '\n') = true) :
    assignAny.Reads before (m ++ (x ++ (" = ".toList ++ y))) rest [m, x, y] := by
  have hall : ∀ c ∈ y, (c != '=' && c != '\n') = true := fun c hc => by
    simp [ne_of_mem_isWordRun hy (d := '=') (by decide) c hc,
      ne_of_mem_isWordRun hy (d := '\n') (by decide) c hc]
  exact assignAny_reads_value hm hx hy.ne_nil hall (head?_of_isWordRun hy isMargin_of_isWord)
    hbefore hrest

/-! ## Loops -/

/-- The text in front of the members of a loop, nearest character first. -/
def behindIn (before x : List Char) : List Char :=
  " in ".toList.reverse ++ (x.reverse ++ ("for ".toList.reverse ++ before))

/-- The start of a loop over the members of something. -/
theorem read_forIn (hx : IsWordRun x) (hrest : rest.head?.any isBlank = false)
    (hbefore : before.head?.any isWord = false) :
    (all (forIn :: ps)).read next ⟨before, "for ".toList ++ (x ++ (" in ".toList ++ rest)), kept⟩ =
      (all ps).read next
        ⟨behindIn before x, rest, (1, ⟨x ++ (" in ".toList ++ rest), " in ".toList ++
          rest⟩) :: kept⟩ := by
  have hline : "for ".toList ++ (x ++ (" in ".toList ++ rest)) =
      "for".toList ++ ([' '] ++ (x ++ (" in ".toList ++ rest))) := by simp
  have hin : " in ".toList ++ rest = [' '] ++ ("in".toList ++ ([' '] ++ rest)) := by simp
  rw [all_cons, read_seq, forIn, ← read_all_append]
  simp only [List.cons_append, List.nil_append]
  rw [hline, read_keyword hbefore rfl,
    read_gap (head?_of_isWordRun hx isBlank_of_isWord), read_word hx rfl shuns_gap, hin,
    read_gap rfl, read_sign, read_gap hrest]
  rfl

theorem isInline_of_isWordRun (hx : IsWordRun x) {stop : Char} (hstop : isWord stop = false) :
    ∀ c ∈ x, isInline c = true ∧ c ≠ stop := fun c hc =>
  ⟨by simpa [isInline] using ne_of_mem_isWordRun hx (d := '\n') (by decide) c hc,
    ne_of_mem_isWordRun hx hstop c hc⟩

theorem shuns_colon : (all (.text ":" :: ps)).Shuns (· != ':') := shuns_sign rfl

/-- A loop over a collection is read. -/
theorem forEach_reads (hx : IsWordRun x) (hy : IsWordRun y)
    (hbefore : before.head?.any isWord = false) :
    forEach.Reads before ("for ".toList ++ (x ++ (" in ".toList ++ (y ++ ":".toList)))) rest
      [x, y] := by
  have hline : "for ".toList ++ (x ++ (" in ".toList ++ (y ++ ":".toList))) ++ rest =
      "for ".toList ++ (x ++ (" in ".toList ++ (y ++ (":".toList ++ rest)))) := by simp
  apply Reads.intro
  · rw [hline, readAt?, forEach, read_forIn hx (head?_of_isWordRun hy isBlank_of_isWord) hbefore]
    refine read_group_few1_of_eq_some hy.ne_nil (isInline_of_isWordRun hy rfl) shuns_colon ?_
    rw [read_sign]
    rfl
  · exact (keeps_nil.snoc x _).snoc y _

/-- A loop over a collection is read to the end of its line. -/
theorem forEachLine_reads (hx : IsWordRun x) (hy : IsWordRun y)
    (hbefore : before.head?.any isWord = false) (hrest : rest.head?.all (· = '\n') = true) :
    forEachLine.Reads before ("for ".toList ++ (x ++ (" in ".toList ++ (y ++ ":".toList)))) rest
      [x, y] := by
  have hline : "for ".toList ++ (x ++ (" in ".toList ++ (y ++ ":".toList))) ++ rest =
      "for ".toList ++ (x ++ (" in ".toList ++ (y ++ (":".toList ++ rest)))) := by simp
  apply Reads.intro
  · rw [hline, readAt?, forEachLine, read_forIn hx
      (head?_of_isWordRun hy isBlank_of_isWord) hbefore]
    refine read_group_few1_of_eq_some hy.ne_nil (isInline_of_isWordRun hy rfl) shuns_colon ?_
    rw [read_sign, read_margin (head?_of_lineFeed rfl hrest), read_lineEnd hrest]
    rfl
  · exact (keeps_nil.snoc x _).snoc y _

/-! ## Counted loops -/

/-- The start of a counted loop, up to its bounds. -/
theorem read_forRange {bounds : List Pattern} (hx : IsWordRun x)
    (hrest : rest.head?.any isBlank = false) (hbefore : before.head?.any isWord = false) :
    (forRange bounds).readAt? ⟨before, "for ".toList ++ (x ++ (" in range(".toList ++ rest)), []⟩ =
      (all (bounds ++ [blanks, ")", blanks, ":"])).read some
        ⟨"range(".toList.reverse ++ behindIn before x, rest,
          [(1, ⟨x ++ (" in range(".toList ++ rest), " in range(".toList ++ rest⟩)]⟩ := by
  have hin : " in range(".toList ++ rest = " in ".toList ++
    ("range".toList ++ ("(".toList ++ rest)) := by
    simp
  rw [readAt?, forRange, hin, List.append_assoc]
  simp only [List.cons_append, List.nil_append]
  rw [read_forIn hx rfl hbefore, read_sign, read_blanks rfl, read_sign,
    read_blanks hrest]
  rfl

/-- The bounds of a loop have come to their end. -/
theorem read_boundsEnd : (all [blanks, ")", blanks, ":"]).read next
    ⟨before, "):".toList ++ rest, kept⟩ =
    next ⟨"):".toList.reverse ++ before, rest, kept⟩ := by
  have hend : "):".toList ++ rest = ")".toList ++ (":".toList ++ rest) := by simp
  rw [hend, read_blanks rfl, read_sign, read_blanks rfl, read_sign]
  rfl

/-- One more bound, and something else behind it. -/
theorem read_bound (n : Numeral) (hrest : rest.head?.any isDigit = false)
    (hps : (all ps).Shuns isDigit) :
    (all (.text "," :: blanks :: .group number digits :: ps)).read next
        ⟨before, ", ".toList ++ (n.digits ++ rest), kept⟩ =
      (all ps).read next
        ⟨n.digits.reverse ++ (", ".toList.reverse ++ before), rest,
          (number, ⟨n.digits ++ rest, rest⟩) :: kept⟩ := by
  have hcomma : ", ".toList ++ (n.digits ++ rest) = ",".toList ++
    ([' '] ++ (n.digits ++ rest)) := by
    simp
  rw [hcomma, read_sign,
    read_blanks_space (head?_of_numeral n isBlank_of_isWord) (shuns_digits isDigit_of_isBlank),
    read_digits n hrest hps]
  rfl

theorem shuns_boundsEnd : (all [blanks, ")", blanks, ":"]).Shuns isDigit :=
  shuns_blanks isBlank_of_isDigit (shuns_sign rfl)

theorem shuns_comma : (all (.text "," :: ps)).Shuns isDigit := shuns_sign rfl

/-- A loop with one bound is read. -/
theorem forRange1_reads (hx : IsWordRun x) (a : Numeral)
    (hbefore : before.head?.any isWord = false) :
    forRange1.Reads before
      ("for ".toList ++ (x ++ (" in range(".toList ++ (a.digits ++ "):".toList)))) rest
      [x, a.digits] := by
  apply Reads.intro
  · simp only [List.append_assoc]
    rw [forRange1, read_forRange hx (head?_of_numeral a isBlank_of_isWord) hbefore]
    simp only [List.cons_append, List.nil_append]
    rw [read_digits a rfl shuns_boundsEnd, read_boundsEnd]
  · exact (keeps_nil.snoc x _).snoc a.digits _

/-- A loop with two bounds is read. -/
theorem forRange2_reads (hx : IsWordRun x) (a b : Numeral)
    (hbefore : before.head?.any isWord = false) :
    forRange2.Reads before
      ("for ".toList ++ (x ++ (" in range(".toList ++ (a.digits ++ (", ".toList ++
        (b.digits ++ "):".toList)))))) rest [x, a.digits, b.digits] := by
  apply Reads.intro
  · simp only [List.append_assoc]
    rw [forRange2, read_forRange hx (head?_of_numeral a isBlank_of_isWord) hbefore]
    simp only [List.cons_append, List.nil_append]
    rw [read_digits a rfl shuns_comma, read_bound b rfl shuns_boundsEnd, read_boundsEnd]
  · exact ((keeps_nil.snoc x _).snoc a.digits _).snoc b.digits _

/-- A loop with two bounds and a step is read. -/
theorem forRange3_reads (hx : IsWordRun x) (a b c : Numeral)
    (hbefore : before.head?.any isWord = false) :
    forRange3.Reads before
      ("for ".toList ++ (x ++ (" in range(".toList ++ (a.digits ++ (", ".toList ++ (b.digits ++
        (", ".toList ++ (c.digits ++ "):".toList)))))))) rest
      [x, a.digits, b.digits, c.digits] := by
  apply Reads.intro
  · simp only [List.append_assoc]
    rw [forRange3, read_forRange hx (head?_of_numeral a isBlank_of_isWord) hbefore]
    simp only [List.cons_append, List.nil_append]
    rw [read_digits a rfl shuns_comma, read_bound b rfl shuns_comma,
      read_bound c rfl shuns_boundsEnd,
      read_boundsEnd]
  · exact (((keeps_nil.snoc x _).snoc a.digits _).snoc b.digits _).snoc c.digits _

/-- A loop with one bound more than the form asks for. -/
theorem read_boundsEnd_of_comma :
    (all [blanks, ")", blanks, ":"]).read next ⟨before, ", ".toList ++ rest, kept⟩ = none := by
  rw [read_blanks rfl]
  exact read_sign_of_ne rfl (by decide)

/-- A loop with more than one bound is no loop with one. -/
theorem forRange1_refuses (hx : IsWordRun x) (a : Numeral)
    (hbefore : before.head?.any isWord = false) :
    forRange1.readAt? ⟨before, "for ".toList ++ (x ++ (" in range(".toList ++ (a.digits ++
      (", ".toList ++ rest)))), []⟩ = none := by
  rw [forRange1, read_forRange hx (head?_of_numeral a isBlank_of_isWord) hbefore]
  simp only [List.cons_append, List.nil_append]
  rw [read_digits a rfl shuns_boundsEnd, read_boundsEnd_of_comma]

/-- A loop with a step is no loop with two bounds. -/
theorem forRange2_refuses (hx : IsWordRun x) (a b : Numeral)
    (hbefore : before.head?.any isWord = false) :
    forRange2.readAt? ⟨before, "for ".toList ++ (x ++ (" in range(".toList ++ (a.digits ++
      (", ".toList ++ (b.digits ++ (", ".toList ++ rest)))))), []⟩ = none := by
  rw [forRange2, read_forRange hx (head?_of_numeral a isBlank_of_isWord) hbefore]
  simp only [List.cons_append, List.nil_append]
  rw [read_digits a rfl shuns_comma, read_bound b rfl shuns_boundsEnd, read_boundsEnd_of_comma]

end Recast.Form
