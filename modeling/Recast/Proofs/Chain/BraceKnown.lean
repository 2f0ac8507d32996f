import Recast.Proofs.Chain.BraceForms
import Recast.Proofs.Chain.Known

/-!
# Proofs/Chain/BraceKnown — the insights into the rules from JavaScript

The rules from JavaScript see lines of JavaScript and, as the chain goes on, more and more lines of
Python. For each rule, the lines on which its behaviour is known.
-/

namespace Recast.Chain

open Form Pattern Text Source

variable {kinds : List Blank} {values : List (List Char)} {stencil : Stencil}
  {before rest x y : List Char}

/-! ## The lines a rule is made for -/

/-- An output is read behind its indentation, and so are the headers below. -/
theorem consoleLog_known :
    Verdict.body.Known consoleLog Shape.print.kinds Shape.print.inJavaScript.stencil :=
  between_known (by decide) (shuns_sign rfl) fun ⟨a, ha⟩ _ => ha ▸ consoleLog_reads a.isWordRun

theorem fill_let (x y : List Char) :
    Stencil.fill Shape.assignName.inJavaScript.stencil (fillers [x, y]) =
      "let ".toList ++ (x ++ (" = ".toList ++ (y ++ ";".toList))) := by
  simp [Shape.inJavaScript, Phrase.fill, Piece.fill, fillers]

/-- A declaration of a name or a number is read together with its indentation. -/
theorem declaration_known {blank : Blank} (hblank : blank.isWordlike = true) :
    Verdict.line.Known declaration [.name, blank] Shape.assignName.inJavaScript.stencil := by
  rintro _ (_ | ⟨⟨x, rfl⟩, _ | ⟨hfits, ⟨⟩⟩⟩) depth
  rw [fill_let]
  exact ⟨List.cons_ne_nil _ _, fun _ _ hbefore _ =>
    declaration_reads x.isWordRun (hfits.isWordRun hblank) hbefore⟩

/-- A definition is read with its parameters as one text. -/
theorem function_known :
    Verdict.body.Known function Shape.define.kinds Shape.define.inJavaScript.stencil := by
  rintro _ (_ | ⟨⟨f, rfl⟩, _ | ⟨⟨ps, rfl⟩, ⟨⟩⟩⟩) depth
  have hline : Stencil.fill Shape.define.inJavaScript.stencil
    (fillers [f.chars, parameterText ps]) =
      "function ".toList ++ (f.chars ++ ("(".toList ++ (parameterText ps ++ ") \x7b".toList))) := by
    simp [Shape.inJavaScript, Phrase.fill, Piece.fill, fillers]
  rw [hline]
  exact ⟨List.cons_ne_nil _ _, shuns_keyword rfl, fun _ _ hbefore _ =>
    function_reads f.isWordRun (ne_of_mem_tame (tame_parameterText ps) (by decide))
      (head?_behind_indentation depth hbefore)⟩

/-- A branch is read with its condition between the parentheses. -/
theorem ifHeader_known :
    Verdict.body.Known ifHeader Shape.branch.kinds Shape.branch.inJavaScript.stencil :=
  between_known (by decide) (shuns_keyword rfl).edge_seq fun ⟨c, hc⟩ hbefore =>
    hc ▸ ifHeader_reads c hbefore

theorem elseIfHeader_known :
    Verdict.body.Known elseIfHeader Shape.elseBranch.kinds
      Shape.elseBranch.inJavaScript.stencil :=
  between_known (by decide) (shuns_sign rfl) fun ⟨c, hc⟩ _ => hc ▸ elseIfHeader_reads c

theorem elseHeader_known :
    Verdict.body.Known elseHeader Shape.otherwise.kinds Shape.otherwise.inJavaScript.stencil := by
  rintro _ ⟨⟩ depth
  exact ⟨List.cons_ne_nil _ _, shuns_sign rfl, fun _ _ _ _ => elseHeader_reads⟩

theorem whileHeader_known :
    Verdict.body.Known whileHeader Shape.repeatWhile.kinds
      Shape.repeatWhile.inJavaScript.stencil :=
  between_known (by decide) (shuns_keyword rfl) fun ⟨c, hc⟩ hbefore =>
    hc ▸ whileHeader_reads c (head?_behind_indentation _ hbefore)

/-- A counted loop from nothing on is read by the form for it. -/
theorem countedHeader_known :
    Verdict.body.Known countedHeader Shape.count1.kinds Shape.count1.inJavaScript.stencil := by
  rintro _ (_ | ⟨⟨x, rfl⟩, _ | ⟨⟨n, rfl⟩, ⟨⟩⟩⟩) depth
  have hline : Stencil.fill Shape.count1.inJavaScript.stencil (fillers [x.chars, n.digits]) =
      "for (let ".toList ++ (x.chars ++ (" = 0; ".toList ++ (x.chars ++ (" < ".toList ++
        (n.digits ++ ("; ".toList ++ (x.chars ++ "++) \x7b".toList))))))) := by
    simp [Shape.inJavaScript, Phrase.fill, Piece.fill, fillers]
  rw [hline]
  exact ⟨List.cons_ne_nil _ _, shuns_keyword rfl, fun _ _ hbefore _ =>
    countedHeader_reads x.isWordRun n (head?_behind_indentation depth hbefore)⟩

theorem fill_member (x y : List Char) : Stencil.fill Shape.each.inJavaScript.stencil
    (fillers [x, y]) =
    "for (let ".toList ++ (x ++ (" of ".toList ++ (y ++ ") \x7b".toList))) := by
  simp [Shape.inJavaScript, Phrase.fill, Piece.fill, fillers]

/-- A loop over members is read by the form for those. -/
theorem memberHeader_known :
    Verdict.body.Known memberHeader Shape.each.kinds Shape.each.inJavaScript.stencil := by
  rintro _ (_ | ⟨⟨x, rfl⟩, _ | ⟨⟨y, rfl⟩, ⟨⟩⟩⟩) depth
  rw [fill_member]
  exact ⟨List.cons_ne_nil _ _, shuns_keyword rfl, fun _ _ hbefore _ =>
    memberHeader_reads x.isWordRun y.isWordRun (head?_behind_indentation depth hbefore)⟩

/-! ## The lines a rule gives up on -/

/-- An `else` with a condition is left to the rule for it. -/
theorem ifHeader_known_nothing :
    Verdict.nothing.Known ifHeader Shape.elseBranch.kinds
      Shape.elseBranch.inJavaScript.stencil := by
  have hknown : Verdict.nothing.Known ifHeader Shape.elseBranch.kinds
      (.text ("\x7d else ".toList ++ 'i' :: "f (".toList) ::
        [.blank 1, .text ") \x7b".toList]) := by
    refine known_nothing_of_refusal ifHeader_shows Insight.isPlain_if Insight.isReserved_if
      (shuns_keyword rfl).edge_seq (by decide) (by decide) (by decide) ?_ (by decide)
    intro values _ before rest _ _
    rw [readAt?, ifHeader, braceHeader, List.cons_append, all_cons, read_seq, read_edge_eq, if_neg]
    simp [Spot.meets, List.isPrefixOf]
  exact hknown

/-- No condition follows the `else`. -/
theorem elseIfHeader_known_nothing :
    Verdict.nothing.Known elseIfHeader Shape.otherwise.kinds
      Shape.otherwise.inJavaScript.stencil := by
  rintro _ ⟨⟩ depth before rest _ _
  have hshuns : elseIfHeader.Shuns (· != '}') := shuns_sign rfl
  have hread : ∀ before : List Char,
      elseIfHeader.readAt? ⟨before, '}' :: (" else \x7b".toList ++ rest), []⟩ = none :=
        fun before => by
    have hline : '}' :: (" else \x7b".toList ++ rest) =
        "\x7d".toList ++ ([' '] ++ ("else".toList ++ ([' '] ++ ("\x7b".toList ++ rest)))) := by simp
    rw [readAt?, elseIfHeader, braceHeader]
    simp only [List.cons_append, List.nil_append]
    rw [hline, read_sign, read_blanks_space rfl (shuns_sign rfl), read_sign, read_gap rfl]
    exact read_sign_of_ne rfl (by decide)
  have hspace : ∀ c ∈ indentation depth, (c != '}') = true := forall_mem_indentation (by decide)
  exact (misses_of_shuns hshuns hspace).append
    (.cons (hread _) (misses_of_shuns hshuns (List.all_eq_true.mp (by decide))))

/-- A loop over members is no counted loop: no equality sign follows its name. -/
theorem countedHeader_known_nothing :
    Verdict.nothing.Known countedHeader Shape.each.kinds Shape.each.inJavaScript.stencil := by
  have hknown : Verdict.nothing.Known countedHeader Shape.each.kinds
      (.text ([] ++ 'f' :: "or (let ".toList) ::
        [.blank 1, .text " of ".toList, .blank 2, .text ") \x7b".toList]) := by
    refine known_nothing_of_refusal countedHeader_shows Insight.isPlain_for Insight.isReserved_for
      (shuns_keyword rfl) (by decide) (by simp) rfl ?_ (by decide)
    rintro _ (_ | ⟨⟨x, rfl⟩, _ | ⟨⟨y, rfl⟩, ⟨⟩⟩⟩) before rest hbefore _
    have hx := x.isWordRun
    have hline : 'f' :: "or (let ".toList ++ Stencil.fill [.blank 1, .text " of ".toList, .blank 2,
        .text ") \x7b".toList] (fillers [x.chars, y.chars]) ++ rest =
        "for".toList ++ ([' '] ++ ("(".toList ++ ("let".toList ++ ([' '] ++ (x.chars ++ ([' '] ++
          'o' :: ("f ".toList ++ (y.chars ++ (") \x7b".toList ++ rest))))))))) := by simp [fillers]
    rw [hline, readAt?, countedHeader, read_keyword hbefore rfl,
      read_blanks_space rfl (shuns_sign rfl),
      read_sign, read_blanks rfl, read_sign, read_gap (head?_of_isWordRun hx isBlank_of_isWord),
      read_word hx rfl (shuns_blanks isBlank_of_isWord (shuns_sign rfl)),
      read_blanks_space rfl (shuns_sign rfl)]
    exact read_sign_of_ne rfl (by decide)
  exact hknown

/-- No parenthesis follows the keyword. -/
theorem memberHeader_known_nothing :
    Verdict.nothing.Known memberHeader Shape.count1.kinds Shape.count1.inPython.stencil := by
  have hknown : Verdict.nothing.Known memberHeader Shape.count1.kinds
      (.text ([] ++ 'f' :: "or ".toList) ::
        [.blank 1, .text " in range(".toList, .blank 2, .text "):".toList]) := by
    refine known_nothing_of_refusal memberHeader_shows Insight.isPlain_for Insight.isReserved_for
      (shuns_keyword rfl) (by decide) (by simp) rfl ?_ (by decide)
    rintro _ (_ | ⟨⟨x, rfl⟩, _ | ⟨⟨n, rfl⟩, ⟨⟩⟩⟩) before rest hbefore _
    obtain ⟨c, chars, hx, hc⟩ := x.isWordRun.exists_cons
    have hline : 'f' :: "or ".toList ++ Stencil.fill [.blank 1, .text " in range(".toList, .blank 2,
        .text "):".toList] (fillers [x.chars, n.digits]) ++ rest =
        "for".toList ++ ([' '] ++ c :: (chars ++ (" in range(".toList ++ (n.digits ++
          ("):".toList ++ rest))))) := by simp [fillers, hx]
    rw [hline, readAt?, memberHeader, read_keyword hbefore rfl,
      read_blanks_space (by simpa using isBlank_of_isWord c hc) (shuns_sign rfl)]
    exact read_sign_of_ne rfl (ne_of_isWord (by decide) hc)
  exact hknown

/-- The line does not start like a declaration. -/
def refusesDeclaration : Stencil → Bool
  | .text (c :: more) :: rest => !isMargin c && c != 'l' && c != 'c' && c != 'v' &&
      Stencil.isFree '\n' (.text (c :: more) :: rest)
  | _ => false

/-- A line that does not start like a declaration is none. -/
theorem known_nothing_of_refusesDeclaration (h : refusesDeclaration stencil = true) :
    Verdict.nothing.Known declaration kinds stencil := by
  unfold refusesDeclaration at h
  split at h
  · rename_i c more rest
    obtain ⟨h, hfree⟩ := Bool.and_eq_true_iff.mp h
    obtain ⟨⟨⟨hmargin, hl⟩, hc⟩, hv⟩ : ((isMargin c = false ∧ c ≠ 'l') ∧ c ≠ 'c') ∧ c ≠ 'v' := by
      simpa using h
    intro values hfits depth before tail hbefore _
    refine misses_of_startsLine startsLine_edge_seq
      (Cue.not_mem_line _ (tame_fillers hfits) (by decide) hfree) ?_
    have hshuns : ∀ ps, (all (declarers :: ps)).Shuns (· == c) := fun ps =>
      shuns_declarers (by simpa using hl.symm) (by simpa using hc.symm) (by simpa using hv.symm)
    have hindent : ∀ ps, (all (declarers :: ps)).Shuns isMargin := fun ps =>
      shuns_declarers rfl rfl rfl
    rw [List.append_assoc, Stencil.fill_text, List.cons_append, List.cons_append,
      readAt?, declaration,
      read_lineStart hbefore,
      read_indentation isMargin_indentation (by simpa using hmargin) (hindent _)]
    exact hshuns _ some c (by simp) _ _ _
  · exact absurd h (by simp)

/-! ## Signs of comparisons

Three rules look for the signs of comparisons and of negation. In programs a comparison is made of
one or two signs, and a blank follows it. -/

/-- `!`, where something to negate follows. -/
def negation : Pattern := .seq "!" (.edge (.ahead fun c => isWord c || c == '('))

/-- What has a blank of its own that is not for conditions holds no sign. -/
theorem mem_value {blank : Blank} (hblank : blank ≠ .condition) (hfits : blank.Fits x) {c : Char}
    (hc : c ∈ x) : isWord c = true ∨ c = ',' ∨ c = ' ' := by
  have hword : ∀ {x : List Char}, IsWordRun x → ∀ c ∈ x, isWord c = true ∨ c = ',' ∨ c = ' ' :=
    fun hx c hc => .inl (hx.isWord c hc)
  cases blank with
  | name => obtain ⟨n, rfl⟩ := hfits; exact hword n.isWordRun c hc
  | number => obtain ⟨n, rfl⟩ := hfits; exact hword n.isWordRun c hc
  | atom => obtain ⟨a, rfl⟩ := hfits; exact hword a.isWordRun c hc
  | condition => exact absurd rfl hblank
  | parameters =>
    obtain ⟨parameters, rfl⟩ := hfits
    induction parameters with
    | nil => simp [parameterText, List.intercalate] at hc
    | cons n more ih =>
      cases more with
      | nil => exact hword n.isWordRun c (by simpa [parameterText, List.intercalate] using hc)
      | cons m more =>
        have hcons : parameterText (n :: m :: more) = n.chars ++ ',' :: ' ' ::
          parameterText (m :: more) := by
          simp [parameterText, List.intercalate]
        rw [hcons] at hc
        rcases List.mem_append.mp hc with hc | hc
        · exact hword n.isWordRun c hc
        · rcases List.mem_cons.mp hc with rfl | hc
          · exact .inr (.inl rfl)
          · rcases List.mem_cons.mp hc with rfl | hc
            · exact .inr (.inr rfl)
            · exact ih hc

/-- Neither the texts nor the blanks of the stencil have the sign. -/
def isSignFree (sign : Char) (kinds : List Blank) (stencil : Stencil) : Bool :=
  !isWord sign && sign != ',' && sign != ' ' && kinds.all (· != .condition) &&
    stencil.texts.all fun text => !text.contains sign

/-- What holds of all that fits the blanks holds of the values. -/
theorem forall_mem_of_fits {property : List Char → Prop} {allowed : Blank → Bool}
    (hproperty : ∀ {blank : Blank} {x : List Char}, allowed blank = true →
      blank.Fits x → property x)
    (hfits : List.Forall₂ Blank.Fits kinds values) (hkinds : kinds.all allowed = true) :
    ∀ x ∈ values, property x := by
  induction hfits with
  | nil => simp
  | cons hfit _ ih =>
    obtain ⟨hblank, hmore⟩ := Bool.and_eq_true_iff.mp hkinds
    exact List.forall_mem_cons.mpr ⟨hproperty hblank hfit, ih hmore⟩

/-- A pattern that starts with a sign passes over the lines without it. -/
theorem known_nothing_of_isSignFree {p : Pattern} {sign : Char} (hshuns : p.Shuns (· != sign))
    (h : isSignFree sign kinds stencil = true) : Verdict.nothing.Known p kinds stencil := by
  obtain ⟨h, htexts⟩ := Bool.and_eq_true_iff.mp h
  obtain ⟨h, hkinds⟩ := Bool.and_eq_true_iff.mp h
  obtain ⟨⟨hword, hcomma⟩, hspace⟩ : (isWord sign = false ∧ sign ≠ ',') ∧
    sign ≠ ' ' := by simpa using h
  intro values hfits depth before tail _ _
  have hvalue : ∀ x ∈ values, sign ∉ x := by
    refine forall_mem_of_fits (fun {blank x} hblank hfit hmem => ?_) hfits hkinds
    rcases mem_value (by simpa using hblank) hfit hmem with hsign | hsign | hsign
    · rw [hsign] at hword
      exact absurd hword (by decide)
    · exact hcomma hsign
    · exact hspace hsign
  refine misses_of_shuns hshuns fun c hc => ?_
  rw [bne_iff_ne]
  rintro rfl
  rcases List.mem_append.mp hc with hc | hc
  · exact hspace (List.eq_of_mem_replicate hc)
  · rcases Stencil.mem_fill hc with ⟨text, ht, hc⟩ | ⟨n, hc⟩
    · have := List.all_eq_true.mp htexts text ht
      simp [hc] at this
    · rcases fillers_eq_nil_or_mem values n with hnil | hmem
      · simp [hnil] at hc
      · exact hvalue _ hmem hc

/-- A condition behind a keyword: its comparison is passed over, and there is no other sign. -/
theorem known_nothing_of_comparison {p : Pattern} {sign : Char} (hshuns : p.Shuns (· != sign))
    (hsign : isWord sign = false) (hspace : sign ≠ ' ') (hcolon : sign ≠ ':')
    (hcomparison : ∀ (comparison : Comparison) (before rest : List Char),
      p.Misses before comparison.sign.toList (' ' :: rest)) (name : String)
    (hname : ∀ c ∈ name.toList, isWord c = true) :
    Verdict.nothing.Known p [.condition] [.text (name.toList ++ [' ']), .blank 1, .text [':']] := by
  rintro _ (_ | ⟨⟨c, rfl⟩, ⟨⟩⟩) depth before rest _ _
  have hline : indentation depth ++ Stencil.fill
    [.text (name.toList ++ [' ']), .blank 1, .text [':']]
      (fillers [c.text]) = (indentation depth ++ (name.toList ++ ' ' :: (c.left.text ++ [' ']))) ++
        (c.comparison.sign.toList ++ (' ' :: (c.right.text ++ [':']))) := by
    simp [fillers, Condition.text]
  have hother : ∀ d, isWord d = true ∨ d = ' ' ∨ d = ':' → (d != sign) = true := by
    rintro d hd
    rw [bne_iff_ne]
    rintro rfl
    rcases hd with hd | hd | hd
    · rw [hd] at hsign
      exact absurd hsign (by decide)
    · exact hspace hd
    · exact hcolon hd
  have hleft := c.left.isWordRun.isWord
  have hright := c.right.isWordRun.isWord
  rw [hline]
  refine (misses_of_shuns hshuns fun d hd => hother d ?_).append
    (Misses.append (hcomparison _ _ _) (misses_of_shuns hshuns fun d hd => hother d ?_))
  · simp only [List.mem_append, List.mem_cons, List.not_mem_nil, or_false] at hd
    rcases hd with hd | hd | hd | hd | hd
    · exact .inr (.inl (List.eq_of_mem_replicate hd))
    · exact .inl (hname d hd)
    · exact .inr (.inl hd)
    · exact .inl (hleft d hd)
    · exact .inr (.inl hd)
  · simp only [List.mem_append, List.mem_cons, List.not_mem_nil, or_false] at hd
    rcases hd with hd | hd | hd
    · exact .inr (.inl hd)
    · exact .inl (hright d hd)
    · exact .inr (.inr hd)

/-- No comparison of the fragment has three equality signs. -/
theorem strictEq_misses (comparison : Comparison) (before rest : List Char) :
    (Pattern.text "===").Misses before comparison.sign.toList (' ' :: rest) := by
  cases comparison <;> exact .cons rfl (by first | exact misses_nil | exact .cons rfl misses_nil)

theorem strictNe_misses (comparison : Comparison) (before rest : List Char) :
    (Pattern.text "!==").Misses before comparison.sign.toList (' ' :: rest) := by
  cases comparison <;> exact .cons rfl (by first | exact misses_nil | exact .cons rfl misses_nil)

/-- No comparison of the fragment is a negation. -/
theorem negation_misses (comparison : Comparison) (before rest : List Char) :
    negation.Misses before comparison.sign.toList (' ' :: rest) := by
  cases comparison <;> exact .cons rfl (by first | exact misses_nil | exact .cons rfl misses_nil)

/-- An assignment has one equality sign. -/
theorem strictEq_known_nothing {blank : Blank} (hblank : blank.isWordlike = true) :
    Verdict.nothing.Known (.text "===") [.name, blank]
      [.blank 1, .text " = ".toList, .blank 2] := by
  intro values hfits depth before rest _ _
  have hx : IsWordRun (fillers values 1) := isWordRun_of_isWordAt hfits rfl
  have hy : IsWordRun (fillers values 2) := isWordRun_of_isWordAt hfits hblank
  have hline : indentation depth ++ Stencil.fill [.blank 1, .text " = ".toList, .blank 2]
      (fillers values) = (indentation depth ++ (fillers values 1 ++ [' '])) ++
        ('=' :: (' ' :: fillers values 2)) := by
    simp
  have hshuns : (Pattern.text "===").Shuns (· != '=') := shuns_text rfl
  have hother : ∀ d, isWord d = true ∨ d = ' ' → (d != '=') = true := by
    rintro d hd
    rw [bne_iff_ne]
    rintro rfl
    exact absurd hd (by decide)
  rw [hline]
  refine (misses_of_shuns hshuns fun d hd => hother d ?_).append
    (.cons rfl (misses_of_shuns hshuns fun d hd => hother d ?_))
  · simp only [List.mem_append, List.mem_singleton] at hd
    rcases hd with hd | hd | hd
    · exact .inr (List.eq_of_mem_replicate hd)
    · exact .inl (hx.isWord d hd)
    · exact .inr hd
  · rcases List.mem_cons.mp hd with hd | hd
    · exact .inr hd
    · exact .inl (hy.isWord d hd)

/-! ## Absent values -/

/-- One of two words between word edges. -/
def absentValue : Pattern := all [.edge .word, anyWord ["null", "undefined"], .edge .word]

/-- Either of the two words for the absent value is shown. -/
theorem absentValue_shows : absentValue.Shows [.word "null".toList, .word "undefined".toList] :=
  shows_wholeWords (by decide)

end Recast.Chain

/-! ## Insights -/

namespace Recast.Insight

open Form Pattern Text Source Chain

def consoleLog : Insight :=
  (ofSign Chain.consoleLog ".log" consoleLog_shows (by decide)).on
    Shape.print.kinds Shape.print.inJavaScript.stencil .body consoleLog_known

theorem shuns_lineFeed_declaration : Chain.declaration.Shuns (· == '\n') :=
  (Shuns.group_many_seq (fun c hc => by rw [beq_iff_eq.mp hc]; decide)
    (shuns_declarers rfl rfl rfl)).edge_seq

def declaration : Insight :=
  (((bare Chain.declaration shuns_lineFeed_declaration).refusing (fun _ => refusesDeclaration)
    known_nothing_of_refusesDeclaration).on
    Shape.assignName.kinds Shape.assignName.inJavaScript.stencil .line (declaration_known rfl)).on
    Shape.assignNumber.kinds Shape.assignNumber.inJavaScript.stencil .line (declaration_known rfl)

def function : Insight :=
  (ofWord Chain.function "function" function_shows (by decide) (by decide)).on
    Shape.define.kinds Shape.define.inJavaScript.stencil .body function_known

def ifHeader : Insight :=
  ((ofWord Chain.ifHeader "if" ifHeader_shows isPlain_if isReserved_if).on
    Shape.branch.kinds Shape.branch.inJavaScript.stencil .body ifHeader_known).on
    Shape.elseBranch.kinds Shape.elseBranch.inJavaScript.stencil .nothing ifHeader_known_nothing

def elseIfHeader : Insight :=
  ((ofSign Chain.elseIfHeader "\x7d" elseIfHeader_shows (by decide)).on
    Shape.elseBranch.kinds Shape.elseBranch.inJavaScript.stencil .body elseIfHeader_known).on
    Shape.otherwise.kinds Shape.otherwise.inJavaScript.stencil .nothing elseIfHeader_known_nothing

def elseHeader : Insight :=
  (ofSign Chain.elseHeader "\x7d" elseHeader_shows (by decide)).on
    Shape.otherwise.kinds Shape.otherwise.inJavaScript.stencil .body elseHeader_known

def countedHeader : Insight :=
  ((ofWord Chain.countedHeader "for" countedHeader_shows isPlain_for isReserved_for).on
    Shape.count1.kinds Shape.count1.inJavaScript.stencil .body countedHeader_known).on
    Shape.each.kinds Shape.each.inJavaScript.stencil .nothing countedHeader_known_nothing

def memberHeader : Insight :=
  ((ofWord Chain.memberHeader "for" memberHeader_shows isPlain_for isReserved_for).on
    Shape.each.kinds Shape.each.inJavaScript.stencil .body memberHeader_known).on
    Shape.count1.kinds Shape.count1.inPython.stencil .nothing memberHeader_known_nothing

def whileHeader : Insight :=
  (ofWord Chain.whileHeader "while" whileHeader_shows isPlain_while isReserved_while).on
    Shape.repeatWhile.kinds Shape.repeatWhile.inJavaScript.stencil .body whileHeader_known

/-- A sign that conditions have something of, in Python. -/
def comparison (pattern : Pattern) (sign : Char) (hshuns : pattern.Shuns (· != sign))
    (hsign : isWord sign = false) (hspace : sign ≠ ' ') (hcolon : sign ≠ ':') (hfeed : sign ≠ '\n')
    (hcomparison : ∀ (comparison : Comparison) (before rest : List Char),
      pattern.Misses before comparison.sign.toList (' ' :: rest)) : Insight :=
  ((((bare pattern (hshuns.mono fun c hc => by simpa [beq_iff_eq.mp hc] using hfeed.symm)).refusing
    (isSignFree sign) (known_nothing_of_isSignFree hshuns)).on
    [.condition] Shape.branch.inPython.stencil .nothing
    (known_nothing_of_comparison hshuns hsign hspace hcolon hcomparison "if"
      (List.all_eq_true.mp (by decide)))).on
    [.condition] Shape.elseBranch.inPython.stencil .nothing
    (known_nothing_of_comparison hshuns hsign hspace hcolon hcomparison "elif"
      (List.all_eq_true.mp (by decide)))).on
    [.condition] Shape.repeatWhile.inPython.stencil .nothing
    (known_nothing_of_comparison hshuns hsign hspace hcolon hcomparison "while"
      (List.all_eq_true.mp (by decide)))

def strictEq : Insight :=
  ((comparison "===" '=' (shuns_text rfl) (by decide) (by decide) (by decide) (by decide)
    strictEq_misses).on
    Shape.assignName.kinds Shape.assignName.inPython.stencil .nothing
      (strictEq_known_nothing rfl)).on
    Shape.assignNumber.kinds Shape.assignNumber.inPython.stencil .nothing
      (strictEq_known_nothing rfl)

def strictNe : Insight :=
  comparison "!==" '!' (shuns_text rfl) (by decide) (by decide) (by decide) (by decide)
    strictNe_misses

def negation : Insight :=
  comparison Chain.negation '!' (shuns_text rfl).seq (by decide) (by decide) (by decide) (by decide)
    negation_misses

def sign (sign : String) (hplain : (Cue.text sign.toList).isPlain = true) : Insight :=
  ofSign (.text sign) sign shows_text hplain

def lengthOf : Insight := ofSign Chain.lengthOf ".length" lengthOf_shows (by decide)

def absentValue : Insight :=
  ofCues Chain.absentValue [.word "null".toList, .word "undefined".toList] absentValue_shows
    (by decide) (by decide)

/-- `// …`, on a line of its own. -/
def slashComment : Insight :=
  ofSign (all [.edge .lineStart, .group 1 margin, "//", margin, .group 2 (many isInline),
    .edge .lineEnd]) "//" (.behind stays_edge (.behind stays_margin shows_text.seq)) (by decide)

/-- The insights into the rules for declarations. -/
def declarations : List Insight := [consoleLog, declaration, function, ifHeader]

/-- The insights into the rules for loops, and into those behind them. -/
def loops : List Insight :=
  [countedHeader, memberHeader, whileHeader, methodOpen "push" (by decide),
    methodCall "trim" (by decide), methodCall "toUpperCase" (by decide),
    methodCall "toLowerCase" (by decide), lengthOf, strictEq, strictNe, sign "&&" (by decide),
    sign "||" (by decide), negation, wholeWord "true" (by decide) (by decide),
    wholeWord "false" (by decide) (by decide), absentValue, slashComment]

end Recast.Insight
