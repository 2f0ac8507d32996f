import Recast.Proofs.Chain.Refusals

/-!
# Proofs/Chain/Known — the insights into the statement forms

For each form, the lines on which its behaviour is known: those without its cue, those it is made
for, and those of other shapes on which it gives up.
-/

namespace Recast.Form

open Pattern Text Source

variable {kinds : List Blank} {stencil : Stencil} {name : String}

/-! ## The lines a form is made for -/

/-- **A form with one blank, between two texts**: the line is known if the form reads it. -/
theorem between_known {p : Pattern} {blank : Blank} {front back : List Char} (hne : front ≠ [])
    (hspace : p.Shuns (· == ' '))
    (hreads : ∀ {depth : Nat} {before rest x : List Char}, blank.Fits x →
      before.head?.all (· = '\n') = true →
      p.Reads ((indentation depth).reverse ++ before) (front ++ (x ++ back)) rest [x]) :
    Verdict.body.Known p [blank] [.text front, .blank 1, .text back] := by
  rintro _ (_ | ⟨hfits, ⟨⟩⟩) depth
  have hline (x : List Char) :
      Stencil.fill [.text front, .blank 1, .text back] (fillers [x]) = front ++ (x ++ back) := by
    simp [fillers]
  rw [hline]
  exact ⟨by simp [hne], hspace, fun before rest hbefore _ => hreads hfits hbefore⟩

/-- An output of a value is read behind its indentation. -/
theorem printExpr_known :
    Verdict.body.Known printExpr Shape.print.kinds Shape.print.inPython.stencil :=
  between_known (by decide) (shuns_keyword rfl) fun ⟨a, ha⟩ hbefore =>
    ha ▸ printExpr_reads a.isWordRun (head?_behind_indentation _ hbefore)

/-- So is a definition, with its parameters as one text. -/
theorem definition_known :
    Verdict.body.Known definition Shape.define.kinds Shape.define.inPython.stencil := by
  rintro _ (_ | ⟨⟨f, rfl⟩, _ | ⟨⟨ps, rfl⟩, ⟨⟩⟩⟩) depth
  exact ⟨List.cons_ne_nil _ _, shuns_keyword rfl, fun before rest hbefore _ =>
    definition_reads f.isWordRun (ne_of_mem_tame (tame_parameterText ps) (by decide))
      (head?_behind_indentation depth hbefore)⟩

/-- So is a header with a condition, whatever its keyword. -/
theorem header_known (hname : name.toList.head?.any isWord = true)
    (hspace : (name.toList.head?.any fun c => !(c == ' ')) = true) :
    Verdict.body.Known (header name) [.condition]
      [.text (name.toList ++ [' ']), .blank 1, .text [':']] := by
  refine between_known (by simp) (shuns_keyword hspace) ?_
  rintro depth before rest _ ⟨c, rfl⟩ hbefore
  rw [List.append_assoc]
  exact header_reads c hname (head?_behind_indentation depth hbefore)

/-- So is the last branch. -/
theorem else_known :
    Verdict.body.Known (bareHeader "else") Shape.otherwise.kinds
      Shape.otherwise.inPython.stencil := by
  rintro _ ⟨⟩ depth
  exact ⟨List.cons_ne_nil _ _, shuns_keyword rfl, fun before rest hbefore _ =>
    bareHeader_reads rfl (head?_behind_indentation depth hbefore)⟩

/-- A returned value is read together with its indentation. -/
theorem returnLine_known :
    Verdict.line.Known returnLine Shape.give.kinds Shape.give.inPython.stencil := by
  rintro _ (_ | ⟨⟨a, rfl⟩, ⟨⟩⟩) depth
  have hline : Stencil.fill Shape.give.inPython.stencil (fillers [a.text]) =
      "return ".toList ++ a.text := by
    simp [Shape.inPython, Phrase.fill, Piece.fill, fillers]
  rw [hline]
  exact ⟨by simp, fun before rest hbefore hrest => returnLine_reads a.isWordRun hbefore hrest⟩

/-- The line of an assignment. -/
theorem fill_assign (x y : List Char) :
    Stencil.fill Shape.assignName.inPython.stencil (fillers [x, y]) = x ++ (" = ".toList ++ y) := by
  simp [Shape.inPython, Phrase.fill, Piece.fill, fillers]

/-- **An assignment of what fits a blank**: the line is known if the form reads it. -/
theorem assign_known {p : Pattern} {blank : Blank}
    (hreads : ∀ {depth : Nat} {before rest x y : List Char}, IsWordRun x → blank.Fits y →
      before.head?.all (· = '\n') = true → rest.head?.all (· = '\n') = true →
      p.Reads before (indentation depth ++ (x ++ (" = ".toList ++ y))) rest
        [indentation depth, x, y]) :
    Verdict.line.Known p [.name, blank] Shape.assignName.inPython.stencil := by
  rintro _ (_ | ⟨⟨x, rfl⟩, _ | ⟨hfits, ⟨⟩⟩⟩) depth
  rw [fill_assign]
  exact ⟨by simp, fun before rest hbefore hrest => hreads x.isWordRun hfits hbefore hrest⟩

/-- A number is assigned by the form for whole numbers, and by that for all numbers. -/
theorem assignInt_known :
    Verdict.line.Known assignInt Shape.assignNumber.kinds Shape.assignNumber.inPython.stencil :=
  assign_known fun hx ⟨n, hn⟩ hbefore hrest =>
    hn ▸ assignInt_reads n isMargin_indentation hx hbefore hrest

theorem assignNumber_known :
    Verdict.line.Known assignNumber Shape.assignNumber.kinds
      Shape.assignNumber.inPython.stencil :=
  assign_known fun hx ⟨n, hn⟩ hbefore hrest =>
    hn ▸ assignNumber_reads n isMargin_indentation hx hbefore hrest

/-- A name or a number is assigned by the form for anything. -/
theorem assignAny_known {blank : Blank} (hblank : blank.isWordlike = true) :
    Verdict.line.Known assignAny [.name, blank] Shape.assignName.inPython.stencil :=
  assign_known fun hx hfits hbefore hrest =>
    assignAny_reads isMargin_indentation hx (hfits.isWordRun hblank) hbefore hrest

/-- A value that has to start with a digit is no name. -/
theorem assign_known_nothing {value : List Pattern}
    (hvalue : (all (value ++ [.edge .lineEnd])).Shuns (!isDigit ·)) :
    Verdict.nothing.Known (assign value) Shape.assignName.kinds
      Shape.assignName.inPython.stencil := by
  intro values hfits depth before rest hbefore _
  have htame := tame_fillers hfits
  rcases hfits with _ | ⟨⟨x, rfl⟩, _ | ⟨⟨y, rfl⟩, ⟨⟩⟩⟩
  have hfree : Stencil.isFree '\n' Shape.assignName.inPython.stencil = true := by decide
  refine misses_of_startsLine startsLine_edge_seq
    (Cue.not_mem_line _ htame (by decide) hfree) ?_
  rw [fill_assign]
  simpa using assign_refuses_word isMargin_indentation x.isWordRun y.isWordRun y.head_not_isDigit
    hvalue hbefore

/-! ## Loops -/

/-- A loop is not read from the spaces in front of it. -/
theorem shuns_for {p : Pattern} (hp : IsLoop p) : p.Shuns (· == ' ') := by
  obtain ⟨ps, rfl⟩ := hp
  exact Shuns.seq (shuns_keyword rfl)

theorem fill_count1 (x a : List Char) : Stencil.fill Shape.count1.inPython.stencil
    (fillers [x, a]) =
    "for ".toList ++ (x ++ (" in range(".toList ++ (a ++ "):".toList))) := by
  simp [Shape.inPython, Phrase.fill, Piece.fill, fillers]

theorem fill_count2 (x a b : List Char) :
    Stencil.fill Shape.count2.inPython.stencil (fillers [x, a, b]) =
      "for ".toList ++ (x ++ (" in range(".toList ++ (a ++ (", ".toList ++
        (b ++ "):".toList))))) := by
  simp [Shape.inPython, Phrase.fill, Piece.fill, fillers]

theorem fill_count3 (x a b c : List Char) :
    Stencil.fill Shape.count3.inPython.stencil (fillers [x, a, b, c]) =
      "for ".toList ++ (x ++ (" in range(".toList ++ (a ++ (", ".toList ++ (b ++ (", ".toList ++
        (c ++ "):".toList))))))) := by
  simp [Shape.inPython, Phrase.fill, Piece.fill, fillers]

theorem fill_each (x y : List Char) : Stencil.fill Shape.each.inPython.stencil (fillers [x, y]) =
    "for ".toList ++ (x ++ (" in ".toList ++ (y ++ ":".toList))) := by
  simp [Shape.inPython, Phrase.fill, Piece.fill, fillers]

/-- Each counted loop is read by the form with as many bounds as it has. -/
theorem forRange1_known :
    Verdict.body.Known forRange1 Shape.count1.kinds Shape.count1.inPython.stencil := by
  rintro _ (_ | ⟨⟨x, rfl⟩, _ | ⟨⟨a, rfl⟩, ⟨⟩⟩⟩) depth
  rw [fill_count1]
  exact ⟨List.cons_ne_nil _ _, shuns_for (forRange_isLoop _), fun before rest hbefore _ =>
    forRange1_reads x.isWordRun a (head?_behind_indentation depth hbefore)⟩

theorem forRange2_known :
    Verdict.body.Known forRange2 Shape.count2.kinds Shape.count2.inPython.stencil := by
  rintro _ (_ | ⟨⟨x, rfl⟩, _ | ⟨⟨a, rfl⟩, _ | ⟨⟨b, rfl⟩, ⟨⟩⟩⟩⟩) depth
  rw [fill_count2]
  exact ⟨List.cons_ne_nil _ _, shuns_for (forRange_isLoop _), fun before rest hbefore _ =>
    forRange2_reads x.isWordRun a b (head?_behind_indentation depth hbefore)⟩

theorem forRange3_known :
    Verdict.body.Known forRange3 Shape.count3.kinds Shape.count3.inPython.stencil := by
  rintro _ (_ | ⟨⟨x, rfl⟩, _ | ⟨⟨a, rfl⟩, _ | ⟨⟨b, rfl⟩, _ | ⟨⟨c, rfl⟩, ⟨⟩⟩⟩⟩⟩) depth
  rw [fill_count3]
  exact ⟨List.cons_ne_nil _ _, shuns_for (forRange_isLoop _), fun before rest hbefore _ =>
    forRange3_reads x.isWordRun a b c (head?_behind_indentation depth hbefore)⟩

/-- A loop over members is read by the form that stops at the first colon. -/
theorem forEach_known : Verdict.body.Known forEach Shape.each.kinds
    Shape.each.inPython.stencil := by
  rintro _ (_ | ⟨⟨x, rfl⟩, _ | ⟨⟨y, rfl⟩, ⟨⟩⟩⟩) depth
  rw [fill_each]
  exact ⟨List.cons_ne_nil _ _, shuns_for forEach_isLoop, fun before rest hbefore _ =>
    forEach_reads x.isWordRun y.isWordRun (head?_behind_indentation depth hbefore)⟩

/-- It is read as well by the form whose colon ends the line. -/
theorem forEachLine_known :
    Verdict.body.Known forEachLine Shape.each.kinds Shape.each.inPython.stencil := by
  rintro _ (_ | ⟨⟨x, rfl⟩, _ | ⟨⟨y, rfl⟩, ⟨⟩⟩⟩) depth
  rw [fill_each]
  exact ⟨List.cons_ne_nil _ _, shuns_for forEachLine_isLoop, fun before rest hbefore hrest =>
    forEachLine_reads x.isWordRun y.isWordRun (head?_behind_indentation depth hbefore) hrest⟩

/-- The loop has more bounds than one, whatever they are. -/
theorem forRange1_known_nothing
    (hmissing : (Cue.word "for".toList).missing (.text "or ".toList :: .blank 1 ::
      .text " in range(".toList :: .blank 2 :: .text ", ".toList :: stencil) = true) :
    Verdict.nothing.Known forRange1 (.name :: .number :: kinds) (.text "for ".toList :: .blank 1 ::
      .text " in range(".toList :: .blank 2 :: .text ", ".toList :: stencil) := by
  change Verdict.nothing.Known forRange1 _ (.text ("for ".toList ++ []) :: _)
  refine known_nothing_of_for (forRange_isLoop _) ?_ hmissing
  rintro _ (_ | ⟨⟨x, rfl⟩, _ | ⟨⟨a, rfl⟩, _⟩⟩) before rest hbefore _
  simpa [fillers] using forRange1_refuses x.isWordRun a hbefore

/-- The loop has three bounds. -/
theorem forRange2_known_nothing :
    Verdict.nothing.Known forRange2 Shape.count3.kinds Shape.count3.inPython.stencil := by
  change Verdict.nothing.Known forRange2 Shape.count3.kinds (.text ("for ".toList ++ []) ::
    [.blank 1, .text " in range(".toList, .blank 2, .text ", ".toList, .blank 3, .text ", ".toList,
      .blank 4, .text "):".toList])
  refine known_nothing_of_for (forRange_isLoop _) ?_ (by decide)
  rintro _ (_ | ⟨⟨x, rfl⟩, _ | ⟨⟨a, rfl⟩, _ | ⟨⟨b, rfl⟩, _ | ⟨⟨c, rfl⟩, ⟨⟩⟩⟩⟩⟩) before rest
    hbefore _
  simpa [fillers] using forRange2_refuses x.isWordRun a b hbefore

end Recast.Form

/-! ## Insights -/

namespace Recast.Insight

open Form Pattern Text Source

/-! Words that blocks start with, in either source language -/

theorem isPlain_if : (Cue.word "if".toList).isPlain = true := by decide

theorem isReserved_if : isReserved "if".toList = true := by decide

theorem isPlain_for : (Cue.word "for".toList).isPlain = true := by decide

theorem isReserved_for : isReserved "for".toList = true := by decide

theorem isPlain_while : (Cue.word "while".toList).isPlain = true := by decide

theorem isReserved_while : isReserved "while".toList = true := by decide

/-- A pattern that looks for a word. -/
def ofWord (pattern : Pattern) (word : String) (hshows : pattern.Shows [.word word.toList])
    (hplain : (Cue.word word.toList).isPlain = true) (hreserved : isReserved word.toList = true) :
    Insight :=
  ofCues pattern [.word word.toList] hshows (by simpa using hplain)
    (by simpa [Cue.isReserved] using hreserved)

/-- A pattern that looks for a sign, which may be a word behind a dot. -/
def ofSign (pattern : Pattern) (sign : String) (hshows : pattern.Shows [.text sign.toList])
    (hplain : (Cue.text sign.toList).isPlain = true) : Insight :=
  (ofCues pattern [.text sign.toList] hshows (by simpa using hplain) rfl).refusing
    (fun kinds stencil => Cue.missingDot kinds stencil sign.toList)
    (known_nothing_of_missingDot hshows hplain)

/-- A call of the function. -/
def call (callee : String) (argument : List Pattern)
    (hplain : (Cue.word callee.toList).isPlain = true)
    (hreserved : isReserved callee.toList = true) : Insight :=
  ofWord (Form.call callee argument) callee (call_shows callee argument hplain) hplain hreserved

def printText (quote : Char) (hquote : isWord quote = false) : Insight :=
  (call "print" (quotedText quote) (by decide) (by decide)).refusing refusesText
    (known_nothing_of_refusesText hquote)

def printExpr : Insight :=
  (call "print" [.group 1 (many1 (isNot ')'))] (by decide) (by decide)).on Shape.print.kinds
    Shape.print.inPython.stencil .body printExpr_known

/-- An assignment, given what the value looks for. -/
def assign (value : List Pattern) (cues : List Cue) (hshows : (Form.assign value).Shows cues)
    (hplain : cues.all Cue.isPlain = true) (hreserved : cues.all Cue.isReserved = true) : Insight :=
  (ofCues (Form.assign value) cues hshows hplain hreserved).refusing refusesAssign
    known_nothing_of_refusesAssign

def assignText (quote : Char) (hquote : quote ≠ '\n') : Insight :=
  assign _ [.text [quote]] (assignText_shows quote) (by simp [Cue.isPlain, hquote]) rfl

/-- A number of the given form is assigned. -/
def assignDigits (value : List Pattern)
    (hvalue : (all (value ++ [.edge .lineEnd])).Shuns (!isDigit ·))
    (hknown : Verdict.line.Known (Form.assign value) Shape.assignNumber.kinds
      Shape.assignNumber.inPython.stencil) : Insight :=
  ((assign value [.text ['=']] (assign_shows value) (by decide) rfl).on
    Shape.assignNumber.kinds Shape.assignNumber.inPython.stencil .line hknown).on
    Shape.assignName.kinds Shape.assignName.inPython.stencil .nothing (assign_known_nothing hvalue)

def assignInt : Insight := assignDigits _ shuns_digits_lineEnd assignInt_known

def assignNumber : Insight := assignDigits _ shuns_number_lineEnd assignNumber_known

def assignFloat : Insight := assign _ [.text ['.']] assignFloat_shows (by decide) rfl

def assignWord (value : String) (hplain : (Cue.word value.toList).isPlain = true)
    (hreserved : isReserved value.toList = true) : Insight :=
  ofWord (Form.assignWord value) value (assignWord_shows value) hplain hreserved

def assignBetween (opening closing : Char) (hopening : opening ≠ '\n') : Insight :=
  assign _ [.text [opening]] (assignBetween_shows opening closing)
    (by simp [Cue.isPlain, hopening]) rfl

def assignAny : Insight :=
  ((assign _ [.text ['=']] (assign_shows _) (by decide) rfl).on
    Shape.assignNumber.kinds Shape.assignNumber.inPython.stencil .line (assignAny_known rfl)).on
    Shape.assignName.kinds Shape.assignName.inPython.stencil .line (assignAny_known rfl)

def definition : Insight :=
  (ofWord Form.definition "def" definition_shows (by decide) (by decide)).on
    Shape.define.kinds Shape.define.inPython.stencil .body definition_known

def returnLine : Insight :=
  (ofWord Form.returnLine "return" returnLine_shows (by decide) (by decide)).on
    Shape.give.kinds Shape.give.inPython.stencil .line returnLine_known

def header (name : String) (hplain : (Cue.word name.toList).isPlain = true)
    (hreserved : isReserved name.toList = true) (hname : name.toList.head?.any isWord = true)
    (hspace : (name.toList.head?.any fun c => !(c == ' ')) = true) : Insight :=
  (ofWord (Form.header name) name (header_shows name hplain) hplain hreserved).on
    [.condition] [.text (name.toList ++ [' ']), .blank 1, .text [':']] .body
    (header_known hname hspace)

def bareHeader (name : String) (hplain : (Cue.word name.toList).isPlain = true)
    (hreserved : isReserved name.toList = true) : Insight :=
  ofWord (Form.bareHeader name) name (bareHeader_shows name hplain) hplain hreserved

def otherwise : Insight :=
  ((bareHeader "else" (by decide) (by decide)).on
    Shape.otherwise.kinds Shape.otherwise.inPython.stencil .body else_known).refusing
    (fun _ => refusesElse) known_nothing_of_refusesElse

/-- A loop, given up where the line goes on otherwise than loops of the source do. -/
def loop (pattern : Pattern) (hloop : IsLoop pattern) : Insight :=
  ((ofWord pattern "for" (by obtain ⟨ps, rfl⟩ := hloop; exact forIn_shows.seq) isPlain_for
    isReserved_for).refusing (fun _ => refusesForSign)
    (known_nothing_of_refusesForSign hloop)).refusing refusesForName
    (known_nothing_of_refusesForName hloop)

/-- A counted loop with the bounds. -/
def forRange (bounds : List Pattern) : Insight :=
  ((loop (Form.forRange bounds) (forRange_isLoop bounds)).refusing refusesRangeSign
    known_nothing_of_refusesRangeSign).refusing refusesRangeWord known_nothing_of_refusesRangeWord

def forRange1 : Insight :=
  (((forRange [.group 2 digits]).on Shape.count1.kinds Shape.count1.inPython.stencil .body
    forRange1_known).on Shape.count2.kinds Shape.count2.inPython.stencil .nothing
    (forRange1_known_nothing (by decide))).on Shape.count3.kinds
    Shape.count3.inPython.stencil .nothing (forRange1_known_nothing (by decide))

def forRange2 : Insight :=
  ((forRange [.group 2 digits, ",", blanks, .group 3 digits]).on Shape.count2.kinds
    Shape.count2.inPython.stencil .body forRange2_known).on Shape.count3.kinds
    Shape.count3.inPython.stencil .nothing forRange2_known_nothing

def forRange3 : Insight :=
  (forRange [.group 2 digits, ",", blanks, .group 3 digits, ",", blanks, .group 4 digits]).on
    Shape.count3.kinds Shape.count3.inPython.stencil .body forRange3_known

def forEach : Insight :=
  (loop Form.forEach forEach_isLoop).on Shape.each.kinds Shape.each.inPython.stencil .body
    forEach_known

def forEachLine : Insight :=
  ((loop Form.forEachLine forEachLine_isLoop).on Shape.each.kinds Shape.each.inPython.stencil .body
    forEachLine_known).refusing refusesLine known_nothing_of_refusesLine

def comment : Insight := ofSign Form.comment "#" comment_shows (by decide)

def methodOpen (name : String) (hplain : (Cue.text ("." ++ name ++ "(").toList).isPlain = true) :
    Insight := ofSign (Form.methodOpen name) ("." ++ name ++ "(") (methodOpen_shows name) hplain

def methodCall (name : String) (hplain : (Cue.text ("." ++ name ++ "()").toList).isPlain = true) :
    Insight := ofSign (Form.methodCall name) ("." ++ name ++ "()") (methodCall_shows name) hplain

def methodOn (name : String) (hplain : (Cue.text ("." ++ name ++ "()").toList).isPlain = true) :
    Insight := ofSign (Form.methodOn name) ("." ++ name ++ "()") (methodOn_shows name) hplain

def appendTo : Insight := ofSign Form.appendTo ".append(" appendTo_shows (by decide)

def len : Insight := ofWord Form.len "len" len_shows (by decide) (by decide)

def wholeWord (word : String) (hplain : (Cue.word word.toList).isPlain = true)
    (hreserved : isReserved word.toList = true) : Insight :=
  ofWord (Pattern.wholeWord word) word (shows_wholeWord hplain) hplain hreserved

/-! ## Rules that chains share -/

def prints : List Insight :=
  [printText '"' (by decide), printText '\'' (by decide), printExpr]

def assignTexts : List Insight :=
  [assignText '"' (by decide), assignText '\'' (by decide)]

def branches : List Insight :=
  [header "if" isPlain_if isReserved_if rfl rfl,
    header "elif" (by decide) (by decide) rfl rfl, otherwise,
    header "while" isPlain_while isReserved_while rfl rfl]

def countedLoops : List Insight := [forRange1, forRange2, forRange3]

def appendOpen : Insight := methodOpen "append" (by decide)

def stripCall : Insight := methodCall "strip" (by decide)

def upperCall : Insight := methodCall "upper" (by decide)

def lowerCall : Insight := methodCall "lower" (by decide)

def valueMethods : List Insight := [stripCall, upperCall, lowerCall]

/-- The methods, with what they are called on. -/
def valueMethodsOn : List Insight :=
  [methodOn "strip" (by decide), methodOn "upper" (by decide), methodOn "lower" (by decide)]

def logic : List Insight :=
  [wholeWord "and" (by decide) (by decide), wholeWord "or" (by decide) (by decide),
    wholeWord "not" (by decide) (by decide),
      wholeWord "True" (by decide) (by decide),
    wholeWord "False" (by decide) (by decide),
    wholeWord "None" (by decide) (by decide)]

/-- The truth values are assigned. -/
def assignTruths : List Insight :=
  [assignWord "True" (by decide) (by decide),
    assignWord "False" (by decide) (by decide)]

/-- The parts of a guarded block. -/
def handlers : List Insight :=
  [bareHeader "try" (by decide) (by decide),
    ofWord exceptAs "except" exceptAs_shows (by decide) (by decide),
    ofWord exceptKind "except" exceptKind_shows (by decide) (by decide),
    bareHeader "except" (by decide) (by decide),
    bareHeader "finally" (by decide) (by decide)]

def classes : List Insight :=
  [ofWord classHeader "class" classHeader_shows (by decide) (by decide),
    ofWord classExtends "class" classExtends_shows (by decide) (by decide)]

def assignNone : Insight := assignWord "None" (by decide) (by decide)

def assignList : Insight := assignBetween '[' ']' (by decide)

end Recast.Insight
