import Recast.Proofs.Chain.BraceKnown
import Recast.Proofs.Chain.Printing
import Recast.Proofs.Chain.Untouched

/-!
# Proofs/Chain/Conditions — logical conditions there and back

Conditions are names under any number of `not`, with `and` and `or` between them. On the way to
JavaScript each connective is written as a sign, and on the way back `and` and `or` are words again.
The sign for `not` stays: it is looked for in front of a name or a parenthesis, and on the way there
a space was left behind it. So a condition comes back as it was if it has no `not`, and only then
(`Chain.runRules_logic`).

A rule **turns** one spelling into another if it respells each of the connectives and leaves names
alone (`Logic.TurnsSpelling`); the rest goes by the grammar of conditions
(`Logic.TurnsSpelling.respells`). All other rules look for a character or a word that the line does
not have (`Logic.applyAll_of_isIdle`).
-/

namespace Recast

open Text Source Form Pattern

/-! ## Conditions -/

namespace Logic

/-- The words that are no names in one of the two languages, and the functions that rules know. -/
def barred : List String :=
  pythonWords ++ javaScriptWords ++ ["print", "input", "len", "range", "undefined"]

/-- An ASCII identifier that is none of these words. -/
structure Variable where
  chars : List Char
  isIdentifier : isIdentifier chars = true
  unbarred : ∀ word ∈ barred, word.toList ≠ chars

theorem Variable.isWordRun (n : Variable) : IsWordRun n.chars :=
  isWordRun_of_isIdentifier n.isIdentifier

/-- A name, under any number of negations. -/
inductive Term
  | name (name : Variable)
  | not (term : Term)

/-- What stands between two terms. -/
inductive Connective
  | and
  | or

end Logic

/-- **Terms with connectives between them.** -/
inductive Logic
  | term (term : Logic.Term)
  | join (first : Logic.Term) (connective : Logic.Connective) (rest : Logic)

namespace Logic

/-- How negations and connectives are written. -/
@[ext]
structure Spelling where
  not : List Char
  join : Connective → List Char

namespace Spelling

variable {s : Spelling}

/-- The negation and the connectives. -/
def pieces (s : Spelling) : List (List Char) := [s.not, s.join .and, s.join .or]

theorem mem_pieces_not : s.not ∈ s.pieces := by simp [pieces]

theorem mem_pieces_join (k : Connective) : s.join k ∈ s.pieces := by cases k <;> simp [pieces]

/-- The words of the source. -/
def words : Spelling where
  not := "not".toList
  join
    | .and => "and".toList
    | .or => "or".toList

/-- The signs of JavaScript. -/
def signs : Spelling where
  not := "!".toList
  join
    | .and => "&&".toList
    | .or => "||".toList

/-- Words again, but for the negations. -/
def mixed : Spelling := { words with not := signs.not }

end Spelling

variable {s s' : Spelling}

def Term.text (s : Spelling) : Term → List Char
  | .name n => n.chars
  | .not t => s.not ++ ' ' :: t.text s

/-- **How a condition is written**, with one space between any two of its parts. -/
def text (s : Spelling) : Logic → List Char
  | .term t => t.text s
  | .join t k e => t.text s ++ ' ' :: (s.join k ++ ' ' :: e.text s)

def Term.hasNot : Term → Bool
  | .name _ => false
  | .not _ => true

/-- A negation is part of the condition. -/
def hasNot : Logic → Bool
  | .term t => t.hasNot
  | .join t _ e => t.hasNot || e.hasNot

/-! ## What a condition is written with -/

section Characters

variable {allowed : Char → Bool} (hpieces : s.pieces.all (·.all allowed) = true)
  (hspace : allowed ' ' = true) (hname : ∀ c, isWord c = true → allowed c = true)

/-- What is allowed in all pieces of a spelling is allowed in each. -/
theorem allowed_of_mem_piece (hpieces : s.pieces.all (·.all allowed) = true) {p : List Char}
    (hp : p ∈ s.pieces) : ∀ c ∈ p, allowed c = true :=
  List.all_eq_true.mp (List.all_eq_true.mp hpieces p hp)

include hpieces hspace hname

theorem Term.allowed_of_mem_text : ∀ t : Term, ∀ c ∈ t.text s, allowed c = true
  | .name n, c, hc => hname c (n.isWordRun.isWord c hc)
  | .not t, c, hc => by
      rw [text, List.mem_append, List.mem_cons] at hc
      rcases hc with hc | rfl | hc
      · exact allowed_of_mem_piece hpieces Spelling.mem_pieces_not c hc
      · exact hspace
      · exact allowed_of_mem_text t c hc

/-- A condition is made of names, spaces and the pieces of its spelling. -/
theorem allowed_of_mem_text : ∀ e : Logic, ∀ c ∈ e.text s, allowed c = true
  | .term t, c, hc => t.allowed_of_mem_text hpieces hspace hname c hc
  | .join t k e, c, hc => by
      rw [text, List.mem_append, List.mem_cons, List.mem_append, List.mem_cons] at hc
      rcases hc with hc | rfl | hc | rfl | hc
      · exact t.allowed_of_mem_text hpieces hspace hname c hc
      · exact hspace
      · exact allowed_of_mem_piece hpieces (Spelling.mem_pieces_join k) c hc
      · exact hspace
      · exact allowed_of_mem_text e c hc

/-- A frame around the condition adds what is in the frame. -/
theorem allowed_of_mem_between (e : Logic) {front back : List Char}
    (hfront : front.all allowed = true) (hback : back.all allowed = true) :
    ∀ c ∈ front ++ (e.text s ++ back), allowed c = true := by
  have htext : (e.text s).all allowed = true :=
    List.all_eq_true.mpr (e.allowed_of_mem_text hpieces hspace hname)
  rw [← List.all_eq_true, List.all_append, List.all_append, hfront, htext, hback]
  rfl

end Characters

/-- A sign that is in no piece is not in a condition. -/
theorem not_mem_text {sign : Char} (hsign : isWord sign = false) (hspace : sign ≠ ' ')
    (hpieces : s.pieces.all (·.all (· != sign)) = true) (e : Logic) : sign ∉ e.text s := by
  have hchars : ∀ c ∈ e.text s, (c != sign) = true :=
    e.allowed_of_mem_text hpieces (bne_iff_ne.mpr hspace.symm)
      fun c hc => bne_iff_ne.mpr (ne_of_isWord hsign hc)
  exact fun hmem => by simpa using hchars sign hmem

/-- A condition starts with a name or a negation. -/
theorem Term.head?_text (hnot : s.not.head?.any (!isBlank ·) = true) :
    ∀ t : Term, (t.text s).head?.any (!isBlank ·) = true
  | .name n => head?_ink_of_isWordRun n.isWordRun
  | .not _ => head?_append_of_any _ hnot

/-- A condition starts with ink. -/
theorem head?_text (hnot : s.not.head?.any (!isBlank ·) = true) :
    ∀ e : Logic, (e.text s).head?.any (!isBlank ·) = true
  | .term t => t.head?_text hnot
  | .join t _ _ => head?_append_of_any _ (t.head?_text hnot)

/-! ## Lines with a condition -/

/-- The header of a branch in the source. -/
def colonLine (x : List Char) : List Char := "if ".toList ++ (x ++ ":".toList)

/-- The header of a branch in JavaScript. -/
def braceLine (x : List Char) : List Char := "if (".toList ++ (x ++ ") \x7b".toList)

theorem isWordRun_if : IsWordRun "if".toList := by decide

/-- The signs that stand around a condition and between its parts. -/
def isFrame (c : Char) : Bool := c == ' ' || c == '(' || c == ')' || c == '{' || c == ':'

theorem isWord_of_isFrame {c : Char} (h : isFrame c = true) : isWord c = false := by
  simp only [isFrame, Bool.or_eq_true, beq_iff_eq] at h
  rcases h with (((rfl | rfl) | rfl) | rfl) | rfl <;> decide

/-- **The rule turns one spelling into the other**, and finds nothing else in a line. -/
structure TurnsSpelling (rule : Rule) (s s' : Spelling) : Prop where
  shuns : rule.pattern.Shuns isFrame
  keyword : rule.Respells "if".toList "if".toList
  name : ∀ n : Variable, rule.Respells n.chars n.chars
  not : rule.Respells s.not s'.not
  join : ∀ k, rule.Respells (s.join k) (s'.join k)

namespace TurnsSpelling

variable {rule : Rule} (h : TurnsSpelling rule s s')

include h

/-- No rule for a connective starts at a space. -/
theorem shuns_space : rule.pattern.Shuns (· == ' ') :=
  h.shuns.mono fun c hc => by simp [isFrame, beq_iff_eq.mp hc]

/-- A term is spelled anew, with its name kept. -/
theorem respells_term : ∀ t : Term, rule.Respells (t.text s) (t.text s')
  | .name n => h.name n
  | .not t => h.not.append_space (respells_term t) h.shuns_space

/-- **Conditions are respelled part by part.** -/
theorem respells : ∀ e : Logic, rule.Respells (e.text s) (e.text s')
  | .term t => h.respells_term t
  | .join t k e =>
      (h.respells_term t).append_space ((h.join k).append_space (respells e) h.shuns_space)
        h.shuns_space

/-- **A rule that spells conditions anew** does so in a header that ends with a colon. -/
theorem apply_colonLine (e : Logic) :
    rule.apply (colonLine (e.text s)) = colonLine (e.text s') := by
  have hend : rule.Respells (e.text s ++ ":".toList) (e.text s' ++ ":".toList) :=
    (h.respells e).append_signs (by decide) h.shuns (by decide)
  exact (h.keyword.append_space hend h.shuns_space).apply

/-- It does so between the parentheses of a header, too. -/
theorem apply_braceLine (e : Logic) :
    rule.apply (braceLine (e.text s)) = braceLine (e.text s') := by
  have hopen : rule.pattern.Shuns (· == '(') :=
    h.shuns.mono fun c hc => by simp [isFrame, beq_iff_eq.mp hc]
  have hend : rule.Respells (e.text s ++ ") \x7b".toList) (e.text s' ++ ") \x7b".toList) :=
    (h.respells e).append_signs (by decide) h.shuns (by decide)
  exact (h.keyword.append_space (hend.cons (by decide) hopen) h.shuns_space).apply

end TurnsSpelling

/-! ## One piece in another way -/

namespace Spelling

/-- The spelling with one of its pieces written in another way. -/
def rewrite (s : Spelling) (piece written : String) : Spelling where
  not := if s.not = piece.toList then written.toList else s.not
  join k := if s.join k = piece.toList then written.toList else s.join k

end Spelling

section Rewrite

variable {rule : Rule} {name piece written : String} {phrase : Phrase}

/-- A rule that leaves words alone, but for one piece, and finds nothing in the other pieces. -/
theorem turnsSpelling_rewrite (hshuns : rule.pattern.Shuns isFrame)
    (hword : ∀ w, IsWordRun w → w ≠ piece.toList → rule.Respells w w)
    (hif : "if".toList ≠ piece.toList) (hname : ∀ n : Variable, n.chars ≠ piece.toList)
    (hpiece : rule.Respells piece.toList written.toList)
    (hother : ∀ other ∈ s.pieces, other ≠ piece.toList → rule.Respells other other) :
    TurnsSpelling rule s (s.rewrite piece written) := by
  have hpieces : ∀ other ∈ s.pieces,
      rule.Respells other (if other = piece.toList then written.toList else other) := by
    intro other hmem
    split
    · next heq => exact heq ▸ hpiece
    · next hne => exact hother other hmem hne
  exact {
    shuns := hshuns
    keyword := hword _ isWordRun_if hif
    name := fun n => hword _ n.isWordRun (hname n)
    not := hpieces _ Spelling.mem_pieces_not
    join := fun k => hpieces _ (Spelling.mem_pieces_join k) }

/-- **A rule for a whole word** turns the pieces that are this word. -/
theorem turnsSpelling_wholeWord {word : String} (hbarred : word ∈ barred)
    (hif : "if".toList ≠ word.toList) (hplain : (Cue.word word.toList).isPlain = true)
    (hpieces : s.pieces.all (fun p => p.all isWord || p.all (!isWord ·)) = true) :
    TurnsSpelling ⟨name, wholeWord word, [.text written]⟩ s (s.rewrite word written) := by
  have hall : [word].all (fun w => (Cue.word w.toList).isPlain) = true := by simpa using hplain
  have hshuns : (wholeWord word).Shuns (!isWord ·) := shuns_wholeWords hall
  have hword : ∀ w, (∀ c ∈ w, isWord c = true) → w ≠ word.toList →
      (⟨name, wholeWord word, [.text written]⟩ : Rule).Respells w w := fun w hw hne =>
    Rule.respells_of_misses fun _ _ hrest =>
      misses_wholeWords hall hw (by simpa using hne.symm) (Rule.head?_of_goesOn hrest)
  refine turnsSpelling_rewrite (hshuns.mono ?_) (fun w hw => hword w hw.isWord) hif
    (fun n => (n.unbarred word hbarred).symm) (Rule.respells_word written hplain) ?_
  · exact fun c hc => by simpa using isWord_of_isFrame hc
  · intro other hmem hne
    rcases Bool.or_eq_true_iff.mp (List.all_eq_true.mp hpieces other hmem) with h | h
    · exact hword other (List.all_eq_true.mp h) hne
    · exact Rule.respells_of_shuns hshuns (List.all_eq_true.mp h)

/-- **A rule for a sign** turns the pieces that are this sign. -/
theorem turnsSpelling_sign {sign : String} {c : Char} (hsign : sign.toList.head? = some c)
    (hc : (isWord c || isFrame c) = false)
    (hpieces : s.pieces.all (fun p => p == sign.toList || !p.contains c) = true) :
    TurnsSpelling ⟨name, .text sign, [.text written]⟩ s (s.rewrite sign written) := by
  obtain ⟨hnoWord, hnoFrame⟩ := Bool.or_eq_false_iff.mp hc
  have hshuns : (Pattern.text sign).Shuns (· != c) := shuns_text (by simp [hsign])
  have hother : ∀ other : List Char, c ∉ other →
      (⟨name, .text sign, [.text written]⟩ : Rule).Respells other other := fun other hnot =>
    Rule.respells_of_shuns hshuns fun d hd => by
      rw [bne_iff_ne]
      rintro rfl
      exact hnot hd
  have hword : ∀ w, IsWordRun w → c ∉ w := fun w hw hmem =>
    absurd (hw.isWord c hmem) (by simp [hnoWord])
  have hmem : c ∈ sign.toList := List.mem_of_mem_head? hsign
  have hne : sign.toList ≠ [] := List.ne_nil_of_mem hmem
  refine turnsSpelling_rewrite (hshuns.mono ?_) (fun w hw _ => hother w (hword w hw)) ?_ ?_
    (Rule.respells_sign written hne) ?_
  · intro d hd
    rw [bne_iff_ne]
    rintro rfl
    simp [hnoFrame] at hd
  · intro heq
    exact hword _ isWordRun_if (heq ▸ hmem)
  · intro n heq
    exact hword n.chars n.isWordRun (heq ▸ hmem)
  · intro other hpiece hne
    rcases Bool.or_eq_true_iff.mp (List.all_eq_true.mp hpieces other hpiece) with h | h
    · exact absurd (beq_iff_eq.mp h) hne
    · exact hother other (by simpa using h)

/-- **The sign for a negation stays**, as a space is behind it. -/
theorem turnsSpelling_negation : TurnsSpelling ⟨name, Chain.negation, phrase⟩ .mixed .mixed := by
  have hshuns : Chain.negation.Shuns (· != '!') := (shuns_text rfl).seq
  have hword : ∀ w, w.all isWord = true →
      (⟨name, Chain.negation, phrase⟩ : Rule).Respells w w := fun w hw =>
    Rule.respells_of_shuns hshuns fun c hc =>
      bne_iff_ne.mpr (ne_of_isWord (by decide) (List.all_eq_true.mp hw c hc))
  exact {
    shuns := hshuns.mono fun c hc => by
      rw [bne_iff_ne]
      rintro rfl
      exact absurd hc (by decide)
    keyword := hword _ (by decide)
    name := fun n => hword _ (List.all_eq_true.mpr n.isWordRun.isWord)
    not := Rule.respells_of_misses fun before rest hrest => by
      have hahead : (⟨'!' :: before, rest, []⟩ : Spot).meets
          (.ahead fun c => isWord c || c == '(') = false := hrest
      have hread : Chain.negation.readAt? ⟨before, '!' :: rest, []⟩ = none :=
        (read_text "!" _ before rest []).trans (if_neg (by simp [hahead]))
      exact .cons hread misses_nil
    join := fun k => by cases k <;> exact hword _ (by decide) }

end Rewrite

/-! ## Rules that find nothing -/

/-- The words that no condition is written with. -/
def idleWords : List String := barred.filter fun w => w ∉ ["if", "and", "or", "not"]

/-- The characters of lines in the source, whatever the spelling. -/
def isColonChar (c : Char) : Bool := isWord c || " :&|!".toList.contains c

/-- The characters of lines in JavaScript. -/
def isBraceChar (c : Char) : Bool := isWord c || " ()\x7b&|!".toList.contains c

/-- The text has none of the words. -/
def IsIdle (text : List Char) : Prop := ∀ word ∈ idleWords, word.toList ∉ words text

instance (text : List Char) : Decidable (IsIdle text) :=
  inferInstanceAs (Decidable (∀ word ∈ idleWords, word.toList ∉ words text))

section Idle

variable {x y : List Char} {c : Char}

/-- Two texts with a sign between them. -/
theorem IsIdle.append_sign (hx : IsIdle x) (hc : isWord c = false) (hy : IsIdle y) :
    IsIdle (x ++ c :: y) := fun word hword hmem => by
  rw [words_append_sign x hc, List.mem_append] at hmem
  exact hmem.elim (hx word hword) (hy word hword)

theorem Variable.isIdle (n : Variable) : IsIdle n.chars := fun word hword hmem => by
  rw [words_of_all n.isWordRun.isWord, List.mem_singleton] at hmem
  exact n.unbarred word (List.mem_of_mem_filter hword) hmem

variable (hs : ∀ p ∈ s.pieces, IsIdle p)

include hs

theorem Term.isIdle_text : ∀ t : Term, IsIdle (t.text s)
  | .name n => n.isIdle
  | .not t => (hs _ Spelling.mem_pieces_not).append_sign (by decide) (isIdle_text t)

/-- No word of a condition is one that another rule looks for. -/
theorem isIdle_text : ∀ e : Logic, IsIdle (e.text s)
  | .term t => t.isIdle_text hs
  | .join t k e =>
      (t.isIdle_text hs).append_sign (by decide)
        ((hs _ (Spelling.mem_pieces_join k)).append_sign (by decide) (isIdle_text e))

theorem isIdle_colonLine (e : Logic) : IsIdle (colonLine (e.text s)) := by
  have hif : IsIdle "if".toList := by decide
  have hend : IsIdle [] := by decide
  exact hif.append_sign (by decide) ((isIdle_text hs e).append_sign (by decide) hend)

theorem isIdle_braceLine (e : Logic) : IsIdle (braceLine (e.text s)) := by
  have hif : IsIdle "if ".toList := by decide
  have hend : IsIdle " \x7b".toList := by decide
  exact hif.append_sign (by decide) ((isIdle_text hs e).append_sign (by decide) hend)

end Idle

section Rules

variable {rule : Rule} {rules : List Rule} {line : List Char} {allowed : Char → Bool}

/-- **A part of the rules to JavaScript that looks for something else** leaves the line alone. -/
theorem applyAll_of_isIdle (hrules : rules ⊆ Chain.javaScriptRules)
    (hpasses : rules.all (Rule.passes allowed (wordCues idleWords)) = true)
    (hallowed : ∀ c ∈ line, allowed c = true) (hidle : IsIdle line) :
    Rule.applyAll rules line = line := by
  refine Rule.applyAll_of_passes Chain.called_toJavaScript hrules hpasses ⟨hallowed, ?_⟩
  rw [wordCues, List.forall_mem_map]
  exact hidle

/-- A rule that looks for some of the words. -/
theorem apply_of_shows (ws : List String) (hshows : rule.pattern.Shows (ws.map (.word ·.toList)))
    (hplain : ws.all (fun w => (Cue.word w.toList).isPlain) = true) (hws : ∀ w ∈ ws, w ∈ idleWords)
    (hidle : IsIdle line) : rule.apply line = line := by
  refine replaceFrom_eq_self (misses_of_shows hshows (by simpa using hplain) rfl ?_)
  intro cue hcue
  obtain ⟨w, hw, rfl⟩ := List.mem_map.mp hcue
  exact hidle w (hws w hw)

/-- Rules pass over a line without the signs that they need. -/
theorem applyAll_of_lacks (hlacks : rules.all (·.pattern.lacks allowed) = true)
    (hallowed : ∀ c ∈ line, allowed c = true) : Rule.applyAll rules line = line :=
  Rule.applyAll_eq_self fun rule hrule =>
    Rule.apply_of_lacks (List.all_eq_true.mp hlacks rule hrule) hallowed

end Rules

theorem isColonChar_of_mem (hs : s.pieces.all (·.all isColonChar) = true) (e : Logic) :
    ∀ c ∈ colonLine (e.text s), isColonChar c = true :=
  e.allowed_of_mem_between hs (by decide) (fun c hc => by simp [isColonChar, hc]) (by decide)
    (by decide)

theorem isBraceChar_of_mem (hs : s.pieces.all (·.all isBraceChar) = true) (e : Logic) :
    ∀ c ∈ braceLine (e.text s), isBraceChar c = true :=
  e.allowed_of_mem_between hs (by decide) (fun c hc => by simp [isBraceChar, hc]) (by decide)
    (by decide)

end Logic

namespace Chain

open Logic Shared

/-! ## To JavaScript -/

/-- A branch is no return statement. -/
theorem apply_returnStatement {x : List Char} (hfeed : '\n' ∉ x) :
    returnStatement.apply (colonLine x) = colonLine x := by
  refine replaceFrom_eq_self (misses_of_startsLine startsLine_edge_seq ?_ ?_)
  · simp [colonLine, hfeed]
  · rw [readAt?, returnStatement, returnLine, read_lineStart rfl, all_cons, read_seq, read_group,
      margin, colonLine, List.append_assoc, read_many_nil rfl]
    exact read_sign_of_ne rfl (by decide)

/-- The condition of a header is put between parentheses. -/
theorem apply_header {x : List Char} (hx : x.head?.any (!isBlank ·) = true) (hcolon : ':' ∉ x)
    (hfeed : '\n' ∉ x) :
    (⟨"if", header "if", ["if (", 1, ") \x7b"]⟩ : Rule).apply (colonLine x) = braceLine x := by
  have hinline : ∀ c ∈ x, (c != ':' && c != '\n') = true := fun c hc => by
    have hne : c ≠ ':' ∧ c ≠ '\n' := ⟨fun h => hcolon (h ▸ hc), fun h => hfeed (h ▸ hc)⟩
    simp [hne]
  have hreads : (header "if").Reads [] (colonLine x) [] [x] := header_reads_text hx hinline rfl rfl
  have happly : (⟨"if", header "if", ["if (", 1, ") \x7b"]⟩ : Rule).apply (colonLine x) = _ :=
    Rule.apply_of_reads_nil (List.cons_ne_nil _ _) hreads
  exact happly

/-- The rules for the connectives. -/
def toSigns : List Rule :=
  [⟨"and", wholeWord "and", ["&&"]⟩, ⟨"or", wholeWord "or", ["||"]⟩,
    ⟨"not", wholeWord "not", ["!"]⟩]

/-- **Words become signs** in a condition. -/
theorem applyAll_toSigns (e : Logic) :
    Rule.applyAll toSigns (braceLine (e.text .words)) = braceLine (e.text .signs) := by
  have hspelling : ((Spelling.words.rewrite "and" "&&").rewrite "or" "||").rewrite "not" "!" =
      .signs := Spelling.ext (by decide) (funext fun k => by cases k <;> decide)
  have hand : TurnsSpelling ⟨"and", wholeWord "and", ["&&"]⟩ .words (.rewrite .words "and" "&&") :=
    turnsSpelling_wholeWord (by decide) (by decide) (by decide) (by decide)
  have hor : TurnsSpelling ⟨"or", wholeWord "or", ["||"]⟩ (.rewrite .words "and" "&&")
      (.rewrite (.rewrite .words "and" "&&") "or" "||") :=
    turnsSpelling_wholeWord (by decide) (by decide) (by decide) (by decide)
  have hnot : TurnsSpelling ⟨"not", wholeWord "not", ["!"]⟩
      (.rewrite (.rewrite .words "and" "&&") "or" "||") .signs :=
    hspelling ▸ turnsSpelling_wholeWord (by decide) (by decide) (by decide) (by decide)
  rw [toSigns, Rule.applyAll_cons, hand.apply_braceLine, Rule.applyAll_cons, hor.apply_braceLine,
    Rule.applyAll_cons, hnot.apply_braceLine, Rule.applyAll_nil]

/-- **Each connective becomes a sign,** and the condition stands between parentheses. -/
theorem runRules_colonLine (e : Logic) :
    toJavaScript.runRules (colonLine (e.text .words)) = braceLine (e.text .signs) := by
  have hrules : javaScriptRules = javaScriptRules.take 13 ++ (returnStatement ::
      ⟨"if", header "if", ["if (", 1, ") \x7b"]⟩ :: ((javaScriptRules.drop 15).take 13 ++
        (toSigns ++ javaScriptRules.drop 31))) := rfl
  have hwords : ∀ p ∈ Spelling.words.pieces, IsIdle p := by decide
  have hsigns : ∀ p ∈ Spelling.signs.pieces, IsIdle p := by decide
  have hcolon : ':' ∉ e.text .words := e.not_mem_text (by decide) (by decide) (by decide)
  have hfeed : '\n' ∉ e.text .words := e.not_mem_text (by decide) (by decide) (by decide)
  have hbefore : Rule.applyAll (javaScriptRules.take 13) (colonLine (e.text .words)) =
      colonLine (e.text .words) :=
    applyAll_of_isIdle (List.take_subset _ _) (by decide)
      (isColonChar_of_mem (by decide) e) (isIdle_colonLine hwords e)
  have hbetween : Rule.applyAll ((javaScriptRules.drop 15).take 13) (braceLine (e.text .words)) =
      braceLine (e.text .words) :=
    applyAll_of_isIdle (List.Subset.trans (List.take_subset _ _) (List.drop_subset _ _))
      (by decide) (isBraceChar_of_mem (by decide) e) (isIdle_braceLine hwords e)
  have hbehind : Rule.applyAll (javaScriptRules.drop 31) (braceLine (e.text .signs)) =
      braceLine (e.text .signs) :=
    applyAll_of_isIdle (List.drop_subset _ _) (by decide)
      (isBraceChar_of_mem (by decide) e) (isIdle_braceLine hsigns e)
  rw [runRules, toJavaScript, hrules, Rule.applyAll_append, hbefore, Rule.applyAll_cons,
    apply_returnStatement hfeed, Rule.applyAll_cons, apply_header (e.head?_text rfl) hcolon hfeed,
    Rule.applyAll_append, hbetween, Rule.applyAll_append, applyAll_toSigns, hbehind]

/-! ## And back -/

/-- The condition of a header is taken out of its parentheses. -/
theorem apply_ifHeader {x : List Char} (hx : x.head?.any (!isBlank ·) = true)
    (hparen : ')' ∉ x) :
    (⟨"if", ifHeader, ["if ", 1, ":"]⟩ : Rule).apply (braceLine x) = colonLine x := by
  have hreads : ifHeader.Reads ((indentation 0).reverse ++ []) (braceLine x) [] [x] :=
    ifHeader_reads_text hx (fun c hc h => hparen (h ▸ hc)) rfl
  have happly : (⟨"if", ifHeader, ["if ", 1, ":"]⟩ : Rule).apply (braceLine x) = _ :=
    Rule.apply_of_reads_nil (List.cons_ne_nil _ _) hreads
  exact happly

/-- The rules for the signs. -/
def fromSigns : List Rule :=
  [⟨"and", "&&", ["and"]⟩, ⟨"or", "||", ["or"]⟩, ⟨"not", negation, ["not "]⟩]

/-- **Signs become words**, but for the negation, which is left as it is. -/
theorem applyAll_fromSigns (e : Logic) :
    Rule.applyAll fromSigns (colonLine (e.text .signs)) = colonLine (e.text .mixed) := by
  have hspelling : (Spelling.signs.rewrite "&&" "and").rewrite "||" "or" = .mixed :=
    Spelling.ext (by decide) (funext fun k => by cases k <;> decide)
  have hand : TurnsSpelling ⟨"and", "&&", ["and"]⟩ .signs (.rewrite .signs "&&" "and") :=
    turnsSpelling_sign rfl (by decide) (by decide)
  have hor : TurnsSpelling ⟨"or", "||", ["or"]⟩ (.rewrite .signs "&&" "and") .mixed :=
    hspelling ▸ turnsSpelling_sign rfl (by decide) (by decide)
  rw [fromSigns, Rule.applyAll_cons, hand.apply_colonLine, Rule.applyAll_cons, hor.apply_colonLine,
    Rule.applyAll_cons, turnsSpelling_negation.apply_colonLine, Rule.applyAll_nil]

/-- The rules for the truth values and the absent value. -/
def fromValues : List Rule :=
  [⟨"true", wholeWord "true", ["True"]⟩, ⟨"false", wholeWord "false", ["False"]⟩,
    ⟨"null", absentValue, ["None"]⟩]

/-- The rules for values find nothing in a line without their words. -/
theorem applyAll_fromValues {line : List Char} (hidle : IsIdle line) :
    Rule.applyAll fromValues line = line := by
  have htrue : (⟨"true", wholeWord "true", ["True"]⟩ : Rule).apply line = line :=
    apply_of_shows ["true"] (shows_wholeWord (by decide)) (by decide) (by decide) hidle
  have hfalse : (⟨"false", wholeWord "false", ["False"]⟩ : Rule).apply line = line :=
    apply_of_shows ["false"] (shows_wholeWord (by decide)) (by decide) (by decide) hidle
  have habsent : (⟨"null", absentValue, ["None"]⟩ : Rule).apply line = line :=
    apply_of_shows ["null", "undefined"] absentValue_shows (by decide) (by decide) hidle
  rw [fromValues, Rule.applyAll_cons, htrue, Rule.applyAll_cons, hfalse, Rule.applyAll_cons,
    habsent, Rule.applyAll_nil]

/-- **The signs become words again,** but for those of negations. -/
theorem runRules_braceLine (e : Logic) :
    fromJavaScript.runRules (braceLine (e.text .signs)) = colonLine (e.text .mixed) := by
  have hrules : fromJavaScriptRules = fromJavaScriptRules.take 2 ++
      (⟨"function", function, ["def ", 1, "(", 2, "):"]⟩ :: ⟨"if", ifHeader, ["if ", 1, ":"]⟩ ::
        ((fromJavaScriptRules.drop 4).take 12 ++ (fromSigns ++ (fromValues ++
          fromJavaScriptRules.drop 22)))) := rfl
  have hsigns : ∀ p ∈ Spelling.signs.pieces, IsIdle p := by decide
  have hmixed : ∀ p ∈ Spelling.mixed.pieces, IsIdle p := by decide
  have hparen : ')' ∉ e.text .signs := e.not_mem_text (by decide) (by decide) (by decide)
  have hbefore : Rule.applyAll (fromJavaScriptRules.take 2) (braceLine (e.text .signs)) =
      braceLine (e.text .signs) :=
    applyAll_of_lacks (by decide) (isBraceChar_of_mem (by decide) e)
  have hfunction : (⟨"function", function, ["def ", 1, "(", 2, "):"]⟩ : Rule).apply
      (braceLine (e.text .signs)) = braceLine (e.text .signs) :=
    apply_of_shows ["function"] function_shows (by decide) (by decide) (isIdle_braceLine hsigns e)
  have hbetween : Rule.applyAll ((fromJavaScriptRules.drop 4).take 12) (colonLine (e.text .signs)) =
      colonLine (e.text .signs) :=
    applyAll_of_lacks (by decide) (isColonChar_of_mem (by decide) e)
  have hbehind : Rule.applyAll (fromJavaScriptRules.drop 22) (colonLine (e.text .mixed)) =
      colonLine (e.text .mixed) :=
    applyAll_of_lacks (by decide) (isColonChar_of_mem (by decide) e)
  rw [runRules, fromJavaScript, hrules, Rule.applyAll_append, hbefore, Rule.applyAll_cons,
    hfunction, Rule.applyAll_cons, apply_ifHeader (e.head?_text rfl) hparen, Rule.applyAll_append,
    hbetween, Rule.applyAll_append, applyAll_fromSigns, Rule.applyAll_append,
    applyAll_fromValues (isIdle_colonLine hmixed e), hbehind]

end Chain

/-! ## There and back -/

namespace Logic

theorem Term.text_mixed : ∀ {t : Term}, t.hasNot = false → t.text .mixed = t.text .words
  | .name _, _ => rfl

/-- A condition without negations is spelled in words throughout. -/
theorem text_mixed : ∀ {e : Logic}, e.hasNot = false → e.text .mixed = e.text .words
  | .term _, h => Term.text_mixed h
  | .join t k e, h => by
      obtain ⟨ht, he⟩ := Bool.or_eq_false_iff.mp h
      rw [text, text, Term.text_mixed ht, text_mixed he]
      rfl

theorem Term.mem_text_mixed : ∀ {t : Term}, t.hasNot = true → '!' ∈ t.text .mixed
  | .not _, _ => List.mem_cons_self

/-- A negation that is left shows its sign. -/
theorem mem_text_mixed : ∀ {e : Logic}, e.hasNot = true → '!' ∈ e.text .mixed
  | .term _, h => Term.mem_text_mixed h
  | .join t k e, h => by
      rw [text]
      rcases Bool.or_eq_true_iff.mp h with ht | he
      · exact List.mem_append_left _ (Term.mem_text_mixed ht)
      · simp [mem_text_mixed he]

/-- **The sign for a negation tells** whether a condition is as it was. -/
theorem text_mixed_eq_iff (e : Logic) : e.text .mixed = e.text .words ↔ e.hasNot = false := by
  refine ⟨fun heq => ?_, text_mixed⟩
  by_contra hnot
  have hsign : '!' ∉ e.text .words := e.not_mem_text (by decide) (by decide) (by decide)
  exact hsign (heq ▸ mem_text_mixed (by simpa using hnot))

end Logic

namespace Chain

open Logic

/-- **Conditions there and back.** A condition comes back with its connectives, each `not` written
as a sign, so it comes back as it was if it has no `not`, and only then. -/
theorem runRules_logic (e : Logic) :
    fromJavaScript.runRules (toJavaScript.runRules (colonLine (e.text .words))) =
        colonLine (e.text .mixed) ∧
      (fromJavaScript.runRules (toJavaScript.runRules (colonLine (e.text .words))) =
        colonLine (e.text .words) ↔ e.hasNot = false) := by
  rw [runRules_colonLine, runRules_braceLine]
  refine ⟨rfl, ?_⟩
  rw [colonLine, colonLine, List.append_cancel_left_eq, List.append_cancel_right_eq]
  exact e.text_mixed_eq_iff

/-- A negation comes back as a sign. -/
theorem runRules_logic_not :
    let e : Logic := .term (.not (.name ⟨['a'], by decide, by decide⟩))
    colonLine (e.text .words) = "if not a:".toList ∧
      fromJavaScript.runRules (toJavaScript.runRules (colonLine (e.text .words))) =
        "if ! a:".toList ∧
      fromJavaScript.runRules (toJavaScript.runRules (colonLine (e.text .words))) ≠
        colonLine (e.text .words) := by
  decide

end Chain

end Recast
