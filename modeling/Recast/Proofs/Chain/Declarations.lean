import Recast.Proofs.Chain.Assignments
import Recast.Proofs.Chain.Untouched

/-!
# Proofs/Chain/Declarations — literals that are assigned become declarations

Each of the ten chains declares the names of numbers and truth values in its own way, and the shape
of the literal alone decides which of its declarations is written (`declarations`). A text of
assignments, in any order and behind any spaces and tabs, is turned into these declarations line by
line (`Chain.runRules_assignments`).

Three things are seen from a table: which rule writes the line, what it writes, and that the rules
in front of it and behind it look for something else. All three are checked by evaluation, on shapes
of literals and stencils of phrases. Only Ruby and PHP are different, as their tables have one rule
for all values: the truth values are then respelled where they stand.
-/

namespace Recast

open Text Source Form Pattern

/-! ## Declarations -/

/-- **How a language declares a name with a first value.** In the phrases the first blank is the
name and the second one the value. -/
structure Declarations where
  whole : Phrase
  point : Phrase
  truth : Phrase
  yes : String := "true"
  no : String := "false"

namespace Declarations

/-- One phrase for all values. -/
def same (phrase : Phrase) : Declarations := { whole := phrase, point := phrase, truth := phrase }

/-- The type stands in front of the name. -/
def typed (whole point truth : String) : Declarations where
  whole := [.text (whole ++ " "), 1, " = ", 2, ";"]
  point := [.text (point ++ " "), 1, " = ", 2, ";"]
  truth := [.text (truth ++ " "), 1, " = ", 2, ";"]

/-- Signs stand in front of the name and behind the value. -/
def plainPhrase (sigil close : String) : Phrase := [.text sigil, 1, " = ", 2, .text close]

def plain (sigil close : String) : Declarations := same (plainPhrase sigil close)

/-- The truth values are written as they were. -/
def unspelled (d : Declarations) : Declarations := { d with yes := "True", no := "False" }

variable (d : Declarations)

def phrase : Literal.Shape → Phrase
  | .whole => d.whole
  | .point => d.point
  | .truth _ => d.truth

def word (value : Bool) : String := if value then d.yes else d.no

/-- How the language writes the literal. -/
def value : Literal → List Char
  | .truth value => (d.word value).toList
  | literal => literal.text

end Declarations

/-- The declaration that an assignment becomes. -/
def Source.Assignment.declared (a : Assignment) (d : Declarations) : List Char :=
  a.line (d.phrase a.value.shape) (d.value a.value)

/-- **The declarations of each target.** -/
def declarations : List (String × Declarations) :=
  [ ("javascript", .same ["let ", 1, " = ", 2, ";"]),
    ("typescript",
      { whole := ["let ", 1, ": number = ", 2, ";"]
        point := ["let ", 1, ": number = ", 2, ";"]
        truth := ["let ", 1, ": boolean = ", 2, ";"] }),
    ("java", .typed "int" "double" "boolean"),
    ("cpp", .typed "int" "double" "bool"),
    ("c", { Declarations.typed "int" "double" "int" with yes := "1", no := "0" }),
    ("go", .same [1, " := ", 2]),
    ("ruby", .plain "" ""),
    ("php", .plain "$" ";"),
    ("swift", .same ["var ", 1, " = ", 2]),
    ("csharp", .typed "int" "double" "bool") ]

/-! ## What is written by a table -/

namespace Declarations

variable {a : Assignment} {d : Declarations} {form : AssignForm} {rules : List Rule}
  {forms : List AssignForm} {word : String} {shape : Literal.Shape}

/-- The second blank is filled with the word. -/
def settle (word : String) (phrase : Phrase) : Phrase :=
  phrase.map fun piece => if piece = 2 then .text word else piece

theorem fill_settle (phrase : Phrase) (word : String) (x : List Char) :
    (settle word phrase).fill (fillers [x]) = phrase.fill (fillers [x, word.toList]) := by
  rw [settle, Phrase.fill, Phrase.fill, List.flatMap_map]
  refine List.flatMap_congr fun piece _ => ?_
  cases piece with
  | text _ => rfl
  | group n => rcases n with _ | _ | _ | n <;> rfl

/-- What is written, behind the indentation, is the declaration of literals of that shape. -/
def agrees (d : Declarations) (form : AssignForm) (shape : Literal.Shape)
    (written : Option Stencil) : Bool :=
  match form.keepsValue, shape with
  | true, .truth value => written == some d.truth.stencil && d.word value == truthWord value
  | true, shape => written == some (d.phrase shape).stencil
  | false, .truth value => written == some (settle (d.word value) d.truth).stencil
  | false, _ => false

/-- The rules write the declaration of literals of that shape. -/
def writes (d : Declarations) (rules : List Rule) (forms : List AssignForm)
    (shape : Literal.Shape) : Bool :=
  match AssignForm.writer? rules forms shape with
  | some (form, rule, later) =>
    d.agrees form shape rule.phrase.stencil.behindMargin? &&
      (later.isEmpty || AssignForm.declares (d.phrase shape).stencil)
  | none => false

/-- The phrase of the rule writes the declaration. -/
theorem fill_of_agrees {rule : Rule}
    (h : d.agrees form a.value.shape rule.phrase.stencil.behindMargin? = true) :
    rule.phrase.stencil.fill (fillers (form.kept a)) = a.declared d := by
  have hwritten {phrase : Phrase} (values : List (List Char))
      (hw : rule.phrase.stencil.behindMargin? = some phrase.stencil) :
      rule.phrase.stencil.fill (fillers (a.margin :: values)) =
        a.margin ++ phrase.fill (fillers values) := by
    rw [Stencil.fill_of_behindMargin? hw, Phrase.fill_stencil]
  rw [Assignment.declared, Assignment.line, AssignForm.kept]
  generalize a.value = literal at h ⊢
  cases hkeeps : form.keepsValue with
  | true =>
    cases literal with
    | whole n => exact hwritten _ (by simpa [agrees, hkeeps, Literal.shape] using h)
    | point n k => exact hwritten _ (by simpa [agrees, hkeeps, Literal.shape] using h)
    | truth b =>
      obtain ⟨hphrase, hword⟩ : rule.phrase.stencil.behindMargin? = some d.truth.stencil ∧
          d.word b = truthWord b := by simpa [agrees, hkeeps, Literal.shape] using h
      rw [value, hword]
      exact hwritten _ hphrase
  | false =>
    cases literal with
    | whole n => simp [agrees, hkeeps, Literal.shape] at h
    | point n k => simp [agrees, hkeeps, Literal.shape] at h
    | truth b =>
      have hphrase : rule.phrase.stencil.behindMargin? =
          some (settle (d.word b) d.truth).stencil := by
        simpa [agrees, hkeeps, Literal.shape] using h
      exact (hwritten _ hphrase).trans (congrArg _ (fill_settle _ _ _))

/-- The characters of the lines of declarations. -/
def isLineChar (c : Char) : Bool := isWord c || " \t=.:;$".toList.contains c

/-- The phrase has no other characters, and no keyword, in it. -/
def isTidy (phrase : Phrase) : Bool :=
  phrase.stencil.seamed && phrase.stencil.texts.all fun text =>
    text.all isLineChar && pythonWords.all fun word => !(words text).contains word.toList

/-- A keyword in a tidy line is one of the value. -/
theorem not_mem_words_line {phrase : Phrase} (htidy : isTidy phrase = true)
    (hword : word ∈ pythonWords) {value : List Char} (hvalue : word.toList ∉ words value) :
    word.toList ∉ words (a.line phrase value) := fun hin => by
  obtain ⟨hseamed, htexts⟩ := Bool.and_eq_true_iff.mp htidy
  rcases Assignment.mem_words_line hseamed hword hin with ⟨text, htext, hin⟩ | hin
  · have hnone := (Bool.and_eq_true_iff.mp (List.all_eq_true.mp htexts text htext)).2
    exact absurd hin (by simpa using List.all_eq_true.mp hnone word hword)
  · exact hvalue hin

/-- The phrases are tidy, and the truth values are words that are none of these. -/
def isTidyBut (d : Declarations) (ws : List String) : Bool :=
  [d.whole, d.point, d.truth].all isTidy &&
    [d.yes, d.no].all fun word =>
      !word.toList.isEmpty && word.toList.all isWord && !ws.contains word

section Tidy

variable {ws : List String}

/-- The phrases of a tidy declaration are tidy. -/
theorem isTidy_phrase (h : d.isTidyBut ws = true) (shape : Literal.Shape) :
    isTidy (d.phrase shape) = true := by
  refine List.all_eq_true.mp (Bool.and_eq_true_iff.mp h).1 _ ?_
  cases shape <;> simp [phrase]

/-- A tidy declaration spells a truth value as one word, and not as the source does. -/
theorem isWordRun_word (h : d.isTidyBut ws = true) (b : Bool) :
    IsWordRun (d.word b).toList ∧ d.word b ∉ ws := by
  have hmem : d.word b ∈ [d.yes, d.no] := by cases b <;> simp [word]
  have hword := List.all_eq_true.mp (Bool.and_eq_true_iff.mp h).2 _ hmem
  obtain ⟨⟨hne, hall⟩, hnot⟩ : (d.word b ≠ "" ∧ ∀ c ∈ (d.word b).toList, isWord c = true) ∧
      d.word b ∉ ws := by simpa using hword
  exact ⟨⟨by simpa using hne, hall⟩, hnot⟩

/-- A number is written as it is. -/
theorem value_eq_text_or (d : Declarations) (literal : Literal) :
    (d.value literal = literal.text ∧ ∀ b, literal ≠ .truth b) ∨ ∃ b, literal = .truth b := by
  match literal with
  | .whole _ | .point _ _ => exact .inl ⟨rfl, by simp⟩
  | .truth b => exact .inr ⟨b, rfl⟩

theorem isLineChar_value (h : d.isTidyBut ws = true) {literal : Literal} {c : Char}
    (hc : c ∈ d.value literal) : isLineChar c = true := by
  rcases d.value_eq_text_or literal with ⟨hvalue, -⟩ | ⟨b, rfl⟩
  · rcases Literal.mem_text (hvalue ▸ hc) with hword | rfl
    · simp [isLineChar, hword]
    · decide
  · simp [isLineChar, (isWordRun_word h b).1.isWord c hc]

/-- No word of the source is left in what a literal is written as. -/
theorem not_mem_words_value (h : d.isTidyBut ws = true) (hws : ws ⊆ pythonWords) {word : String}
    (hword : word ∈ ws) {literal : Literal} : word.toList ∉ words (d.value literal) := fun hin => by
  rcases d.value_eq_text_or literal with ⟨hvalue, hnot⟩ | ⟨b, rfl⟩
  · obtain ⟨b, hb, -⟩ := Literal.eq_truthWord_of_mem_words (hws hword) (hvalue ▸ hin)
    exact hnot b hb
  · obtain ⟨hrun, hnot⟩ := isWordRun_word h b
    rw [value, words_of_all hrun.isWord, List.mem_singleton, String.toList_inj] at hin
    exact hnot (hin ▸ hword)

/-- What is declared is made of the signs of a line. -/
theorem isLineChar_declared (h : d.isTidyBut ws = true) {c : Char} (hc : c ∈ a.declared d) :
    isLineChar c = true := by
  obtain ⟨-, htexts⟩ := Bool.and_eq_true_iff.mp (isTidy_phrase h a.value.shape)
  rcases Assignment.mem_line hc with hmargin | ⟨text, htext, hc⟩ | hword | hmem
  · rcases Bool.or_eq_true_iff.mp hmargin with h | h <;> rw [beq_iff_eq.mp h] <;> decide
  · have hall := (Bool.and_eq_true_iff.mp (List.all_eq_true.mp htexts text htext)).1
    exact List.all_eq_true.mp hall c hc
  · simp [isLineChar, hword]
  · exact isLineChar_value h hmem

theorem lineFeed_not_mem_declared (h : d.isTidyBut ws = true) : '\n' ∉ a.declared d := fun hc =>
  absurd (isLineChar_declared h hc) (by decide)

/-- **A declaration has none of the signs and words that the later rules look for.** -/
theorem idle_declared (h : d.isTidyBut ws = true) (hws : ws ⊆ pythonWords) :
    Rule.Idle isLineChar (wordCues ws) (a.declared d) := by
  refine ⟨fun c hc => isLineChar_declared h hc, ?_⟩
  rw [wordCues, List.forall_mem_map]
  exact fun word hword => not_mem_words_line (isTidy_phrase h a.value.shape) (hws hword)
    (not_mem_words_value h hws hword)

/-- Rules that look for something else leave a text of declarations alone. -/
theorem applyAll_of_passes {table : List Rule} (h : d.isTidyBut ws = true) (hws : ws ⊆ pythonWords)
    (hcalled : Called table) (hrules : rules ⊆ table)
    (hpasses : rules.all (Rule.passes (Rule.orLineFeed isLineChar) (wordCues ws)) = true)
    (as : List Assignment) :
    Rule.applyAll rules (joinLines (as.map (·.declared d))) =
      joinLines (as.map (·.declared d)) := by
  refine Rule.applyAll_of_passes hcalled hrules hpasses (Rule.Idle.joinLines ?_ ?_)
  · simpa using fun a _ => idle_declared (a := a) h hws
  · have hplain : pythonWords.all (fun word => (Cue.word word.toList).isPlain) = true := by decide
    simpa [wordCues] using fun word hword => List.all_eq_true.mp hplain word (hws hword)

end Tidy

/-! ## The lines of a text -/

/-- The source language, as if its assignments were declarations. -/
def python : Declarations := unspelled (plain "" "")

/-- The source declares in its own way, with nothing around. -/
theorem text_eq_declared (a : Assignment) : a.text = a.declared python := by
  have hvalue : python.value a.value = a.value.text := by
    cases a.value with
    | whole n => rfl
    | point n k => rfl
    | truth b => cases b <;> rfl
  have hphrase : python.phrase a.value.shape = plainPhrase "" "" := by
    cases a.value.shape <;> rfl
  rw [Assignment.declared, hvalue, hphrase]
  simp [Assignment.text, Assignment.line, plainPhrase, Phrase.fill, Piece.fill, fillers]

/-- A literal of each shape. -/
def shapes : List Literal.Shape := [.whole, .point, .truth true, .truth false]

theorem mem_shapes : ∀ shape : Literal.Shape, shape ∈ shapes
  | .whole | .point | .truth true | .truth false => by simp [shapes]

/-- **The rules for assignments write the declarations**, line by line. -/
theorem applyAll_of_writes {ws : List String} (htidy : d.isTidyBut ws = true)
    (hpatterns : rules.map (·.pattern) = forms.map AssignForm.pattern)
    (hwrites : shapes.all (d.writes rules forms) = true) (as : List Assignment) :
    Rule.applyAll rules (joinLines (as.map (·.text))) = joinLines (as.map (·.declared d)) := by
  refine Rule.applyAll_joinLines (fun rule hrule => ?_) ?_
  · have hmem : rule.pattern ∈ forms.map AssignForm.pattern :=
      hpatterns ▸ List.mem_map_of_mem hrule
    obtain ⟨form, -, hpattern⟩ := List.mem_map.mp hmem
    obtain ⟨value, hassign⟩ := form.exists_pattern_eq
    rw [← hpattern, hassign]
    exact (assign_shows value).shuns_lineFeed (by decide)
  · rw [List.forall₂_map_left_iff, List.forall₂_map_right_iff, List.forall₂_same]
    intro a _
    have hwrite := List.all_eq_true.mp hwrites a.value.shape (mem_shapes _)
    rw [writes] at hwrite
    split at hwrite
    · rename_i form rule later hwriter
      obtain ⟨hagrees, hlater⟩ := Bool.and_eq_true_iff.mp hwrite
      exact AssignForm.runs_of_writer? hpatterns hwriter (fill_of_agrees hagrees)
        (by simpa using hlater) (lineFeed_not_mem_declared htidy)
    · exact absurd hwrite (by simp)

/-! ## Truth values that are respelled in place -/

/-- The rules that write the truth values in another way, wherever they stand. -/
def truthRules : List Rule :=
  [⟨"true", wholeWord "True", ["true"]⟩, ⟨"false", wholeWord "False", ["false"]⟩]

section Truth

variable {sigil close : String}

theorem line_plain (a : Assignment) (sigil close : String) (value : List Char) :
    a.line (plainPhrase sigil close) value =
      (a.margin ++ (sigil.toList ++ (a.name.chars ++ " = ".toList))) ++
        (value ++ close.toList) := by
  simp [Assignment.line, plainPhrase, Phrase.fill, Piece.fill, fillers]

/-- **The word behind the name is respelled**, and the name is left alone. -/
theorem turns_wholeWord (name written : String)
    (hsigns : (sigil ++ close).toList.all (!isWord ·) = true) (hword : IsWordRun word.toList)
    (hname : word.toList ≠ a.name.chars) :
    (⟨name, wholeWord word, [.text written]⟩ : Rule).Turns
      (a.line (plainPhrase sigil close) word.toList)
      (a.line (plainPhrase sigil close) written.toList) := by
  have hplain : (Cue.word word.toList).isPlain = true := by
    simpa [Cue.isPlain] using And.intro hword.ne_nil hword.isWord
  obtain ⟨hsigil, hclose⟩ : (∀ c ∈ sigil.toList, isWord c = false) ∧
      ∀ c ∈ close.toList, isWord c = false := by simpa [or_imp, forall_and] using hsigns
  have hsign {before line rest : List Char} (h : ∀ c ∈ line, isWord c = false) :
      (wholeWord word).Misses before line rest := by
    rw [wholeWord_eq]
    exact misses_of_shuns (shuns_wholeWords (by simpa using hplain)) (by simpa using h)
  rw [line_plain, line_plain]
  refine Rule.turns_of_read hword.ne_nil (fun before rest _ => ?_) (fun before rest _ hrest => ?_)
    fun before rest _ => hsign hclose
  · refine .append (hsign fun c hc => isWord_of_isMargin c (a.isMargin c hc))
      (.append (hsign hsigil) (.append ?_ (hsign (by decide))))
    rw [wholeWord_eq]
    exact misses_wholeWords (by simpa using hplain) a.name.isWordRun.isWord
      (by simpa using hname) rfl
  · refine ⟨_, readAt?_wholeWord hplain ?_ ?_, rfl, Rule.fillFrom_text _ _⟩
    · simpa using (by decide : isWord ' ' = false)
    · cases hchars : close.toList with
      | nil => exact head?_of_lineFeed rfl hrest
      | cons c more => simpa using hclose c (by simp [hchars])

/-- A line without the word is left alone. -/
theorem leaves_wholeWord {phrase : Phrase} {value : List Char} (name word written : String)
    (htidy : isTidy phrase = true) (hword : word ∈ pythonWords)
    (hvalue : word.toList ∉ words value) :
    (⟨name, wholeWord word, [.text written]⟩ : Rule).Leaves (a.line phrase value) := by
  have hplains : pythonWords.all (fun w => (Cue.word w.toList).isPlain) = true := by decide
  have hplain := List.all_eq_true.mp hplains word hword
  refine Rule.leaves_of_misses fun before rest _ hrest =>
    misses_of_shows (shows_wholeWord hplain) (by simpa using hplain) hrest ?_
  simpa [Cue.In] using not_mem_words_line htidy hword hvalue

/-- **The truth values of a declaration are respelled**, and nothing else in it is. -/
theorem runs_truthRules (htidy : (plain sigil close).isTidyBut pythonWords = true)
    (hsigns : (sigil ++ close).toList.all (!isWord ·) = true) :
    Rule.Runs truthRules (a.declared (plain sigil close).unspelled)
      (a.declared (plain sigil close)) := by
  have hphrase (shape : Literal.Shape) :
      (plain sigil close).phrase shape = plainPhrase sigil close ∧
        (plain sigil close).unspelled.phrase shape = plainPhrase sigil close := by
    cases shape <;> exact ⟨rfl, rfl⟩
  have hleaves {name word : String} (written : String) (hword : word ∈ pythonWords) :
      (⟨name, wholeWord word, [.text written]⟩ : Rule).Leaves
        (a.line (plainPhrase sigil close) ((plain sigil close).value a.value)) :=
    leaves_wholeWord name word written (isTidy_phrase htidy .whole) hword
      (not_mem_words_value htidy (List.Subset.refl _) hword)
  rw [Assignment.declared, Assignment.declared, (hphrase _).1, (hphrase _).2]
  generalize hvalue : a.value = literal at hleaves ⊢
  match literal with
  | .whole _ | .point _ _ =>
    exact .cons (hleaves _ (by decide)) (.cons (hleaves _ (by decide)) (.nil _))
  | .truth true =>
    have hturns := turns_wholeWord "true" "true" hsigns (isWordRun_truthWord true)
      (a.name.not_keyword _ (by decide))
    exact .cons hturns (.cons (hleaves _ (by decide)) (.nil _))
  | .truth false =>
    have hturns := turns_wholeWord "false" "false" hsigns (isWordRun_truthWord false)
      (a.name.not_keyword _ (by decide))
    have hfirst : Rule.Leaves _ (a.line (plainPhrase sigil close) "False".toList) :=
      leaves_wholeWord "true" "True" "true" (isTidy_phrase htidy .whole) (by decide) (by decide)
    exact .cons hfirst (.cons hturns (.nil _))

/-- **The rules for truth values** spell them anew behind declarations. -/
theorem applyAll_truthRules (htidy : (plain sigil close).isTidyBut pythonWords = true)
    (hsigns : (sigil ++ close).toList.all (!isWord ·) = true) (as : List Assignment) :
    Rule.applyAll truthRules (joinLines (as.map (·.declared (plain sigil close).unspelled))) =
      joinLines (as.map (·.declared (plain sigil close))) := by
  refine Rule.applyAll_joinLines ?_ ?_
  · simp only [truthRules, List.forall_mem_cons]
    exact ⟨(shows_wholeWord (by decide)).shuns_lineFeed (by decide),
      (shows_wholeWord (by decide)).shuns_lineFeed (by decide), by simp⟩
  · rw [List.forall₂_map_left_iff, List.forall₂_map_right_iff, List.forall₂_same]
    exact fun a _ => runs_truthRules htidy hsigns

end Truth

end Declarations

/-! ## The rules for assignments -/

/-- The forms of a table's rules for assignments, in order. -/
def assignForms (target : String) : List AssignForm :=
  let typed := [.double, .single, .int, .float, .truth true, .truth false]
  match target with
  | "javascript" =>
    [.double, .single, .number, .truth true, .truth false, .absent, .list, .dict, .any]
  | "typescript" => typed ++ [.absent, .list, .any]
  | "cpp" | "go" => typed ++ [.list]
  | "ruby" | "php" => [.any]
  | _ => typed ++ [.absent, .list]

namespace Chain

/-- The rules behind the first three look for the forms of assignments. -/
theorem patterns_eq {chain : Chain} (h : chain ∈ fromPython) :
    ((chain.rules.drop 3).take (assignForms chain.target).length).map (·.pattern) =
      (assignForms chain.target).map AssignForm.pattern := by
  simp only [fromPython, List.mem_cons, List.not_mem_nil, or_false] at h
  rcases h with rfl | rfl | rfl | rfl | rfl | rfl | rfl | rfl | rfl | rfl <;> rfl

open Declarations

variable {chain : Chain} {d : Declarations}

/-- The rules in front of those for assignments look for something else, and these write the
declarations. -/
def startsBy (chain : Chain) (d : Declarations) : Bool :=
  let forms := assignForms chain.target
  (chain.rules.take 3).all (Rule.passes (Rule.orLineFeed isLineChar) []) && d.isTidyBut [] &&
    shapes.all (d.writes ((chain.rules.drop 3).take forms.length) forms)

/-- **The rules for assignments declare**, whatever rules come after them. -/
theorem applyAll_take (hchain : chain ∈ fromPython) (h : chain.startsBy d = true)
    (as : List Assignment) :
    Rule.applyAll (chain.rules.take (3 + (assignForms chain.target).length))
      (joinLines (as.map (·.text))) = joinLines (as.map (·.declared d)) := by
  obtain ⟨hfront, hwrites⟩ := Bool.and_eq_true_iff.mp h
  obtain ⟨hpasses, htidy⟩ := Bool.and_eq_true_iff.mp hfront
  have hfirst : Rule.applyAll (chain.rules.take 3) (joinLines (as.map (·.text))) =
      joinLines (as.map (·.text)) := by
    simp only [text_eq_declared]
    exact applyAll_of_passes (by decide) (List.nil_subset _) (called_of_mem_fromPython hchain)
      (List.take_subset _ _) hpasses as
  rw [List.take_add, Rule.applyAll_append, hfirst]
  exact applyAll_of_writes htidy (patterns_eq hchain) hwrites as

/-- The declarations are written at once, and nothing behind it is looked for in them. -/
def declaresBy (chain : Chain) (d : Declarations) : Bool :=
  chain.startsBy d && d.isTidyBut pythonWords &&
    (chain.rules.drop (3 + (assignForms chain.target).length)).all
      (Rule.passes (Rule.orLineFeed isLineChar) (wordCues pythonWords))

/-- A chain whose later rules find nothing leaves the declarations. -/
theorem runRules_of_declaresBy (hchain : chain ∈ fromPython) (h : chain.declaresBy d = true)
    (as : List Assignment) :
    chain.runRules (joinLines (as.map (·.text))) = joinLines (as.map (·.declared d)) := by
  obtain ⟨hfront, hback⟩ := Bool.and_eq_true_iff.mp h
  obtain ⟨hstarts, htidy⟩ := Bool.and_eq_true_iff.mp hfront
  rw [runRules, ← List.take_append_drop (3 + (assignForms chain.target).length) chain.rules,
    Rule.applyAll_append, applyAll_take hchain hstarts]
  exact applyAll_of_passes htidy (List.Subset.refl _) (called_of_mem_fromPython hchain)
    (List.drop_subset _ _) hback as

/-- The keywords but the truth values. -/
def plainWords : List String := pythonWords.filter fun word => word != "True" && word != "False"

/-- The truth values are respelled later, between rules that look for something else. -/
def respellsBy (chain : Chain) (sigil close : String) (rules later : List Rule) : Bool :=
  chain.startsBy (plain sigil close).unspelled &&
    (plain sigil close).unspelled.isTidyBut plainWords &&
    rules.all (Rule.passes (Rule.orLineFeed isLineChar) (wordCues plainWords)) &&
    (sigil ++ close).toList.all (!isWord ·) &&
    (plain sigil close).isTidyBut pythonWords &&
    later.all (Rule.passes (Rule.orLineFeed isLineChar) (wordCues pythonWords))

theorem runRules_of_respellsBy (hchain : chain ∈ fromPython) {sigil close : String}
    {rules later : List Rule} (hdrop : chain.rules.drop (3 + (assignForms chain.target).length) =
      rules ++ (truthRules ++ later))
    (h : chain.respellsBy sigil close rules later = true) (as : List Assignment) :
    chain.runRules (joinLines (as.map (·.text))) =
      joinLines (as.map (·.declared (plain sigil close))) := by
  simp only [respellsBy, Bool.and_eq_true] at h
  obtain ⟨⟨⟨⟨⟨hstarts, hunspelled⟩, hrules⟩, hsigns⟩, htidy⟩, hlater⟩ := h
  have hcalled : Called chain.rules := called_of_mem_fromPython hchain
  have hsubset : rules ++ (truthRules ++ later) ⊆ chain.rules := hdrop ▸ List.drop_subset _ _
  obtain ⟨hbefore, hbehind⟩ := List.append_subset.mp hsubset
  have hwords : plainWords ⊆ pythonWords := fun _ hword => (List.mem_filter.mp hword).1
  calc chain.runRules (joinLines (as.map (·.text)))
      = Rule.applyAll (rules ++ (truthRules ++ later))
          (joinLines (as.map (·.declared (plain sigil close).unspelled))) := by
        rw [runRules, ← List.take_append_drop (3 + (assignForms chain.target).length) chain.rules,
          Rule.applyAll_append, applyAll_take hchain hstarts, hdrop]
    _ = Rule.applyAll later (Rule.applyAll truthRules
          (joinLines (as.map (·.declared (plain sigil close).unspelled)))) := by
        rw [Rule.applyAll_append, Rule.applyAll_append,
          applyAll_of_passes hunspelled hwords hcalled hbefore hrules]
    _ = Rule.applyAll later (joinLines (as.map (·.declared (plain sigil close)))) := by
        rw [applyAll_truthRules htidy hsigns]
    _ = joinLines (as.map (·.declared (plain sigil close))) :=
        applyAll_of_passes htidy (List.Subset.refl _) hcalled (List.append_subset.mp hbehind).2
          hlater as

/-- The later rules of these chains find nothing, as their tables show. -/
theorem declaresBy_of_mem :
    ∀ chain ∈ [toJavaScript, toTypeScript, toJava, toCpp, toC, toGo, toSwift, toCSharp],
      (declarations.lookup chain.target).any chain.declaresBy = true := by
  decide

/-- **Each literal that is assigned becomes the declaration of its shape**, and nothing else, line
by line, by every chain from Python. -/
theorem runRules_assignments {chain : Chain} (hchain : chain ∈ fromPython) :
    ∃ d, declarations.lookup chain.target = some d ∧ ∀ as : List Assignment,
      chain.runRules (joinLines (as.map (·.text))) = joinLines (as.map (·.declared d)) := by
  have hcases : chain ∈ [toJavaScript, toTypeScript, toJava, toCpp, toC, toGo, toSwift, toCSharp] ∨
      chain = toRuby ∨ chain = toPhp := by
    simp only [fromPython, List.mem_cons, List.not_mem_nil, or_false] at hchain ⊢
    tauto
  rcases hcases with htyped | rfl | rfl
  · obtain ⟨d, hd, hdeclares⟩ := (Option.any_eq_true _ _).mp (declaresBy_of_mem chain htyped)
    exact ⟨d, hd, runRules_of_declaresBy hchain hdeclares⟩
  · have hparts : toRuby.rules.drop 4 = (toRuby.rules.drop 4).take 18 ++
      (truthRules ++ toRuby.rules.drop 24) := rfl
    exact ⟨_, rfl, runRules_of_respellsBy hchain hparts (by decide)⟩
  · have hparts : toPhp.rules.drop 4 = (toPhp.rules.drop 4).take 18 ++
      (truthRules ++ toPhp.rules.drop 24) := rfl
    exact ⟨_, rfl, runRules_of_respellsBy hchain hparts (by decide +kernel)⟩

/-- Names that the target keeps for itself, or that are functions, are declared like any other. -/
theorem runRules_assignments_let : toTypeScript ∈ fromPython ∧
    toTypeScript.runRules "\t let = 007\nprint = True\n x = 3.14".toList =
      "\t let let: number = 007;\nlet print: boolean = true;\n let x: number = 3.14;".toList := by
  have hmem : toTypeScript ∈ fromPython := by simp [fromPython]
  let first : Assignment :=
    { margin := "\t ".toList, isMargin := by decide
      name := ⟨"let".toList, by decide, by decide⟩
      value := .whole ⟨"007".toList, by decide, by decide⟩ }
  let second : Assignment :=
    { margin := [], isMargin := by decide
      name := ⟨"print".toList, by decide, by decide⟩
      value := .truth true }
  let third : Assignment :=
    { margin := " ".toList, isMargin := by decide
      name := ⟨"x".toList, by decide, by decide⟩
      value := .point ⟨"3".toList, by decide, by decide⟩ ⟨"14".toList, by decide, by decide⟩ }
  obtain ⟨d, hd, hlines⟩ := runRules_assignments hmem
  obtain rfl := Option.some.inj hd
  exact ⟨hmem, hlines [first, second, third]⟩

end Chain

end Recast
