import Recast.Proofs.Chain.Triggers
import Recast.Proofs.Pattern.Respelling
import Recast.Proofs.Text.Lines

/-!
# Proofs/Chain/Untouched — texts that no rule from Python touches

Each rule of the ten chains has a cue: a word, or some signs, that stand in every text it changes
anything in (`Pattern.Called.misses_of_cue`). All the chains together get by with a few of them, and
so a text that has none of these is returned as it is (`Chain.runRules_eq_self`). Words count as
words of their own only, in any alphabet: `android` has no `and` in it.

The same check, with a class of characters beside the cues, says which part of a table passes over a
text of a known shape (`Rule.applyAll_of_passes`).
-/

namespace Recast

open Text Pattern

/-! ## A rule that lacks its cue -/

/-- **A line without the cue is passed over**, whatever stands around it. -/
theorem Pattern.Called.misses_of_cue {p : Pattern} {cue : Cue} {before line rest : List Char}
    (h : p.Called) (hcue : p.cue? = some cue) (hplain : cue.isPlain = true) (hnot : ¬ cue.In line)
    (hrest : rest.head?.all (· = '\n') = true) : p.Misses before line rest :=
  misses_of_shows (h.shows hcue hplain) (by simpa using hplain) hrest (by simpa using hnot)

/-- A cue that stands in a text stands in one of its lines. -/
theorem Cue.in_joinLines {cue : Cue} {ls : List (List Char)} (hplain : cue.isPlain = true)
    (h : cue.In (joinLines ls)) : ∃ line ∈ ls, cue.In line := by
  cases cue with
  | word w =>
    by_cases hne : ls = []
    · obtain rfl : w = [] := by simpa [hne, Cue.In, joinLines] using h
      exact absurd hplain (by decide)
    · exact mem_words_joinLines hne h
  | text w =>
    by_cases hne : ls = []
    · obtain rfl : w = [] := by simpa [hne, Cue.In, joinLines] using h
      exact absurd hplain (by decide)
    · exact infix_joinLines
        (fun hmem => absurd (Cue.forall_of_plain hplain _ hmem) (by decide)) hne h

namespace Rule

variable {rule : Rule} {rules table : List Rule} {allowed : Char → Bool} {cues : List Cue}
  {text : List Char}

/-- The rule looks for a character outside the class, or for one of the cues. -/
def passes (allowed : Char → Bool) (cues : List Cue) (rule : Rule) : Bool :=
  rule.pattern.lacks allowed ||
    rule.pattern.cue?.any fun cue => cue.isPlain && decide (cue ∈ cues)

/-- A text that has no other characters than these, and none of the cues. -/
structure Idle (allowed : Char → Bool) (cues : List Cue) (text : List Char) : Prop where
  allowed : ∀ c ∈ text, allowed c = true
  absent : ∀ cue ∈ cues, ¬ cue.In text

/-- A character of the class, or a line feed. -/
def orLineFeed (allowed : Char → Bool) (c : Char) : Bool := allowed c || c == '\n'

theorem Idle.joinLines {ls : List (List Char)} (h : ∀ line ∈ ls, Idle allowed cues line)
    (hplain : cues.all Cue.isPlain = true) :
    Idle (orLineFeed allowed) cues (Text.joinLines ls) where
  allowed c hc := by
    rcases mem_joinLines hc with rfl | ⟨line, hline, hc⟩
    · simp [orLineFeed]
    · simp [orLineFeed, (h line hline).allowed c hc]
  absent cue hcue hin := by
    obtain ⟨line, hline, hin⟩ := cue.in_joinLines (List.all_eq_true.mp hplain cue hcue) hin
    exact (h line hline).absent cue hcue hin

theorem apply_of_passes (hcalled : rule.pattern.Called) (hpasses : rule.passes allowed cues = true)
    (hidle : Idle allowed cues text) : rule.apply text = text := by
  rcases Bool.or_eq_true_iff.mp hpasses with hlacks | hcue
  · exact apply_of_lacks hlacks hidle.allowed
  · obtain ⟨cue, hcue, hmem⟩ := (Option.any_eq_true _ _).mp hcue
    obtain ⟨hplain, hmem⟩ := Bool.and_eq_true_iff.mp hmem
    have hnot : ¬ cue.In text := hidle.absent cue (of_decide_eq_true hmem)
    exact replaceFrom_eq_self (hcalled.misses_of_cue hcue hplain hnot rfl)

/-- **A part of a table that looks for something else** leaves the text alone. -/
theorem applyAll_of_passes (hcalled : Called table) (hrules : rules ⊆ table)
    (hpasses : rules.all (passes allowed cues) = true) (hidle : Idle allowed cues text) :
    applyAll rules text = text :=
  applyAll_eq_self fun rule hrule =>
    apply_of_passes (hcalled.called rule (hrules hrule)) (List.all_eq_true.mp hpasses rule hrule)
      hidle

end Rule

/-- The words as cues. -/
def wordCues (ws : List String) : List Cue := ws.map (.word ·.toList)

/-- The signs as cues. -/
def signCues (signs : List String) : List Cue := signs.map (.text ·.toList)

/-! ## What the rules from Python look for -/

/-- The signs that some rule from Python looks for. -/
def calledSigns : List String :=
  ["=", "#", ".append(", ".extend(", ".strip()", ".upper()", ".lower()"]

/-- The words that some rule from Python looks for. -/
def calledWords : List String :=
  ["print", "def", "return", "if", "elif", "else", "while", "for", "len", "and", "or", "not",
    "True", "False", "None", "input", "try", "except", "finally", "class"]

/-- The signs and the words as cues. -/
def calledCues : List Cue := signCues calledSigns ++ wordCues calledWords

namespace Chain

theorem passes_of_mem_fromPython : ∀ chain ∈ fromPython,
    chain.rules.all (Rule.passes (fun _ => true) calledCues) = true := by
  decide

/-- **A text is returned as it is** if it has none of the signs in it, and none of the words as a
word of its own. -/
theorem runRules_eq_self {chain : Chain} (hchain : chain ∈ fromPython) {text : List Char}
    (hsigns : ∀ sign ∈ calledSigns, ¬ sign.toList <:+: text)
    (hwords : ∀ word ∈ calledWords, word.toList ∉ words text) : chain.runRules text = text := by
  have habsent : ∀ cue ∈ calledCues, ¬ cue.In text := by
    simp only [calledCues, signCues, wordCues, List.forall_mem_append, List.forall_mem_map]
    exact ⟨hsigns, hwords⟩
  exact Rule.applyAll_of_passes (called_of_mem_fromPython hchain) (List.Subset.refl _)
    (passes_of_mem_fromPython chain hchain) ⟨fun _ _ => rfl, habsent⟩

/-- Words that only start or end like one that is looked for do not count, in any alphabet, nor do
methods that are not called. -/
theorem runRules_android : toGo ∈ fromPython ∧
    (∀ sign ∈ calledSigns, ¬ sign.toList <:+: "android.format(notTrue)\nélse: x.upper y".toList) ∧
    (∀ word ∈ calledWords,
      word.toList ∉ words "android.format(notTrue)\nélse: x.upper y".toList) ∧
    toGo.runRules "android.format(notTrue)\nélse: x.upper y".toList =
      "android.format(notTrue)\nélse: x.upper y".toList := by
  have hmem : toGo ∈ fromPython := by simp [fromPython]
  have hsigns : ∀ sign ∈ calledSigns,
      ¬ sign.toList <:+: "android.format(notTrue)\nélse: x.upper y".toList := by decide
  have hwords : ∀ word ∈ calledWords,
      word.toList ∉ words "android.format(notTrue)\nélse: x.upper y".toList := by decide
  exact ⟨hmem, hsigns, hwords, runRules_eq_self hmem hsigns hwords⟩

end Chain

end Recast
