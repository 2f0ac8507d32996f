import Mathlib.Data.List.TakeWhile
import Recast.Proofs.Template.Idioms
import Recast.Template.Carry

/-!
# Proofs/Template/CountedLoop — the header of a counted loop

A loose declaration is read wherever it stands, so also in the header of a counted loop, together
with the semicolon that separates it from the condition. What is written in its place ends with a
semicolon in some languages and in others not. So the header has its two separators again just where
the target's declaration brings one along, or where nothing was read because the name is no run of
word characters (`CountedLoop.separators_recastDeclarations_iff`).
-/

namespace Recast

open Pattern Text Script

/-! ## Headers -/

namespace CountedLoop

/-- The text has none of the words that declare a variable. -/
def IsClear (text : List Char) : Prop := ∀ w ∈ declaringWords, w.toList ∉ words text

/-- What a header may hold between its separators. -/
structure Clause where
  chars : List Char
  ne_nil : chars ≠ []
  trim_chars : trim chars = chars
  not_mem : ∀ c ∈ ['\n', ';', '(', ')'], c ∉ chars
  isClear : IsClear chars

/-- What may be counted with: an identifier of any kind. -/
structure Counter where
  chars : List Char
  ne_nil : chars ≠ []
  isInk : ∀ c ∈ chars, (!isBlank c) = true
  not_mem : ∀ c ∈ ['=', ';', '(', ')'], c ∉ chars

end CountedLoop

open CountedLoop

/-- `for (let counter = start; condition; step) {`. -/
structure CountedLoop where
  counter : Counter
  start : Clause
  condition : Clause
  step : Clause

namespace CountedLoop

/-- The declaration of the counter. -/
def declaration (loop : CountedLoop) : List Char :=
  "let".toList ++ (" ".toList ++ (loop.counter.chars ++ (" = ".toList ++
    (loop.start.chars ++ ";".toList))))

/-- What stands behind it, up to the parenthesis. -/
def rounds (loop : CountedLoop) : List Char :=
  " ".toList ++ (loop.condition.chars ++ ("; ".toList ++ loop.step.chars))

/-- What stands behind it on the line. -/
def behind (loop : CountedLoop) : List Char := loop.rounds ++ ") \x7b".toList

/-- The header with any text in place of the declaration. -/
def header (loop : CountedLoop) (declared : List Char) : List Char :=
  "for (".toList ++ (declared ++ loop.behind)

/-- The header as it is written in a script. -/
def text (loop : CountedLoop) : List Char := loop.header loop.declaration

/-- The semicolons between the first parenthesis and the one that closes next. -/
def separators (line : List Char) : Nat :=
  ((line.dropWhile (· != '(')).takeWhile (· != ')')).count ';'

variable {loop : CountedLoop} {before rest : List Char}

/-! ## Where a declaration is read -/

theorem IsClear.append {a b : List Char}
    (h : a.getLast?.any isWord = false ∨ b.head?.any isWord = false) (ha : IsClear a)
    (hb : IsClear b) : IsClear (a ++ b) := fun w hw hmem =>
  (mem_words_append h hmem).elim (ha w hw) (hb w hw)

theorem misses_of_isClear {line : List Char} (h : IsClear line)
    (hrest : rest.head?.all (· = '\n') = true) :
    Idiom.looseDeclaration.Misses before line rest :=
  misses_of_shows Idiom.looseDeclaration_shows (by decide) hrest fun cue hcue hin => by
    obtain ⟨w, hw, rfl⟩ := List.mem_map.mp hcue
    exact h w hw hin

/-- Behind the declaration there is none. -/
theorem isClear_behind (loop : CountedLoop) : IsClear loop.behind := by
  have hfixed : IsClear " ".toList ∧ IsClear "; ".toList ∧ IsClear ") \x7b".toList := by
    unfold IsClear
    decide
  obtain ⟨hspace, hsign, hclosing⟩ := hfixed
  have hstep : IsClear (loop.step.chars ++ ") \x7b".toList) :=
    .append (.inr rfl) loop.step.isClear hclosing
  have hsteps : IsClear (loop.condition.chars ++ ("; ".toList ++ (loop.step.chars ++
      ") \x7b".toList))) :=
    .append (.inr rfl) loop.condition.isClear (.append (.inl rfl) hsign hstep)
  rw [behind, rounds]
  simp only [List.append_assoc]
  exact .append (.inl rfl) hspace hsteps

/-- Behind the counter there is none either, if that is where reading it stops. -/
theorem isClear_behind_counter (loop : CountedLoop) :
    IsClear (" = ".toList ++ (loop.start.chars ++ (";".toList ++ loop.behind))) := by
  have hfixed : IsClear " = ".toList ∧ IsClear ";".toList := by
    unfold IsClear
    decide
  exact .append (.inl rfl) hfixed.1 (.append (.inr rfl) loop.start.isClear
    (.append (.inl rfl) hfixed.2 loop.isClear_behind))

/-- No declaration starts in a counter, which ends before an equality sign. -/
theorem misses_counter {word : List Char} (hword : ∀ c ∈ word, (!isBlank c) = true) :
    Idiom.looseDeclaration.Misses before word (" = ".toList ++ rest) := by
  rintro a b rfl -
  have hb : ∀ c ∈ b, (!isBlank c) = true := fun c hc => hword c (List.mem_append_right a hc)
  exact Idiom.looseDeclaration_refuses (x := []) hb (by simp) (by decide) (by decide) (.inl rfl)

/-- No declaration starts at a keyword whose counter is no word. -/
theorem misses_keyword (h : loop.counter.chars.all isWord = false) :
    Idiom.looseDeclaration.Misses before "let ".toList (loop.counter.chars ++ rest) := by
  have hsplit := List.takeWhile_append_dropWhile (p := isWord) (l := loop.counter.chars)
  have hhead := head?_dropWhile isWord loop.counter.chars
  cases hdrop : loop.counter.chars.dropWhile isWord with
  | nil =>
    rw [List.all_eq_true.mpr (List.dropWhile_eq_nil_iff.mp hdrop)] at h
    exact absurd h (by decide)
  | cons c more =>
    rw [hdrop] at hsplit hhead
    have hmem : c ∈ loop.counter.chars := by
      rw [← hsplit]
      simp
    have hread : Idiom.looseDeclaration.readAt? ⟨before, "let".toList ++ ([' '] ++
        (loop.counter.chars.takeWhile isWord ++ c :: (more ++ rest))), []⟩ = none :=
      Idiom.looseDeclaration_refuses (List.all_eq_true.mp (by decide))
        (fun d hd => List.mem_takeWhile_imp hd) (by simpa using hhead)
        (by simpa using loop.counter.isInk c hmem)
        (.inr fun hc => loop.counter.not_mem c (by simp [hc]) hmem)
    have hrest : loop.counter.chars ++ rest =
        loop.counter.chars.takeWhile isWord ++ c :: (more ++ rest) := by
      rw [← List.cons_append, ← List.append_assoc, hsplit]
    rw [hrest]
    exact .cons hread (misses_of_shuns Idiom.looseDeclaration_shuns
      (List.all_eq_true.mp (by decide)))

/-- **A counter that is no word is not declared**, as far as declarations are read. -/
theorem misses_declaration (h : loop.counter.chars.all isWord = false) :
    Idiom.looseDeclaration.Misses before (loop.declaration ++ loop.behind) [] := by
  have hline : loop.declaration ++ loop.behind = "let ".toList ++ (loop.counter.chars ++
      (" = ".toList ++ (loop.start.chars ++ (";".toList ++ loop.behind)))) := by
    simp [declaration]
  rw [hline]
  refine .append ?_ (.append ?_ (misses_of_isClear loop.isClear_behind_counter rfl))
  · rw [List.append_assoc]
    exact misses_keyword h
  · rw [List.append_assoc]
    exact misses_counter loop.counter.isInk

/-- **A counter that is one word is declared**, up to the semicolon. -/
theorem reads_declaration (h : loop.counter.chars.all isWord = true)
    (hbefore : before.head?.any isWord = false) (rest : List Char) :
    Idiom.looseDeclaration.Reads before loop.declaration rest
      [loop.counter.chars, loop.start.chars] := by
  have hrun : Source.IsWordRun loop.counter.chars :=
    ⟨loop.counter.ne_nil, List.all_eq_true.mp h⟩
  have hinline : ∀ c ∈ loop.start.chars, Form.isInline c = true ∧ c ≠ ';' := by
    intro c hc
    rw [Form.isInline, bne_iff_ne]
    exact ⟨fun heq => loop.start.not_mem c (by simp [heq]) hc,
      fun heq => loop.start.not_mem c (by simp [heq]) hc⟩
  exact Idiom.looseDeclaration_reads (by decide) hrun loop.start.ne_nil loop.start.trim_chars
    hinline hbefore

/-- What stands for the declaration once declarations are written as the target's. -/
def declared (loop : CountedLoop) (target : Template) : List Char :=
  if loop.counter.chars.all isWord then target.declare loop.counter.chars loop.start.chars
  else loop.declaration

/-- **Only the declaration of the counter is written anew**, and only if it is one word. -/
theorem recastDeclarations_header (loop : CountedLoop) {source : String} {target : Template}
    (hsource : Idiom.declaresLoosely source = true) (hother : source ≠ target.language) :
    Template.recastDeclarations loop.text source target.language target =
      loop.header (loop.declared target) := by
  have hpass : (!Idiom.declaresLoosely source || source == target.language) = false := by
    simp [hsource, hother]
  have hopening : Idiom.looseDeclaration.Misses [] "for (".toList
      (loop.declaration ++ loop.behind) :=
    misses_of_shuns Idiom.looseDeclaration_shuns (List.all_eq_true.mp (by decide))
  rw [Template.recastDeclarations_eq, hpass, if_neg (by decide), text, header, replaceAll,
    replaceFrom_of_misses hopening, header, declared]
  refine congrArg ("for (".toList ++ ·) ?_
  cases hword : loop.counter.chars.all isWord with
  | false => exact replaceFrom_eq_self (misses_declaration hword)
  | true =>
    obtain ⟨before', kept, hread, hkept⟩ := reads_declaration hword
      (show ("for (".toList.reverse ++ []).head?.any isWord = false by decide) loop.behind
    rw [replaceFrom_of_readAt? (by simp [declaration]) hread, if_pos rfl,
      replaceFrom_eq_self (misses_of_isClear loop.isClear_behind rfl)]
    have hcounter : ((⟨before', loop.behind, kept⟩ : Spot).keptText? 1).getD [] =
        loop.counter.chars := hkept 1
    have hstart : ((⟨before', loop.behind, kept⟩ : Spot).keptText? 2).getD [] =
        loop.start.chars := hkept 2
    rw [hcounter, hstart]

/-! ## Separators -/

/-- The languages that end a declaration without a semicolon. -/
def undelimited : List String := ["kotlin", "go", "swift", "ruby"]

theorem count_of_mem_builtin : ∀ target ∈ Template.builtin,
    (target.declare [] []).count '\n' = 0 ∧ (target.declare [] []).count ')' = 0 ∧
      (target.declare [] []).count ';' = if target.language ∈ undelimited then 0 else 1 := by
  decide

theorem Clause.count_eq_zero (clause : Clause) {c : Char} (hc : c ∈ ['\n', ';', '(', ')']) :
    clause.chars.count c = 0 := List.count_eq_zero.mpr (clause.not_mem c hc)

/-- One separator is behind the declaration, whatever stands in its place. -/
theorem separators_header {declared : List Char} (h : ')' ∉ declared) :
    separators (loop.header declared) = declared.count ';' + 1 := by
  have hinside : ∀ c ∈ "(".toList ++ (declared ++ loop.rounds), (c != ')') = true := by
    intro c hc
    rw [bne_iff_ne]
    rintro rfl
    simp only [rounds, List.mem_append] at hc
    have hcondition := loop.condition.not_mem ')' (by simp)
    have hstep := loop.step.not_mem ')' (by simp)
    simp [h, hcondition, hstep] at hc
  have hline : (loop.header declared).dropWhile (· != '(') =
      "(".toList ++ (declared ++ loop.rounds) ++ ") \x7b".toList := by
    simp [header, behind]
  rw [separators, hline, List.takeWhile_append_of_pos hinside]
  simp [rounds, List.count_append, loop.condition.count_eq_zero, loop.step.count_eq_zero]

/-- What stands for the declaration is on the line, and closes no parenthesis. -/
theorem not_mem_declared {target : Template} (htarget : target ∈ Template.builtin) {c : Char}
    (hc : c ∈ ['\n', ')']) : c ∉ loop.declared target := by
  have hcounter : c ∉ loop.counter.chars := by
    rcases List.mem_pair.mp hc with rfl | rfl
    · exact fun hmem => absurd (loop.counter.isInk _ hmem) (by decide)
    · exact loop.counter.not_mem _ (by simp)
  have hstart : c ∉ loop.start.chars := loop.start.not_mem c (by
    rcases List.mem_pair.mp hc with rfl | rfl <;> simp)
  obtain ⟨hfeed, hclosing, -⟩ := count_of_mem_builtin target htarget
  rw [declared]
  split
  · rw [← List.count_eq_zero, Template.count_declare hcounter hstart]
    rcases List.mem_pair.mp hc with rfl | rfl
    · exact hfeed
    · exact hclosing
  · rcases List.mem_pair.mp hc with rfl | rfl <;> simp [declaration, hcounter, hstart]

theorem count_declared {target : Template} (htarget : target ∈ Template.builtin) :
    (loop.declared target).count ';' =
      if loop.counter.chars.all isWord = true ∧ target.language ∈ undelimited then 0 else 1 := by
  have hcounter := loop.counter.not_mem ';' (by simp)
  have hstart := loop.start.not_mem ';' (by simp)
  obtain ⟨-, -, hcount⟩ := count_of_mem_builtin target htarget
  rw [declared]
  cases hword : loop.counter.chars.all isWord with
  | true => simpa [Template.count_declare hcounter hstart] using hcount
  | false =>
    simp [declaration, List.count_append, List.count_eq_zero.mpr hcounter,
      loop.start.count_eq_zero]

theorem lineFeed_not_mem_header {declared : List Char} (h : '\n' ∉ declared) :
    '\n' ∉ loop.header declared := by
  have hcondition := loop.condition.not_mem '\n' (by simp)
  have hstep := loop.step.not_mem '\n' (by simp)
  simp [header, behind, rounds, h, hcondition, hstep]

/-- **The header of a counted loop keeps its two separators** just where the target ends a
declaration with a semicolon, or the counter is no word. Nothing else of the header is touched, and
it stays on its line. -/
theorem separators_recastDeclarations_iff (loop : CountedLoop) {source : String}
    {target : Template} (hsource : Idiom.declaresLoosely source = true)
    (htarget : target ∈ Template.builtin) (hother : source ≠ target.language) :
    Template.recastDeclarations loop.text source target.language target =
        loop.header (loop.declared target) ∧
      '\n' ∉ loop.header (loop.declared target) ∧
      (separators (loop.header (loop.declared target)) = 2 ↔
        target.language ∉ undelimited ∨ loop.counter.chars.all isWord = false) := by
  refine ⟨loop.recastDeclarations_header hsource hother,
    lineFeed_not_mem_header (not_mem_declared htarget (by simp)), ?_⟩
  rw [separators_header (not_mem_declared htarget (by simp)), count_declared htarget]
  cases loop.counter.chars.all isWord <;> by_cases h : target.language ∈ undelimited <;> simp [h]

/-- `for (let i = 0; i < n; i++)`. -/
def upTo : CountedLoop where
  counter := ⟨['i'], by simp, List.all_eq_true.mp (by decide), by simp⟩
  start := ⟨['0'], by simp, by decide, by simp, by unfold IsClear; decide⟩
  condition := ⟨"i < n".toList, by simp, by decide, by simp, by unfold IsClear; decide⟩
  step := ⟨"i++".toList, by simp, by decide, by simp, by unfold IsClear; decide⟩

/-- Java declares with a semicolon. -/
theorem separators_recastDeclarations_iff_toJava :
    ∃ target ∈ Template.builtin, target.language = "java" ∧ "javascript" ≠ target.language ∧
      Idiom.declaresLoosely "javascript" = true ∧
      separators (Template.recastDeclarations upTo.text "javascript" target.language target) =
        2 := by
  have hsource : Idiom.declaresLoosely "javascript" = true := by decide
  have htarget : Template.builtin[2] ∈ Template.builtin := List.getElem_mem (by decide)
  have hother : "javascript" ≠ Template.builtin[2].language := by decide
  obtain ⟨hline, -, hcount⟩ := separators_recastDeclarations_iff upTo hsource htarget hother
  refine ⟨_, htarget, rfl, hother, hsource, ?_⟩
  rw [hline, hcount]
  exact .inl (by decide)

/-- Kotlin does not, and the header has a separator less. -/
theorem separators_recastDeclarations_toKotlin :
    ∃ target ∈ Template.builtin, target.language = "kotlin" ∧
      upTo.text = "for (let i = 0; i < n; i++) \x7b".toList ∧
      Template.recastDeclarations upTo.text "javascript" target.language target =
        "for (var i = 0 i < n; i++) \x7b".toList ∧
      separators (Template.recastDeclarations upTo.text "javascript" target.language target) ≠
        2 :=
  ⟨Template.builtin[3], List.getElem_mem (by decide), rfl, by decide, by decide,
    by decide⟩

end CountedLoop

end Recast
