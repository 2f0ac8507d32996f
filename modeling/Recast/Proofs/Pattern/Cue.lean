import Recast.Proofs.Pattern.Reading
import Recast.Proofs.Text.Words
import Recast.Rule
import Mathlib.Tactic.ByContra

/-!
# Proofs/Pattern/Cue — what a pattern cannot do without

Most patterns can only be read at a place where some word or sign stands ahead on the same line: a
**cue**. A text without the cue is left alone, whatever else the pattern is looking for, and so is a
line without it, whatever stands around the line (`Shows.read_eq_none`).
-/

namespace Recast

open Text

/-! ## Cues -/

/-- A piece of text that a pattern looks for. -/
inductive Cue
  /-- A word of its own. -/
  | word (word : List Char)
  /-- These characters, whatever adjoins them. -/
  | text (word : List Char)
deriving DecidableEq

namespace Cue

/-- The cue stands at a place, between the text before it (nearest character first) and after. -/
def At : Cue → (before rest : List Char) → Prop
  | .word w, before, rest => before.head?.any isWord = false ∧
      ∃ tail, rest = w ++ tail ∧ tail.head?.any isWord = false
  | .text w, _, rest => ∃ tail, rest = w ++ tail

/-- The cue stands somewhere in a text. -/
def In : Cue → List Char → Prop
  | .word w, line => w ∈ words line
  | .text w, line => w <:+: line

/-- The cue has characters, and they can stand on one line. -/
def isPlain : Cue → Bool
  | .word w => !w.isEmpty && w.all isWord
  | .text w => !w.isEmpty && w.all (· != '\n')

variable {cue : Cue} {before rest : List Char}

theorem forall_of_plain {allowed : Char → Bool} {w : List Char}
    (h : (!w.isEmpty && w.all allowed) = true) : ∀ c ∈ w, allowed c = true :=
  List.all_eq_true.mp (Bool.and_eq_true_iff.mp h).2

/-- Behind a word, there is a sign of a word. -/
theorem head?_behind_word {w before : List Char} (hplain : (Cue.word w).isPlain = true) :
    (w.reverse ++ before).head?.any isWord = true := by
  cases hw : w.reverse with
  | nil => simp [isPlain, List.reverse_eq_nil_iff.mp hw] at hplain
  | cons c more =>
    have hc : c ∈ w := List.mem_reverse.mp (hw ▸ List.mem_cons_self)
    simpa using forall_of_plain hplain c hc

/-- Behind a word there is a word edge where no longer word goes on. -/
theorem meets_word_behind {word before rest : List Char} {kept : List (Nat × Stretch)}
    (hplain : (Cue.word word).isPlain = true) :
    (⟨word.reverse ++ before, rest, kept⟩ : Spot).meets .word = true ↔
      rest.head?.any isWord = false := by
  have hlast : (word.reverse ++ before).head?.any isWord = true := head?_behind_word hplain
  rw [Spot.meets, Spot.atWordEdge, hlast]
  cases rest.head?.any isWord <;> decide

/-- In front of a word there is a word edge where no longer word ends. -/
theorem meets_word_before {word before rest : List Char} {kept : List (Nat × Stretch)}
    (hplain : (Cue.word word).isPlain = true) :
    (⟨before, word ++ rest, kept⟩ : Spot).meets .word = true ↔
      before.head?.any isWord = false := by
  have hword : ∀ c ∈ word, isWord c = true := forall_of_plain hplain
  have hhead : (word ++ rest).head?.any isWord = true := by
    cases word with
    | nil => exact absurd hplain (by decide)
    | cons c more => simpa using hword c (by simp)
  rw [Spot.meets, Spot.atWordEdge, hhead]
  cases before.head?.any isWord <;> decide

/-- What a line starts with, in front of a line end, stands before the line end. -/
theorem exists_of_append_eq {line word rest tail : List Char}
    (hrest : rest.head?.all (· = '\n') = true) (hword : ∀ c ∈ word, c ≠ '\n')
    (h : line ++ rest = word ++ tail) : ∃ tail', line = word ++ tail' ∧ tail = tail' ++ rest := by
  rcases List.append_eq_append_iff.mp h with ⟨more, hw, hr⟩ | ⟨more, ht, hr⟩
  · cases more with
    | nil => exact ⟨[], by simpa using hw.symm, by simpa using hr.symm⟩
    | cons c more =>
      have hc : c = '\n' := by simpa [hr] using hrest
      exact absurd hc (hword c (by simp [hw]))
  · exact ⟨more, ht, hr⟩

/-- A text is cut in one way only in front of its first line end. -/
theorem eq_of_append_eq {line word rest tail : List Char} (hrest : rest.head?.all (· = '\n') = true)
    (htail : tail.head?.all (· = '\n') = true) (hline : '\n' ∉ line) (hword : '\n' ∉ word)
    (h : line ++ rest = word ++ tail) : line = word ∧ rest = tail := by
  obtain ⟨more, hmore, hcut⟩ := exists_of_append_eq hrest (fun c hc hfeed => hword (hfeed ▸ hc)) h
  cases more with
  | nil => exact ⟨by simpa using hmore, hcut.symm⟩
  | cons c more =>
    obtain rfl : c = '\n' := by simpa [hcut] using htail
    exact absurd (by rw [hmore]; simp) hline

/-- A cue at a place of a line that ends there, or at a line feed, is no cue. -/
theorem not_at_lineEnd (hplain : cue.isPlain = true) (hrest : rest.head?.all (· = '\n') = true) :
    ¬ cue.At before rest := by
  have key : ∀ {w : List Char} {tail : List Char}, (!w.isEmpty) = true →
      (∀ c ∈ w, c ≠ '\n') → rest ≠ w ++ tail := by
    rintro w tail hw hne rfl
    cases hl : w with
    | nil => simp [hl] at hw
    | cons c word => exact hne c (by simp [hl]) (by simpa [hl] using hrest)
  cases cue with
  | word w =>
    rintro ⟨-, tail, htail, -⟩
    exact key (Bool.and_eq_true_iff.mp hplain).1
      (fun c hc => ne_of_isWord (by decide) (forall_of_plain hplain c hc)) htail
  | text w =>
    rintro ⟨tail, htail⟩
    exact key (Bool.and_eq_true_iff.mp hplain).1
      (fun c hc => by simpa using forall_of_plain hplain c hc) htail

/-- **A cue that stands at a place of a line stands in the line.** -/
theorem in_of_at (hplain : cue.isPlain = true) {a b : List Char}
    (hrest : rest.head?.all (· = '\n') = true) (h : cue.At (a.reverse ++ before) (b ++ rest)) :
    cue.In (a ++ b) := by
  cases cue with
  | word w =>
    obtain ⟨hb, tail, hrw, ht⟩ := h
    have hw := forall_of_plain hplain
    obtain ⟨tail, rfl, rfl⟩ := exists_of_append_eq hrest
      (fun c hc => ne_of_isWord (by decide) (hw c hc)) hrw
    have ha : a.reverse.head?.any isWord = false := by
      cases hr : a.reverse with
      | nil => rfl
      | cons c l => simpa [hr] using hb
    have htail : tail.head?.any isWord = false := by
      cases tail with
      | nil => rfl
      | cons c tail => simpa using ht
    simpa [In] using mem_words hw ha htail
  | text w =>
    obtain ⟨tail, hrw⟩ := h
    obtain ⟨tail, rfl, -⟩ := exists_of_append_eq hrest
      (fun c hc => by simpa using forall_of_plain hplain c hc) hrw
    exact ⟨a, tail, by simp⟩

end Cue

/-! ## Patterns with cues -/

/-- **Where the pattern can be read, one of the cues stands ahead on the line.** -/
def Pattern.Shows (p : Pattern) (cues : List Cue) : Prop :=
  ∀ next s, (p.read next s).isSome = true → ∃ cue ∈ cues, ∃ skipped rest,
    '\n' ∉ skipped ∧ s.rest = skipped ++ rest ∧ cue.At (skipped.reverse ++ s.before) rest

namespace Pattern.Shows

variable {p : Pattern} {cues : List Cue}

/-- A pattern with cues cannot be read at a line feed. -/
theorem shuns_lineFeed (h : p.Shows cues) (hplain : cues.all Cue.isPlain = true) :
    p.Shuns (· == '\n') := by
  intro next c hc before rest kept
  obtain rfl : c = '\n' := by simpa using hc
  by_contra hread
  obtain ⟨cue, hcue, skipped, tail, hskip, hrest, hat⟩ :=
    h next ⟨before, '\n' :: rest, kept⟩ (Option.isSome_iff_ne_none.mpr hread)
  cases skipped with
  | nil =>
    obtain rfl : '\n' :: rest = tail := hrest
    exact Cue.not_at_lineEnd (List.all_eq_true.mp hplain cue hcue) rfl hat
  | cons d skipped =>
    obtain rfl : '\n' = d := (List.cons.inj hrest).1
    exact hskip List.mem_cons_self

/-- **Within a line without the cues the pattern cannot be read.** -/
theorem read_eq_none (h : p.Shows cues) (hplain : cues.all Cue.isPlain = true)
    {before rest : List Char} (hrest : rest.head?.all (· = '\n') = true) {a b : List Char}
    (habsent : ∀ cue ∈ cues, ¬ cue.In (a ++ b)) (next : Next) (kept : List (Nat × Stretch)) :
    p.read next ⟨a.reverse ++ before, b ++ rest, kept⟩ = none := by
  by_contra hread
  obtain ⟨cue, hcue, skipped, tail, hskip, htail, hat⟩ :=
    h next ⟨a.reverse ++ before, b ++ rest, kept⟩ (Option.isSome_iff_ne_none.mpr hread)
  obtain ⟨tail', rfl, rfl⟩ := Cue.exists_of_append_eq hrest
    (fun c hc => by rintro rfl; exact hskip hc) htail
  refine habsent cue hcue ?_
  have hat : cue.At ((a ++ skipped).reverse ++ before) (tail' ++ rest) := by simpa using hat
  rw [← List.append_assoc]
  exact Cue.in_of_at (List.all_eq_true.mp hplain cue hcue) hrest hat

end Pattern.Shows

/-! ## Cues behind the start of a pattern -/

namespace Pattern

variable {p q : Pattern} {cues : List Cue} {allowed : Char → Bool} {word : String} {number : Nat}
  {condition : Edge}

/-- The pattern reads nothing but characters of one line. -/
def Stays (p : Pattern) : Prop :=
  ∀ next s, (p.read next s).isSome = true → ∃ run rest kept, '\n' ∉ run ∧ s.rest = run ++ rest ∧
    (next ⟨run.reverse ++ s.before, rest, kept⟩).isSome = true

theorem stays_edge : (Pattern.edge condition).Stays := fun _ s h =>
  ⟨[], s.rest, s.kept, by simp, rfl, (meets_of_read_edge h).2⟩

/-- A fixed text without line ends stays in its line. -/
theorem stays_text (hword : '\n' ∉ word.toList) : (Pattern.text word).Stays := by
  intro _ s h
  obtain ⟨rest, hrest, hnext⟩ := exists_of_read_text h
  exact ⟨word.toList, rest, s.kept, hword, hrest, hnext⟩

theorem stays_one (hfeed : allowed '\n' = false) : (Pattern.one allowed).Stays := by
  intro _ s h
  obtain ⟨c, rest, hrest, hc, hnext⟩ := exists_of_read_one h
  refine ⟨[c], rest, s.kept, ?_, hrest, hnext⟩
  rintro hmem
  rw [← List.mem_singleton.mp hmem, hfeed] at hc
  exact absurd hc (by decide)

/-- A run that allows no line end stays in its line. -/
theorem stays_many (hfeed : allowed '\n' = false) : (Pattern.many allowed).Stays := by
  intro _ s h
  obtain ⟨run, rest, hrest, hrun, hnext⟩ := exists_of_read_many h
  refine ⟨run, rest, s.kept, fun hmem => ?_, hrest, hnext⟩
  rw [hrun _ hmem] at hfeed
  exact absurd hfeed (by decide)

/-- Parts that stay in their line stay in it together. -/
theorem Stays.seq (hp : p.Stays) (hq : q.Stays) : (Pattern.seq p q).Stays := by
  intro next s h
  obtain ⟨run, rest, kept, hrun, hrest, hnext⟩ := hp _ s h
  obtain ⟨run', rest', kept', hrun', hrest', hnext'⟩ := hq _ _ hnext
  refine ⟨run ++ run', rest', kept', by simp [hrun, hrun'], ?_, by simpa using hnext'⟩
  rw [hrest, show rest = run' ++ rest' from hrest', List.append_assoc]

theorem stays_many1 (hfeed : allowed '\n' = false) : (many1 allowed).Stays :=
  (stays_one hfeed).seq (stays_many hfeed)

theorem Stays.group (h : p.Stays) : (Pattern.group number p).Stays := by
  intro _ s hread
  obtain ⟨run, rest, kept, hrun, hrest, hnext⟩ := h _ s hread
  exact ⟨run, rest, _, hrun, hrest, hnext⟩

/-- A sequence shows what its first part shows. -/
theorem Shows.seq (h : p.Shows cues) : (Pattern.seq p q).Shows cues := fun _ s hread => h _ s hread

theorem Shows.group (h : p.Shows cues) : (Pattern.group number p).Shows cues :=
  fun _ s hread => h _ s hread

/-- **What is shown behind a part that stays on the line is shown before it.** -/
theorem Shows.behind (hp : p.Stays) (hq : q.Shows cues) : (Pattern.seq p q).Shows cues :=
  fun _ s hread => by
    obtain ⟨run, rest, kept, hrun, hrest, hnext⟩ := hp _ s hread
    obtain ⟨cue, hcue, skipped, tail, hskip, htail, hat⟩ := hq _ _ hnext
    refine ⟨cue, hcue, run ++ skipped, tail, by simp [hrun, hskip], ?_, by simpa using hat⟩
    rw [hrest, show rest = skipped ++ tail from htail, List.append_assoc]

/-- A fixed text shows itself. -/
theorem shows_text : (Pattern.text word).Shows [.text word.toList] := by
  intro _ s h
  obtain ⟨rest, hrest, -⟩ := exists_of_read_text h
  exact ⟨_, List.mem_singleton_self _, [], s.rest, by simp, rfl, rest, hrest⟩

/-- A sign that has to be a certain one shows it. -/
theorem shows_one {c : Char} (h : ∀ d, allowed d = true → d = c) :
    (Pattern.one allowed).Shows [.text [c]] := by
  intro _ s hread
  obtain ⟨d, rest, hrest, hd, -⟩ := exists_of_read_one hread
  exact ⟨_, List.mem_singleton_self _, [], s.rest, by simp, rfl, rest, by rw [hrest, h d hd]; rfl⟩

/-- One of some words between two word edges, or in front of something that shuns word
characters. -/
theorem shows_anyWord {ws : List String}
    (hplain : ws.all (fun w => (Cue.word w.toList).isPlain) = true)
    (h : ∀ next before rest kept, (q.read next ⟨before, rest, kept⟩).isSome = true →
      before.head?.any isWord = true → rest.head?.any isWord = false) :
    (Pattern.seq (.edge .word) (.seq (anyWord ws) q)).Shows (ws.map fun w => .word w.toList) := by
  rintro _ ⟨before, rest, kept⟩ hread
  obtain ⟨hmeets, hread⟩ := meets_of_read_edge hread
  obtain ⟨w, hw, tail, rfl, hnext⟩ := isSome_read_anyWord.mp hread
  have hword := List.all_eq_true.mp hplain w hw
  exact ⟨_, List.mem_map_of_mem hw, [], _, by simp, rfl, (Cue.meets_word_before hword).mp hmeets,
    tail, rfl, h _ _ _ _ hnext (Cue.head?_behind_word hword)⟩

/-- **A word with edges shows itself**, as a whole word. -/
theorem shows_word (hplain : (Cue.word word.toList).isPlain = true)
    (h : ∀ next before rest kept, (q.read next ⟨before, rest, kept⟩).isSome = true →
      before.head?.any isWord = true → rest.head?.any isWord = false) :
    (Pattern.seq (.edge .word) (.seq (.text word) q)).Shows [.word word.toList] :=
  show (Pattern.seq (.edge .word) (.seq (anyWord [word]) q)).Shows
      ([word].map fun w => .word w.toList) from
    shows_anyWord (by simpa using hplain) h

/-- Where a pattern is read that shuns word characters, a word has ended. -/
theorem Shuns.head?_of_read (h : p.Shuns isWord) {next : Next} {before rest : List Char}
    {kept : List (Nat × Stretch)} (hread : (p.read next ⟨before, rest, kept⟩).isSome = true) :
    rest.head?.any isWord = false := by
  cases rest with
  | nil => rfl
  | cons c rest =>
    cases hc : isWord c with
    | false => simp [hc]
    | true => simp [h next c hc] at hread

theorem shows_word_of_shuns (hplain : (Cue.word word.toList).isPlain = true) (h : q.Shuns isWord) :
    (Pattern.seq (.edge .word) (.seq (.text word) q)).Shows [.word word.toList] :=
  shows_word hplain fun _ _ _ _ hread _ => h.head?_of_read hread

/-- One of the words, with word edges on both sides. -/
def wholeWords (ws : List String) : Pattern := all [.edge .word, anyWord ws, .edge .word]

theorem wholeWord_eq (word : String) : wholeWord word = wholeWords [word] := rfl

/-- Whole words show one of them. -/
theorem shows_wholeWords {ws : List String}
    (hplain : ws.all (fun w => (Cue.word w.toList).isPlain) = true) :
    (wholeWords ws).Shows (ws.map fun w => .word w.toList) :=
  shows_anyWord hplain fun next before rest kept hread hbefore => by
    have hmeets := (meets_of_read_edge hread).1
    simpa [Spot.meets, Spot.atWordEdge, hbefore] using hmeets

theorem shows_wholeWord (hplain : (Cue.word word.toList).isPlain = true) :
    (wholeWord word).Shows [.word word.toList] := by
  rw [wholeWord_eq]
  exact shows_wholeWords (by simpa using hplain)

/-- A text starts with one of the words, and with no longer one. -/
theorem isSome_read_anyWord_edge {ws : List String}
    (hws : ws.all (fun w => (Cue.word w.toList).isPlain) = true)
    {before text : List Char} {kept : List (Nat × Stretch)} :
    ((all [.anyWord ws, .edge .word]).read some ⟨before, text, kept⟩).isSome = true ↔
      ws.any (fun w => w.toList == text.takeWhile isWord) = true := by
  rw [all_cons, read_seq, isSome_read_anyWord, List.any_eq_true]
  refine exists_congr fun w => and_congr_right fun hw => ?_
  have hplain := List.all_eq_true.mp hws w hw
  have hword := Cue.forall_of_plain hplain
  rw [beq_iff_eq]
  constructor
  · rintro ⟨tail, rfl, hnext⟩
    have htail := (Cue.meets_word_behind hplain).mp (meets_of_read_edge hnext).1
    exact (takeWhile_word hword htail).symm
  · intro heq
    have htext := (List.takeWhile_append_dropWhile (p := isWord) (l := text)).symm
    refine ⟨text.dropWhile isWord, by rwa [← heq] at htext, ?_⟩
    rw [all_cons, read_seq,
      read_edge _ ((Cue.meets_word_behind hplain).mpr (head?_dropWhile isWord text))]
    rfl

/-! ## Looking for a pattern -/

/-- A search finds a pattern just if it can be read somewhere. -/
theorem isSome_findFrom?_iff : ∀ before rest : List Char,
    (findFrom? p before rest).isSome = true ↔
      ∃ a b, rest = a ++ b ∧ (p.readAt? ⟨a.reverse ++ before, b, []⟩).isSome = true
  | before, [] => by
      rw [findFrom?, Option.isSome_map]
      refine ⟨fun h => ⟨[], [], rfl, h⟩, fun ⟨a, b, hab, hsome⟩ => ?_⟩
      obtain ⟨rfl, rfl⟩ := List.append_eq_nil_iff.mp hab.symm
      exact hsome
  | before, c :: rest => by
      have ih := isSome_findFrom?_iff (c :: before) rest
      rw [findFrom?]
      cases hread : p.readAt? ⟨before, c :: rest, []⟩ with
      | some spot => exact ⟨fun _ => ⟨[], c :: rest, rfl, by simp [hread]⟩, fun _ => rfl⟩
      | none =>
        refine ih.trans ⟨fun ⟨a, b, hab, hsome⟩ => ⟨c :: a, b, by simp [hab], by simpa using hsome⟩,
          fun ⟨a, b, hab, hsome⟩ => ?_⟩
        cases a with
        | nil =>
          obtain rfl : c :: rest = b := hab
          simp [hread] at hsome
        | cons d a =>
          obtain ⟨rfl, rfl⟩ := List.cons.inj hab
          exact ⟨a, b, rfl, by simpa using hsome⟩

/-- **A pattern occurs in a text** just if it can be read at some place in it. -/
theorem occursIn_iff {text : List Char} : p.occursIn text = true ↔
    ∃ a b, text = a ++ b ∧ (p.readAt? ⟨a.reverse, b, []⟩).isSome = true := by
  rw [occursIn, isSome_findFrom?_iff]
  simp only [List.append_nil]

/-- A pattern does not occur in a text without its cues. -/
theorem Shows.occursIn_eq_false (h : p.Shows cues) (hplain : cues.all Cue.isPlain = true)
    {text : List Char} (habsent : ∀ cue ∈ cues, ¬ cue.In text) : p.occursIn text = false := by
  rw [← Bool.not_eq_true, occursIn_iff]
  rintro ⟨a, b, rfl, hread⟩
  have hnone : p.read some ⟨a.reverse ++ [], b ++ [], []⟩ = none :=
    h.read_eq_none hplain rfl habsent some []
  rw [List.append_nil, List.append_nil] at hnone
  rw [readAt?, hnone] at hread
  exact absurd hread (by simp)

/-- A choice occurs if one of its sides does. -/
theorem occursIn_alt (p q : Pattern) (text : List Char) :
    (Pattern.alt p q).occursIn text = (p.occursIn text || q.occursIn text) := by
  rw [Bool.eq_iff_iff, Bool.or_eq_true, occursIn_iff, occursIn_iff, occursIn_iff]
  simp only [readAt?, isSome_read_alt, Bool.or_eq_true, and_or_left, exists_or]

end Pattern

end Recast
