import Recast.Text.Blank
import Recast.Text.Digit
import Recast.Text.Word

/-!
# Proofs/Text/Words — the words of a text, and which classes of characters are apart

A word is a longest run of word characters. Keywords are looked for as whole words, and methods as
whole words behind a dot, so `words` and `dotted` hold all that such a search can find.
-/

namespace Recast.Text

/-- What holds of each character of a text is decided on these, and not on all characters. -/
instance decidableForallMem (text : List Char) (p : Char → Prop) [DecidablePred p] :
    Decidable (∀ c ∈ text, p c) := List.decidableBAll p text

/-! ## Classes that are apart -/

/-- The code of a sign is one of those that the ranges list. -/
theorem mem_codes_of_holds {ranges : Ranges} {c : Char} (h : ranges.holds c = true) :
    c.toNat ∈ ranges.flatMap fun range => List.range' range.1 (range.2 + 1 - range.1) := by
  obtain ⟨range, hmem, hlo, hhi⟩ := Ranges.holds_iff.mp h
  exact List.mem_flatMap.mpr ⟨range, hmem, List.mem_range'_1.mpr ⟨hlo, by omega⟩⟩

/-- A class that no blank belongs to, decided blank by blank. -/
theorem not_of_isBlank {allowed : Char → Bool}
    (h : ((blankRanges.flatMap fun range => List.range' range.1 (range.2 + 1 - range.1)).all
      fun code => !allowed (Char.ofNat code)) = true) {c : Char} (hc : isBlank c = true) :
    allowed c = false := by
  have := List.all_eq_true.mp h _ (mem_codes_of_holds hc)
  rw [Char.ofNat_toNat] at this
  simpa using this

theorem isWord_of_isBlank (c : Char) (h : isBlank c = true) : isWord c = false :=
  not_of_isBlank (by decide +kernel) h

theorem isDigit_of_isBlank (c : Char) (h : isBlank c = true) : isDigit c = false :=
  not_of_isBlank (by decide) h

/-- No sign of a word is a blank. -/
theorem isBlank_of_isWord (c : Char) (h : isWord c = true) : isBlank c = false := by
  cases hb : isBlank c with
  | false => rfl
  | true => rw [isWord_of_isBlank c hb] at h; exact absurd h (by simp)

theorem isBlank_of_isDigit (c : Char) (h : isDigit c = true) : isBlank c = false := by
  cases hb : isBlank c with
  | false => rfl
  | true => rw [isDigit_of_isBlank c hb] at h; exact absurd h (by simp)

/-! ## Ends of spans -/

/-- What is left starts with something else. -/
theorem head?_dropWhile (allowed : Char → Bool) (text : List Char) :
    (text.dropWhile allowed).head?.any allowed = false := by
  have hnot := List.head?_dropWhile_not allowed text
  cases hd : text.dropWhile allowed with
  | nil => rfl
  | cons c rest => simpa [hd] using hnot

theorem dropWhile_of_head? {allowed : Char → Bool} {text : List Char}
    (h : text.head?.any allowed = false) : text.dropWhile allowed = text := by
  cases text with
  | nil => rfl
  | cons c text => simp [show allowed c = false by simpa using h]

theorem head?_append_of_any {allowed : Char → Bool} {text : List Char} (rest : List Char)
    (h : text.head?.any allowed = true) : (text ++ rest).head?.any allowed = true := by
  cases text with
  | nil => simp at h
  | cons c text => simpa using h

theorem head?_of_append {allowed : Char → Bool} {text rest : List Char}
    (h : (text ++ rest).head?.any allowed = false) : text.head?.any allowed = false := by
  cases text with
  | nil => rfl
  | cons c text => exact h

/-- At the end of a line nothing comes next of a class that has no line feed. -/
theorem head?_of_lineFeed {allowed : Char → Bool} {rest : List Char}
    (hallowed : allowed '\n' = false) (hrest : rest.head?.all (· = '\n') = true) :
    rest.head?.any allowed = false := by
  cases rest with
  | nil => rfl
  | cons c rest =>
    obtain rfl : c = '\n' := by simpa using hrest
    simpa using hallowed

/-- Before the end of a line the same comes next as on the line alone. -/
theorem head?_any_append {allowed : Char → Bool} {after : List Char}
    (hallowed : allowed '\n' = false) (hafter : after.head?.all (· = '\n') = true)
    (line : List Char) : (line ++ after).head?.any allowed = line.head?.any allowed := by
  cases line with
  | nil => exact head?_of_lineFeed hallowed hafter
  | cons c line => rfl

theorem getLast?_append_of_any {allowed : Char → Bool} (text : List Char) {rest : List Char}
    (h : rest.getLast?.any allowed = true) : (text ++ rest).getLast?.any allowed = true := by
  rw [List.getLast?_append]
  cases hlast : rest.getLast? with
  | none => simp [hlast] at h
  | some c => simpa [hlast] using h

/-- A text is trimmed if it neither starts nor ends with a blank. -/
theorem trim_eq_self {text : List Char} (hfirst : text.head?.any isBlank = false)
    (hlast : text.getLast?.any isBlank = false) : trim text = text := by
  rw [List.getLast?_eq_head?_reverse] at hlast
  rw [trim, trimStart, dropWhile_of_head? hfirst, trimEnd, dropWhile_of_head? hlast,
    List.reverse_reverse]

/-- A trimmed text ends with ink. -/
theorem getLast?_trim (text : List Char) : (trim text).getLast?.any isBlank = false := by
  rw [trim, trimEnd, List.getLast?_reverse]
  exact head?_dropWhile isBlank _

/-- A trimmed text starts with ink. -/
theorem head?_trim (text : List Char) : (trim text).head?.any isBlank = false := by
  have hstart := head?_dropWhile isBlank text
  obtain ⟨cut, hcut⟩ : trim text <+: trimStart text := by
    rw [trim, trimEnd, ← List.reverse_suffix, List.reverse_reverse]
    exact List.dropWhile_suffix isBlank
  cases htrim : trim text with
  | nil => rfl
  | cons c rest =>
    rw [htrim] at hcut
    rw [← trimStart, ← hcut] at hstart
    exact hstart

/-- A text that is left as it is by trimming starts and ends with ink. -/
theorem head?_append_of_trim {text : List Char} (hne : text ≠ []) (h : trim text = text)
    (rest : List Char) : (text ++ rest).head?.any isBlank = false := by
  have hfirst := head?_trim text
  rw [h] at hfirst
  cases text with
  | nil => exact absurd rfl hne
  | cons c more => exact hfirst

/-- A text that is trimmed already ends with ink. -/
theorem getLast?_of_trim {text : List Char} (hne : text ≠ []) (h : trim text = text) :
    text.getLast?.any (!isBlank ·) = true := by
  have hlast := getLast?_trim text
  rw [h] at hlast
  cases hend : text.getLast? with
  | none => exact absurd (List.getLast?_eq_none_iff.mp hend) hne
  | some c => simpa [hend] using hlast

theorem ne_of_isWord {c d : Char} (hd : isWord d = false) (hc : isWord c = true) : c ≠ d := by
  rintro rfl
  simp [hd] at hc

/-! ## Words -/

/-- The longest runs of word characters, and an empty one wherever two other characters adjoin. -/
def words (text : List Char) : List (List Char) := text.splitOnP fun c => !isWord c

@[simp] theorem words_nil : words [] = [[]] := rfl

theorem words_cons (c : Char) (rest : List Char) : words (c :: rest) =
    if isWord c then (words rest).modifyHead (c :: ·) else [] :: words rest := by
  rw [words, List.splitOnP_cons_eq_if_modifyHead]
  cases isWord c <;> rfl

/-- **A sign between two texts** keeps their words apart. -/
theorem words_append_sign (text : List Char) {c : Char} (hc : isWord c = false)
    (rest : List Char) : words (text ++ c :: rest) = words text ++ words rest :=
  List.splitOnP_append_cons text rest (by simp [hc])

/-- A word is its own only word. -/
theorem words_of_all {word : List Char} (h : ∀ c ∈ word, isWord c = true) : words word = [word] :=
  List.splitOnP_eq_singleton fun c hc => by simp [h c hc]

/-- A run of word characters is a word if no such character adjoins it. -/
theorem mem_words {before word rest : List Char} (hword : ∀ c ∈ word, isWord c = true)
    (hbefore : before.head?.any isWord = false) (hrest : rest.head?.any isWord = false) :
    word ∈ words (before.reverse ++ (word ++ rest)) := by
  have hhead : word ∈ words (word ++ rest) := by
    cases rest with
    | nil => simp [words_of_all hword]
    | cons c rest => simp [words_append_sign word (c := c) (by simpa using hrest),
      words_of_all hword]
  cases before with
  | nil => exact hhead
  | cons c before =>
    rw [List.reverse_cons, List.append_assoc, List.singleton_append,
      words_append_sign _ (by simpa using hbefore)]
    exact List.mem_append_right _ hhead

/-- The words of two texts that no word runs across. -/
theorem mem_words_append {a b w : List Char}
    (h : a.getLast?.any isWord = false ∨ b.head?.any isWord = false) (hw : w ∈ words (a ++ b)) :
    w ∈ words a ∨ w ∈ words b := by
  rcases h with h | h
  · rcases List.eq_nil_or_concat a with rfl | ⟨a, c, rfl⟩
    · exact .inr hw
    · have hc : isWord c = false := by simpa using h
      rw [List.concat_append, words_append_sign a hc, List.mem_append] at hw
      refine hw.imp_left fun hw => ?_
      rw [List.concat_eq_append, words_append_sign a hc]
      exact List.mem_append_left _ hw
  · cases b with
    | nil => exact .inl (by simpa using hw)
    | cons c b =>
      have hc : isWord c = false := by simpa using h
      rw [words_append_sign a hc, List.mem_append] at hw
      refine hw.imp_right fun hw => ?_
      rw [words_cons, hc]
      exact List.mem_cons_of_mem _ hw

/-- What a text starts with is its first word. -/
theorem head?_words : ∀ text : List Char, (words text).head? = some (text.takeWhile isWord)
  | [] => rfl
  | c :: rest => by
      rw [words_cons, List.takeWhile_cons]
      split
      · rw [List.head?_modifyHead, head?_words rest]
        rfl
      · rfl

/-- What a text starts with is one of its words. -/
theorem takeWhile_mem_words (text : List Char) : text.takeWhile isWord ∈ words text :=
  List.mem_of_head? (head?_words text)

/-- Every word but the first stands behind a character of no word. -/
theorem exists_of_mem_tail_words {w : List Char} : ∀ {text : List Char}, w ∈ (words text).tail →
    ∃ a c b, text = a ++ c :: (w ++ b) ∧ isWord c = false ∧ b.head?.any isWord = false
  | [], hw => by simp at hw
  | c :: rest, hw => by
      have ih : w ∈ (words rest).tail → _ := exists_of_mem_tail_words
      have hbehind (htail : w ∈ (words rest).tail) : ∃ a d b,
          c :: rest = a ++ d :: (w ++ b) ∧ isWord d = false ∧ b.head?.any isWord = false := by
        obtain ⟨a, d, b, hrest, hd, hb⟩ := ih htail
        exact ⟨c :: a, d, b, by rw [hrest]; rfl, hd, hb⟩
      rw [words_cons] at hw
      split at hw
      · exact hbehind (by simpa using hw)
      · rename_i hc
        have hhead := head?_words rest
        cases hwords : words rest with
        | nil => rw [hwords] at hhead; exact absurd hhead (by simp)
        | cons first more =>
          rw [hwords] at hhead hw
          rcases List.mem_cons.mp hw with rfl | hmore
          · refine ⟨[], c, rest.dropWhile isWord, ?_, by simpa using hc,
              head?_dropWhile isWord rest⟩
            rw [Option.some.inj hhead, List.takeWhile_append_dropWhile]
            rfl
          · exact hbehind (by rwa [hwords])

/-- A word stands between two places where no word character adjoins it. -/
theorem exists_of_mem_words {text w : List Char} (hw : w ∈ words text) :
    ∃ a b, text = a ++ (w ++ b) ∧ a.reverse.head?.any isWord = false ∧
      b.head?.any isWord = false := by
  have hhead := head?_words text
  cases hwords : words text with
  | nil => rw [hwords] at hhead; exact absurd hhead (by simp)
  | cons first more =>
    rw [hwords] at hhead hw
    rcases List.mem_cons.mp hw with rfl | hmore
    · refine ⟨[], text.dropWhile isWord, ?_, rfl, head?_dropWhile isWord text⟩
      rw [Option.some.inj hhead, List.takeWhile_append_dropWhile]
      rfl
    · obtain ⟨a, c, b, rfl, hc, hb⟩ := exists_of_mem_tail_words (by rwa [hwords])
      exact ⟨a ++ [c], b, by simp, by simpa using hc, hb⟩

/-- Signs and blanks have no words. -/
theorem eq_nil_of_mem_words {w : List Char} : ∀ {text : List Char},
    (∀ c ∈ text, isWord c = false) → w ∈ words text → w = []
  | [], _, hw => by simpa using hw
  | c :: rest, h, hw => by
      rw [words_cons, if_neg (by simp [h c (by simp)])] at hw
      exact (List.mem_cons.mp hw).elim id
        (eq_nil_of_mem_words fun d hd => h d (List.mem_cons_of_mem _ hd))

theorem isWord_of_mem_replicate {c d : Char} {n : Nat} (hd : isWord d = false)
    (h : c ∈ List.replicate n d) : isWord c = false := by
  rw [List.eq_of_mem_replicate h, hd]

/-! ## Words behind a dot -/

/-- The run of word characters behind each dot of a text, perhaps empty. -/
def dotted : List Char → List (List Char)
  | [] => []
  | c :: rest => if c = '.' then rest.takeWhile isWord :: dotted rest else dotted rest

/-- A text without dots adds no dotted word. -/
theorem dotted_append_of_not_mem : ∀ {text : List Char} (rest : List Char), '.' ∉ text →
    dotted (text ++ rest) = dotted rest
  | [], _, _ => rfl
  | c :: text, rest, h => by
      have hc : c ≠ '.' := fun hc => h (by simp [hc])
      rw [List.cons_append, dotted, if_neg hc,
        dotted_append_of_not_mem rest fun hm => h (List.mem_cons_of_mem _ hm)]

/-- The word behind a dot is a dotted one. -/
theorem takeWhile_mem_dotted (rest : List Char) :
    ∀ before : List Char, rest.takeWhile isWord ∈ dotted (before ++ '.' :: rest)
  | [] => by
      rw [List.nil_append, dotted, if_pos rfl]
      exact List.mem_cons_self
  | c :: before => by
      rw [List.cons_append, dotted]
      split
      · exact List.mem_cons_of_mem _ (takeWhile_mem_dotted rest before)
      · exact takeWhile_mem_dotted rest before

/-- No run behind a dot reaches the end of the text. -/
def dotsEnd : List Char → Bool
  | [] => true
  | c :: rest => (c != '.' || rest.any (!isWord ·)) && dotsEnd rest

theorem takeWhile_append_of_any {text : List Char} (rest : List Char)
    (h : text.any (!isWord ·) = true) :
    (text ++ rest).takeWhile isWord = text.takeWhile isWord := by
  induction text with
  | nil => simp at h
  | cons c text ih =>
    cases hc : isWord c with
    | false => simp [hc]
    | true =>
      have htext : text.any (!isWord ·) = true := by simpa [hc] using h
      simp [hc, ih htext]

/-- The word of a sign that starts with a dot stands behind a dot of the text. -/
theorem takeWhile_mem_dotted_of_isInfix {more text : List Char} (hend : more.any (!isWord ·) = true)
    (h : '.' :: more <:+: text) : more.takeWhile isWord ∈ dotted text := by
  obtain ⟨a, b, rfl⟩ := h
  rw [← takeWhile_append_of_any b hend]
  simpa using takeWhile_mem_dotted (more ++ b) a

theorem takeWhile_append_of_head? (text : List Char) {rest : List Char}
    (h : rest.head?.any isWord = false) :
    (text ++ rest).takeWhile isWord = text.takeWhile isWord := by
  induction text with
  | nil =>
    cases rest with
    | nil => rfl
    | cons c rest => simp [show isWord c = false by simpa using h]
  | cons c text ih => rw [List.cons_append, List.takeWhile_cons, List.takeWhile_cons, ih]

/-- A word is taken up to the sign behind it. -/
theorem takeWhile_word {word rest : List Char} (hword : ∀ c ∈ word, isWord c = true)
    (hrest : rest.head?.any isWord = false) : (word ++ rest).takeWhile isWord = word := by
  have hnil : ([] ++ rest).takeWhile isWord = [] := takeWhile_append_of_head? [] hrest
  rw [List.takeWhile_append_of_pos hword, ← List.nil_append rest, hnil, List.append_nil]

/-- A text that ends with a dot, and what follows it. -/
theorem mem_dotted_append_dot {text rest w : List Char} (hw : w ∈ dotted (text ++ '.' :: rest)) :
    w ∈ dotted (text ++ ['.']) ∨ w = rest.takeWhile isWord ∨ w ∈ dotted rest := by
  induction text with
  | nil =>
    rw [List.nil_append, dotted, if_pos rfl] at hw
    exact .inr (List.mem_cons.mp hw)
  | cons c text ih =>
    have hany : (text ++ ['.']).any (!isWord ·) = true := by
      rw [List.any_append]
      exact Bool.or_eq_true_iff.mpr (.inr (by decide))
    have hrun : (text ++ '.' :: rest).takeWhile isWord = (text ++ ['.']).takeWhile isWord := by
      rw [← takeWhile_append_of_any rest hany, List.append_assoc]
      rfl
    rw [List.cons_append, dotted] at hw
    rw [List.cons_append, dotted]
    split at hw
    · rw [if_pos ‹_›]
      rcases List.mem_cons.mp hw with rfl | hw
      · exact .inl (hrun ▸ List.mem_cons_self)
      · exact (ih hw).imp_left (List.mem_cons_of_mem _)
    · rw [if_neg ‹_›]
      exact ih hw

/-- Dotted words stay apart where a text does not end in the middle of one. -/
theorem dotted_append {text : List Char} (rest : List Char) (h : dotsEnd text = true) :
    dotted (text ++ rest) = dotted text ++ dotted rest := by
  induction text with
  | nil => rfl
  | cons c text ih =>
    obtain ⟨hc, htext⟩ := Bool.and_eq_true_iff.mp h
    rw [List.cons_append, dotted, dotted, ih htext]
    split
    · rename_i hdot
      have hany : text.any (!isWord ·) = true := by simpa [hdot] using hc
      rw [takeWhile_append_of_any rest hany, List.cons_append]
    · rfl

end Recast.Text
