import Recast.Proofs.Pattern.Trigger

/-!
# Proofs/Pattern/Respelling — rules that write a word or a sign in another way

A rule that looks for one word or one sign does nothing to the rest of a line, so a line is gone
through piece by piece: the rule **respells** each piece wherever it stands between others
(`Rule.Respells`), and with them the whole line (`Respells.append_space`, `Respells.apply`).

Rules that look for something else leave the line alone. It is enough that they cannot do without a
character which the line does not have (`Rule.apply_of_lacks`).
-/

namespace Recast

open Text

namespace Pattern

variable {p : Pattern} {allowed : Char → Bool} {before line rest word : List Char}
  {ws : List String}

/-! ## Characters that a pattern cannot do without -/

/-- A text that the pattern goes through has a character outside the class. -/
def lacks (allowed : Char → Bool) (p : Pattern) : Bool :=
  p.marks.any fun
    | .text word => word.any (!allowed ·)
    | _ => false

/-- A pattern misses a line without the signs that it needs. -/
theorem misses_of_lacks (h : p.lacks allowed = true) (hline : ∀ c ∈ line, allowed c = true)
    (before : List Char) : p.Misses before line [] := by
  intro a b hab hb
  obtain ⟨mark, hmark, houtside⟩ := List.any_eq_true.mp h
  cases mark with
  | text word =>
    obtain ⟨c, hc, hnot⟩ := List.any_eq_true.mp houtside
    by_contra hread
    have hfollows := follows_of_read (Option.isSome_iff_ne_none.mpr hread)
    have hmem : c ∈ line := by
      rw [hab]
      exact List.mem_append_right a (by simpa using (infix_of_follows hmark hfollows).subset hc)
    simp [hline c hmem] at hnot
  | one | run => exact absurd houtside (by simp)

/-! ## Whole words -/

/-- Whole words start with a sign of a word. -/
theorem shuns_wholeWords (hws : ws.all (fun w => (Cue.word w.toList).isPlain) = true) :
    (wholeWords ws).Shuns (!isWord ·) := by
  refine Shuns.edge_seq fun next c hc before rest kept => ?_
  by_contra hread
  obtain ⟨w, hw, tail, htail, -⟩ := isSome_read_anyWord.mp (Option.isSome_iff_ne_none.mpr hread)
  obtain ⟨hne, hword⟩ := Bool.and_eq_true_iff.mp (List.all_eq_true.mp hws w hw)
  cases hchars : w.toList with
  | nil => simp [hchars] at hne
  | cons d more =>
    rw [hchars] at htail hword
    obtain rfl : c = d := (List.cons.inj htail).1
    have hword : isWord c = true := List.all_eq_true.mp hword c (by simp)
    simp [hword] at hc

/-- Within a word there is no edge. -/
theorem eq_nil_of_meets_word {a b : List Char} {kept : List (Nat × Stretch)}
    (hword : ∀ c ∈ a ++ b, isWord c = true) (hb : b ≠ [])
    (h : (⟨a.reverse ++ before, b ++ rest, kept⟩ : Spot).meets .word = true) : a = [] := by
  have hfirst : (b ++ rest).head?.any isWord = true := by
    cases b with
    | nil => exact absurd rfl hb
    | cons c b => simpa using hword c (by simp)
  rcases List.eq_nil_or_concat a with rfl | ⟨a, c, rfl⟩
  · rfl
  · have hbehind : ((a.concat c).reverse ++ before).head?.any isWord = true := by
      simp [hword c (by simp)]
    rw [Spot.meets, Spot.atWordEdge, hfirst, hbehind] at h
    exact absurd h (by decide)

/-- **Another word is passed over.** -/
theorem misses_wholeWords (hws : ws.all (fun w => (Cue.word w.toList).isPlain) = true)
    (hword : ∀ c ∈ word, isWord c = true) (hnot : ∀ w ∈ ws, w.toList ≠ word)
    (hrest : rest.head?.any isWord = false) : (wholeWords ws).Misses before word rest := by
  intro a b hab hb
  by_contra hread
  obtain ⟨hedge, hread⟩ := meets_of_read_edge (Option.isSome_iff_ne_none.mpr hread)
  obtain rfl := eq_nil_of_meets_word (hab ▸ hword) hb hedge
  obtain rfl : word = b := hab
  obtain ⟨w, hw, heq⟩ := List.any_eq_true.mp ((isSome_read_anyWord_edge hws).mp hread)
  rw [takeWhile_word hword hrest, beq_iff_eq] at heq
  exact hnot w hw heq

/-- A whole word is read where nothing goes on at its ends. -/
theorem readAt?_wholeWord {word : String} (hplain : (Cue.word word.toList).isPlain = true)
    (hbefore : before.head?.any isWord = false) (hrest : rest.head?.any isWord = false) :
    (wholeWord word).readAt? ⟨before, word.toList ++ rest, []⟩ =
      some ⟨word.toList.reverse ++ before, rest, []⟩ := by
  rw [readAt?, wholeWord, all_cons, read_seq,
    read_edge _ ((Cue.meets_word_before hplain).mpr hbefore), all_cons, read_seq, read_text,
    all_cons, read_seq, read_edge _ ((Cue.meets_word_behind hplain).mpr hrest)]
  rfl

end Pattern

/-! ## Lines without what a rule looks for -/

namespace Rule

open Pattern

variable {rule : Rule} {text text' more more' piece : List Char} {allowed : Char → Bool}

/-- A rule leaves a text without the signs that it needs. -/
theorem apply_of_lacks (h : rule.pattern.lacks allowed = true)
    (htext : ∀ c ∈ text, allowed c = true) : rule.apply text = text :=
  replaceFrom_eq_self (misses_of_lacks h htext [])

/-! ## Pieces of a line -/

/-- An expression may go on, or start, with the character. -/
def goesOn (c : Char) : Bool := isWord c || c == '('

theorem head?_of_goesOn (h : more.head?.any goesOn = false) : more.head?.any isWord = false := by
  cases more with
  | nil => rfl
  | cons c more =>
    have hc : goesOn c = false := by simpa using h
    simpa using (Bool.or_eq_false_iff.mp hc).1

/-- **The rule writes the piece in another way** where no word adjoins it, and no parenthesis is
behind it. -/
def Respells (rule : Rule) (piece piece' : List Char) : Prop :=
  ∀ before rest, before.head?.any isWord = false → rest.head?.any goesOn = false →
    rule.pattern.replaceFrom rule.phrase.fillFrom 0 before (piece ++ rest) =
      piece' ++ rule.pattern.replaceFrom rule.phrase.fillFrom 0 (piece.reverse ++ before) rest

/-- What a rule misses, it spells as before. -/
theorem respells_of_misses (h : ∀ before rest, rest.head?.any goesOn = false →
    rule.pattern.Misses before piece rest) : rule.Respells piece piece :=
  fun before rest _ hrest => replaceFrom_of_misses (h before rest hrest)

theorem respells_of_shuns (h : rule.pattern.Shuns allowed)
    (hpiece : ∀ c ∈ piece, allowed c = true) : rule.Respells piece piece :=
  respells_of_misses fun _ _ _ => misses_of_shuns h hpiece

theorem fillFrom_text (written : String) (spot : Spot) :
    Phrase.fillFrom [.text written] spot = written.toList := List.append_nil _

/-- **A word is spelled anew**, where it is a whole one. -/
theorem respells_word {name word : String} (written : String)
    (hplain : (Cue.word word.toList).isPlain = true) :
    (⟨name, wholeWord word, [.text written]⟩ : Rule).Respells word.toList written.toList := by
  intro before rest hbefore hrest
  have hne : word.toList ≠ [] := by
    simpa using (Bool.and_eq_true_iff.mp hplain).1
  rw [replaceFrom_of_readAt? hne (readAt?_wholeWord hplain hbefore (head?_of_goesOn hrest)),
    fillFrom_text]

/-- **A sign is spelled anew** wherever it stands. -/
theorem respells_sign {name sign : String} (written : String) (hne : sign.toList ≠ []) :
    (⟨name, .text sign, [.text written]⟩ : Rule).Respells sign.toList written.toList := by
  intro before rest _ _
  rw [replaceFrom_of_readAt? hne (read_text sign some before rest []), fillFrom_text]

namespace Respells

/-- **Pieces with a space between them.** -/
theorem append_space (h : rule.Respells text text') (hmore : rule.Respells more more')
    (hspace : rule.pattern.Shuns (· == ' ')) :
    rule.Respells (text ++ ' ' :: more) (text' ++ ' ' :: more') := by
  intro before rest hbefore hrest
  have hfirst := h before (' ' :: (more ++ rest)) hbefore rfl
  have hnext := hmore (' ' :: (text.reverse ++ before)) rest rfl hrest
  have hmisses : rule.pattern.Misses (text.reverse ++ before) [' '] (more ++ rest) :=
    misses_of_shuns hspace (by simp)
  have hbetween : rule.pattern.replaceFrom rule.phrase.fillFrom 0 _ _ = _ :=
    replaceFrom_of_misses hmisses
  simp only [List.append_assoc, List.cons_append, List.nil_append, List.reverse_append,
    List.reverse_cons, List.reverse_nil] at hfirst hnext hbetween ⊢
  rw [hfirst, hbetween, hnext]

/-- A sign in front of a piece. -/
theorem cons {c : Char} (h : rule.Respells text text') (hc : isWord c = false)
    (hshuns : rule.pattern.Shuns (· == c)) : rule.Respells (c :: text) (c :: text') := by
  intro before rest _ hrest
  have hmisses : rule.pattern.Misses before [c] (text ++ rest) := misses_of_shuns hshuns (by simp)
  have hfirst : rule.pattern.replaceFrom rule.phrase.fillFrom 0 _ _ = _ :=
    replaceFrom_of_misses hmisses
  have hnext := h (c :: before) rest (by simpa using hc) hrest
  simp only [List.append_assoc, List.cons_append, List.nil_append, List.reverse_cons,
    List.reverse_nil] at hfirst hnext ⊢
  rw [hfirst, hnext]

/-- Signs behind a piece. -/
theorem append_signs {signs : List Char} (h : rule.Respells text text')
    (hgoesOn : signs.head?.any (!goesOn ·) = true) (hshuns : rule.pattern.Shuns allowed)
    (hsigns : signs.all allowed = true) :
    rule.Respells (text ++ signs) (text' ++ signs) := by
  intro before rest hbefore _
  have hhead : (signs ++ rest).head?.any goesOn = false := by
    cases signs with
    | nil => exact absurd hgoesOn (by simp)
    | cons c signs => simpa using hgoesOn
  have hmisses : rule.pattern.Misses (text.reverse ++ before) signs rest :=
    misses_of_shuns hshuns (List.all_eq_true.mp hsigns)
  rw [List.append_assoc, h before _ hbefore hhead, replaceFrom_of_misses hmisses]
  simp

/-- **A line of such pieces.** -/
theorem apply (h : rule.Respells text text') : rule.apply text = text' := by
  have hline := h [] [] rfl rfl
  rw [List.append_nil, replaceFrom, List.append_nil] at hline
  exact hline

end Respells

end Rule

end Recast
