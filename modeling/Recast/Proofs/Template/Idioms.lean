import Recast.Proofs.Chain.Readings
import Recast.Proofs.Template.Script
import Recast.Template.Idioms

/-!
# Proofs/Template/Idioms — what is looked for in a script

A call of the output function is read from end to end, and so is a declaration: what is printed or
assigned has neither the parentheses nor the semicolon that would end the reading early. A line
without a parenthesis is no call, and a line without the three words is no declaration. Nor is what
follows one of them, unless it is a single word before an equality sign
(`looseDeclaration_refuses`).

The words `main` and `class` are looked for in any case, and what is found are whole words of the
text (`wordAnyCase_occursIn_iff`). In a text of ASCII they are `main` or `class` when written small
(`entryMarker_occursIn_eq_false`).
-/

namespace Recast.Idiom

open Form Pattern Text Script

variable {before rest : List Char} {kept : List (Nat × Stretch)} {next : Next}

/-! ## Output statements -/

/-- The callee is read where its name starts a line. -/
def Calls (callee : Pattern) (name : String) : Prop :=
  ∀ (ps : List Pattern) (next : Next) (before rest : List Char) (kept : List (Nat × Stretch)),
    before.head?.all (· = '\n') = true →
      (all (callee :: ps)).read next ⟨before, name.toList ++ rest, kept⟩ =
        (all ps).read next ⟨name.toList.reverse ++ before, rest, kept⟩

theorem calls_text (name : String) : Calls (.text name) name := fun _ _ _ _ _ _ => read_sign

/-- A word calls itself where no word stands in front of it. -/
theorem calls_keyword (name : String) (h : name.toList.head?.any isWord = true) :
    Calls (keyword name) name := fun _ _ _ _ _ hbefore =>
  read_keyword (head?_of_lineFeed (by decide) hbefore) h

variable {callee : Pattern} {name : String} {x : List Char} {q : List Pattern} {t : Spot}

/-- A call up to the parenthesis that closes it. -/
theorem read_call (hcallee : Calls callee name) (hx : ∀ c ∈ x, isInline c = true ∧ c ≠ ')')
    (hbefore : before.head?.all (· = '\n') = true)
    (h : (all q).read next ⟨")".toList.reverse ++ (x.reverse ++ ("(".toList.reverse ++
      (name.toList.reverse ++ before))), rest, (1, ⟨x ++ (")".toList ++ rest), ")".toList ++
        rest⟩) :: kept⟩ = some t) :
    (all (callee :: (argument ++ q))).read next ⟨before, name.toList ++ ("(".toList ++ (x ++
      (")".toList ++ rest))), kept⟩ = some t := by
  rw [hcallee _ _ _ _ _ hbefore, argument]
  simp only [List.cons_append, List.nil_append]
  rw [read_sign]
  refine read_group_few_of_eq_some hx (shuns_sign rfl) ?_
  rw [read_sign, h]

/-- **A call with its semicolon is read**, the argument up to the parenthesis. -/
theorem callStatement_reads (hcallee : Calls callee name)
    (hx : ∀ c ∈ x, isInline c = true ∧ c ≠ ')') (hbefore : before.head?.all (· = '\n') = true) :
    (callStatement callee).Reads before (name.toList ++ ("(".toList ++ (x ++ ");".toList))) rest
      [x] := by
  have hline : name.toList ++ ("(".toList ++ (x ++ ");".toList)) ++ rest =
      name.toList ++ ("(".toList ++ (x ++ (")".toList ++ (";".toList ++ rest)))) := by simp
  apply Reads.intro
  · rw [hline]
    exact read_call hcallee hx hbefore (read_optional_of_eq_some rfl)
  · exact keeps_nil.snoc x _

/-- A call without a semicolon is read up to its closing parenthesis. -/
theorem callBare_reads (hcallee : Calls callee name)
    (hx : ∀ c ∈ x, isInline c = true ∧ c ≠ ')') (hbefore : before.head?.all (· = '\n') = true) :
    (callBare callee).Reads before (name.toList ++ ("(".toList ++ (x ++ ")".toList))) rest
      [x] := by
  have hline : name.toList ++ ("(".toList ++ (x ++ ")".toList)) ++ rest =
      name.toList ++ ("(".toList ++ (x ++ (")".toList ++ rest))) := by simp
  apply Reads.intro
  · rw [hline]
    exact read_call (q := []) hcallee hx hbefore rfl
  · exact keeps_nil.snoc x _

theorem callStatement_shows {callee : String} (h : '\n' ∉ callee.toList) :
    (callStatement callee).Shows [.text "(".toList] :=
  .behind (stays_text h) shows_text.seq

/-! ## Declarations -/

/-- A declaring word is read, and no other in its place. -/
theorem read_anyWord_declaring {keyword : String} (h : keyword ∈ declaringWords) :
    (anyWord declaringWords).read next ⟨before, keyword.toList ++ rest, kept⟩ =
      next ⟨keyword.toList.reverse ++ before, rest, kept⟩ := by
  simp only [declaringWords, List.mem_cons, List.not_mem_nil, or_false] at h
  rcases h with rfl | rfl | rfl
  · exact (read_alt (.text "let") _ next _).trans Option.or_none
  · exact (read_alt (.text "const") _ next _).trans Option.or_none
  · rfl

theorem isPlain_of_declaring :
    declaringWords.all (fun w => (Cue.word w.toList).isPlain) = true := by
  decide

/-- **A declaration is read**, with a name and a value that ends in front of the semicolon. -/
theorem looseDeclaration_reads {keyword : String} (hkeyword : keyword ∈ declaringWords)
    {e : List Char} (hx : Source.IsWordRun x) (hne : e ≠ []) (htrim : trim e = e)
    (he : ∀ c ∈ e, isInline c = true ∧ c ≠ ';') (hbefore : before.head?.any isWord = false) :
    looseDeclaration.Reads before (keyword.toList ++ (" ".toList ++ (x ++ (" = ".toList ++
      (e ++ ";".toList))))) rest [x, e] := by
  have hline : keyword.toList ++ (" ".toList ++ (x ++ (" = ".toList ++ (e ++ ";".toList)))) ++
      rest = keyword.toList ++ ([' '] ++ (x ++ ([' '] ++ ("=".toList ++ ([' '] ++
        (e ++ (";".toList ++ rest))))))) := by simp
  have hplain := List.all_eq_true.mp isPlain_of_declaring keyword hkeyword
  apply Reads.intro
  · rw [hline, readAt?, looseDeclaration, all_cons, read_seq,
      read_edge _ ((Cue.meets_word_before hplain).mpr hbefore), all_cons, read_seq]
    refine (read_anyWord_declaring hkeyword).trans ?_
    rw [read_gap (head?_of_isWordRun hx isBlank_of_isWord),
      read_word hx rfl (shuns_blanks isBlank_of_isWord (shuns_sign rfl)),
      read_blanks_space rfl (shuns_sign rfl), read_sign]
    refine read_blanks_space_of_eq_some (head?_append_of_trim hne htrim _) ?_
    refine read_group_few_of_eq_some he (shuns_sign rfl) ?_
    rw [read_sign]
    rfl
  · exact (keeps_nil.snoc x _).snoc e _

/-- Behind a keyword and a space, a name is read only if an equality sign is behind it. -/
theorem read_declared_eq_none {c : Char} (hx : ∀ d ∈ x, isWord d = true)
    (hc : isWord c = false) (hink : isBlank c = false) (hsign : x = [] ∨ c ≠ '=')
    {ps : List Pattern} :
    (all (gap :: .group 1 word :: blanks :: "=" :: ps)).read next
      ⟨before, [' '] ++ (x ++ c :: rest), kept⟩ = none := by
  cases x with
  | nil =>
    have hhead : (c :: rest).head?.any isWord = false := by simpa using hc
    rw [List.nil_append, read_gap (by simpa using hink)]
    exact read_many1_nil hhead
  | cons d x =>
    have hrun : Source.IsWordRun (d :: x) := ⟨by simp, hx⟩
    rw [read_gap (head?_of_isWordRun hrun isBlank_of_isWord), read_word hrun (by simpa using hc)
        (shuns_blanks isBlank_of_isWord (shuns_sign rfl)),
      read_blanks (by simpa using hink),
      read_sign_of_ne rfl (hsign.resolve_left (List.cons_ne_nil d x))]

/-- No declaration starts where the first word is followed by something else. -/
theorem looseDeclaration_refuses {w : List Char} {c : Char} (hw : ∀ d ∈ w, (!isBlank d) = true)
    (hx : ∀ d ∈ x, isWord d = true) (hc : isWord c = false) (hink : isBlank c = false)
    (hsign : x = [] ∨ c ≠ '=') :
    looseDeclaration.readAt? ⟨before, w ++ ([' '] ++ (x ++ c :: rest)), kept⟩ = none := by
  have hspan {v : List Char} (hv : ∀ d ∈ v, (!isBlank d) = true) {b : Char} (hb : isBlank b = true)
      (more : List Char) : (v ++ b :: more).dropWhile (!isBlank ·) = b :: more := by
    rw [List.dropWhile_append_of_pos hv]
    simp [hb]
  by_contra hread
  rw [looseDeclaration, readAt?] at hread
  obtain ⟨-, hread⟩ := meets_of_read_edge (Option.isSome_iff_ne_none.mpr hread)
  obtain ⟨keyword, hkeyword, tail, htail, hread⟩ := isSome_read_anyWord.mp hread
  have hplain := List.all_eq_true.mp isPlain_of_declaring keyword hkeyword
  have hkeyword : ∀ d ∈ keyword.toList, (!isBlank d) = true := fun d hd => by
    simp [isBlank_of_isWord d (Cue.forall_of_plain hplain d hd)]
  -- The keyword ends at the first blank, and that is where the first word ends.
  obtain ⟨b, more, rfl, hb, -⟩ := exists_of_read_one hread
  have hcut := congrArg (List.dropWhile (!isBlank ·)) htail
  rw [List.singleton_append, hspan hw (by decide), hspan hkeyword hb] at hcut
  rw [← hcut] at hread
  exact Option.isSome_iff_ne_none.mp hread (read_declared_eq_none hx hc hink hsign)

/-- A declaration begins with the first letter of a declaring word. -/
theorem looseDeclaration_shuns : looseDeclaration.Shuns fun c => !(['l', 'c', 'v'].contains c) :=
  .edge_seq ((shuns_text rfl).alt ((shuns_text rfl).alt (shuns_text rfl))).seq

/-- A declaration shows one of the declaring words. -/
theorem looseDeclaration_shows :
    looseDeclaration.Shows (declaringWords.map fun w => .word w.toList) :=
  shows_anyWord isPlain_of_declaring fun _ _ _ _ hread _ => shuns_gap.head?_of_read hread

/-! ## Words in any case -/

/-- A small letter with a capital. -/
def isCased (c : Char) : Bool :=
  c.toLower == c && c.toUpper.toLower == c && isWord c && isWord c.toUpper

/-- What is a letter up to its case is part of a word. -/
theorem isWord_of_anyCase {c d : Char} (hc : isCased c = true) (h : anyCase c d = true) :
    isWord d = true := by
  simp only [isCased, Bool.and_eq_true] at hc
  simp only [anyCase, Bool.or_eq_true, Bool.and_eq_true, beq_iff_eq] at h
  rcases h with ((rfl | rfl) | ⟨-, rfl⟩) | ⟨-, rfl | rfl⟩
  · exact hc.1.2
  · exact hc.2
  all_goals decide

/-- In ASCII a letter that counts as another is that letter when written small. -/
theorem toLower_of_anyCase {c d : Char} (hc : isCased c = true) (hd : d.toNat < 0x80)
    (h : anyCase c d = true) : d.toLower = c := by
  simp only [isCased, Bool.and_eq_true, beq_iff_eq] at hc
  simp only [anyCase, Bool.or_eq_true, Bool.and_eq_true, beq_iff_eq] at h
  rcases h with ((rfl | rfl) | ⟨-, rfl⟩) | ⟨-, rfl | rfl⟩
  · exact hc.1.1.1
  · exact hc.1.1.2
  all_goals exact absurd hd (by decide)

/-- A word that was read in any case is the name in lower case. -/
theorem map_toLower_of_anyCase : ∀ {cs word : List Char},
    List.Forall₂ (fun c d => anyCase c d = true) cs word → (∀ c ∈ cs, isCased c = true) →
      (∀ d ∈ word, d.toNat < 0x80) → word.map Char.toLower = cs
  | [], _, .nil, _, _ => rfl
  | c :: cs, d :: word, .cons h hs, hcased, hascii => by
      obtain ⟨hc, hcased⟩ := List.forall_mem_cons.mp hcased
      obtain ⟨hd, hascii⟩ := List.forall_mem_cons.mp hascii
      rw [List.map_cons, toLower_of_anyCase hc hd h, map_toLower_of_anyCase hs hcased hascii]

/-- One character of each class was read. -/
theorem exists_of_read_ones {f : Char → Char → Bool} {ps : List Pattern} :
    ∀ {cs : List Char} {s : Spot},
      ((all (cs.map (fun c => Pattern.one (f c)) ++ ps)).read next s).isSome = true →
      ∃ run rest, s.rest = run ++ rest ∧ List.Forall₂ (fun c d => f c d = true) cs run ∧
        ((all ps).read next ⟨run.reverse ++ s.before, rest, s.kept⟩).isSome = true
  | [], s, h => ⟨[], s.rest, rfl, .nil, h⟩
  | c :: cs, s, h => by
      obtain ⟨d, tail, htail, hd, h⟩ := exists_of_read_one h
      obtain ⟨run, rest, hrest, hrun, h⟩ := exists_of_read_ones h
      exact ⟨d :: run, rest, by rw [htail, show tail = run ++ rest from hrest]; rfl, .cons hd hrun,
        by simpa using h⟩

/-- A row of single signs is read one by one. -/
theorem read_ones {f : Char → Char → Bool} {ps : List Pattern} :
    ∀ {cs run : List Char} {before : List Char}, List.Forall₂ (fun c d => f c d = true) cs run →
      (all (cs.map (fun c => Pattern.one (f c)) ++ ps)).read next ⟨before, run ++ rest, kept⟩ =
        (all ps).read next ⟨run.reverse ++ before, rest, kept⟩
  | [], _, _, .nil => rfl
  | c :: cs, d :: run, before, .cons h hs => by
      rw [List.map_cons, List.cons_append, all_cons, read_seq, List.cons_append, read_one, if_pos h,
        read_ones hs]
      simp

/-- The word, in small or large letters, is a word of the text. -/
def HasWord (name : String) (text : List Char) : Prop :=
  ∃ w ∈ words text, List.Forall₂ (fun c d => anyCase c d = true) name.toList w

theorem all_isWord_of_anyCase : ∀ {cs word : List Char},
    List.Forall₂ (fun c d => anyCase c d = true) cs word → cs.all isCased = true →
      word.all isWord = true
  | [], _, .nil, _ => rfl
  | c :: cs, d :: word, .cons h hs, hcased => by
      obtain ⟨hc, hcased⟩ := Bool.and_eq_true_iff.mp hcased
      exact Bool.and_eq_true_iff.mpr ⟨isWord_of_anyCase hc h, all_isWord_of_anyCase hs hcased⟩

/-- A name in any case is a plain word. -/
theorem isPlain_of_anyCase {name : String} {word : List Char}
    (hname : (!name.toList.isEmpty && name.toList.all isCased) = true)
    (h : List.Forall₂ (fun c d => anyCase c d = true) name.toList word) :
    (Cue.word word).isPlain = true := by
  obtain ⟨hne, hcased⟩ := Bool.and_eq_true_iff.mp hname
  have hlength := h.length_eq
  refine Bool.and_eq_true_iff.mpr ⟨?_, all_isWord_of_anyCase h hcased⟩
  cases word with
  | nil => simp [List.length_eq_zero_iff.mp hlength] at hne
  | cons c more => rfl

/-- **The search finds the words of a text**, each as a whole. -/
theorem wordAnyCase_occursIn_iff {name : String} {text : List Char}
    (hname : (!name.toList.isEmpty && name.toList.all isCased) = true) :
    (wordAnyCase name).occursIn text = true ↔ HasWord name text := by
  rw [occursIn_iff]
  constructor
  · rintro ⟨a, b, rfl, hread⟩
    obtain ⟨hstart, hread⟩ := meets_of_read_edge hread
    obtain ⟨word, rest, hrest, hword, hread⟩ := exists_of_read_ones hread
    obtain rfl : b = word ++ rest := hrest
    have hplain := isPlain_of_anyCase hname hword
    have hat : (Cue.word word).At (a.reverse ++ []) (word ++ rest ++ []) := by
      rw [List.append_nil, List.append_nil]
      exact ⟨(Cue.meets_word_before hplain).mp hstart, rest, rfl,
        (Cue.meets_word_behind hplain).mp (meets_of_read_edge hread).1⟩
    exact ⟨word, Cue.in_of_at hplain rfl hat, hword⟩
  · rintro ⟨word, hmem, hword⟩
    obtain ⟨a, b, rfl, ha, hb⟩ := exists_of_mem_words hmem
    have hplain := isPlain_of_anyCase hname hword
    refine ⟨a, word ++ b, rfl, ?_⟩
    have hones : (all (name.toList.map (fun c => .one (anyCase c)) ++ [.edge .word])).read some
        ⟨a.reverse, word ++ b, []⟩ = (all [.edge .word]).read some
          ⟨word.reverse ++ a.reverse, b, []⟩ := read_ones hword
    have hend : (all [.edge .word]).read some ⟨word.reverse ++ a.reverse, b, []⟩ =
        some ⟨word.reverse ++ a.reverse, b, []⟩ :=
      read_edge _ ((Cue.meets_word_behind hplain).mpr hb)
    rw [readAt?, wordAnyCase, List.append_assoc, List.singleton_append, all_cons, read_seq,
      read_edge _ ((Cue.meets_word_before hplain).mpr ha), hones, hend]
    rfl

/-- The text has a word that shows an entry point. -/
def ShowsEntry (text : List Char) : Prop := ∃ name ∈ entryWords, HasWord name text

/-- **An entry point is found** just where the text shows one. -/
theorem entryMarker_occursIn_iff {text : List Char} :
    entryMarker.occursIn text = true ↔ ShowsEntry text := by
  rw [entryMarker, occursIn_alt, Bool.or_eq_true, wordAnyCase_occursIn_iff (by decide),
    wordAnyCase_occursIn_iff (by decide)]
  simp [ShowsEntry, entryWords]

/-- No entry point is found in a text without the words for one. -/
theorem entryMarker_occursIn_eq_false {text : List Char} (htext : ∀ c ∈ text, c.toNat < 0x80)
    (h : ∀ w ∈ words text, isAmong entryWords w = false) : entryMarker.occursIn text = false := by
  have hcased : entryWords.all (fun name => name.toList.all isCased) = true := by decide
  rw [← Bool.not_eq_true, entryMarker_occursIn_iff]
  rintro ⟨name, hname, w, hw, hword⟩
  obtain ⟨a, b, rfl, -, -⟩ := exists_of_mem_words hw
  have hname' : ∀ c ∈ name.toList, isCased c = true :=
    List.all_eq_true.mp (List.all_eq_true.mp hcased name hname)
  have hlower := map_toLower_of_anyCase hword hname' fun d hd => htext d (by simp [hd])
  have hnot := List.any_eq_false.mp (h w hw) name hname
  exact hnot (beq_iff_eq.mpr hlower.symm)

/-! ## Lines that frame a program -/

/-- A word that ends where the pattern has read it. -/
def ending (word : String) : Pattern := .seq (.text word) (.edge .word)

/-- What such a line starts with, behind its margin. -/
def preambleStart : Pattern :=
  .alt (ending "import")
    (.alt (all ["from", gap, many1 fun c => !isBlank c, gap, ending "import"])
      (.alt (ending "#include") (.alt (ending "using") (.alt (ending "package") "<?php"))))

theorem preambleLine_eq : preambleLine =
    all [.edge .lineStart, margin, preambleStart, many isInline, .alt "\n" (.edge .lineEnd)] := rfl

/-- A line of a preamble does not begin with a line end. -/
theorem preambleLine_shuns : preambleLine.Shuns (· == '\n') := by
  have hmargin : ∀ c, (c == '\n') = true → isMargin c = false := fun c hc => by
    rw [beq_iff_eq.mp hc]
    decide
  have hending {word : String} (h : (word.toList.head?.any fun c => !(c == '\n')) = true) :
      (ending word).Shuns (· == '\n') := (shuns_text h).seq
  rw [preambleLine_eq]
  exact .edge_seq (shuns_margin hmargin (.seq (.alt (hending rfl) (.alt (shuns_sign rfl)
    (.alt (hending rfl) (.alt (hending rfl) (.alt (hending rfl) (shuns_text rfl))))))))

/-- Where a word can be read with an edge behind it, it is the whole word. -/
theorem takeWhile_of_read_ending {word : String} {text : List Char}
    (hplain : (Cue.word word.toList).isPlain = true)
    (h : ((ending word).read next ⟨before, text, kept⟩).isSome = true) :
    text.takeWhile isWord = word.toList := by
  obtain ⟨tail, rfl, hnext⟩ := isSome_read_text.mp h
  exact takeWhile_word (Cue.forall_of_plain hplain)
    ((Cue.meets_word_behind hplain).mp (meets_of_read_edge hnext).1)

/-- Such a line starts with one of the words, or with a sign. -/
theorem takeWhile_of_read_preambleStart {text : List Char}
    (h : (preambleStart.read next ⟨before, text, kept⟩).isSome = true) :
    isAmong preambleWords (text.takeWhile isWord) = true ∨ text.head?.any isWord = false := by
  have hsign {sign : String} (hsign : sign.toList.head?.any (!isWord ·) = true)
      (hread : ∃ tail, text = sign.toList ++ tail) : text.head?.any isWord = false := by
    obtain ⟨tail, rfl⟩ := hread
    cases hs : sign.toList with
    | nil => simp [hs] at hsign
    | cons c more => simpa [hs] using hsign
  rw [preambleStart] at h
  simp only [isSome_read_alt, Bool.or_eq_true] at h
  rcases h with h | h | h | h | h | h
  · left
    rw [takeWhile_of_read_ending (by decide) h]
    decide
  · left
    obtain ⟨tail, rfl, hnext⟩ := isSome_read_text.mp h
    have hfrom : ∀ c ∈ "from".toList, isWord c = true := List.all_eq_true.mp (by decide)
    rw [takeWhile_word hfrom (shuns_gap.head?_of_read hnext)]
    decide
  · right
    obtain ⟨tail, htext, -⟩ := isSome_read_text.mp h
    exact hsign (by decide) ⟨tail, htext⟩
  · left
    rw [takeWhile_of_read_ending (by decide) h]
    decide
  · left
    rw [takeWhile_of_read_ending (by decide) h]
    decide
  · right
    obtain ⟨tail, htext, -⟩ := isSome_read_text.mp h
    exact hsign (by decide) ⟨tail, htext⟩

/-- **A line is no part of a preamble** if it starts with a word and has none that starts one. -/
theorem preambleLine_misses {line : List Char} (hfirst : line.head?.any isWord = true)
    (havoids : Avoids preambleWords line) (hrest : rest.head?.all (· = '\n') = true) :
    preambleLine.Misses before line rest := by
  refine misses_of_startsLine startsLine_edge_seq havoids.lineFeed_not_mem ?_
  have hhead : (line ++ rest).head?.any isWord = true := head?_append_of_any rest hfirst
  have hmargin : (line ++ rest).head?.any isMargin = false := by
    cases htext : line ++ rest with
    | nil => rfl
    | cons c more => simpa using isMargin_of_isWord c (by simpa [htext] using hhead)
  by_contra hread
  rw [preambleLine_eq, readAt?] at hread
  obtain ⟨-, hread⟩ := meets_of_read_edge (Option.isSome_iff_ne_none.mpr hread)
  change ((all _).read _ _).isSome = true at hread
  rw [read_margin hmargin] at hread
  rcases takeWhile_of_read_preambleStart hread with hword | hsign
  · rw [takeWhile_append_of_head? line (head?_of_lineFeed (by decide) hrest),
      havoids.isAmong _ (takeWhile_mem_words line)] at hword
    exact absurd hword (by decide)
  · rw [hhead] at hsign
    exact absurd hsign (by decide)

end Recast.Idiom
