import Recast.Proofs.Block.Nesting
import Recast.Proofs.Chain.Steps

/-!
# Proofs/Block/EndWord — lines of languages whose blocks end with a word

There a header is known by the word it starts with, or by `do` and a name between bars at its end.
The names of programs are none of these words, so the first word of a line and the words in it are
seen from its stencil, and with them whether the matcher knows the lines for what they are
(`suits_endWord`).
-/

namespace Recast

open Text Source

/-! ## The first word of a line -/

namespace Stencil

/-- The fixed word that lines of the stencil start with, if there is one. -/
def firstWord : Stencil → List Char
  | .text chars :: _ => chars.takeWhile isWord
  | _ => []

/-- The first word does not run into a blank or out of one. -/
def firstApart : Stencil → Bool
  | .text chars :: rest => chars.any (!isWord ·) || startsApart rest
  | .blank _ :: rest => startsApart rest
  | [] => true

/-- A line starts with the fixed word, or else with a word that no language has reserved. -/
theorem takeWhile_fill {stencil : Stencil} {value : Nat → List Char} (htame : ∀ n, Tame (value n))
    (h : stencil.firstApart = true) : (stencil.fill value).takeWhile isWord = stencil.firstWord ∨
      isReserved ((stencil.fill value).takeWhile isWord) = false ∧ stencil.firstWord = [] := by
  match stencil with
  | [] => exact .inl rfl
  | .text chars :: rest =>
    refine .inl ?_
    rcases Bool.or_eq_true_iff.mp h with hany | hrest
    · exact takeWhile_append_of_any _ hany
    · exact takeWhile_append_of_head? _ (head?_fill_of_startsApart hrest)
  | .blank n :: rest =>
    refine .inr ⟨?_, rfl⟩
    rw [fill_blank, takeWhile_append_of_head? _ (head?_fill_of_startsApart h)]
    exact (htame n).unreserved _ (takeWhile_mem_words _)

/-- **Which of some reserved words a line starts with** is seen from its stencil. -/
theorem any_takeWhile_fill {stencil : Stencil} {value : Nat → List Char}
    (htame : ∀ n, Tame (value n)) (h : stencil.firstApart = true) {ws : List String}
    (hws : ws.all (fun w => isReserved w.toList) = true) :
    ws.any (fun w => w.toList == (stencil.fill value).takeWhile isWord) =
      ws.any fun w => w.toList == stencil.firstWord := by
  rcases takeWhile_fill htame h with heq | ⟨hfree, hnil⟩
  · rw [heq]
  · have hnone : ∀ text, isReserved text = false → ws.any (fun w => w.toList == text) = false := by
      intro text htext
      refine List.any_eq_false.mpr fun w hw heq => ?_
      have := List.all_eq_true.mp hws w hw
      rw [beq_iff_eq.mp heq, htext] at this
      exact absurd this (by decide)
    rw [hnone _ hfree, hnil, hnone [] (by decide)]

/-- The stencil ends with `do` and a word between bars. -/
def endsDo (kinds : List Blank) : Stencil → Bool
  | [.text chars, .blank n, .text ['|']] => " do |".toList.isSuffixOf chars && isWordAt kinds n
  | _ :: rest => endsDo kinds rest
  | [] => false

/-- A stencil that ends with `do` writes it in front of its variable. -/
theorem exists_of_endsDo {kinds : List Blank} {values : List (List Char)}
    (hfits : List.Forall₂ Blank.Fits kinds values) {stencil : Stencil}
    (h : stencil.endsDo kinds = true) : ∃ before x, IsWordRun x ∧
      stencil.fill (fillers values) = before ++ " do |".toList ++ x ++ "|".toList := by
  induction stencil with
  | nil => exact absurd h (by simp [endsDo])
  | cons part rest ih =>
    unfold endsDo at h
    split at h
    · rename_i chars n heq
      obtain ⟨rfl, rfl⟩ := List.cons.inj heq
      obtain ⟨hsuffix, hword⟩ := Bool.and_eq_true_iff.mp h
      obtain ⟨before, rfl⟩ := List.isSuffixOf_iff_suffix.mp hsuffix
      exact ⟨before, _, isWordRun_of_isWordAt hfits hword, by simp⟩
    · rename_i heq
      obtain ⟨rfl, rfl⟩ := List.cons.inj heq
      obtain ⟨before, x, hx, hfill⟩ := ih h
      cases part with
      | text chars => exact ⟨chars ++ before, x, hx, by simp [hfill]⟩
      | blank n => exact ⟨fillers values n ++ before, x, hx, by simp [hfill]⟩
    · exact absurd h (by simp)

end Stencil

/-! ## What the matcher reads -/

namespace Closer

open Pattern

variable {ws : List String}

/-- **A line starts with one of the words** behind its indentation. -/
theorem starts_leadingWord (hws : ws.all (fun w => (Cue.word w.toList).isPlain) = true)
    (line : List Char) : (leadingWord ws).starts line =
      ws.any fun w => w.toList == (trimStart line).takeWhile isWord := by
  rw [Bool.eq_iff_iff, starts, Spot.ofText]
  constructor
  · intro hread
    obtain ⟨run, rest, hline, hrun, hread⟩ := exists_of_read_many (meets_of_read_edge hread).2
    have hany := (isSome_read_anyWord_edge hws).mp hread
    obtain ⟨w, hw, heq⟩ := List.any_eq_true.mp hany
    have hne := (Bool.and_eq_true_iff.mp (List.all_eq_true.mp hws w hw)).1
    have hrest : rest.head?.any isBlank = false := by
      cases rest with
      | nil => rfl
      | cons c rest =>
        rw [beq_iff_eq.mp heq] at hne
        cases hc : isWord c with
        | true => simpa using isBlank_of_isWord c hc
        | false => simp [hc] at hne
    -- the run ends at the first character that is no blank
    rwa [trimStart, show line = run ++ rest from hline, List.dropWhile_append_of_pos hrun,
      dropWhile_of_head? hrest]
  · intro hany
    have hspace : ∀ c ∈ line.takeWhile isBlank, isBlank c = true :=
      List.all_eq_true.mp List.all_takeWhile
    have hread : ((all [.anyWord ws, .edge .word]).read some
        ⟨(line.takeWhile isBlank).reverse ++ [], trimStart line, []⟩).isSome = true :=
      (isSome_read_anyWord_edge hws).mpr hany
    obtain ⟨spot, hspot⟩ := Option.isSome_iff_exists.mp hread
    rw [← List.takeWhile_append_dropWhile (p := isBlank) (l := line), readAt?, leadingWord,
      all_cons, read_seq, read_edge _ rfl, all_cons, read_seq,
      read_many_of_eq_some hspace (head?_dropWhile isBlank line) hspot]
    rfl

theorem occursIn_leadingWord (ws : List String) (text : List Char) :
    (leadingWord ws).occursIn text = (leadingWord ws).starts text := by
  rw [Bool.eq_iff_iff, occursIn_iff]
  constructor
  · rintro ⟨a, b, rfl, hread⟩
    have hstart : a.reverse.isEmpty = true := (meets_of_read_edge hread).1
    obtain rfl : a = [] := by simpa using hstart
    exact hread
  · exact fun hread => ⟨[], text, rfl, hread⟩

/-! ## `do` at the end of a line -/

theorem shuns_finish : (all [.edge .finish]).Shuns isWord := by
  intro next c hc before rest kept
  have hmeets : (⟨before, c :: rest, kept⟩ : Spot).meets .finish = false := by
    have hne : c ≠ '\n' := ne_of_isWord (by decide) hc
    simp [Spot.meets, hne]
  rw [all_cons, read_seq, read_edge_eq, hmeets]
  rfl

/-- The name of the block, between its bars. -/
def bars : Pattern := .all [Form.blanks, "|", .many (· != '|'), "|"]

/-- What ends with `do` has the word in it. -/
theorem trailingDo_shows : trailingDo.Shows [.word "do".toList] := by
  have hbars : bars.Shuns isWord := .many_seq isBlank_of_isWord (Form.shuns_sign (by decide))
  exact shows_word_of_shuns (by decide)
    (.optional_seq hbars (.many_seq isBlank_of_isWord shuns_finish))

/-- The `do` of a header is read at its end. -/
theorem isSome_readAt?_trailingDo {x before : List Char} (hx : IsWordRun x)
    (hbefore : before.head?.any isWord = false) :
    (trailingDo.readAt? ⟨before, "do |".toList ++ (x ++ "|".toList), []⟩).isSome = true := by
  have hbar : ∀ c ∈ x, (c != '|') = true := fun c hc => by
    have := hx.isWord c hc
    rw [bne_iff_ne]
    rintro rfl
    exact absurd this (by decide)
  have hline : "do |".toList ++ (x ++ "|".toList) =
      "do".toList ++ ([' '] ++ ("|".toList ++ (x ++ ("|".toList ++ [])))) := by simp
  have hdo : trailingDo.readAt? ⟨before, "do".toList ++
      ([' '] ++ ("|".toList ++ (x ++ ("|".toList ++ [])))), []⟩ =
        (all [.optional bars, .many isBlank, .edge .finish]).read some
          ⟨"do".toList.reverse ++ before, [' '] ++ ("|".toList ++ (x ++ ("|".toList ++ []))), []⟩ :=
    Form.read_keyword hbefore rfl
  rw [hline, hdo, all_cons, read_seq, Pattern.optional, isSome_read_alt, bars,
    Form.read_blanks_space rfl (Form.shuns_sign (by decide)), Form.read_sign, all_cons, read_seq,
    read_many hbar rfl (Form.shuns_sign (by decide) _), Form.read_sign]
  rfl

end Closer

/-! ## Styles -/

namespace Source

/-- A language whose blocks end with a word may write the stencil for the shape. -/
structure Shape.IsWorded (shape : Shape) (stencil : Stencil) : Prop where
  startsInk : stencil.startsInk shape.kinds = true
  isFree : stencil.isFree '\n' = true
  firstApart : stencil.firstApart = true
  continues : (Closer.continuationWords.any fun w => w.toList == stencil.firstWord) =
    (shape.role == .rest)
  opens : ((Closer.headerWords.any fun w => w.toList == stencil.firstWord) ||
    stencil.endsDo shape.kinds) = (shape.role != .step)
  missing_do : shape.role = .step → (Cue.word "do".toList).missing stencil = true

variable {style : Style} {write : Shape → Stencil}
  (hwrite : ∀ line, style.write line = (write line.shape).fill (fillers line.values))
  (hworded : ∀ shape : Shape, shape.IsWorded (write shape))

include hwrite

/-- A header that ends with `do` has the word at its end, and steps have it nowhere. -/
theorem occursIn_trailingDo_of_endsDo {line : Line}
    (h : (write line.shape).endsDo line.shape.kinds = true) (depth : Nat) :
    Closer.trailingDo.occursIn (indentation depth ++ style.write line) = true := by
  obtain ⟨before, x, hx, hfill⟩ := Stencil.exists_of_endsDo line.fits h
  refine Pattern.occursIn_iff.mpr ⟨indentation depth ++ before ++ [' '], "do |".toList ++
    (x ++ "|".toList), ?_, Closer.isSome_readAt?_trailingDo hx ?_⟩
  · rw [hwrite, hfill]
    simp
  · rw [List.reverse_append]
    exact (by decide : isWord ' ' = false)

/-- No `do` is found in a line without the word. -/
theorem occursIn_trailingDo_of_missing {line : Line}
    (h : (Cue.word "do".toList).missing (write line.shape) = true) (depth : Nat) :
    Closer.trailingDo.occursIn (indentation depth ++ style.write line) = false := by
  refine Closer.trailingDo_shows.occursIn_eq_false (by decide) fun cue hcue => ?_
  rw [List.mem_singleton.mp hcue, hwrite]
  exact Cue.not_in_of_missing _ (by decide) (tame_fillers line.fits) h

include hworded

theorem exists_write_eq_of_isWorded (line : Line) :
    ∃ c more, style.write line = c :: more ∧ isBlank c = false := by
  rw [hwrite]
  exact Stencil.exists_fill_of_startsInk line.fits (hworded line.shape).startsInk

theorem not_mem_write_of_isWorded (line : Line) : '\n' ∉ style.write line := by
  rw [hwrite]
  exact Stencil.not_mem_fill_of_isFree (tame_fillers line.fits) (hworded line.shape).isFree

/-- The words that lines start with are those that their stencils start with. -/
theorem starts_leadingWord_write {ws : List String}
    (hreserved : ws.all (fun w => isReserved w.toList) = true)
    (hplain : ws.all (fun w => (Cue.word w.toList).isPlain) = true) (line : Line) (depth : Nat) :
    (Closer.leadingWord ws).starts (indentation depth ++ style.write line) =
      ws.any fun w => w.toList == (write line.shape).firstWord := by
  obtain ⟨c, more, hline, hc⟩ := exists_write_eq_of_isWorded hwrite hworded line
  have htrim : trimStart (indentation depth ++ style.write line) = style.write line := by
    rw [trimStart, List.dropWhile_append_of_pos (forall_mem_indentation (by decide)),
      dropWhile_of_head? (by simpa [hline] using hc)]
  rw [Closer.starts_leadingWord hplain, htrim, hwrite]
  exact Stencil.any_takeWhile_fill (tame_fillers line.fits) (hworded line.shape).firstApart
    hreserved

/-- **A line opens a block** unless it is a step. -/
theorem opens_of_isWorded (line : Line) (depth : Nat) :
    Closer.endWord.opens (indentation depth ++ style.write line) =
      (line.shape.role != .step) := by
  have hshape := (hworded line.shape).opens
  have hopens : Closer.endWord.opens (indentation depth ++ style.write line) =
      ((Closer.headerWords.any fun w => w.toList == (write line.shape).firstWord) ||
        Closer.trailingDo.occursIn (indentation depth ++ style.write line)) := by
    rw [← starts_leadingWord_write hwrite hworded (by decide) (by decide) line depth,
      ← Closer.occursIn_leadingWord, ← Pattern.occursIn_alt]
    rfl
  rw [hopens, ← hshape]
  cases hdo : (write line.shape).endsDo line.shape.kinds with
  | true => rw [occursIn_trailingDo_of_endsDo hwrite hdo depth]
  | false =>
    by_cases hstep : line.shape.role = .step
    · rw [occursIn_trailingDo_of_missing hwrite ((hworded line.shape).missing_do hstep)]
    · rw [hdo, Bool.or_false, bne_iff_ne.mpr hstep] at hshape
      rw [hshape, Bool.true_or, Bool.true_or]

/-- **The matcher knows the lines of the language for what they are.** -/
theorem suits_endWord (hclose : ∀ line, style.close line = some "end".toList) :
    style.Suits .endWord where
  starts line := by
    obtain ⟨c, more, hline, hc⟩ := exists_write_eq_of_isWorded hwrite hworded line
    simp [hline, hc]
  opens line depth := by
    rw [opens_of_isWorded hwrite hworded]
    cases line with
    | step step => rw [role_step]; rfl
    | header header => rw [role_header, Style.opens, hclose]; rfl
    | _ => rfl
  continues line depth := by
    rw [continues_eq_role, ← (hworded line.shape).continues]
    exact starts_leadingWord_write hwrite hworded (by decide) (by decide) line depth
  close_header := by
    intro header token htoken
    rw [hclose] at htoken
    exact (Option.some.inj htoken).symm
  close_branch condition := hclose _

end Source

end Recast
