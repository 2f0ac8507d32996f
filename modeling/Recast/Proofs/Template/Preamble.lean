import Recast.Proofs.Pattern.LineFilter
import Recast.Proofs.Template.Idioms
import Recast.Template.Carry

/-!
# Proofs/Template/Preamble — which lines are left out in front of a main function

A line of a preamble is known by what it starts with behind its margin (`Idiom.isPreamble`), and the
pattern for such lines reads the whole line. So the lines of a preamble are filtered out of a text,
and the text is trimmed (`Template.stripPreamble_eq_trim_filter`).

This is *not* so for a text with a line that starts with the word `from`: what is read behind that
word may go on over line ends until an `import` is found.
-/

namespace Recast

open Form Pattern Text

namespace Idiom

variable {word : String} {before rest text tail line : List Char} {kept : List (Nat × Stretch)}
  {next : Next} {spot : Spot}

/-! ## What a line starts with -/

/-- The text starts with the word, and with no longer one. -/
def startsWord (word : String) (text : List Char) : Bool :=
  word.toList.isPrefixOf text && !(text.drop word.toList.length).head?.any isWord

/-- The words that a line of a preamble starts with. -/
def openingWords : List String := ["import", "#include", "using", "package"]

/-- **The line belongs to a preamble:** behind spaces and tabs it imports, includes, uses or names a
package, or it opens a script. -/
def isPreamble (line : List Char) : Bool :=
  openingWords.any (startsWord · (line.dropWhile isMargin)) ||
    "<?php".toList.isPrefixOf (line.dropWhile isMargin)

/-- The word opens a line of a preamble that goes on with the text. -/
def Opens (word : String) (tail : List Char) : Prop :=
  word ∈ openingWords ∧ tail.head?.any isWord = false ∨ word = "<?php"

theorem startsWord_iff : startsWord word text = true ↔
    ∃ tail, text = word.toList ++ tail ∧ tail.head?.any isWord = false := by
  rw [startsWord, Bool.and_eq_true, List.isPrefixOf_iff_prefix]
  constructor
  · rintro ⟨⟨tail, rfl⟩, htail⟩
    exact ⟨tail, rfl, by simpa using htail⟩
  · rintro ⟨tail, rfl, htail⟩
    exact ⟨List.prefix_append _ _, by simpa using htail⟩

theorem isPreamble_iff : isPreamble line = true ↔
    ∃ word tail, line.dropWhile isMargin = word.toList ++ tail ∧ Opens word tail := by
  rw [isPreamble, Bool.or_eq_true, List.any_eq_true, List.isPrefixOf_iff_prefix]
  constructor
  · rintro (⟨word, hmem, hstarts⟩ | ⟨tail, htail⟩)
    · obtain ⟨tail, htail, hend⟩ := startsWord_iff.mp hstarts
      exact ⟨word, tail, htail, .inl ⟨hmem, hend⟩⟩
    · exact ⟨_, tail, htail.symm, .inr rfl⟩
  · rintro ⟨word, tail, htail, ⟨hmem, hend⟩ | rfl⟩
    · exact .inl ⟨word, hmem, startsWord_iff.mpr ⟨tail, htail, hend⟩⟩
    · exact .inr ⟨tail, htail.symm⟩

/-- An opening is found behind the margin, on the line itself. -/
theorem Opens.spec (h : Opens word tail) :
    '\n' ∉ word.toList ∧ word.toList.head?.any (!isMargin ·) = true := by
  have hwords : ∀ word ∈ "<?php" :: openingWords,
      '\n' ∉ word.toList ∧ word.toList.head?.any (!isMargin ·) = true := by
    decide
  rcases h with ⟨hmem, -⟩ | rfl
  · exact hwords word (List.mem_cons_of_mem _ hmem)
  · exact hwords _ List.mem_cons_self

/-! ## Reading it -/

/-- Behind a word character there is a word edge where no other follows. -/
theorem meets_word_of_last (hlast : word.toList.getLast?.any isWord = true) :
    (⟨word.toList.reverse ++ before, rest, kept⟩ : Spot).meets .word = true ↔
      rest.head?.any isWord = false := by
  have hhead : (word.toList.reverse ++ before).head?.any isWord = true :=
    head?_append_of_any _ (by rwa [List.head?_reverse])
  rw [Spot.meets, Spot.atWordEdge, hhead]
  cases rest.head?.any isWord <;> decide

theorem exists_of_read_ending (hlast : word.toList.getLast?.any isWord = true)
    (h : (ending word).read next ⟨before, text, kept⟩ = some spot) :
    ∃ tail, text = word.toList ++ tail ∧ tail.head?.any isWord = false ∧
      next ⟨word.toList.reverse ++ before, tail, kept⟩ = some spot := by
  obtain ⟨tail, htail, hread⟩ := exists_of_read_text_eq_some h
  obtain ⟨hmeets, -⟩ := meets_of_read_edge (Option.isSome_of_eq_some hread)
  rw [read_edge _ hmeets] at hread
  exact ⟨tail, htail, (meets_word_of_last hlast).mp hmeets, hread⟩

theorem isSome_read_ending (hlast : word.toList.getLast?.any isWord = true)
    (htail : tail.head?.any isWord = false)
    (hnext : (next ⟨word.toList.reverse ++ before, tail, kept⟩).isSome = true) :
    ((ending word).read next ⟨before, word.toList ++ tail, kept⟩).isSome = true := by
  rw [ending, read_seq, read_text, read_edge _ ((meets_word_of_last hlast).mpr htail)]
  exact hnext

theorem getLast?_of_mem_openingWords :
    ∀ word ∈ openingWords, word.toList.getLast?.any isWord = true := by
  decide

/-- **What is read at the start of such a line** is one of the openings, unless a line starts with
`from`. -/
theorem exists_of_read_preambleStart (hfrom : startsWord "from" text = false)
    (h : preambleStart.read next ⟨before, text, kept⟩ = some spot) :
    ∃ word tail, text = word.toList ++ tail ∧ Opens word tail ∧
      next ⟨word.toList.reverse ++ before, tail, kept⟩ = some spot := by
  have hending (word : String) (hmem : word ∈ openingWords)
      (h : (ending word).read next ⟨before, text, kept⟩ = some spot) :
      ∃ word tail, text = word.toList ++ tail ∧ Opens word tail ∧
        next ⟨word.toList.reverse ++ before, tail, kept⟩ = some spot := by
    obtain ⟨tail, htail, hend, hread⟩ :=
      exists_of_read_ending (getLast?_of_mem_openingWords word hmem) h
    exact ⟨word, tail, htail, .inl ⟨hmem, hend⟩, hread⟩
  have hnone : (all ["from", gap, many1 fun c => !isBlank c, gap, ending "import"]).read next
      ⟨before, text, kept⟩ = none := by
    by_contra hread
    obtain ⟨tail, htail, hgap⟩ := isSome_read_text.mp (Option.isSome_iff_ne_none.mpr hread)
    rw [startsWord_iff.mpr ⟨tail, htail, shuns_gap.head?_of_read hgap⟩] at hfrom
    exact absurd hfrom (by decide)
  rw [preambleStart, read_alt, read_alt, hnone, Option.none_or, read_alt, read_alt, read_alt] at h
  rcases Option.or_eq_some_iff.mp h with h | ⟨-, h⟩
  · exact hending "import" (by decide) h
  rcases Option.or_eq_some_iff.mp h with h | ⟨-, h⟩
  · exact hending "#include" (by decide) h
  rcases Option.or_eq_some_iff.mp h with h | ⟨-, h⟩
  · exact hending "using" (by decide) h
  rcases Option.or_eq_some_iff.mp h with h | ⟨-, h⟩
  · exact hending "package" (by decide) h
  · obtain ⟨tail, htail, hread⟩ := exists_of_read_text_eq_some h
    exact ⟨_, tail, htail, .inr rfl, hread⟩

theorem isSome_read_preambleStart (hopens : Opens word tail)
    (hnext : (next ⟨word.toList.reverse ++ before, tail, kept⟩).isSome = true) :
    (preambleStart.read next ⟨before, word.toList ++ tail, kept⟩).isSome = true := by
  simp only [preambleStart, isSome_read_alt, Bool.or_eq_true]
  rcases hopens with ⟨hmem, hend⟩ | rfl
  · have hread := isSome_read_ending (getLast?_of_mem_openingWords word hmem) hend hnext
    simp only [openingWords, List.mem_cons, List.not_mem_nil, or_false] at hmem
    rcases hmem with rfl | rfl | rfl | rfl
    · exact .inl hread
    · exact .inr (.inr (.inl hread))
    · exact .inr (.inr (.inr (.inl hread)))
    · exact .inr (.inr (.inr (.inr (.inl hread))))
  · exact .inr (.inr (.inr (.inr (.inr (isSome_read_text.mpr ⟨tail, rfl, hnext⟩)))))

/-! ## Reading the line -/

/-- What a line starts with is seen on the line alone. -/
theorem startsWord_of_append (hword : '\n' ∉ word.toList)
    (hrest : rest.head?.all (· = '\n') = true) (h : startsWord word (text ++ rest) = true) :
    startsWord word text = true := by
  obtain ⟨tail, hcut, hend⟩ := startsWord_iff.mp h
  obtain ⟨tail, rfl, rfl⟩ :=
    Cue.exists_of_append_eq hrest (fun c hc heq => hword (heq ▸ hc)) hcut
  exact startsWord_iff.mpr ⟨tail, rfl, head?_of_append hend⟩

theorem Opens.of_append (h : Opens word (tail ++ rest)) : Opens word tail :=
  h.imp_left fun ⟨hmem, hend⟩ => ⟨hmem, head?_of_append hend⟩

theorem Opens.append (h : Opens word tail) (hrest : rest.head?.all (· = '\n') = true) :
    Opens word (tail ++ rest) := by
  refine h.imp_left fun ⟨hmem, hend⟩ => ⟨hmem, ?_⟩
  cases tail with
  | nil => exact head?_of_lineFeed (by decide) hrest
  | cons c tail => exact hend

/-- What stands behind the margin of a line. -/
theorem dropWhile_margin {run chars : List Char} (hrun : ∀ c ∈ run, isMargin c = true)
    (hchars : chars.head?.any (!isMargin ·) = true) (tail : List Char) :
    (chars ++ tail).head?.any isMargin = false ∧
      (run ++ (chars ++ tail)).dropWhile isMargin = chars ++ tail := by
  have hhead : (chars ++ tail).head?.any isMargin = false := by
    cases chars with
    | nil => simp at hchars
    | cons c more => simpa using hchars
  rw [List.dropWhile_append_of_pos hrun]
  exact ⟨hhead, dropWhile_of_head? hhead⟩

/-- Behind the opening, a line is read to its end. -/
theorem isSome_read_toEnd (htail : '\n' ∉ tail) (hrest : rest.head?.all (· = '\n') = true) :
    ((all [many isInline, lineBreak]).read some ⟨before, tail ++ rest, kept⟩).isSome = true := by
  have hinline : ∀ c ∈ tail, isInline c = true := fun c hc =>
    bne_iff_ne.mpr fun heq => htail (heq ▸ hc)
  have hmeets : (⟨tail.reverse ++ before, rest, kept⟩ : Spot).meets .lineEnd = true := hrest
  obtain ⟨spot, hspot⟩ :
      ∃ spot, lineBreak.read some ⟨tail.reverse ++ before, rest, kept⟩ = some spot := by
    refine Option.isSome_iff_exists.mp ?_
    rw [lineBreak, isSome_read_alt, read_edge _ hmeets, Bool.or_eq_true]
    exact .inr rfl
  exact Option.isSome_of_eq_some
    (read_many_of_eq_some hinline (head?_of_lineFeed (by decide) hrest) hspot)

/-- Only lines of a preamble are read, and each as a whole. -/
theorem isPreamble_of_read (hline : '\n' ∉ line) (hrest : rest.head?.all (· = '\n') = true)
    (hfrom : startsWord "from" (line.dropWhile isMargin) = false)
    (h : preambleLine.readAt? ⟨before, line ++ rest, []⟩ = some spot) :
    isPreamble line = true ∧ spot.rest = rest.tail := by
  rw [preambleLine_eq, readAt?] at h
  obtain ⟨hmeets, -⟩ := meets_of_read_edge (Option.isSome_of_eq_some h)
  rw [all_cons, read_seq, read_edge _ hmeets] at h
  obtain ⟨run, body, hcut, hrun, h⟩ := exists_of_read_many_eq_some h
  obtain ⟨text, rfl, rfl⟩ := Cue.exists_of_append_eq hrest
    (fun c hc heq => not_mem_of_margin hrun (heq ▸ hc)) hcut
  have hnot : startsWord "from" (text ++ rest) = false := by
    by_contra hstarts
    have hword : startsWord "from" text = true :=
      startsWord_of_append (by decide) hrest (by simpa using hstarts)
    obtain ⟨tail, rfl, -⟩ := startsWord_iff.mp hword
    rw [(dropWhile_margin hrun (by decide) tail).2, hword] at hfrom
    exact absurd hfrom (by decide)
  obtain ⟨word, tail, hword, hopens, h⟩ := exists_of_read_preambleStart hnot h
  obtain ⟨hfeed, hhead⟩ := hopens.spec
  obtain ⟨tail, rfl, rfl⟩ :=
    Cue.exists_of_append_eq hrest (fun c hc heq => hfeed (heq ▸ hc)) hword
  have htail : '\n' ∉ tail := fun hmem => hline (by simp [hmem])
  have htoEnd : (all ([many isInline] ++ [lineBreak])).read some ⟨_, tail ++ rest, _⟩ =
    some spot := h
  exact ⟨isPreamble_iff.mpr ⟨word, tail, (dropWhile_margin hrun hhead tail).2, hopens.of_append⟩,
    rest_of_read_lineBreak rfl htail hrest htoEnd⟩

/-- Every line of a preamble is read. -/
theorem isSome_readAt?_preambleLine (hline : '\n' ∉ line) (hpreamble : isPreamble line = true)
    (hbefore : before.head?.all (· = '\n') = true) (hrest : rest.head?.all (· = '\n') = true) :
    (preambleLine.readAt? ⟨before, line ++ rest, []⟩).isSome = true := by
  obtain ⟨word, tail, hword, hopens⟩ := isPreamble_iff.mp hpreamble
  obtain ⟨-, hhead⟩ := hopens.spec
  have hcut : line = line.takeWhile isMargin ++ (word.toList ++ tail) := by
    rw [← hword, List.takeWhile_append_dropWhile]
  have hrun : ∀ c ∈ line.takeWhile isMargin, isMargin c = true :=
    List.all_eq_true.mp List.all_takeWhile
  have htail : '\n' ∉ tail := fun hmem => hline (by rw [hcut]; simp [hmem])
  have hbody : (word.toList ++ (tail ++ rest)).head?.any isMargin = false :=
    (dropWhile_margin hrun hhead _).1
  have hstart : (preambleStart.read ((all [many isInline, lineBreak]).read some)
      ⟨(line.takeWhile isMargin).reverse ++ before, word.toList ++ (tail ++ rest), []⟩).isSome =
        true := isSome_read_preambleStart (hopens.append hrest) (isSome_read_toEnd htail hrest)
  obtain ⟨spot, hspot⟩ := Option.isSome_iff_exists.mp hstart
  have hread : preambleLine.readAt?
      ⟨before, line.takeWhile isMargin ++ (word.toList ++ (tail ++ rest)), []⟩ = some spot := by
    rw [preambleLine_eq, readAt?, read_lineStart hbefore]
    exact read_many_of_eq_some hrun hbody hspot
  rw [hcut, List.append_assoc, List.append_assoc, hread]
  rfl

theorem sifts_preambleLine (hline : '\n' ∉ line)
    (hfrom : startsWord "from" (line.dropWhile isMargin) = false) :
    preambleLine.Sifts isPreamble line where
  reads hpreamble before rest hbefore hrest := by
    obtain ⟨spot, hspot⟩ := Option.isSome_iff_exists.mp
      (isSome_readAt?_preambleLine hline hpreamble hbefore hrest)
    exact ⟨spot, hspot, (isPreamble_of_read hline hrest hfrom hspot).2⟩
  refuses hpreamble before rest _ hrest := by
    by_contra hread
    obtain ⟨spot, hspot⟩ := Option.ne_none_iff_exists'.mp hread
    have hgoes := (isPreamble_of_read hline hrest hfrom hspot).1
    rw [hpreamble] at hgoes
    exact absurd hgoes (by decide)

end Idiom

namespace Template

open Idiom

/-- **The lines of a preamble are filtered out**, and the lines that are left are joined and
trimmed, in a text in which no line starts with the word `from`. -/
theorem stripPreamble_eq_trim_filter {text : List Char}
    (hfrom : ∀ line ∈ lines text, startsWord "from" (line.dropWhile isMargin) = false) :
    stripPreamble text = trim (joinLines ((lines text).filter (!isPreamble ·))) := by
  have hsifts : ∀ line ∈ lines text, preambleLine.Sifts isPreamble line := fun line hline =>
    sifts_preambleLine (not_mem_of_mem_lines hline) (hfrom line hline)
  have hdrop : preambleLine.replaceAll (fun _ => []) text = dropLines isPreamble (lines text) :=
    replaceAll_eq_dropLines startsLine_edge_seq preambleLine_shuns (fun _ => rfl) hsifts
  rw [stripPreamble, hdrop, trim_dropLines (lines_ne_nil text)]

/-- A preamble that goes on at the end, a name that only begins like an import, and a carriage
return that ends no line. -/
theorem stripPreamble_eq_trim_filter_ends :
    let text := "\t#include <a>\nimporter();\r\n using x\n\n<?php\npackage".toList
    (∀ line ∈ lines text, startsWord "from" (line.dropWhile isMargin) = false) ∧
      String.ofList (stripPreamble text) = "importer();" := by
  intro text
  have hfrom : ∀ line ∈ lines text, startsWord "from" (line.dropWhile isMargin) = false := by
    decide
  refine ⟨hfrom, ?_⟩
  rw [stripPreamble_eq_trim_filter hfrom]
  decide

end Template

end Recast
