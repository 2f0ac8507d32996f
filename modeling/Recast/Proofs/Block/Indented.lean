import Mathlib.Data.List.TakeWhile
import Recast.Chain.Catalog
import Recast.Proofs.Block.EndWord
import Recast.Proofs.Block.Settled
import Recast.Proofs.Text.Indentation
import Recast.Template.Basic

/-!
# Proofs/Block/Indented — closing a body inside or outside its function

A body is indented when a function is put around it, and its blocks can be closed before or after:
the text is the same (`closeText_stack_indentLines`). Two things have to be seen for that.

A closer **shifts** with the lines if it tells headers and continuations by what stands behind the
indentation. Then all widths on the stack grow alike, and only the end of the text, which is no
deeper than any block, stays where it is (`Shifts.closeStack_map`).

And the lines around a body **enclose** it if they open their blocks to the left of it and go on no
deeper than it stands. Then the blocks of the body lie on the stack above those of the function, and
below the body these are all that is left (`Encloses.closeStack_append`).
-/

namespace Recast

open Text

namespace Closer

/-- The line behind `width` spaces, a blank line as it is. -/
def indentLine (width : Nat) (line : List Char) : List Char :=
  if isBlankLine line then line else List.replicate width ' ' ++ line

/-- **The closer does not see how deep a line stands.** -/
structure Shifts (closer : Closer) : Prop where
  not_mem : '\n' ∉ closer.token.toList
  ink : isBlankLine closer.token.toList = false
  opens : ∀ (width : Nat) {line}, isBlankLine line = false →
    closer.opens (List.replicate width ' ' ++ line) = closer.opens line
  continues : ∀ (width : Nat) (line : List Char),
    closer.continues (List.replicate width ' ' ++ line) = closer.continues line

/-! ## Indented lines -/

section Lines

variable {width : Nat} {line : List Char}

/-- A line with ink is indented. -/
theorem indentLine_of_ink (hink : isBlankLine line = false) :
    indentLine width line = List.replicate width ' ' ++ line := if_neg (by simp [hink])

theorem isBlankLine_spaces_append (width : Nat) (line : List Char) :
    isBlankLine (List.replicate width ' ' ++ line) = isBlankLine line := by
  rw [isBlankLine, List.all_append, List.all_eq_true.mpr isBlank_of_mem_spaces, Bool.true_and]
  rfl

/-- Indenting makes no line blank, and fills none. -/
theorem isBlankLine_indentLine (width : Nat) (line : List Char) :
    isBlankLine (indentLine width line) = isBlankLine line :=
  isBlankLine_indentBy (List.replicate width ' ') line

/-- A line that is indented is wider by as much. -/
theorem indentWidth_spaces_append (width : Nat) (line : List Char) :
    indentWidth (List.replicate width ' ' ++ line) = width + indentWidth line := by
  rw [indentWidth, List.takeWhile_append_of_pos isBlank_of_mem_spaces, List.length_append,
    List.length_replicate]
  rfl

theorem trimStart_spaces_append (width : Nat) (line : List Char) :
    trimStart (List.replicate width ' ' ++ line) = trimStart line :=
  List.dropWhile_append_of_pos isBlank_of_mem_spaces

theorem trimEnd_spaces_append (width : Nat) (hink : isBlankLine line = false) :
    trimEnd (List.replicate width ' ' ++ line) = List.replicate width ' ' ++ trimEnd line := by
  have hne : line.reverse.dropWhile isBlank ≠ [] := by
    intro hnil
    have hall := List.all_eq_true.mpr (List.dropWhile_eq_nil_iff.mp hnil)
    rw [List.all_reverse] at hall
    exact absurd (hink.symm.trans hall) (by decide)
  rw [trimEnd, List.reverse_append, List.dropWhile_append,
    if_neg (by simpa only [List.isEmpty_iff] using hne), List.reverse_append, List.reverse_reverse]
  rfl

/-- The first line with ink stays the first. -/
theorem nextInk?_map (width : Nat) (ls : List (List Char)) :
    nextInk? (ls.map (indentLine width)) = (nextInk? ls).map (List.replicate width ' ' ++ ·) := by
  induction ls with
  | nil => rfl
  | cons line ls ih =>
    cases hblank : isBlankLine line with
    | true =>
      rw [List.map_cons, nextInk?_of_blank (by rw [isBlankLine_indentLine, hblank]),
        nextInk?_of_blank hblank, ih]
    | false =>
      rw [List.map_cons, nextInk?_of_ink (by rw [isBlankLine_indentLine, hblank]),
        nextInk?_of_ink hblank, indentLine_of_ink hblank]
      rfl

/-- A text is indented line by line. -/
theorem lines_indentLines_spaces (width : Nat) (text : List Char) :
    lines (indentLines (List.replicate width ' ') text) = (lines text).map (indentLine width) :=
  lines_indentLines (by simp) text

end Lines

/-! ## The stack, shifted -/

section Stack

variable {closer : Closer} {opened : List Nat} {ls : List (List Char)}

/-- The open blocks behind a line with ink. -/
def openedBy (closer : Closer) (opened : List Nat) (line : List Char) : List Nat :=
  if closer.opens line then indentWidth line :: opened else opened

theorem closeStack_cons_of_ink {line : List Char} (hink : isBlankLine line = false) :
    closer.closeStack opened (line :: ls) =
      line :: closer.closeBehind (closer.openedBy opened line) ls := closeStack_of_ink hink

/-- The text goes on nowhere: all blocks end. -/
theorem closings_end (closer : Closer) (opened : List Nat) :
    closer.closings opened 0 false = opened.map closer.line := by
  have htake : opened.takeWhile (0 ≤ ·) = opened := List.takeWhile_eq_self_iff.mpr (by simp)
  rw [closings, htake, List.filter_eq_self.mpr (by simp)]

theorem stillOpen_end (opened : List Nat) : stillOpen opened 0 = [] :=
  List.dropWhile_eq_nil_iff.mpr (by simp)

/-- With nothing but blank lines to come, all that is open is closed. -/
theorem closeBehind_of_blank (hblank : nextInk? ls = none) :
    closer.closeBehind opened ls = opened.map closer.line ++ closer.closeStack [] ls := by
  rw [closeBehind, hblank, ← closings_end, ← stillOpen_end opened]
  rfl

/-- With a line to come, what is open is closed as its width says. -/
theorem closeBehind_of_nextInk? {next : List Char} (hnext : nextInk? ls = some next) :
    closer.closeBehind opened ls =
      closer.closings opened (indentWidth next) (closer.continues next) ++
        closer.closeStack (stillOpen opened (indentWidth next)) ls := by
  rw [closeBehind, hnext]
  rfl

/-- **What stays open** does not change when all widths grow by the same. -/
theorem stillOpen_map_add (width next : Nat) (opened : List Nat) :
    stillOpen (opened.map (width + ·)) (width + next) =
      (stillOpen opened next).map (width + ·) := by
  rw [stillOpen, stillOpen, List.dropWhile_map]
  simp [Function.comp_def]

namespace Shifts

variable (h : closer.Shifts)

include h

/-- A closing token is indented like a line. -/
theorem indentLine_line (width w : Nat) :
    indentLine width (closer.line w) = closer.line (width + w) := by
  have hink : isBlankLine (closer.line w) = false := by
    rw [line, isBlankLine_spaces_append, h.ink]
  rw [indentLine_of_ink hink, line, line, List.replicate_add, List.append_assoc]

theorem map_line (width : Nat) (opened : List Nat) :
    (opened.map (width + ·)).map closer.line =
      (opened.map closer.line).map (indentLine width) := by
  simp only [List.map_map]
  exact List.map_congr_left fun w _ => (h.indentLine_line width w).symm

/-- The tokens that close a block are indented with it. -/
theorem closings_map (width next : Nat) (continued : Bool) (opened : List Nat) :
    closer.closings (opened.map (width + ·)) (width + next) continued =
      (closer.closings opened next continued).map (indentLine width) := by
  have hle : ((width + next ≤ ·) : Nat → Bool) ∘ (width + ·) = (next ≤ ·) :=
    funext fun w => by simp
  have hskip : (fun w => !(w == width + next && continued)) ∘ (width + ·) =
      fun w => !(w == next && continued) := funext fun w => by simp [Bool.beq_eq_decide_eq]
  rw [closings, closings, ← h.map_line, List.takeWhile_map, hle, List.filter_map, hskip]

/-- A line opens a block inside the same blocks as before. -/
theorem openedBy_map {width : Nat} {line : List Char} (hink : isBlankLine line = false) :
    closer.openedBy (opened.map (width + ·)) (indentLine width line) =
      (closer.openedBy opened line).map (width + ·) := by
  rw [openedBy, openedBy, indentLine_of_ink hink, h.opens width hink, indentWidth_spaces_append]
  split <;> rfl

/-- **Behind a line the same tokens are written, shifted,** if the rest is. -/
theorem closeBehind_map (width : Nat)
    (hrest : ∀ opened, closer.closeStack (opened.map (width + ·)) (ls.map (indentLine width)) =
      (closer.closeStack opened ls).map (indentLine width)) (opened : List Nat) :
    closer.closeBehind (opened.map (width + ·)) (ls.map (indentLine width)) =
      (closer.closeBehind opened ls).map (indentLine width) := by
  cases hnext : nextInk? ls with
  | none =>
    rw [closeBehind_of_blank (by rw [nextInk?_map, hnext]; rfl), closeBehind_of_blank hnext,
      List.map_append, h.map_line, ← hrest]
    rfl
  | some next =>
    rw [closeBehind_of_nextInk? (by rw [nextInk?_map, hnext]; rfl),
      closeBehind_of_nextInk? hnext, indentWidth_spaces_append, h.continues, List.map_append,
      h.closings_map, stillOpen_map_add, hrest]

/-- **Indented lines get the same tokens, indented.** -/
theorem closeStack_map (width : Nat) (opened : List Nat) (ls : List (List Char)) :
    closer.closeStack (opened.map (width + ·)) (ls.map (indentLine width)) =
      (closer.closeStack opened ls).map (indentLine width) := by
  induction ls generalizing opened with
  | nil => rfl
  | cons line ls ih =>
    cases hblank : isBlankLine line with
    | true =>
      rw [List.map_cons, closeStack_of_blank (by rw [isBlankLine_indentLine, hblank]),
        closeStack_of_blank hblank, ih, List.map_cons]
    | false =>
      rw [List.map_cons, closeStack_cons_of_ink (by rw [isBlankLine_indentLine, hblank]),
        h.openedBy_map hblank, h.closeBehind_map width ih, closeStack_cons_of_ink hblank,
        List.map_cons]

/-- **Closing indented lines** is indenting closed ones. -/
theorem closeText_indentLines (width : Nat) (text : List Char) :
    closer.closeText .stack (indentLines (List.replicate width ' ') text) =
      indentLines (List.replicate width ' ') (closer.closeText .stack text) := by
  rw [closeText, lines_indentLines_spaces, indentLines, lines_closeText h.not_mem]
  exact congrArg joinLines (h.closeStack_map width [] (lines text))

end Shifts

end Stack

/-! ## The closers of the chains -/

theorem opens_brace_spaces_append (width : Nat) {line : List Char}
    (hink : isBlankLine line = false) :
    brace.opens (List.replicate width ' ' ++ line) = brace.opens line := by
  have hopens : ∀ text, brace.opens text = endsWith (trimEnd text) ['{'] := fun _ => rfl
  have hspace : (List.replicate width ' ').getLast? ≠ some '{' := fun hlast =>
    absurd (List.eq_of_mem_replicate (List.mem_of_getLast? hlast)) (by decide)
  rw [hopens, hopens, trimEnd_spaces_append width hink, Bool.eq_iff_iff, endsWith_singleton,
    endsWith_singleton, List.getLast?_append, Option.or_eq_some_iff]
  simp [hspace]

theorem shifts_brace : brace.Shifts where
  not_mem := by decide
  ink := by decide
  opens width _ hink := opens_brace_spaces_append width hink
  continues width line := by
    have hcontinues : ∀ text, brace.continues text = startsWith (trimStart text) ['}'] :=
      fun _ => rfl
    rw [hcontinues, hcontinues, trimStart_spaces_append]

/-- A word at the start of a line is found behind more spaces. -/
theorem starts_leadingWord_spaces_append {ws : List String}
    (hws : ws.all (fun w => (Cue.word w.toList).isPlain) = true) (width : Nat) (line : List Char) :
    (leadingWord ws).starts (List.replicate width ' ' ++ line) = (leadingWord ws).starts line := by
  rw [starts_leadingWord hws, starts_leadingWord hws, trimStart_spaces_append]

/-- Of what stands before `do` only the end of a word matters. -/
theorem isSome_readAt?_trailingDo_congr {before before' rest : List Char}
    (h : before.head?.any isWord = before'.head?.any isWord) :
    (trailingDo.readAt? ⟨before, rest, []⟩).isSome =
      (trailingDo.readAt? ⟨before', rest, []⟩).isSome := by
  have hmeets : Spot.meets ⟨before, rest, []⟩ .word = Spot.meets ⟨before', rest, []⟩ .word := by
    simp only [Spot.meets, Spot.atWordEdge, h]
  rw [Pattern.readAt?, Pattern.readAt?, trailingDo, Pattern.all_cons, Pattern.read_seq,
    Pattern.read_edge_eq, Pattern.read_seq, Pattern.read_edge_eq, hmeets]
  split
  · exact Pattern.forward_read rfl (fun _ _ _ _ => rfl) before before' rest []
  · rfl

theorem occursIn_trailingDo_spaces_append (width : Nat) (line : List Char) :
    trailingDo.occursIn (List.replicate width ' ' ++ line) = trailingDo.occursIn line := by
  have hsame : ∀ a b : List Char,
      (trailingDo.readAt? ⟨(List.replicate width ' ' ++ a).reverse, b, []⟩).isSome =
        (trailingDo.readAt? ⟨a.reverse, b, []⟩).isSome := by
    intro a b
    refine isSome_readAt?_trailingDo_congr ?_
    rw [List.reverse_append, List.reverse_replicate]
    cases a.reverse with
    | nil => cases width <;> rfl
    | cons c a => rfl
  have hshuns : trailingDo.Shuns isBlank :=
    Pattern.Shuns.edge_seq (Pattern.shuns_text (by decide)).seq
  rw [Bool.eq_iff_iff, Pattern.occursIn_iff, Pattern.occursIn_iff]
  constructor
  · rintro ⟨a, b, hab, hread⟩
    rcases List.append_eq_append_iff.mp hab with ⟨a, rfl, hline⟩ | ⟨spaces, hspaces, rfl⟩
    · exact ⟨a, b, hline, by rwa [hsame] at hread⟩
    · cases spaces with
      | nil =>
        refine ⟨[], line, rfl, ?_⟩
        rw [← hsame]
        simpa [hspaces] using hread
      | cons c spaces =>
        -- `do` cannot stand in the indentation
        have hmem : c ∈ List.replicate width ' ' := by simp [hspaces]
        have hc : isBlank c = true := isBlank_of_mem_spaces c hmem
        rw [Pattern.readAt?, List.cons_append, hshuns some c hc] at hread
        exact absurd hread (by simp)
  · rintro ⟨a, b, rfl, hread⟩
    exact ⟨List.replicate width ' ' ++ a, b, by simp, by rwa [hsame]⟩

theorem shifts_endWord : endWord.Shifts where
  not_mem := by decide
  ink := by decide
  opens width line _ := by
    have hopens : ∀ text, endWord.opens text =
        ((leadingWord headerWords).starts text || trailingDo.occursIn text) := fun text => by
      rw [← occursIn_leadingWord, ← Pattern.occursIn_alt]
      rfl
    rw [hopens, hopens, starts_leadingWord_spaces_append (by decide),
      occursIn_trailingDo_spaces_append]
  continues width line := starts_leadingWord_spaces_append (by decide) width line

/-! ## Lines around a body -/

section Around

variable {closer : Closer} {opened outer : List Nat} {ls above below : List (List Char)}
  {width : Nat}

/-- The open blocks behind some lines that let none end. -/
def openedOver (closer : Closer) : (opened : List Nat) → List (List Char) → List Nat
  | opened, [] => opened
  | opened, line :: ls =>
    if isBlankLine line then openedOver closer opened ls
    else openedOver closer (closer.openedBy opened line) ls

/-- Each of the lines stands in all the blocks that are opened before it. -/
def deepens (closer : Closer) : (opened : List Nat) → List (List Char) → Bool
  | _, [] => true
  | opened, line :: ls =>
    if isBlankLine line then deepens closer opened ls
    else opened.all (· < indentWidth line) && deepens closer (closer.openedBy opened line) ls

/-- The width at which the lines go on, 0 where there is no ink. -/
def startWidth (ls : List (List Char)) : Nat := ((nextInk? ls).map indentWidth).getD 0

/-- **The lines may follow a body** that is at least `width` wide indented: they go on no deeper
than it, continue no block of it, and end no block outside with a token. -/
structure StandsBehind (closer : Closer) (outer : List Nat) (below : List (List Char))
    (width : Nat) : Prop where
  startWidth_le : startWidth below ≤ width
  uncontinued : startWidth below = width → (nextInk? below).any closer.continues = false
  unended : closer.closings outer (startWidth below) ((nextInk? below).any closer.continues) = []

/-- **The lines above and below leave a body to itself** if it is at least `width` wide indented:
those above open their blocks further to the left, and those below are closed already. -/
structure Encloses (closer : Closer) (above below : List (List Char)) (width : Nat) : Prop where
  ink : above.getLast?.any (!isBlankLine ·) = true
  deepens : closer.deepens [] above = true
  outside : ∀ w ∈ closer.openedOver [] above, w < width
  behind : closer.StandsBehind (closer.openedOver [] above) below width
  settled : closer.closeStack (stillOpen (closer.openedOver [] above) (startWidth below)) below =
    below

instance (closer : Closer) (outer : List Nat) (below : List (List Char)) (width : Nat) :
    Decidable (closer.StandsBehind outer below width) :=
  decidable_of_iff (_ ∧ _ ∧ _) ⟨fun ⟨h₁, h₂, h₃⟩ => ⟨h₁, h₂, h₃⟩, fun h => ⟨h.1, h.2, h.3⟩⟩

instance (closer : Closer) (above below : List (List Char)) (width : Nat) :
    Decidable (closer.Encloses above below width) :=
  decidable_of_iff (_ ∧ _ ∧ _ ∧ _ ∧ _) ⟨fun ⟨h₁, h₂, h₃, h₄, h₅⟩ => ⟨h₁, h₂, h₃, h₄, h₅⟩,
    fun h => ⟨h.1, h.2, h.3, h.4, h.5⟩⟩

/-! ### Blocks outside -/

theorem takeWhile_append_of_neg {p : Nat → Bool} {ws : List Nat} (h : ∀ w ∈ ws, p w = false)
    (vs : List Nat) : (vs ++ ws).takeWhile p = vs.takeWhile p := by
  induction vs with
  | nil =>
    cases ws with
    | nil => rfl
    | cons w ws => exact List.takeWhile_cons_of_neg (by simp [h w])
  | cons v vs ih => rw [List.cons_append, List.takeWhile_cons, List.takeWhile_cons, ih]

theorem dropWhile_append_of_neg {p : Nat → Bool} {ws : List Nat} (h : ∀ w ∈ ws, p w = false)
    (vs : List Nat) : (vs ++ ws).dropWhile p = vs.dropWhile p ++ ws := by
  induction vs with
  | nil =>
    cases ws with
    | nil => rfl
    | cons w ws => exact List.dropWhile_cons_of_neg (by simp [h w])
  | cons v vs ih =>
    rw [List.cons_append, List.dropWhile_cons, List.dropWhile_cons, ih]
    split <;> rfl

/-- Where the text goes on inside a block, the block is not looked at. -/
theorem closings_append_of_lt (houter : ∀ w ∈ outer, w < width) (opened : List Nat)
    (continued : Bool) :
    closer.closings (opened ++ outer) width continued = closer.closings opened width continued := by
  rw [closings, closings, takeWhile_append_of_neg fun w hw => by simpa using houter w hw]

/-- Blocks that are less deep stay open. -/
theorem stillOpen_append_of_lt (houter : ∀ w ∈ outer, w < width) (opened : List Nat) :
    stillOpen (opened ++ outer) width = stillOpen opened width ++ outer :=
  dropWhile_append_of_neg (fun w hw => by simpa using houter w hw) opened

/-- Where it goes on no deeper than some blocks, these end before the ones around them. -/
theorem closings_append_of_le {continued : Bool} (hopened : ∀ w ∈ opened, width ≤ w)
    (hnot : ∀ w ∈ opened, w = width → continued = false) (outer : List Nat) :
    closer.closings (opened ++ outer) width continued =
      opened.map closer.line ++ closer.closings outer width continued := by
  have hends : ∀ w ∈ opened, (!(w == width && continued)) = true := fun w hw => by
    simpa [imp_iff_not_or] using hnot w hw
  rw [closings, closings, List.takeWhile_append_of_pos (by simpa using hopened),
    List.filter_append, List.filter_eq_self.mpr hends, List.map_append]

/-- Where all inner blocks end, the outer ones decide what stays open. -/
theorem stillOpen_append_of_le (hopened : ∀ w ∈ opened, width ≤ w) (outer : List Nat) :
    stillOpen (opened ++ outer) width = stillOpen outer width :=
  List.dropWhile_append_of_pos fun w hw => by simpa using hopened w hw

/-! ### The lines above -/

/-- The first line with ink is deeper than what is open. -/
theorem lt_of_deepens : ∀ {ls : List (List Char)}, closer.deepens opened ls = true →
    ∀ next ∈ nextInk? ls, ∀ w ∈ opened, w < indentWidth next
  | [], _, _, hnext, _, _ => by cases hnext
  | line :: ls, hdeepens, next, hnext, w, hw => by
      rw [deepens] at hdeepens
      cases hblank : isBlankLine line with
      | true =>
        rw [if_pos hblank] at hdeepens
        rw [nextInk?_of_blank hblank] at hnext
        exact lt_of_deepens hdeepens next hnext w hw
      | false =>
        rw [if_neg (by simp [hblank]), Bool.and_eq_true] at hdeepens
        rw [nextInk?_of_ink hblank] at hnext
        obtain rfl := Option.some.inj hnext
        simpa using List.all_eq_true.mp hdeepens.1 w hw

theorem nextInk?_append (ls more : List (List Char)) :
    nextInk? (ls ++ more) = (nextInk? ls).or (nextInk? more) := List.find?_append

/-- Lines whose last one has ink have a first one with ink. -/
theorem exists_nextInk? (hink : ls.getLast?.any (!isBlankLine ·) = true) :
    ∃ next, nextInk? ls = some next := by
  obtain ⟨last, hlast, hink⟩ := Option.any_eq_true _ _ |>.mp hink
  exact Option.isSome_iff_exists.mp
    (List.find?_isSome.mpr ⟨last, List.mem_of_getLast? hlast, hink⟩)

/-- Inside the open blocks none of them ends. -/
theorem closeBehind_of_lt {next : List Char} (hnext : nextInk? ls = some next)
    (hlt : ∀ w ∈ opened, w < indentWidth next) :
    closer.closeBehind opened ls = closer.closeStack opened ls := by
  have hclosings : closer.closings ([] ++ opened) _ _ = closer.closings [] _ _ :=
    closings_append_of_lt hlt [] (closer.continues next)
  have hstill := stillOpen_append_of_lt hlt []
  rw [List.nil_append] at hclosings hstill
  rw [closeBehind_of_nextInk? hnext, hclosings, hstill]
  rfl

/-- **Lines that deepen only open blocks.** -/
theorem closeStack_append_of_deepens (hink : above.getLast?.any (!isBlankLine ·) = true)
    (hdeepens : closer.deepens opened above = true) (ls : List (List Char)) :
    closer.closeStack opened (above ++ ls) =
      above ++ closer.closeBehind (closer.openedOver opened above) ls := by
  induction above generalizing opened with
  | nil => exact absurd hink (by simp)
  | cons line above ih =>
    rw [deepens] at hdeepens
    rw [List.cons_append, openedOver]
    cases hblank : isBlankLine line with
    | true =>
      rw [if_pos hblank] at hdeepens
      cases above with
      | nil => simp [hblank] at hink
      | cons line' above =>
        rw [List.getLast?_cons_cons] at hink
        rw [closeStack_of_blank hblank, ih hink hdeepens, if_pos rfl]
        rfl
    | false =>
      rw [if_neg (by simp [hblank]), Bool.and_eq_true] at hdeepens
      rw [closeStack_cons_of_ink hblank, if_neg (by simp)]
      cases above with
      | nil => rfl
      | cons line' above =>
        rw [List.getLast?_cons_cons] at hink
        obtain ⟨next, hnext⟩ := exists_nextInk? hink
        have hnext' : nextInk? (line' :: above ++ ls) = some next := by
          rw [nextInk?_append, hnext, Option.some_or]
        rw [closeBehind_of_lt hnext' (lt_of_deepens hdeepens.2 next hnext), ih hink hdeepens.2]
        rfl

/-! ### The lines below -/

/-- Blank lines are passed over. -/
theorem closeStack_append_of_blank (hblank : nextInk? ls = none) (opened : List Nat)
    (more : List (List Char)) :
    closer.closeStack opened (ls ++ more) = ls ++ closer.closeStack opened more := by
  induction ls with
  | nil => rfl
  | cons line ls ih =>
    cases hline : isBlankLine line with
    | true =>
      rw [nextInk?_of_blank hline] at hblank
      rw [List.cons_append, closeStack_of_blank hline, ih hblank, List.cons_append]
    | false => simp [nextInk?_of_ink hline] at hblank

section StandsBehind

variable (houter : ∀ w ∈ outer, w < width) (hbehind : closer.StandsBehind outer below width)

include houter hbehind

/-- **Behind a line of a body** its blocks end before those outside, if behind the rest they do. -/
theorem closeBehind_append_of (hdeep : ∀ next ∈ nextInk? ls, width ≤ indentWidth next)
    (hrest : ∀ opened : List Nat, (∀ w ∈ opened, width ≤ w) → nextInk? ls ≠ none →
      closer.closeStack (opened ++ outer) (ls ++ below) =
        closer.closeStack opened ls ++ closer.closeStack (stillOpen outer (startWidth below)) below)
    (hopened : ∀ w ∈ opened, width ≤ w) :
    closer.closeBehind (opened ++ outer) (ls ++ below) =
      closer.closeBehind opened ls ++
        closer.closeStack (stillOpen outer (startWidth below)) below := by
  cases hnext : nextInk? ls with
  | none =>
    have hends : ∀ w ∈ opened, startWidth below ≤ w :=
      fun w hw => hbehind.startWidth_le.trans (hopened w hw)
    have huncontinued : ∀ w ∈ opened, w = startWidth below →
        (nextInk? below).any closer.continues = false := fun w hw heq =>
      hbehind.uncontinued (Nat.le_antisymm hbehind.startWidth_le (heq ▸ hopened w hw))
    have hclose : closer.closeBehind (opened ++ outer) (ls ++ below) =
        closer.closings (opened ++ outer) (startWidth below)
            ((nextInk? below).any closer.continues) ++
          closer.closeStack (stillOpen (opened ++ outer) (startWidth below)) (ls ++ below) := by
      rw [closeBehind, nextInk?_append, hnext, Option.none_or]
      rfl
    have hls : closer.closeStack [] ls = ls := by
      have hblank : closer.closeStack [] (ls ++ []) = ls ++ closer.closeStack [] [] :=
        closeStack_append_of_blank hnext [] []
      rwa [List.append_nil, closeStack, List.append_nil] at hblank
    rw [hclose, closings_append_of_le hends huncontinued, hbehind.unended, List.append_nil,
      stillOpen_append_of_le hends, closeStack_append_of_blank hnext, closeBehind_of_blank hnext,
      hls, List.append_assoc]
  | some next =>
    have hlt : ∀ w ∈ outer, w < indentWidth next := fun w hw =>
      (houter w hw).trans_le (hdeep next hnext)
    have hstill : ∀ w ∈ stillOpen opened (indentWidth next), width ≤ w := fun w hw =>
      hopened w ((List.dropWhile_sublist _).subset hw)
    have hnext' : nextInk? (ls ++ below) = some next := by
      rw [nextInk?_append, hnext, Option.some_or]
    rw [closeBehind_of_nextInk? hnext', closings_append_of_lt hlt, stillOpen_append_of_lt hlt,
      hrest _ hstill (by simp [hnext]), closeBehind_of_nextInk? hnext, List.append_assoc]

/-- **Blocks inside others** are closed by themselves, and the outer ones behind them. -/
theorem closeStack_append : ∀ {ls : List (List Char)} {opened : List Nat},
    (∀ line ∈ ls, isBlankLine line = false → width ≤ indentWidth line) →
      (∀ w ∈ opened, width ≤ w) → nextInk? ls ≠ none →
        closer.closeStack (opened ++ outer) (ls ++ below) =
          closer.closeStack opened ls ++
            closer.closeStack (stillOpen outer (startWidth below)) below
  | [], _, _, _, hne => absurd rfl hne
  | line :: ls, opened, hdeep, hopened, hne => by
      have hdeep' : ∀ line ∈ ls, isBlankLine line = false → width ≤ indentWidth line :=
        fun line' hline' => hdeep line' (List.mem_cons_of_mem _ hline')
      cases hblank : isBlankLine line with
      | true =>
        rw [nextInk?_of_blank hblank] at hne
        rw [List.cons_append, closeStack_of_blank hblank, closeStack_of_blank hblank,
          closeStack_append hdeep' hopened hne, List.cons_append]
      | false =>
        have hopenedBy : closer.openedBy (opened ++ outer) line =
            closer.openedBy opened line ++ outer := by
          rw [openedBy, openedBy]
          split <;> rfl
        have hwide : ∀ w ∈ closer.openedBy opened line, width ≤ w := by
          intro w hw
          rw [openedBy] at hw
          split at hw
          · rcases List.mem_cons.mp hw with rfl | hw
            · exact hdeep line (by simp) hblank
            · exact hopened w hw
          · exact hopened w hw
        have hfirst : ∀ next ∈ nextInk? ls, width ≤ indentWidth next := fun next hnext =>
          hdeep' next (List.mem_of_find?_eq_some hnext) (by simpa using List.find?_some hnext)
        rw [List.cons_append, closeStack_cons_of_ink hblank, hopenedBy,
          closeBehind_append_of houter hbehind hfirst
            (fun _ hwide' hne' => closeStack_append hdeep' hwide' hne') hwide,
          closeStack_cons_of_ink hblank, List.cons_append]

end StandsBehind

/-- **The lines around a body keep out of it,** and its blocks end as they would without them. -/
theorem Encloses.closeStack_append (h : closer.Encloses above below width)
    (hdeep : ∀ line ∈ ls, isBlankLine line = false → width ≤ indentWidth line) :
    closer.closeStack [] (above ++ ls ++ below) = above ++ closer.closeStack [] ls ++ below := by
  have hfirst : ∀ next ∈ nextInk? ls, width ≤ indentWidth next := fun next hnext =>
    hdeep next (List.mem_of_find?_eq_some hnext) (by simpa using List.find?_some hnext)
  have hbody := closeBehind_append_of h.outside h.behind hfirst
    (fun _ hopened hne => Closer.closeStack_append h.outside h.behind hdeep hopened hne)
    (show ∀ w ∈ [], width ≤ w by simp)
  rw [List.nil_append] at hbody
  rw [List.append_assoc, closeStack_append_of_deepens h.ink h.deepens, hbody, h.settled,
    List.append_assoc]
  rfl

end Around

end Closer

/-! ## Bodies in functions -/

namespace Wrapper

open Closer

/-- The lines in front of a body, and those behind it. -/
def above (wrapper : Wrapper) : List (List Char) := lines wrapper.header.toList.dropLast

def below (wrapper : Wrapper) : List (List Char) := lines wrapper.footer.toList.tail

/-- **The wrapper leaves a body to itself:** the body has lines of its own, indented by spaces, and
the lines around it keep out of it. -/
structure Leaves (wrapper : Wrapper) (closer : Closer) : Prop where
  header : wrapper.header.toList.getLast? = some '\n'
  footer : wrapper.footer.toList.head? = some '\n'
  indent : wrapper.indent.toList = List.replicate wrapper.indent.toList.length ' '
  encloses : closer.Encloses wrapper.above wrapper.below wrapper.indent.toList.length

instance (wrapper : Wrapper) (closer : Closer) : Decidable (wrapper.Leaves closer) :=
  decidable_of_iff (_ ∧ _ ∧ _ ∧ _) ⟨fun ⟨h₁, h₂, h₃, h₄⟩ => ⟨h₁, h₂, h₃, h₄⟩,
    fun h => ⟨h.1, h.2, h.3, h.4⟩⟩

namespace Leaves

variable {wrapper : Wrapper} {closer : Closer} (h : wrapper.Leaves closer)

include h

/-- A wrapped text is its lines, indented between those of the wrapper. -/
theorem lines_wrap (body : List Char) : lines (wrapper.wrap body) =
    wrapper.above ++ (lines body).map (indentLine wrapper.indent.toList.length) ++
      wrapper.below := by
  have hheader : wrapper.header.toList = wrapper.header.toList.dropLast ++ ['\n'] :=
    (List.dropLast_append_getLast? _ h.header).symm
  have hfooter : wrapper.footer.toList = '\n' :: wrapper.footer.toList.tail :=
    (List.cons_head?_tail h.footer).symm
  have hwrap : wrapper.wrap body = wrapper.header.toList.dropLast ++ '\n' ::
      (indentLines (List.replicate wrapper.indent.toList.length ' ') body ++
        '\n' :: wrapper.footer.toList.tail) := by
    rw [wrap, indented_eq, ← h.indent]
    nth_rewrite 1 [hheader, hfooter]
    simp
  rw [hwrap, lines_append_lineFeed, lines_append_lineFeed, lines_indentLines_spaces,
    List.append_assoc]
  rfl

/-- **Closing a wrapped body** is wrapping a closed one. -/
theorem closeText_wrap (hshifts : closer.Shifts) (body : List Char) :
    closer.closeText .stack (wrapper.wrap body) =
      wrapper.wrap (closer.closeText .stack body) := by
  have hdeep : ∀ line ∈ (lines body).map (indentLine wrapper.indent.toList.length),
      isBlankLine line = false → wrapper.indent.toList.length ≤ indentWidth line := by
    intro line hline hink
    obtain ⟨line, -, rfl⟩ := List.mem_map.mp hline
    rw [isBlankLine_indentLine] at hink
    rw [indentLine_of_ink hink, indentWidth_spaces_append]
    exact Nat.le_add_right _ _
  have hstack := hshifts.closeStack_map wrapper.indent.toList.length [] (lines body)
  rw [← joinLines_lines (wrapper.wrap (closer.closeText .stack body)), h.lines_wrap,
    lines_closeText hshifts.not_mem, closeText, close, close, h.lines_wrap,
    h.encloses.closeStack_append hdeep, ← hstack]
  rfl

end Leaves

/-- Every entry point there is that indents its body. -/
def entryPoints : List Wrapper :=
  (Template.builtin.filterMap (·.entry) ++ Chain.catalog.filterMap (·.wrapper)).filter
    (·.indent != "")

/-- **Every entry point encloses its body** so that its blocks are closed by themselves. -/
theorem leaves_brace : ∀ wrapper ∈ entryPoints, wrapper.Leaves brace := by decide +kernel

/-- **Indenting and closing commute,** for every closer of the chains and however deep the lines are
indented, and so do closing a body and putting an entry point around it. -/
theorem closeText_stack_indentLines (width : Nat) (text : List Char) :
    (∀ closer ∈ [brace, endWord],
      closer.closeText .stack (indentLines (List.replicate width ' ') text) =
        indentLines (List.replicate width ' ') (closer.closeText .stack text)) ∧
    ∀ wrapper ∈ entryPoints, brace.closeText .stack (wrapper.wrap text) =
      wrapper.wrap (brace.closeText .stack text) := by
  refine ⟨fun closer hcloser => ?_, fun wrapper hwrapper => ?_⟩
  · rcases List.mem_pair.mp hcloser with rfl | rfl
    · exact shifts_brace.closeText_indentLines width text
    · exact shifts_endWord.closeText_indentLines width text
  · exact (leaves_brace wrapper hwrapper).closeText_wrap shifts_brace text

/-- A block that is open at the end of its body. -/
def openBody : List Char := "while (a) \x7b\n    b\n\nif (c) \x7b".toList

theorem closeText_stack_indentLines_main :
    brace ∈ [brace, endWord] ∧ Template.mainFunction "fun main()" "" ∈ entryPoints ∧
      brace.closeText .stack (indentLines (List.replicate 3 ' ') openBody) =
        indentLines (List.replicate 3 ' ') (brace.closeText .stack openBody) ∧
      brace.closeText .stack ((Template.mainFunction "fun main()" "").wrap openBody) =
        (Template.mainFunction "fun main()" "").wrap (brace.closeText .stack openBody) ∧
      brace.closeText .stack openBody ≠ openBody := by
  have hcloser : brace ∈ [brace, endWord] := List.mem_cons_self
  have hwrapper : Template.mainFunction "fun main()" "" ∈ entryPoints := by decide
  obtain ⟨hindented, hwrapped⟩ := closeText_stack_indentLines 3 openBody
  exact ⟨hcloser, hwrapper, hindented brace hcloser, hwrapped _ hwrapper, by decide⟩

/-- A comparison of one line with the next has no such law: the token at the end of the text stays
at its margin. -/
example : brace.closeText .lookahead (indentLines "  ".toList "a \x7b\n  b".toList) ≠
    indentLines "  ".toList (brace.closeText .lookahead "a \x7b\n  b".toList) := by
  decide

end Wrapper

end Recast
