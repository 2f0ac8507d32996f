import Recast.Proofs.Block.Nesting
import Recast.Proofs.Source.Missing

/-!
# Proofs/Block/Braces — lines of brace languages

The values of programs hold no braces, so the braces of a line are those of its stencil. From them
it is seen whether a language writes lines that the matcher for braces knows for what they are
(`suits_brace`).
-/

namespace Recast

open Text Source

/-! ## Braces -/

def isBrace (c : Char) : Bool := c == '{' || c == '}'

/-- The braces of a text, in order. -/
def braces (text : List Char) : List Char := text.filter isBrace

@[simp] theorem braces_append (first second : List Char) :
    braces (first ++ second) = braces first ++ braces second := List.filter_append ..

/-- The braces of a text are those that stand in it. -/
theorem mem_braces {c : Char} {text : List Char} (h : isBrace c = true) :
    c ∈ braces text ↔ c ∈ text := by
  simp [braces, h]

/-- What fills a blank has no braces. -/
theorem braces_of_tame {text : List Char} (h : Tame text) : braces text = [] := by
  refine List.filter_eq_nil_iff.mpr fun c hc hbrace => ?_
  have hvalue := h.valueChar c hc
  rcases Bool.or_eq_true_iff.mp hbrace with hbrace | hbrace <;>
  · rw [beq_iff_eq.mp hbrace] at hvalue
    exact absurd hvalue (by decide)

/-- Spaces are no braces. -/
theorem braces_spaces (width : Nat) : braces (List.replicate width ' ') = [] := by
  refine List.filter_eq_nil_iff.mpr fun c hc => ?_
  rw [List.eq_of_mem_replicate hc]
  decide

@[simp] theorem braces_indentation (depth : Nat) : braces (indentation depth) = [] :=
  braces_spaces (4 * depth)

namespace Stencil

/-- The braces of a stencil's texts. -/
def braces : Stencil → List Char
  | [] => []
  | .text chars :: rest => Recast.braces chars ++ braces rest
  | .blank _ :: rest => braces rest

/-- **The braces of a line are those of its stencil.** -/
theorem braces_fill (stencil : Stencil) {value : Nat → List Char} (htame : ∀ n, Tame (value n)) :
    Recast.braces (stencil.fill value) = stencil.braces := by
  induction stencil with
  | nil => rfl
  | cons part stencil ih =>
    cases part with
    | text chars => rw [fill_text, braces_append, ih, braces]
    | blank n => rw [fill_blank, braces_append, braces_of_tame (htame n), ih,
      List.nil_append, braces]

/-- Without braces a stencil does not end with one. -/
theorem endsWith_of_braces {stencil : Stencil} (h : stencil.braces = []) :
    stencil.endsWith '{' = false := by
  by_contra hends
  have hlast : (stencil.fill fun _ => []).getLast? = some '{' :=
    getLast?_fill_of_endsWith (by simpa using hends)
  have hbraces := braces_fill stencil fun _ => tame_nil
  rw [h] at hbraces
  have hmem := (mem_braces (c := '{') rfl).mpr (List.mem_of_getLast? hlast)
  simp [hbraces] at hmem

/-- The stencil starts with the character. -/
def startsWith (c : Char) : Stencil → Bool
  | .text (d :: _) :: _ => d == c
  | _ => false

/-- The first character of a stencil's lines. -/
theorem head?_fill_of_startsWith {stencil : Stencil} {c : Char} {value : Nat → List Char}
    (h : stencil.startsWith c = true) : (stencil.fill value).head? = some c := by
  match stencil with
  | .text (d :: chars) :: rest =>
    obtain rfl : d = c := by simpa [startsWith] using h
    rfl

end Stencil

/-! ## Shapes of brace languages -/

namespace Source

/-- A brace language may write the stencil for the shape. A header that is left as it is opens no
block. -/
def Shape.isBraced (shape : Shape) (stencil : Stencil) : Bool :=
  stencil.startsInk shape.kinds && stencil.isFree '\n' && match shape.role with
    | .step => stencil.braces == []
    | .header => stencil.braces == [] || stencil.braces == ['{'] && stencil.endsWith '{'
    | .branch => stencil.braces == ['{'] && stencil.endsWith '{'
    | .rest => stencil.braces == ['}', '{'] && stencil.endsWith '{' && stencil.startsWith '}'

/-- The brace language that has a stencil for each shape of lines. -/
def Style.braced (write : Shape → Stencil) : Style where
  write line := (write line.shape).fill (fillers line.values)
  close head := if (write head.shape).endsWith '{' then some ['}'] else none

end Source

/-! ## What the matcher sees -/

namespace Closer

/-- To end with a text of one character is to have that character last. -/
theorem endsWith_singleton {text : List Char} {c : Char} :
    endsWith text [c] = true ↔ text.getLast? = some c := by
  rw [endsWith, List.isSuffixOf_iff_suffix]
  constructor
  · rintro ⟨before, rfl⟩
    simp
  · intro h
    exact ⟨text.dropLast, List.dropLast_append_getLast? c h⟩

/-- Trimming adds nothing. -/
theorem mem_of_mem_trimEnd {text : List Char} {c : Char} (h : c ∈ trimEnd text) : c ∈ text := by
  rw [trimEnd, List.mem_reverse] at h
  exact List.mem_reverse.mp (List.dropWhile_sublist _ |>.subset h)

/-- A text that ends with ink has nothing to trim at its end. -/
theorem trimEnd_of_getLast? {text : List Char} {c : Char} (hlast : text.getLast? = some c)
    (hc : isBlank c = false) : trimEnd text = text := by
  rw [List.getLast?_eq_head?_reverse] at hlast
  rw [trimEnd]
  cases hr : text.reverse with
  | nil => simp [hr] at hlast
  | cons d more =>
    obtain rfl : d = c := by simpa [hr] using hlast
    rw [List.dropWhile_cons, if_neg (by simp [hc]), ← hr, List.reverse_reverse]

/-- Before blanks, the last character tells whether a line opens a block. -/
theorem opens_brace {text : List Char} {c : Char} (hlast : text.getLast? = some c)
    (hc : isBlank c = false) : brace.opens text = (c == '{') := by
  have hopens : brace.opens text = endsWith (trimEnd text) ['{'] := rfl
  rw [hopens, trimEnd_of_getLast? hlast hc, Bool.eq_iff_iff, endsWith_singleton, hlast]
  simp

/-- A line without an opening brace opens nothing. -/
theorem opens_brace_of_not_mem {text : List Char} (h : '{' ∉ text) : brace.opens text = false := by
  have hopens : brace.opens text = endsWith (trimEnd text) ['{'] := rfl
  rw [hopens, ← Bool.not_eq_true, endsWith_singleton]
  intro hlast
  exact h (mem_of_mem_trimEnd (List.mem_of_getLast? hlast))

/-- Behind the indentation, the first character tells whether a line continues a block. -/
theorem continues_brace {text : List Char} {c : Char} (depth : Nat) (hhead : text.head? = some c)
    (hc : isBlank c = false) : brace.continues (indentation depth ++ text) = (c == '}') := by
  have hcontinues : brace.continues (indentation depth ++ text) =
      startsWith (trimStart (indentation depth ++ text)) ['}'] := rfl
  have hspace : ∀ d ∈ indentation depth, isBlank d = true := forall_mem_indentation (by decide)
  cases text with
  | nil => simp at hhead
  | cons d more =>
    obtain rfl : d = c := by simpa using hhead
    rw [hcontinues, trimStart, List.dropWhile_append_of_pos hspace, List.dropWhile_cons,
      if_neg (by simp [hc]), startsWith]
    simp [List.isPrefixOf, eq_comm]

end Closer

/-! ## Styles -/

namespace Source

variable {style : Style} {write : Shape → Stencil}
  (hwrite : ∀ line, style.write line = (write line.shape).fill (fillers line.values))
  (hbraced : ∀ shape : Shape, shape.isBraced (write shape) = true)

include hwrite

/-- The lines of a style have the braces of their stencils. -/
theorem braces_write (line : Line) : braces (style.write line) = (write line.shape).braces := by
  rw [hwrite]
  exact Stencil.braces_fill _ (tame_fillers line.fits)

/-- A line that ends with an opening brace opens a block. -/
theorem opens_of_endsWith {line : Line} (h : (write line.shape).endsWith '{' = true) (depth : Nat) :
    Closer.brace.opens (indentation depth ++ style.write line) = true := by
  have hlast : (indentation depth ++ style.write line).getLast? = some '{' := by
    rw [hwrite, List.getLast?_append, Stencil.getLast?_fill_of_endsWith h]
    rfl
  exact Closer.opens_brace hlast (by decide)

/-- A line without braces opens none. -/
theorem opens_of_braces {line : Line} (h : (write line.shape).braces = []) (depth : Nat) :
    Closer.brace.opens (indentation depth ++ style.write line) = false := by
  refine Closer.opens_brace_of_not_mem fun hmem => ?_
  have hline : braces (indentation depth ++ style.write line) = [] := by
    rw [braces_append, braces_indentation, braces_write hwrite, h]
    rfl
  have hbrace := (mem_braces (c := '{') rfl).mpr hmem
  simp [hline] at hbrace

/-- A line that starts with a closing brace goes on with the block before it. -/
theorem continues_of_startsWith {line : Line} (h : (write line.shape).startsWith '}' = true)
    (depth : Nat) : Closer.brace.continues (indentation depth ++ style.write line) = true := by
  have hhead : (style.write line).head? = some '}' := by
    rw [hwrite]
    exact Stencil.head?_fill_of_startsWith h
  rw [Closer.continues_brace depth hhead (by decide)]
  rfl

include hbraced

/-- Lines start with ink, behind their indentation. -/
theorem exists_write_eq (line : Line) :
    ∃ c more, style.write line = c :: more ∧ isBlank c = false := by
  have hink := (Bool.and_eq_true_iff.mp (Bool.and_eq_true_iff.mp (hbraced line.shape)).1).1
  rw [hwrite]
  exact Stencil.exists_fill_of_startsInk line.fits hink

/-- Each line is one line. -/
theorem not_mem_write (line : Line) : '\n' ∉ style.write line := by
  have hfree := (Bool.and_eq_true_iff.mp (Bool.and_eq_true_iff.mp (hbraced line.shape)).1).2
  rw [hwrite]
  exact Stencil.not_mem_fill_of_isFree (tame_fillers line.fits) hfree

/-- A line without a closing brace continues nothing. -/
theorem continues_of_not_mem {line : Line} (h : '}' ∉ (write line.shape).braces) (depth : Nat) :
    Closer.brace.continues (indentation depth ++ style.write line) = false := by
  obtain ⟨c, more, hline, hc⟩ := exists_write_eq hwrite hbraced line
  rw [Closer.continues_brace depth (by rw [hline]; rfl) hc, beq_eq_false_iff_ne]
  rintro rfl
  refine h ?_
  rw [← braces_write hwrite line, mem_braces rfl, hline]
  exact List.mem_cons_self

/-- **A line goes on with a block just when its role is to.** -/
theorem continues_of_isBraced (line : Line) (depth : Nat) :
    Closer.brace.continues (indentation depth ++ style.write line) = line.continues := by
  have hshape := (Bool.and_eq_true_iff.mp (hbraced line.shape)).2
  cases line with
  | step step =>
    rw [role_step] at hshape
    have hnone := beq_iff_eq.mp hshape
    exact continues_of_not_mem hwrite hbraced (by simp [hnone]) depth
  | header header =>
    rw [role_header] at hshape
    rcases Bool.or_eq_true_iff.mp hshape with hnone | hopen
    · have hnone := beq_iff_eq.mp hnone
      exact continues_of_not_mem hwrite hbraced (by simp [hnone]) depth
    · have hone := beq_iff_eq.mp (Bool.and_eq_true_iff.mp hopen).1
      exact continues_of_not_mem hwrite hbraced (by simp [hone]) depth
  | branch condition =>
    have hone := beq_iff_eq.mp (Bool.and_eq_true_iff.mp hshape).1
    exact continues_of_not_mem hwrite hbraced (by simp [hone]) depth
  | elseBranch condition =>
    exact continues_of_startsWith hwrite (Bool.and_eq_true_iff.mp hshape).2 depth
  | otherwise =>
    exact continues_of_startsWith hwrite (Bool.and_eq_true_iff.mp hshape).2 depth

variable (hheader : ∀ header, style.close (.header header) =
  if (write (Line.header header).shape).endsWith '{' then some ['}'] else none)

include hheader

/-- **A line opens a block just when the style closes it.** -/
theorem opens_of_isBraced (line : Line) (depth : Nat) :
    Closer.brace.opens (indentation depth ++ style.write line) = style.opens line := by
  have hshape := (Bool.and_eq_true_iff.mp (hbraced line.shape)).2
  cases line with
  | step step =>
    rw [role_step] at hshape
    exact opens_of_braces hwrite (by simpa using hshape) depth
  | header header =>
    rw [role_header] at hshape
    rw [Style.opens, hheader]
    rcases Bool.or_eq_true_iff.mp hshape with hnone | hopen
    · have hnone := beq_iff_eq.mp hnone
      rw [opens_of_braces hwrite hnone depth, Stencil.endsWith_of_braces hnone]
      rfl
    · have hend := (Bool.and_eq_true_iff.mp hopen).2
      rw [opens_of_endsWith hwrite hend depth, if_pos hend]
      rfl
  | branch condition =>
    exact opens_of_endsWith hwrite (Bool.and_eq_true_iff.mp hshape).2 depth
  | elseBranch condition =>
    have hends := (Bool.and_eq_true_iff.mp hshape).1
    exact opens_of_endsWith hwrite (Bool.and_eq_true_iff.mp hends).2 depth
  | otherwise =>
    have hends := (Bool.and_eq_true_iff.mp hshape).1
    exact opens_of_endsWith hwrite (Bool.and_eq_true_iff.mp hends).2 depth

/-- **The matcher for braces knows the lines of a brace language for what they are.** -/
theorem suits_brace (hbranch : ∀ condition, style.close (.branch condition) = some ['}']) :
    style.Suits .brace where
  starts line := by
    obtain ⟨c, more, hline, hc⟩ := exists_write_eq hwrite hbraced line
    simp [hline, hc]
  opens := opens_of_isBraced hwrite hbraced hheader
  continues := continues_of_isBraced hwrite hbraced
  close_header := by
    intro header token htoken
    rw [hheader] at htoken
    split at htoken
    · exact (Option.some.inj htoken).symm
    · exact absurd htoken (by simp)
  close_branch := hbranch

end Source

end Recast
