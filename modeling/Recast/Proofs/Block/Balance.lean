import Recast.Proofs.Block.Braces
import Recast.Wrapper

/-!
# Proofs/Block/Balance — braces that match

Brace languages write programs with balanced braces: a block statement puts its body between an
opening and a closing brace, a choice puts each of its bodies there, and nothing else has braces.
Balance is seen from the braces alone (`Balanced.of_braces`), and putting balanced texts one after
the other or between braces keeps it.
-/

namespace Recast

open Text Source

/-- **As many opening braces as closing ones**, and nowhere more closing ones so far. -/
structure Balanced (text : List Char) : Prop where
  count_eq : text.count '{' = text.count '}'
  count_le : ∀ start, start <+: text → start.count '}' ≤ start.count '{'

namespace Balanced

variable {first second text : List Char}

/-- No braces are balanced. -/
theorem nil : Balanced [] where
  count_eq := rfl
  count_le start h := by
    rw [List.prefix_nil.mp h]
    exact Nat.le_refl _

/-- Balanced braces may stand behind balanced ones. -/
theorem append (hfirst : Balanced first) (hsecond : Balanced second) :
    Balanced (first ++ second) where
  count_eq := by rw [List.count_append, List.count_append, hfirst.count_eq, hsecond.count_eq]
  count_le start h := by
    rcases List.prefix_or_prefix_of_prefix h (List.prefix_append first second) with h' | ⟨more, rfl⟩
    · exact hfirst.count_le start h'
    · have h := (List.prefix_append_right_inj first).mp h
      rw [List.count_append, List.count_append, hfirst.count_eq]
      exact Nat.add_le_add_left (hsecond.count_le more h) _

/-- A balanced text may stand anywhere in another. -/
theorem insert {inner : List Char} (h : Balanced (first ++ second)) (hinner : Balanced inner) :
    Balanced (first ++ (inner ++ second)) where
  count_eq := by
    have := h.count_eq
    have := hinner.count_eq
    simp only [List.count_append] at *
    omega
  count_le start hstart := by
    have hfirst := h.count_le first (List.prefix_append first second)
    rcases List.prefix_or_prefix_of_prefix hstart (List.prefix_append first _) with
      hbefore | ⟨more, rfl⟩
    · exact h.count_le start (hbefore.trans (List.prefix_append first second))
    · have hmore := (List.prefix_append_right_inj first).mp hstart
      rcases List.prefix_or_prefix_of_prefix hmore (List.prefix_append inner second) with
        hwithin | ⟨behind, rfl⟩
      · have := hinner.count_le more hwithin
        simp only [List.count_append]
        omega
      · have hbehind := (List.prefix_append_right_inj inner).mp hmore
        have := h.count_le (first ++ behind) ((List.prefix_append_right_inj first).mpr hbehind)
        have := hinner.count_eq
        simp only [List.count_append] at *
        omega

/-- Between braces a text stays balanced. -/
theorem block (h : Balanced text) : Balanced ('{' :: (text ++ ['}'])) where
  count_eq := by simp [h.count_eq]
  count_le start hstart := by
    rcases List.prefix_cons_iff.mp hstart with rfl | ⟨more, rfl, hmore⟩
    · exact Nat.le_refl _
    · rcases List.prefix_concat_iff.mp hmore with rfl | hmore
      · simp [h.count_eq]
      · have hcount := h.count_le more hmore
        rw [List.count_cons_of_ne (by decide), List.count_cons_self]
        omega

/-- Between so many braces on both sides a text stays balanced. -/
theorem blocks (h : Balanced text) : ∀ depth : Nat,
    Balanced (List.replicate depth '{' ++ (text ++ List.replicate depth '}'))
  | 0 => by simpa using h
  | depth + 1 => by
      have hinner := (blocks h depth).block
      rw [List.replicate_succ, List.replicate_succ' (a := '}')]
      simpa using hinner

/-- Only the braces of a text matter. -/
theorem of_braces (h : Balanced (braces text)) : Balanced text where
  count_eq := by
    have hcount := h.count_eq
    rwa [braces, List.count_filter (by decide), List.count_filter (by decide)] at hcount
  count_le start hstart := by
    have hcount := h.count_le (braces start) (hstart.filter _)
    rwa [braces, List.count_filter (by decide), List.count_filter (by decide)] at hcount

end Balanced

/-! ## Lines -/

/-- The braces of lines, in order. -/
def lineBraces (ls : List (List Char)) : List Char := ls.flatMap braces

theorem lineBraces_append (first second : List (List Char)) :
    lineBraces (first ++ second) = lineBraces first ++ lineBraces second := List.flatMap_append

theorem braces_joinLines : ∀ ls : List (List Char), braces (joinLines ls) = lineBraces ls
  | [] => rfl
  | [line] => by simp [joinLines_singleton, lineBraces]
  | line :: next :: more => by
      have hfeed : ∀ text : List Char, braces ('\n' :: text) = braces text := fun text => rfl
      rw [joinLines_cons_cons, braces_append, hfeed, braces_joinLines (next :: more)]
      rfl

/-- The braces of a text are those of its lines. -/
theorem lineBraces_lines (text : List Char) : lineBraces (lines text) = braces text := by
  rw [← braces_joinLines, joinLines_lines]

/-- Indentation without braces does not change those of a text. -/
theorem braces_indentLines {indent : List Char} (h : braces indent = []) (text : List Char) :
    braces (indentLines indent text) = braces text := by
  rw [indentLines, braces_joinLines, ← lineBraces_lines text, lineBraces, lineBraces,
    List.flatMap_map]
  refine congrArg (fun f => List.flatMap f (lines text)) (funext fun line => ?_)
  split
  · rfl
  · rw [braces_append, h, List.nil_append]

/-! ## Programs -/

namespace Source

/-- **The lines of the style have the braces of a brace language.** A header that opens no block is
not closed either. -/
structure Style.Braces (style : Style) : Prop where
  step : ∀ step, braces (style.write (.step step)) = []
  header : ∀ header,
    braces (style.write (.header header)) = [] ∧ style.close (.header header) = none ∨
    braces (style.write (.header header)) = ['{'] ∧ style.close (.header header) = some ['}']
  branch : ∀ condition, braces (style.write (.branch condition)) = ['{'] ∧
    style.close (.branch condition) = some ['}']
  elseBranch : ∀ condition, braces (style.write (.elseBranch condition)) = ['}', '{']
  otherwise : braces (style.write .otherwise) = ['}', '{']

variable {style : Style}

/-- The braces of an outline's lines. -/
def Style.outlineBraces (style : Style) (outline : List (Nat × Entry)) : List Char :=
  lineBraces (style.textLines outline)

/-- The braces of an outline are those of its parts. -/
theorem outlineBraces_append (first second : List (Nat × Entry)) :
    style.outlineBraces (first ++ second) = style.outlineBraces first ++
      style.outlineBraces second := by
  rw [Style.outlineBraces, Closer.textLines_append, lineBraces_append]
  rfl

theorem outlineBraces_line (depth : Nat) (line : Line) (more : List (Nat × Entry)) :
    style.outlineBraces ((depth, .line line) :: more) =
      braces (style.write line) ++ style.outlineBraces more := by
  rw [Style.outlineBraces, Closer.textLines_cons_line, lineBraces, List.flatMap_cons, braces_append,
    braces_indentation, List.nil_append]
  rfl

theorem outlineBraces_close (depth : Nat) {head : Line} {token : List Char}
    (h : style.close head = some token) : style.outlineBraces [(depth, .close head)] =
      braces token := by
  simp [Style.outlineBraces, Style.textLines, Style.entryText?, h, lineBraces]

theorem outlineBraces_close_none (depth : Nat) {head : Line} (h : style.close head = none) :
    style.outlineBraces [(depth, .close head)] = [] := by
  simp [Style.outlineBraces, Style.textLines, Style.entryText?, h, lineBraces]

mutual

/-- **The braces of a statement are balanced.** -/
theorem balanced_statement (h : style.Braces) : ∀ (statement : Statement) (depth : Nat),
    Balanced (style.outlineBraces (statement.outline depth))
  | .step step, depth => by
      rw [Statement.outline, outlineBraces_line, h.step]
      exact .nil
  | .block header body, depth => by
      have hbody := balanced_body h body (depth + 1)
      rw [Statement.outline, outlineBraces_line, outlineBraces_append]
      rcases h.header header with ⟨hline, hclose⟩ | ⟨hline, hclose⟩
      · rw [hline, outlineBraces_close_none depth hclose, List.nil_append, List.append_nil]
        exact hbody
      · rw [hline, outlineBraces_close depth hclose]
        exact hbody.block
  | .branch condition body branches, depth => by
      obtain ⟨hline, hclose⟩ := h.branch condition
      rw [Statement.outline, outlineBraces_line, outlineBraces_append, outlineBraces_append, hline,
        outlineBraces_close depth hclose]
      exact balanced_branches h branches depth (balanced_body h body (depth + 1))

/-- The bodies of a choice stand between braces of their own. -/
theorem balanced_branches (h : style.Braces) : ∀ (branches : Branches) (depth : Nat)
    {inner : List Char}, Balanced inner →
      Balanced ('{' :: (inner ++ style.outlineBraces (branches.outline depth) ++ ['}']))
  | .done, depth, inner, hinner => by
      rw [Branches.outline, show style.outlineBraces [] = [] from rfl, List.append_nil]
      exact hinner.block
  | .otherwise body, depth, inner, hinner => by
      have hbody := balanced_body h body (depth + 1)
      rw [Branches.outline, outlineBraces_line, h.otherwise]
      simpa using hinner.block.append hbody.block
  | .elseBranch condition body branches, depth, inner, hinner => by
      have hbody := balanced_body h body (depth + 1)
      rw [Branches.outline, outlineBraces_line, outlineBraces_append, h.elseBranch]
      simpa using hinner.block.append (balanced_branches h branches depth hbody)

/-- **A body is balanced**, and so is each of its statements. -/
theorem balanced_body (h : style.Braces) : ∀ (body : Body) (depth : Nat),
    Balanced (style.outlineBraces (body.outline depth))
  | .last statement, depth => balanced_statement h statement depth
  | .next statement more, depth => by
      rw [Body.outline, outlineBraces_append]
      exact (balanced_statement h statement depth).append (balanced_body h more depth)

end

theorem braced_braces {write : Shape → Stencil}
    (hbraced : ∀ shape : Shape, shape.isBraced (write shape) = true) :
      (Style.braced write).Braces := by
  have hwrite : ∀ line, (Style.braced write).write line =
    (write line.shape).fill (fillers line.values) :=
    fun _ => rfl
  have hshape : ∀ line : Line, _ := fun line => (Bool.and_eq_true_iff.mp (hbraced line.shape)).2
  constructor
  case step =>
    intro step
    have hstep := hshape (.step step)
    rw [role_step] at hstep
    exact (braces_write hwrite _).trans (beq_iff_eq.mp hstep)
  case header =>
    intro header
    have hheader := hshape (.header header)
    rw [role_header] at hheader
    rw [braces_write hwrite]
    rcases Bool.or_eq_true_iff.mp hheader with hnone | hopen
    · have hnone := beq_iff_eq.mp hnone
      exact .inl ⟨hnone, if_neg (by simp [Stencil.endsWith_of_braces hnone])⟩
    · obtain ⟨hone, hend⟩ := Bool.and_eq_true_iff.mp hopen
      exact .inr ⟨beq_iff_eq.mp hone, if_pos hend⟩
  case branch =>
    intro condition
    obtain ⟨hone, hend⟩ := Bool.and_eq_true_iff.mp (hshape (.branch condition))
    exact ⟨(braces_write hwrite _).trans (beq_iff_eq.mp hone), if_pos hend⟩
  case elseBranch =>
    intro condition
    have hrest := (Bool.and_eq_true_iff.mp (hshape (.elseBranch condition))).1
    exact (braces_write hwrite _).trans (beq_iff_eq.mp (Bool.and_eq_true_iff.mp hrest).1)
  case otherwise =>
    have hrest := (Bool.and_eq_true_iff.mp (hshape .otherwise)).1
    exact (braces_write hwrite _).trans (beq_iff_eq.mp (Bool.and_eq_true_iff.mp hrest).1)

/-- **The text of a program has balanced braces.** -/
theorem balanced_text (h : style.Braces) (program : Program) :
    Balanced (braces (program.text style)) := by
  rw [Program.text, braces_joinLines]
  exact balanced_body h program 0

end Source

/-! ## Wrappers -/

/-- The wrapper opens so many braces before the body and closes them behind it. -/
def Wrapper.blocks (depth : Nat) (wrapper : Wrapper) : Bool :=
  braces wrapper.header.toList == List.replicate depth '{' &&
    braces wrapper.footer.toList == List.replicate depth '}' && braces wrapper.indent.toList == []

/-- **A wrapper keeps the balance** if its own braces enclose the body's. -/
theorem Wrapper.balanced_wrap {wrapper : Wrapper} {depth : Nat} (h : wrapper.blocks depth = true)
    {body : List Char} (hbody : Balanced (braces body)) : Balanced (wrapper.wrap body) := by
  obtain ⟨h, hindent⟩ := Bool.and_eq_true_iff.mp h
  obtain ⟨hheader, hfooter⟩ := Bool.and_eq_true_iff.mp h
  refine .of_braces ?_
  rw [Wrapper.wrap, Wrapper.indented_eq, braces_append, braces_append,
    braces_indentLines (beq_iff_eq.mp hindent), beq_iff_eq.mp hheader, beq_iff_eq.mp hfooter,
    List.append_assoc]
  exact hbody.blocks depth

end Recast
