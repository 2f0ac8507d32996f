import Recast.Block.Inference
import Recast.Proofs.Source.Program

/-!
# Proofs/Block/Nesting — closing tokens of nested statements

Where the lines of a program are indented by depth, the matcher puts one closing token behind each
block statement that has an opener, and none elsewhere (`closeStack_outline`). The open blocks at a
line are those of the headers around it, all of them less wide than the line is; a continuation
closes its own block and opens it again.
-/

namespace Recast.Source

open Text

/-! ## Lines of blocks -/

/-- The part a line plays in the blocks of a program. -/
inductive Role
  | step | header | branch | rest
deriving DecidableEq

def Shape.role : Shape → Role
  | .assignName | .assignNumber | .print | .give => .step
  | .repeatWhile | .count1 | .count2 | .count3 | .each | .define => .header
  | .branch => .branch
  | .elseBranch | .otherwise => .rest

theorem role_step (step : Step) : (Line.step step).shape.role = .step := by
  rcases step with ⟨_, _ | _⟩ | _ | _ <;> rfl

theorem role_header (header : Header) : (Line.header header).shape.role = .header := by
  rcases header with _ | ⟨_, _ | _ | _⟩ | _ | _ <;> rfl

/-- The line continues a choice. -/
def Line.continues : Line → Bool
  | .elseBranch _ | .otherwise => true
  | _ => false

/-- A line continues a block if its role is to do so. -/
theorem continues_eq_role (line : Line) : line.continues = (line.shape.role == .rest) := by
  cases line with
  | step step => rw [role_step]; rfl
  | header header => rw [role_header]; rfl
  | _ => rfl

/-- A block is open behind the line. -/
def Style.opens (style : Style) : Line → Bool
  | .step _ => false
  | .header header => (style.close (.header header)).isSome
  | _ => true

/-- The style without what ends its block statements. -/
def Style.unclosed (style : Style) : Style := { style with close := fun _ => none }

/-- **The closer knows the lines of the style for what they are.** -/
structure Style.Suits (style : Style) (closer : Closer) : Prop where
  starts : ∀ line, ((style.write line).head?.any fun c => !isBlank c) = true
  opens : ∀ line depth, closer.opens (indentation depth ++ style.write line) = style.opens line
  continues : ∀ line depth,
    closer.continues (indentation depth ++ style.write line) = line.continues
  close_header : ∀ {header : Header} {token : List Char},
    style.close (.header header) = some token → token = closer.token.toList
  close_branch : ∀ condition, style.close (.branch condition) = some closer.token.toList

variable {style : Style} {closer : Closer} {depth : Nat} {line : Line}

theorem exists_of_head?_any {line : List Char} (h : (line.head?.any fun c => !isBlank c) = true) :
    ∃ c rest, line = c :: rest ∧ isBlank c = false := by
  cases line with
  | nil => simp at h
  | cons c rest => exact ⟨c, rest, rfl, by simpa using h⟩

/-- A line that is written has ink. -/
theorem Style.Suits.isBlankLine (h : style.Suits closer) (line : Line) (depth : Nat) :
    isBlankLine (indentation depth ++ style.write line) = false := by
  obtain ⟨c, rest, hline, hc⟩ := exists_of_head?_any (h.starts line)
  simp [Text.isBlankLine, hline, hc]

/-- A line is as wide as the blanks in front of its first character that is none. -/
theorem indentWidth_append {blanks line : List Char} (hblanks : ∀ c ∈ blanks, isBlank c = true)
    (h : ∃ c rest, line = c :: rest ∧ isBlank c = false) :
    indentWidth (blanks ++ line) = blanks.length := by
  obtain ⟨c, rest, rfl, hc⟩ := h
  rw [indentWidth, List.takeWhile_append_of_pos hblanks, List.takeWhile_cons, if_neg (by simp [hc])]
  simp

/-- A line is as wide as its depth says. -/
theorem Style.Suits.indentWidth (h : style.Suits closer) (line : Line) (depth : Nat) :
    indentWidth (indentation depth ++ style.write line) = 4 * depth := by
  rw [indentWidth_append (forall_mem_indentation (by decide)) (exists_of_head?_any (h.starts line))]
  simp [indentation]

end Recast.Source

namespace Recast.Closer

open Text Source

variable {style : Style} {closer : Closer} {opened : List Nat}
  {rest : List (List Char)} {depth : Nat}

/-! ## What follows a line -/

/-- The width at which the text goes on. -/
def nextWidth (rest : List (List Char)) : Nat := ((nextInk? rest).map indentWidth).getD 0

/-- The text goes on with a continuation. -/
def nextContinues (closer : Closer) (rest : List (List Char)) : Bool :=
  (nextInk? rest).any closer.continues

/-- What is written behind a line: the tokens of the blocks that end there, and the lines that
follow with theirs. -/
def finish (closer : Closer) (opened : List Nat) (rest : List (List Char)) : List (List Char) :=
  closer.closings opened (nextWidth rest) (closer.nextContinues rest) ++
    closer.closeStack (stillOpen opened (nextWidth rest)) rest

/-- What follows is outside the blocks of the depth, and does not continue one of them. -/
structure Follows (closer : Closer) (depth : Nat) (rest : List (List Char)) : Prop where
  width_le : nextWidth rest ≤ 4 * depth
  not_continues : nextWidth rest = 4 * depth → closer.nextContinues rest = false

/-- Behind a line with ink, the line is passed on and what it opens is remembered. -/
theorem closeStack_cons {line : List Char} (hink : isBlankLine line = false) :
    closer.closeStack opened (line :: rest) = line :: closer.finish
      (if closer.opens line then indentWidth line :: opened else opened) rest := by
  rw [closeStack, if_neg (by simp [hink])]
  rfl

/-- Where the text goes on deeper inside all open blocks, none of them ends. -/
theorem finish_of_lt (h : ∀ w ∈ opened, w < nextWidth rest) :
    closer.finish opened rest = closer.closeStack opened rest := by
  cases opened with
  | nil => rfl
  | cons w opened =>
    have hw : ¬ nextWidth rest ≤ w := by
      have := h w (by simp)
      omega
    simp [finish, closings, stillOpen, hw]

/-- The block of the depth ends, and what ends besides are blocks around it. -/
theorem finish_cons (h : Follows closer depth rest) :
    closer.finish (4 * depth :: opened) rest =
      closer.line (4 * depth) :: closer.finish opened rest := by
  have hcontinued : (!(4 * depth == nextWidth rest && closer.nextContinues rest)) = true := by
    rcases Nat.lt_or_eq_of_le h.width_le with hlt | heq
    · simp [Nat.ne_of_gt hlt]
    · simp [h.not_continues heq]
  have hwidth : decide (nextWidth rest ≤ 4 * depth) = true := by simpa using h.width_le
  rw [finish, closings, stillOpen, List.takeWhile_cons, if_pos hwidth, List.dropWhile_cons,
    if_pos hwidth, List.filter_cons, if_pos hcontinued, List.map_cons]
  rfl

/-- A continuation ends the block of its depth by itself. -/
theorem finish_cons_of_continues (hopened : ∀ w ∈ opened, w < 4 * depth)
    (hwidth : nextWidth rest = 4 * depth) (hcontinues : closer.nextContinues rest = true) :
    closer.finish (4 * depth :: opened) rest = closer.closeStack opened rest := by
  have hdeeper : ∀ w ∈ opened, w < nextWidth rest := by rwa [hwidth]
  rw [← finish_of_lt hdeeper]
  simp [finish, closings, stillOpen, hwidth, hcontinues]

/-! ## Outlines -/

/-- The first line of a body. -/
theorem exists_outline_eq (statement : Statement) (depth : Nat) : ∃ line more,
    statement.outline depth = (depth, .line line) :: more ∧ line.continues = false := by
  cases statement <;> exact ⟨_, _, rfl, rfl⟩

/-- A body starts with a line that continues nothing. -/
theorem exists_body_outline_eq (body : Body) (depth : Nat) : ∃ line more,
    body.outline depth = (depth, .line line) :: more ∧ line.continues = false := by
  cases body with
  | last statement => exact exists_outline_eq statement depth
  | next statement more =>
    obtain ⟨line, tail, heq, hline⟩ := exists_outline_eq statement depth
    exact ⟨line, tail ++ more.outline depth, by rw [Body.outline, heq]; rfl, hline⟩

/-- The lines of an outline are written one by one. -/
theorem textLines_append (style : Style) (first second : List (Nat × Entry)) :
    style.textLines (first ++ second) = style.textLines first ++ style.textLines second :=
  List.filterMap_append

theorem textLines_cons_line (style : Style) (depth : Nat) (line : Line)
    (more : List (Nat × Entry)) :
    style.textLines ((depth, .line line) :: more) =
      (indentation depth ++ style.write line) :: style.textLines more := rfl

theorem textLines_unclosed_close (style : Style) (depth : Nat) (head : Line) :
    style.unclosed.textLines [(depth, .close head)] = [] := rfl

variable (h : style.Suits closer)

include h

/-- Where a line comes next, the text goes on at its depth. -/
theorem nextInk?_line (line : Line) (depth : Nat) (rest : List (List Char)) :
    nextInk? ((indentation depth ++ style.write line) :: rest) =
      some (indentation depth ++ style.write line) := by
  simp [nextInk?, h.isBlankLine line depth]

theorem nextWidth_line (line : Line) (depth : Nat) (rest : List (List Char)) :
    nextWidth ((indentation depth ++ style.write line) :: rest) = 4 * depth := by
  simp [nextWidth, nextInk?_line h, h.indentWidth line depth]

theorem nextContinues_line (line : Line) (depth : Nat) (rest : List (List Char)) :
    closer.nextContinues ((indentation depth ++ style.write line) :: rest) = line.continues := by
  simp [nextContinues, nextInk?_line h, h.continues line depth]

theorem closeStack_line (line : Line) (depth : Nat) :
    closer.closeStack opened ((indentation depth ++ style.write line) :: rest) =
      (indentation depth ++ style.write line) :: closer.finish
        (if style.opens line then 4 * depth :: opened else opened) rest := by
  rw [closeStack_cons (h.isBlankLine line depth), h.opens line depth, h.indentWidth line depth]

/-- A line that opens a block is passed on, and the block is remembered at its width. -/
theorem closeStack_opening {line : Line} (hopens : style.opens line = true) (depth : Nat) :
    closer.closeStack opened ((indentation depth ++ style.write line) :: rest) =
      (indentation depth ++ style.write line) :: closer.finish (4 * depth :: opened) rest := by
  rw [closeStack_line h, if_pos hopens]

/-! ## Statements -/

/-- A body starts at its depth, with a line that continues nothing. -/
theorem nextWidth_body (body : Body) (depth : Nat) (rest : List (List Char)) :
    nextWidth (style.unclosed.textLines (body.outline depth) ++ rest) = 4 * depth ∧
      closer.nextContinues (style.unclosed.textLines (body.outline depth) ++ rest) = false := by
  obtain ⟨line, more, heq, hline⟩ := exists_body_outline_eq body depth
  rw [heq, textLines_cons_line, List.cons_append]
  exact ⟨nextWidth_line h line depth _, (nextContinues_line h line depth _).trans hline⟩

/-- Before a body none of the blocks around it ends. -/
theorem finish_body (body : Body) (hopened : ∀ w ∈ opened, w < 4 * depth) :
    closer.finish opened (style.unclosed.textLines (body.outline depth) ++ rest) =
      closer.closeStack opened (style.unclosed.textLines (body.outline depth) ++ rest) := by
  refine finish_of_lt ?_
  rwa [(nextWidth_body h body depth rest).1]

/-- A body behind a line is no continuation of it. -/
theorem follows_body (body : Body) (depth : Nat) (rest : List (List Char)) :
    Follows closer depth (style.unclosed.textLines (body.outline depth) ++ rest) := by
  obtain ⟨hwidth, hcontinues⟩ := nextWidth_body h body depth rest
  exact ⟨Nat.le_of_eq hwidth, fun _ => hcontinues⟩

omit h in
/-- What follows a block follows what is inside it. -/
theorem Follows.succ (hrest : Follows closer depth rest) : Follows closer (depth + 1) rest where
  width_le := by
    have := hrest.width_le
    omega
  not_continues hwidth := by
    have := hrest.width_le
    omega

omit h in
theorem forall_lt_cons (hopened : ∀ w ∈ opened, w < 4 * depth) :
    ∀ w ∈ 4 * depth :: opened, w < 4 * (depth + 1) := by
  refine List.forall_mem_cons.mpr ⟨by omega, fun w hw => ?_⟩
  have := hopened w hw
  omega

omit h in
theorem forall_lt_succ (hopened : ∀ w ∈ opened, w < 4 * depth) :
    ∀ w ∈ opened, w < 4 * (depth + 1) :=
  fun w hw => by
    have := hopened w hw
    omega

/-- What follows a branch is no deeper than the choice. -/
theorem follows_branches (branches : Branches) (hrest : Follows closer depth rest) :
    Follows closer (depth + 1) (style.unclosed.textLines (branches.outline depth) ++ rest) := by
  have hline : ∀ (line : Line) (more : List (Nat × Entry)), Follows closer (depth + 1)
      (style.unclosed.textLines ((depth, .line line) :: more) ++ rest) := fun line more => by
    have hwidth := nextWidth_line h line depth (style.unclosed.textLines more ++ rest)
    rw [textLines_cons_line, List.cons_append]
    exact ⟨Nat.le_trans (Nat.le_of_eq hwidth) (by omega), fun heq =>
      absurd (hwidth.symm.trans heq) (by omega)⟩
  cases branches with
  | done => exact hrest.succ
  | otherwise body => exact hline .otherwise _
  | elseBranch condition body branches => exact hline (.elseBranch condition) _

mutual

/-- **The tokens of a statement stand where its block statements end.** -/
theorem closeStack_statement : ∀ (statement : Statement) (depth : Nat) {opened : List Nat}
    {rest : List (List Char)}, (∀ w ∈ opened, w < 4 * depth) → Follows closer depth rest →
      closer.closeStack opened (style.unclosed.textLines (statement.outline depth) ++ rest) =
        style.textLines (statement.outline depth) ++ closer.finish opened rest
  | .step step, depth, opened, rest, _, _ => closeStack_line h (.step step) depth
  | .block header body, depth, opened, rest, hopened, hrest => by
      rw [Statement.outline, textLines_cons_line, textLines_cons_line, textLines_append,
        textLines_append, textLines_unclosed_close, List.append_nil, List.cons_append,
          List.cons_append]
      cases hclose : style.close (.header header) with
      | none =>
        -- the header is left as it is: its body is deeper, but no block is open there
        have hopens : style.opens (.header header) = false := by simp [Style.opens, hclose]
        have hnone : style.textLines [(depth, .close (.header header))] = [] := by
          simp [Style.textLines, Style.entryText?, hclose]
        have hdeeper := forall_lt_succ hopened
        refine (closeStack_line h (.header header) depth).trans (congrArg _ ?_)
        rw [hopens, if_neg (by simp), finish_body h body hdeeper,
          closeStack_body body (depth + 1) hdeeper hrest.succ, hnone, List.append_nil]
      | some token =>
        have hopens : style.opens (.header header) = true := by simp [Style.opens, hclose]
        have hsome : style.textLines [(depth, .close (.header header))] =
          [closer.line (4 * depth)] := by
          rw [h.close_header hclose] at hclose
          simp [Style.textLines, Style.entryText?, hclose, Closer.line, indentation]
        have hdeeper := forall_lt_cons hopened
        refine (closeStack_opening h hopens depth).trans (congrArg _ ?_)
        rw [finish_body h body hdeeper,
          closeStack_body body (depth + 1) hdeeper hrest.succ, finish_cons hrest, hsome]
        simp
  | .branch condition body branches, depth, opened, rest, hopened, hrest => by
      have hclose : style.textLines [(depth, .close (.branch condition))] =
          [closer.line (4 * depth)] := by
        simp [Style.textLines, Style.entryText?, h.close_branch, Closer.line, indentation]
      have hdeeper := forall_lt_cons hopened
      rw [Statement.outline, textLines_cons_line, textLines_cons_line, textLines_append,
        textLines_append, textLines_unclosed_close, List.append_nil, textLines_append,
        textLines_append, List.cons_append, List.cons_append]
      refine (closeStack_opening h rfl depth).trans (congrArg _ ?_)
      rw [List.append_assoc, finish_body h body hdeeper,
        closeStack_body body (depth + 1) hdeeper (follows_branches h branches hrest),
        finish_branches branches depth hopened hrest, hclose]
      simp

/-- **Branches are closed** behind each of their bodies. -/
theorem finish_branches : ∀ (branches : Branches) (depth : Nat) {opened : List Nat}
    {rest : List (List Char)}, (∀ w ∈ opened, w < 4 * depth) → Follows closer depth rest →
      closer.finish (4 * depth :: opened) (style.unclosed.textLines
        (branches.outline depth) ++ rest) =
        style.textLines (branches.outline depth) ++
          closer.line (4 * depth) :: closer.finish opened rest
  | .done, depth, opened, rest, _, hrest => finish_cons hrest
  | .otherwise body, depth, opened, rest, hopened, hrest => by
      have hdeeper := forall_lt_cons hopened
      rw [Branches.outline, textLines_cons_line, textLines_cons_line, List.cons_append,
        List.cons_append]
      refine (finish_cons_of_continues hopened (nextWidth_line h .otherwise depth _)
        (nextContinues_line h .otherwise depth _)).trans ?_
      refine (closeStack_opening h rfl depth).trans (congrArg _ ?_)
      rw [finish_body h body hdeeper, closeStack_body body (depth + 1) hdeeper hrest.succ,
        finish_cons hrest]
  | .elseBranch condition body branches, depth, opened, rest, hopened, hrest => by
      have hdeeper := forall_lt_cons hopened
      rw [Branches.outline, textLines_cons_line, textLines_cons_line, List.cons_append,
        List.cons_append]
      refine (finish_cons_of_continues hopened (nextWidth_line h (.elseBranch condition) depth _)
        (nextContinues_line h (.elseBranch condition) depth _)).trans ?_
      refine (closeStack_opening h rfl depth).trans (congrArg _ ?_)
      rw [textLines_append, textLines_append, List.append_assoc, finish_body h body hdeeper,
        closeStack_body body (depth + 1) hdeeper (follows_branches h branches hrest),
        finish_branches branches depth hopened hrest]
      simp

/-- **A body is closed** by itself, and then what was open before it. -/
theorem closeStack_body : ∀ (body : Body) (depth : Nat) {opened : List Nat}
    {rest : List (List Char)}, (∀ w ∈ opened, w < 4 * depth) → Follows closer depth rest →
      closer.closeStack opened (style.unclosed.textLines (body.outline depth) ++ rest) =
        style.textLines (body.outline depth) ++ closer.finish opened rest
  | .last statement, depth, opened, rest, hopened, hrest =>
      closeStack_statement statement depth hopened hrest
  | .next statement more, depth, opened, rest, hopened, hrest => by
      rw [Body.outline, textLines_append, textLines_append, List.append_assoc, List.append_assoc,
        closeStack_statement statement depth hopened (follows_body h more depth rest),
        finish_body h more hopened, closeStack_body more depth hopened hrest]

end

/-- **The matcher closes a program's block statements where they end**, and puts in nothing else. -/
theorem closeStack_outline (program : Program) :
    closer.closeStack [] (style.unclosed.textLines (program.outline 0)) =
      style.textLines (program.outline 0) := by
  have hend : Follows closer 0 [] := ⟨Nat.le_refl 0, fun _ => rfl⟩
  have hbody : closer.closeStack [] (style.unclosed.textLines (program.outline 0) ++ []) =
      style.textLines (program.outline 0) ++ closer.finish [] [] :=
    closeStack_body h program 0 (by simp) hend
  simpa [finish, closings, stillOpen, closeStack] using hbody

end Recast.Closer
