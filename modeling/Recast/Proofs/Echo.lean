import Mathlib.Data.List.DropRight
import Recast.Echo
import Recast.Proofs.Text.Lines

/-!
# Proofs/Echo — a source is read back from its echo

What stands around the source in an echo is fixed by the two languages (`render_eq`), so it is cut
off by its length. Between the two stand the lines of the source, each behind a mark of known length
(`unmark_joinLines`), and what is left without the marks is the source itself (`recover_render`).

The echo is *not* decoded line by line: names and comment tokens are any texts, and one that holds
line feeds spreads banner, advice and marks over more lines than they should have.
-/

namespace Recast.Echo

open Text

/-- What stands in front of each line of the source. -/
def markOf (target : Language) : List Char := target.commentPrefix.toList ++ [' ']

/-- What stands in front of the marked lines. -/
def opening (source target : Language) : List Char :=
  joinLines ((banner source target).map String.toList) ++ ['\n']

/-- What stands behind the marked lines. -/
def ending (source target : Language) : List Char :=
  '\n' :: joinLines ((guidance source target).map String.toList)

/-- The text without `left` characters here, and without `width` characters behind each line feed
that is left. -/
def unmark (width : Nat) : (left : Nat) → List Char → List Char
  | _, [] => []
  | left + 1, _ :: rest => unmark width left rest
  | 0, c :: rest => c :: unmark width (if c = '\n' then width else 0) rest

/-- The source that was echoed. -/
def recover (source target : Language) (echo : List Char) : List Char :=
  let marked := (echo.drop (opening source target).length).rdrop (ending source target).length
  unmark (markOf target).length (markOf target).length marked

/-! ## Marks -/

theorem unmark_mark (width : Nat) (rest : List Char) :
    ∀ mark : List Char, unmark width mark.length (mark ++ rest) = unmark width 0 rest
  | [] => rfl
  | _ :: mark => unmark_mark width rest mark

/-- Nothing is taken from a line behind its mark. -/
theorem unmark_append (width : Nat) (rest : List Char) {line : List Char} (h : '\n' ∉ line) :
    unmark width 0 (line ++ rest) = line ++ unmark width 0 rest := by
  induction line with
  | nil => rfl
  | cons c line ih =>
    obtain ⟨hne, hline⟩ := not_or.mp (List.mem_cons.not.mp h)
    rw [List.cons_append, unmark, if_neg (Ne.symm hne), ih hline, List.cons_append]

theorem unmark_lineFeed (width : Nat) (rest : List Char) :
    unmark width 0 ('\n' :: rest) = '\n' :: unmark width width rest := by
  rw [unmark, if_pos rfl]

/-- **Marked lines without their marks**, whatever the mark is: it is counted, not looked for. -/
theorem unmark_joinLines (mark : List Char) : ∀ {lines : List (List Char)},
    (∀ line ∈ lines, '\n' ∉ line) →
      unmark mark.length mark.length (joinLines (lines.map (mark ++ ·))) = joinLines lines
  | [], _ => by cases mark <;> rfl
  | [line], h => by
      have hline := unmark_append mark.length [] (h line (List.mem_singleton_self line))
      rw [List.append_nil] at hline
      rw [List.map_singleton, joinLines_singleton, joinLines_singleton, unmark_mark, hline, unmark,
        List.append_nil]
  | line :: next :: more, h => by
      obtain ⟨hline, hrest⟩ := List.forall_mem_cons.mp h
      have ih := unmark_joinLines mark hrest
      rw [List.map_cons, List.map_cons, joinLines_cons_cons, ← List.map_cons, List.append_assoc,
        unmark_mark, unmark_append _ _ hline, unmark_lineFeed, ih, joinLines_cons_cons]

/-! ## The echo -/

/-- Only the marked lines depend on the source. -/
theorem render_eq (code : List Char) (source target : Language) :
    render code source target = opening source target ++
      joinLines ((Text.lines code).map (markOf target ++ ·)) ++ ending source target := by
  have hlines : (Text.lines code).map (comment target) ≠ [] :=
    List.map_eq_nil_iff.not.mpr (lines_ne_nil code)
  have hmark : comment target = (markOf target ++ ·) := by
    funext line
    rw [comment, markOf, List.append_assoc, List.singleton_append]
  rw [render, List.append_assoc, joinLines_append (by simp [hlines]) (by simp [banner]),
    joinLines_append (by simp [guidance]) hlines, hmark, opening, ending]
  simp

/-- **The source is read back from its echo**, whatever the languages and whatever the source holds.
So no two sources have the same echo. -/
theorem recover_render (source target : Language) :
    (∀ code, recover source target (render code source target) = code) ∧
      Function.Injective fun code => render code source target := by
  have hrecover : ∀ code, recover source target (render code source target) = code := by
    intro code
    rw [recover, render_eq, List.append_assoc, List.drop_left, List.rdrop_append_length,
      unmark_joinLines _ fun line => not_mem_of_mem_lines, joinLines_lines]
  exact ⟨hrecover, Function.LeftInverse.injective hrecover⟩

end Recast.Echo
