import Recast.Proofs.Text.Lines
import Recast.Wrapper

/-!
# Proofs/Text/Indentation — what is put in front of lines can be taken off again

Indenting a text puts the same characters in front of each line that has ink, and leaves the blank
lines alone. An indented line has ink exactly if the line had (`isBlankLine_indentBy`), so nothing
is indented that was left alone before, and nothing is lost: indenting twice is indenting once by
both (`indentLines_indentLines`), and the lines of the text are found again behind the indentation
(`map_outdentBy_lines`).

The indentation has to stay on its line. A line feed in it would make lines of its own.
-/

namespace Recast

namespace Text

variable {indent : List Char}

/-! ## One line -/

/-- The line behind the indentation, a blank line as it is. -/
def indentBy (indent line : List Char) : List Char :=
  if isBlankLine line then line else indent ++ line

/-- The line without the indentation in front of it, a blank line as it is. -/
def outdentBy (indent line : List Char) : List Char :=
  if isBlankLine line then line else line.drop indent.length

theorem isBlankLine_append (front line : List Char) :
    isBlankLine (front ++ line) = (isBlankLine front && isBlankLine line) := List.all_append

/-- Ink is not lost behind an indentation, and a blank line gets none. -/
theorem isBlankLine_indentBy (indent line : List Char) :
    isBlankLine (indentBy indent line) = isBlankLine line := by
  rw [indentBy]
  split
  · rfl
  · rename_i hink
    have hline : isBlankLine line = false := by simpa using hink
    rw [isBlankLine_append, hline, Bool.and_false]

/-- **What is put in front of a line** can be taken off again. -/
theorem outdentBy_indentBy (indent line : List Char) :
    outdentBy indent (indentBy indent line) = line := by
  rw [outdentBy, isBlankLine_indentBy, indentBy]
  split
  · rfl
  · exact List.drop_left

/-- A line that is indented twice is indented once by both. -/
theorem indentBy_indentBy (outer inner line : List Char) :
    indentBy outer (indentBy inner line) = indentBy (outer ++ inner) line := by
  rw [indentBy, isBlankLine_indentBy, indentBy, indentBy]
  split
  · rfl
  · exact (List.append_assoc outer inner line).symm

/-! ## All lines of a text -/

theorem indentLines_eq (indent text : List Char) :
    indentLines indent text = joinLines ((lines text).map (indentBy indent)) := rfl

/-- **The lines of an indented text** are the lines of the text, each of them indented. -/
theorem lines_indentLines (hindent : '\n' ∉ indent) (text : List Char) :
    lines (indentLines indent text) = (lines text).map (indentBy indent) := by
  refine lines_joinLines (fun line hline => ?_) (by simpa using lines_ne_nil text)
  obtain ⟨line, hmem, rfl⟩ := List.mem_map.mp hline
  have hnot := not_mem_of_mem_lines hmem
  split
  · exact hnot
  · simp [hindent, hnot]

theorem map_outdentBy_lines (hindent : '\n' ∉ indent) (text : List Char) :
    (lines (indentLines indent text)).map (outdentBy indent) = lines text := by
  rw [lines_indentLines hindent, List.map_map]
  exact List.map_id'' (outdentBy_indentBy indent) (lines text)

/-- **Indenting twice** is indenting once, by the outer indentation and then the inner one. -/
theorem indentLines_indentLines (hindent : '\n' ∉ indent) (outer text : List Char) :
    indentLines outer (indentLines indent text) = indentLines (outer ++ indent) text := by
  have htwice : (lines (indentLines indent text)).map (indentBy outer) =
      (lines text).map (indentBy (outer ++ indent)) := by
    rw [lines_indentLines hindent, List.map_map]
    exact List.map_congr_left fun line _ => indentBy_indentBy outer indent line
  rw [indentLines_eq outer, htwice, indentLines_eq]

/-- **Different texts stay different** when they are indented. -/
theorem indentLines_injective (hindent : '\n' ∉ indent) :
    Function.Injective (indentLines indent) := by
  intro text text' heq
  have hlines : lines text = lines text' := by
    rw [← map_outdentBy_lines hindent text, heq, map_outdentBy_lines hindent text']
  rw [← joinLines_lines text, hlines, joinLines_lines]

end Text

open Text

/-- **Indenting loses nothing and can be done in steps.** A wrapper without header and footer does
nothing else to a body, what is indented further is indented by both, no two texts are indented into
one, and line by line the text is found again: blank lines as they are, and others behind the
indentation. -/
theorem Wrapper.wrap_indents {indent : String} (hindent : '\n' ∉ indent.toList) :
    (∀ body, ({ indent } : Wrapper).wrap body = indentLines indent.toList body) ∧
    (∀ outer body, indentLines outer (indentLines indent.toList body) =
      indentLines (outer ++ indent.toList) body) ∧
    Function.Injective (indentLines indent.toList) ∧
    ∀ body,
      lines (indentLines indent.toList body) = (lines body).map (indentBy indent.toList) ∧
      (lines (indentLines indent.toList body)).map (outdentBy indent.toList) = lines body := by
  refine ⟨fun body => ?_, indentLines_indentLines hindent, indentLines_injective hindent,
    fun body => ⟨lines_indentLines hindent body, map_outdentBy_lines hindent body⟩⟩
  have hbare : ({ indent } : Wrapper).wrap body =
      [] ++ ({ indent } : Wrapper).indented body ++ [] := rfl
  rw [hbare, indented_eq, List.nil_append, List.append_nil]

/-- A sign as the indentation of a body with a blank line, a line of other blanks, and a line that
has the sign in front already. -/
theorem Wrapper.wrap_indents_sign :
    '\n' ∉ "# ".toList ∧
      ({ indent := "# " } : Wrapper).wrap "# a\r\n\n\u2003\n\tb".toList =
        "# # a\r\n\n\u2003\n# \tb".toList ∧
      indentLines "  ".toList (indentLines "# ".toList "a\n \nb".toList) =
        "  # a\n \n  # b".toList ∧
      (lines (indentLines "# ".toList "# a\n\u2003".toList)).map (outdentBy "# ".toList) =
        ["# a".toList, "\u2003".toList] := by
  have hindent : '\n' ∉ "# ".toList := by decide
  obtain ⟨hwrap, htwice, -, hlines⟩ := wrap_indents hindent
  refine ⟨hindent, ?_, ?_, ?_⟩
  · rw [hwrap]
    decide
  · rw [htwice]
    decide
  · rw [(hlines _).2]
    decide

end Recast
