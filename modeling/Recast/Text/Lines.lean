import Recast.Text.Blank

/-!
# Text/Lines — a text as the list of its lines

Lines end at line feeds and nowhere else: a carriage return or another separator is a character of
its line. A text has at least one line, and joining its lines gives the text back
(`joinLines_lines`).
-/

namespace Recast.Text

/-- The lines of a text, split at line feeds; the empty text has one empty line. -/
def lines : List Char → List (List Char)
  | [] => [[]]
  | c :: rest =>
    if c = '\n' then [] :: lines rest
    else match lines rest with
      | [] => [[c]]
      | line :: more => (c :: line) :: more

/-- The lines joined by line feeds. -/
def joinLines (ls : List (List Char)) : List Char := List.intercalate ['\n'] ls

/-- Each line of the text after `indent`, the blank lines left as they are. -/
def indentLines (indent : List Char) (text : List Char) : List Char :=
  joinLines ((lines text).map fun line => if isBlankLine line then line else indent ++ line)

/-- The text with each pair of carriage return and line feed made one line feed. -/
def joinReturns : List Char → List Char
  | '\r' :: '\n' :: rest => '\n' :: joinReturns rest
  | c :: rest => c :: joinReturns rest
  | [] => []

/-- The text with every carriage return made a line feed, together with the line feed behind it if
there is one. -/
def unifyReturns : List Char → List Char
  | '\r' :: '\n' :: rest => '\n' :: unifyReturns rest
  | '\r' :: rest => '\n' :: unifyReturns rest
  | c :: rest => c :: unifyReturns rest
  | [] => []

/-- Even an empty text has a line. -/
theorem lines_ne_nil (text : List Char) : lines text ≠ [] := by
  cases text with
  | nil => simp [lines]
  | cons c rest =>
    rw [lines]
    split
    · simp
    · split <;> simp

theorem joinLines_cons_cons (line next : List Char) (more : List (List Char)) :
    joinLines (line :: next :: more) = line ++ '\n' :: joinLines (next :: more) := by
  simp [joinLines, List.intercalate, List.intersperse]

theorem joinLines_singleton (line : List Char) : joinLines [line] = line := by
  simp [joinLines, List.intercalate]

/-- **Joining the lines of a text gives the text back.** -/
theorem joinLines_lines (text : List Char) : joinLines (lines text) = text := by
  induction text with
  | nil => simp [lines, joinLines_singleton]
  | cons c rest ih =>
    rw [lines]
    cases hl : lines rest with
    | nil => exact absurd hl (lines_ne_nil rest)
    | cons line more =>
      rw [hl] at ih
      by_cases hc : c = '\n'
      · simp [hc, joinLines_cons_cons, ih]
      · simp only [hc, if_false]
        cases more with
        | nil => simpa [joinLines_singleton] using ih
        | cons next more => simpa [joinLines_cons_cons] using ih

/-- To indent by nothing is to leave the text as it is. -/
theorem indentLines_nil (text : List Char) : indentLines [] text = text := by
  have hsame : (lines text).map (fun line => if isBlankLine line then line else [] ++ line) =
      lines text := List.map_id'' (fun line => by rw [List.nil_append, ite_self]) _
  rw [indentLines, hsame, joinLines_lines]

end Recast.Text
