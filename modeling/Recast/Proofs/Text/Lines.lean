import Recast.Proofs.Text.Words
import Recast.Text.Lines

/-!
# Proofs/Text/Lines — lines joined and split again

Lines without line feeds are what their joined text is split into (`lines_joinLines`). A text is
also the lines that end with their own line feeds, one after the other (`flatten_endedLines`).
-/

namespace Recast.Text

theorem lines_eq_splitOn (text : List Char) : lines text = text.splitOn '\n' := by
  induction text with
  | nil => rfl
  | cons c rest ih =>
    have hcons := List.splitOnP_cons_eq_if_modifyHead (p := (· == '\n')) c rest
    rw [lines, ih, List.splitOn, List.splitOn, hcons]
    by_cases hc : c = '\n'
    · simp [hc]
    · cases hl : rest.splitOnP (· == '\n') with
      | nil => exact absurd hl (List.splitOnP_ne_nil _ _)
      | cons line more => simp [hc]

/-- A line is what stands between line feeds. -/
theorem not_mem_of_mem_lines : ∀ {text line : List Char}, line ∈ lines text → '\n' ∉ line
  | [], line, hline => by simp_all [lines]
  | c :: rest, line, hline => by
      have hrest : ∀ line ∈ lines rest, '\n' ∉ line := fun _ => not_mem_of_mem_lines
      rw [lines] at hline
      split at hline
      · rcases List.mem_cons.mp hline with rfl | hline
        · exact List.not_mem_nil
        · exact hrest line hline
      · rename_i hc
        split at hline
        · rw [List.mem_singleton.mp hline]
          simpa using Ne.symm hc
        · rename_i first more hlines
          rw [hlines] at hrest
          rcases List.mem_cons.mp hline with rfl | hline
          · simpa [Ne.symm hc] using hrest first (by simp)
          · exact hrest line (List.mem_cons_of_mem _ hline)

/-- **The lines that were joined are found again.** -/
theorem lines_joinLines {ls : List (List Char)} (h : ∀ line ∈ ls, '\n' ∉ line) (hne : ls ≠ []) :
    lines (joinLines ls) = ls := by
  rw [lines_eq_splitOn]
  exact List.splitOn_intercalate '\n' h hne

/-- A line feed ends a line. -/
theorem lines_append_lineFeed (text more : List Char) :
    lines (text ++ '\n' :: more) = lines text ++ lines more := by
  rw [lines_eq_splitOn, lines_eq_splitOn, lines_eq_splitOn]
  exact List.splitOnP_append_cons _ _ (by simp)

theorem tail_lines_cons (c : Char) (rest : List Char) :
    (lines (c :: rest)).tail = if c = '\n' then lines rest else (lines rest).tail := by
  rw [lines]
  split
  · rfl
  · cases lines rest <;> rfl

theorem lines_eq_cons : ∀ text : List Char,
    lines text = text.takeWhile (· ≠ '\n') :: (lines text).tail
  | [] => rfl
  | c :: rest => by
      rw [tail_lines_cons, lines]
      split
      · rename_i hc
        simp [hc]
      · rename_i hc
        rw [lines_eq_cons rest]
        simp [hc]

/-- Text on one line comes before the further lines. -/
theorem tail_lines_append {line : List Char} (h : '\n' ∉ line) (text : List Char) :
    (lines (line ++ text)).tail = (lines text).tail := by
  induction line with
  | nil => rfl
  | cons c line ih =>
    obtain ⟨hc, hline⟩ := not_or.mp fun hmem => h (List.mem_cons.mpr hmem)
    rw [List.cons_append, tail_lines_cons, if_neg (Ne.symm hc), ih hline]

/-- **Indenting joined lines** indents each of them that is not blank. -/
theorem indentLines_joinLines {indent : List Char} {ls : List (List Char)}
    (h : ∀ line ∈ ls, '\n' ∉ line) (hne : ls ≠ []) (hink : ∀ line ∈ ls, isBlankLine line = false) :
    indentLines indent (joinLines ls) = joinLines (ls.map (indent ++ ·)) := by
  rw [indentLines, lines_joinLines h hne]
  exact congrArg joinLines (List.map_congr_left fun line hline => by simp [hink line hline])

theorem mem_joinLines {c : Char} : ∀ {ls : List (List Char)}, c ∈ joinLines ls →
    c = '\n' ∨ ∃ line ∈ ls, c ∈ line
  | [], hc => absurd hc (by simp [joinLines])
  | [line], hc => .inr ⟨line, by simp, by rwa [joinLines_singleton] at hc⟩
  | line :: next :: more, hc => by
      rw [joinLines_cons_cons, List.mem_append, List.mem_cons] at hc
      rcases hc with hc | rfl | hc
      · exact .inr ⟨line, by simp, hc⟩
      · exact .inl rfl
      · rcases mem_joinLines hc with hfeed | ⟨line', hmem, hc⟩
        · exact .inl hfeed
        · exact .inr ⟨line', List.mem_cons_of_mem _ hmem, hc⟩

/-- What joined lines have is found in one of them, if a line feed always leaves it on one of its
sides. -/
theorem exists_of_joinLines {has : List Char → Prop}
    (hsides : ∀ a b : List Char, has (a ++ '\n' :: b) → has a ∨ has b) :
    ∀ {ls : List (List Char)}, ls ≠ [] → has (joinLines ls) → ∃ line ∈ ls, has line
  | [line], _, h => ⟨line, by simp, by rwa [joinLines_singleton] at h⟩
  | line :: next :: more, _, h => by
      rw [joinLines_cons_cons] at h
      rcases hsides _ _ h with h | h
      · exact ⟨line, by simp, h⟩
      · obtain ⟨line', hmem, h⟩ := exists_of_joinLines hsides (by simp) h
        exact ⟨line', List.mem_cons_of_mem _ hmem, h⟩

/-- The words of a text are those of its lines. -/
theorem mem_words_joinLines {w : List Char} {ls : List (List Char)} (hne : ls ≠ [])
    (hw : w ∈ words (joinLines ls)) : ∃ line ∈ ls, w ∈ words line := by
  refine exists_of_joinLines (fun a b h => ?_) hne hw
  rwa [words_append_sign a (by decide), List.mem_append] at h

/-- A text without the sign stands on one side of it. -/
theorem infix_append_sign {w a b : List Char} {c : Char} (hc : c ∉ w) (h : w <:+: a ++ c :: b) :
    w <:+: a ∨ w <:+: b := by
  obtain ⟨front, back, h⟩ := h
  rcases List.append_eq_append_iff.mp h with ⟨more, rfl, -⟩ | ⟨more, hfront, hback⟩
  · exact .inl ⟨front, more, rfl⟩
  · cases more with
    | nil => exact .inl ⟨front, [], by simpa using hfront⟩
    | cons d more =>
      obtain ⟨rfl, rfl⟩ := List.cons.inj hback
      rcases List.append_eq_append_iff.mp hfront with ⟨between, -, hw⟩ | ⟨between, -, hmore⟩
      · exact absurd (by simp [hw]) hc
      · cases between with
        | nil =>
          obtain rfl : c :: more = w := hmore
          exact absurd List.mem_cons_self hc
        | cons d between =>
          obtain ⟨-, rfl⟩ := List.cons.inj hmore
          exact .inr ⟨between, back, rfl⟩

/-- A text without line feeds that stands in joined lines stands in one of them. -/
theorem infix_joinLines {w : List Char} (hfeed : '\n' ∉ w) {ls : List (List Char)} (hne : ls ≠ [])
    (hw : w <:+: joinLines ls) : ∃ line ∈ ls, w <:+: line :=
  exists_of_joinLines (fun _ _ => infix_append_sign hfeed) hne hw

/-- Joined lines start and end as lines do. -/
theorem head?_joinLines {allowed : Char → Bool} : ∀ {ls : List (List Char)}, ls ≠ [] →
    (∀ line ∈ ls, line.head?.any allowed = true) → (joinLines ls).head?.any allowed = true
  | [line], _, h => by simpa [joinLines_singleton] using h
  | line :: next :: more, _, h => by
      rw [joinLines_cons_cons]
      exact head?_append_of_any _ (h line (by simp))

theorem getLast?_joinLines {allowed : Char → Bool} : ∀ {ls : List (List Char)}, ls ≠ [] →
    (∀ line ∈ ls, line.getLast?.any allowed = true) → (joinLines ls).getLast?.any allowed = true
  | [line], _, h => by simpa [joinLines_singleton] using h
  | line :: next :: more, _, h => by
      have hmore : (joinLines (next :: more)).getLast?.any allowed = true :=
        getLast?_joinLines (by simp) fun line' hmem => h line' (List.mem_cons_of_mem _ hmem)
      rw [joinLines_cons_cons, ← List.singleton_append]
      exact getLast?_append_of_any _ (getLast?_append_of_any _ hmore)

/-- Lines joined in two parts. -/
theorem joinLines_append {more : List (List Char)} (hmore : more ≠ []) :
    ∀ {ls : List (List Char)}, ls ≠ [] →
      joinLines (ls ++ more) = joinLines ls ++ '\n' :: joinLines more
  | [line], _ => by
      obtain ⟨next, rest, rfl⟩ := List.exists_cons_of_ne_nil hmore
      rw [List.singleton_append, joinLines_cons_cons, joinLines_singleton]
  | line :: next :: rest, _ => by
      have ih : joinLines (next :: rest ++ more) =
          joinLines (next :: rest) ++ '\n' :: joinLines more :=
        joinLines_append hmore (List.cons_ne_nil _ _)
      rw [List.cons_append, List.cons_append, joinLines_cons_cons, ← List.cons_append, ih,
        joinLines_cons_cons, List.append_assoc, List.cons_append]

/-- An empty line at the end is a line feed. -/
theorem joinLines_concat_nil {ls : List (List Char)} (hne : ls ≠ []) :
    joinLines (ls ++ [[]]) = joinLines ls ++ ['\n'] := by
  rw [joinLines_append (List.cons_ne_nil _ _) hne, joinLines_singleton]

/-! ## Lines with their line feeds -/

/-- The lines, each but the last with the line feed that ends it. -/
def endLines : List (List Char) → List (List Char)
  | [] => []
  | [line] => [line]
  | line :: next :: more => (line ++ ['\n']) :: endLines (next :: more)

/-- **The lines of a text, each with the line feed that ends it**; the last line has none. -/
def endedLines (text : List Char) : List (List Char) := endLines (lines text)

/-- The line without the line feed that ends it. -/
def bareLine (line : List Char) : List Char := line.takeWhile (· ≠ '\n')

theorem flatten_endLines : ∀ ls : List (List Char), (endLines ls).flatten = joinLines ls
  | [] => rfl
  | [line] => by simp [endLines, joinLines_singleton]
  | line :: next :: more => by
      rw [endLines, List.flatten_cons, flatten_endLines (next :: more), joinLines_cons_cons,
        List.append_assoc, List.singleton_append]

/-- Nothing of the text is lost. -/
theorem flatten_endedLines (text : List Char) : (endedLines text).flatten = text := by
  rw [endedLines, flatten_endLines, joinLines_lines]

theorem bareLine_append {line rest : List Char} (hline : '\n' ∉ line)
    (hrest : rest.head?.all (· = '\n') = true) : bareLine (line ++ rest) = line := by
  have hall : ∀ c ∈ line, decide (c ≠ '\n') = true := fun c hc =>
    decide_eq_true fun heq => hline (heq ▸ hc)
  rw [bareLine, List.takeWhile_append_of_pos hall]
  cases rest with
  | nil => exact List.append_nil line
  | cons c rest =>
    obtain rfl : c = '\n' := by simpa using hrest
    exact List.append_nil line

end Recast.Text
