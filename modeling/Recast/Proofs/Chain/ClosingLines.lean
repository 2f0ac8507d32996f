import Recast.Chain.FromJavaScript
import Recast.Proofs.Chain.Steps
import Recast.Proofs.Pattern.LineFilter

/-!
# Proofs/Chain/ClosingLines — lines with nothing on them but a closing brace

The rule for such lines takes away the line together with its line feed, so it is the one rule of
its chain that changes how many lines there are. It sifts the lines (`sifts_closingLine`), and so
what it leaves of a text is what its other lines leave (`replaceFrom_closingLine`). Counted with the
line feeds that end them, lines go or stay as a whole (`apply_closingRule`).
-/

namespace Recast.Chain

open Form Pattern Text

/-! ## Closing lines -/

/-- Nothing stands on the line but a closing brace, perhaps with a semicolon. -/
def isClosing (line : List Char) : Bool :=
  match line.dropWhile isMargin with
  | '}' :: rest => rest.all isMargin || rest.head? == some ';' && rest.tail.all isMargin
  | _ => false

variable {line before rest run : List Char} {next : Next} {kept : List (Nat × Stretch)}

/-- The parts of a closing line. -/
theorem isClosing_iff : isClosing line = true ↔ ∃ margin tail blank,
    line = margin ++ '}' :: (tail ++ blank) ∧
    (∀ c ∈ margin, isMargin c = true) ∧ (tail = [] ∨ tail = [';']) ∧
    ∀ c ∈ blank, isMargin c = true := by
  constructor
  · intro h
    have hline := List.takeWhile_append_dropWhile (p := isMargin) (l := line)
    have hmargin : ∀ c ∈ line.takeWhile isMargin, isMargin c = true :=
      List.all_eq_true.mp List.all_takeWhile
    rw [isClosing] at h
    split at h
    · rename_i rest hrest
      rw [hrest] at hline
      rcases Bool.or_eq_true_iff.mp h with h | h
      · exact ⟨_, [], rest, hline.symm, hmargin, .inl rfl, List.all_eq_true.mp h⟩
      · obtain ⟨hsign, hblank⟩ := Bool.and_eq_true_iff.mp h
        cases rest with
        | nil => exact absurd hsign (by decide)
        | cons c rest =>
          obtain rfl : c = ';' := by simpa using hsign
          exact ⟨_, [';'], rest, hline.symm, hmargin, .inr rfl, List.all_eq_true.mp hblank⟩
    · exact absurd h (by simp)
  · rintro ⟨margin, tail, blank, rfl, hmargin, htail, hblank⟩
    have hall : blank.all isMargin = true := List.all_eq_true.mpr hblank
    rw [isClosing, List.dropWhile_append_of_pos hmargin]
    have hdrop : ∀ rest, List.dropWhile isMargin ('}' :: rest) = '}' :: rest := fun _ => rfl
    rw [hdrop]
    rcases htail with rfl | rfl
    · exact Bool.or_eq_true_iff.mpr (.inl hall)
    · exact Bool.or_eq_true_iff.mpr (.inr hall)

/-! ## Reading them -/

theorem shuns_closingLine : closingLine.Shuns (· == '\n') :=
  (Shuns.many_seq (fun c hc => by rw [beq_iff_eq.mp hc]; decide) (shuns_sign (by decide))).edge_seq

/-- Where the rule can be read at the start of a line, the line is a closing one. -/
theorem isClosing_of_read (hline : '\n' ∉ line) (hrest : rest.head?.all (· = '\n') = true)
    (h : (closingLine.readAt? ⟨before, line ++ rest, []⟩).isSome = true) :
      isClosing line = true := by
  obtain ⟨-, h⟩ := meets_of_read_edge h
  obtain ⟨margin, rest₁, hrest₁, hmargin, h⟩ := exists_of_read_many h
  obtain ⟨rest₂, hrest₂, h⟩ := exists_of_read_text h
  have htail : ∃ tail rest₃ before', rest₂ = tail ++ rest₃ ∧ (tail = [] ∨ tail = [';']) ∧
      ((all [Form.margin, .alt "\n" (.edge .lineEnd)]).read some
        ⟨before', rest₃, []⟩).isSome = true := by
    rcases isSome_of_read_alt h with h | h
    · obtain ⟨rest₃, hrest₃, h⟩ := exists_of_read_text h
      exact ⟨[';'], rest₃, _, hrest₃, .inr rfl, h⟩
    · exact ⟨[], rest₂, _, rfl, .inl rfl, h⟩
  obtain ⟨tail, rest₃, before', htail, hsign, h⟩ := htail
  obtain ⟨blank, rest₄, hrest₄, hblank, h⟩ := exists_of_read_many h
  have hend : rest₄.head?.all (· = '\n') = true := by
    rcases isSome_of_read_alt h with h | h
    · obtain ⟨rest₅, hrest₅, -⟩ := exists_of_read_text h
      rw [show rest₄ = "\n".toList ++ rest₅ from hrest₅]
      rfl
    · exact (meets_of_read_edge h).1
  have hfree : '\n' ∉ margin ++ '}' :: (tail ++ blank) := fun hmem => by
    simp only [List.mem_append, List.mem_cons] at hmem
    rcases hmem with hmem | hmem | hmem | hmem
    · exact absurd (hmargin _ hmem) (by decide)
    · exact absurd hmem (by decide)
    · rcases hsign with rfl | rfl
      · simp at hmem
      · exact absurd hmem (by decide)
    · exact absurd (hblank _ hmem) (by decide)
  have hcut : line ++ rest = (margin ++ '}' :: (tail ++ blank)) ++ rest₄ := by
    rw [show line ++ rest = margin ++ rest₁ from hrest₁,
      show rest₁ = "\x7d".toList ++ rest₂ from hrest₂,
      htail, show rest₃ = blank ++ rest₄ from hrest₄]
    simp
  rw [(Cue.eq_of_append_eq hrest hend hline hfree hcut).1]
  exact isClosing_iff.mpr ⟨margin, tail, blank, rfl, hmargin, hsign, hblank⟩

/-- A closing line is read together with its line feed, if it has one. -/
theorem read_closingLine (hclosing : isClosing line = true)
    (hbefore : before.head?.all (· = '\n') = true) (hrest : rest.head?.all (· = '\n') = true) :
    ∃ spot, closingLine.readAt? ⟨before, line ++ rest, []⟩ = some spot ∧ spot.rest = rest.tail := by
  obtain ⟨margin, tail, blank, rfl, hmargin, htail, hblank⟩ := isClosing_iff.mp hclosing
  have hline : margin ++ '}' :: (tail ++ blank) ++ rest =
      margin ++ ("\x7d".toList ++ (tail ++ (blank ++ rest))) := by simp
  have hnext : (blank ++ rest).head?.all (· ≠ ';') = true := by
    cases blank with
    | nil =>
      cases rest with
      | nil => rfl
      | cons c rest =>
        obtain rfl : c = '\n' := by simpa using hrest
        rfl
    | cons c blank =>
      have hc : c ≠ ';' := by
        rintro rfl
        exact absurd (hblank ';' (by simp)) (by decide)
      simpa using hc
  have hend : ∀ before, ∃ spot, (all [Form.margin, .alt "\n" (.edge .lineEnd)]).read some
      ⟨before, blank ++ rest, []⟩ = some spot ∧ spot.rest = rest.tail := fun before => by
    cases rest with
    | nil => exact ⟨_, read_many_of_eq_some hblank rfl rfl, rfl⟩
    | cons c rest =>
      obtain rfl : c = '\n' := by simpa using hrest
      exact ⟨_, read_many_of_eq_some hblank rfl rfl, rfl⟩
  have hmany : (all [Form.margin, "\x7d", optional ";", Form.margin,
    .alt "\n" (.edge .lineEnd)]).read some
      ⟨before, margin ++ ("\x7d".toList ++ (tail ++ (blank ++ rest))), []⟩ =
      (all [optional ";", Form.margin, .alt "\n" (.edge .lineEnd)]).read some
        ⟨"\x7d".toList.reverse ++ (margin.reverse ++ before), tail ++ (blank ++ rest), []⟩ := by
    rw [all_cons, read_seq, Form.margin, read_many hmargin rfl (shuns_sign rfl _), read_sign]
  rw [hline, readAt?, closingLine, read_lineStart hbefore, hmany]
  rcases htail with rfl | rfl
  · rw [List.nil_append, read_optional_of_ne rfl hnext]
    exact hend _
  · obtain ⟨spot, hspot, hrest⟩ := hend (";".toList.reverse ++ ("\x7d".toList.reverse ++
      (margin.reverse ++ before)))
    exact ⟨spot, read_optional_of_eq_some hspot, hrest⟩

/-! ## Taking them away -/

theorem sifts_closingLine (hline : '\n' ∉ line) : closingLine.Sifts isClosing line where
  reads hclosing _ _ hbefore hrest := read_closingLine hclosing hbefore hrest
  refuses hclosing before rest _ hrest := by
    by_contra hread
    have hgoes := isClosing_of_read hline hrest (Option.isSome_iff_ne_none.mpr hread)
    rw [hclosing] at hgoes
    exact absurd hgoes (by decide)

/-- **The rule takes away the closing lines**, each with its line feed. -/
theorem replaceFrom_closingLine {fill : Spot → List Char} (hfill : ∀ spot, fill spot = [])
    (ls : List (List Char)) {before : List Char} (hls : ∀ line ∈ ls, '\n' ∉ line)
    (hbefore : before.head?.all (· = '\n') = true) :
    closingLine.replaceFrom fill 0 before (joinLines ls) = dropLines isClosing ls :=
  replaceFrom_joinLines_dropLines startsLine_edge_seq shuns_closingLine hfill hls
    (fun line hline => sifts_closingLine (hls line hline)) hbefore

/-- **The rule is a filter on the ended lines of any text**: those that close a block go with their
line feeds, and all others stay in their order. -/
theorem apply_closingRule : ∃ rule, fromJavaScript.rule? "closing_brace" = some rule ∧
    ∀ text, rule.apply text =
      ((endedLines text).filter fun line => !isClosing (bareLine line)).flatten := by
  refine ⟨⟨"closing_brace", closingLine, []⟩, rfl, fun text => ?_⟩
  have hlines : ∀ line ∈ lines text, '\n' ∉ line := fun _ => not_mem_of_mem_lines
  have hdrop : closingLine.replaceAll (Phrase.fillFrom []) text =
      dropLines isClosing (lines text) :=
    replaceAll_eq_dropLines startsLine_edge_seq shuns_closingLine (fun _ => rfl) fun line hline =>
      sifts_closingLine (hlines line hline)
  exact hdrop.trans (dropLines_eq_flatten hlines)

end Recast.Chain
