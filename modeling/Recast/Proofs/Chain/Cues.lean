import Recast.Chain.Forms
import Recast.Proofs.Pattern.Cue

/-!
# Proofs/Chain/Cues — the words and signs that the statement forms look for

A form that starts with a keyword shows the keyword, an assignment its equality sign and the signs
of its value, a method its dot and name. A line without them is none of the form's business.
-/

namespace Recast.Form

open Pattern Text

/-! ## Characters -/

/-- Spaces and tabs are blanks. -/
theorem isBlank_of_isMargin {c : Char} (h : isMargin c = true) : isBlank c = true := by
  rcases Bool.or_eq_true_iff.mp h with h | h <;> rw [beq_iff_eq.mp h] <;> decide

theorem isWord_of_isMargin (c : Char) (h : isMargin c = true) : isWord c = false :=
  isWord_of_isBlank c (isBlank_of_isMargin h)

theorem isMargin_of_isWord (c : Char) (h : isWord c = true) : isMargin c = false := by
  cases hm : isMargin c with
  | false => rfl
  | true => rw [isWord_of_isMargin c hm] at h; exact absurd h (by simp)

/-! ## Keywords -/

variable {name : String} {q : Pattern} {ps : List Pattern} {cues : List Cue} {allowed : Char → Bool}

/-- A keyword in front of something that is no word character. -/
theorem shows_keyword (hplain : (Cue.word name.toList).isPlain = true)
    (h : (all ps).Shuns isWord) : (all (keyword name :: ps)).Shows [.word name.toList] :=
  fun next s hread => shows_word_of_shuns hplain h next s hread

/-- A gap does not start with a word character. -/
theorem shuns_gap : (all (gap :: ps)).Shuns isWord :=
  Shuns.seq (shuns_many1 isBlank_of_isWord)

/-- What starts with perhaps some blanks shuns what comes behind them shuns, blanks apart. -/
theorem shuns_blanks (hallowed : ∀ c, allowed c = true → isBlank c = false)
    (h : (all ps).Shuns allowed) : (all (blanks :: ps)).Shuns allowed := h.many_seq hallowed

/-- The same for spaces and tabs. -/
theorem shuns_margin (hallowed : ∀ c, allowed c = true → isMargin c = false)
    (h : (all ps).Shuns allowed) : (all (margin :: ps)).Shuns allowed := h.many_seq hallowed

/-- A sign shuns every class that its first character is not in. -/
theorem shuns_sign {sign : String} (h : (sign.toList.head?.any fun c => !allowed c) = true) :
    (all (.text sign :: ps)).Shuns allowed := (shuns_text h).seq

theorem shuns_word {number : Nat} (hallowed : ∀ c, allowed c = true → isWord c = false) :
    (all (.group number word :: ps)).Shuns allowed := (shuns_many1 hallowed).group.seq

theorem shuns_digits {number : Nat} (hallowed : ∀ c, allowed c = true → isDigit c = false) :
    (all (.group number digits :: ps)).Shuns allowed := (shuns_many1 hallowed).group.seq

/-- A call shows the name of what is called. -/
theorem call_shows (callee : String) (argument : List Pattern)
    (hplain : (Cue.word callee.toList).isPlain = true) :
    (call callee argument).Shows [.word callee.toList] :=
  shows_keyword hplain (shuns_blanks isBlank_of_isWord (shuns_sign (by decide)))

/-- A definition shows its keyword, and so do the headers below. -/
theorem definition_shows : definition.Shows [.word "def".toList] :=
  shows_keyword (by decide) shuns_gap

theorem header_shows (name : String) (hplain : (Cue.word name.toList).isPlain = true) :
    (header name).Shows [.word name.toList] := shows_keyword hplain shuns_gap

theorem bareHeader_shows (name : String) (hplain : (Cue.word name.toList).isPlain = true) :
    (bareHeader name).Shows [.word name.toList] :=
  shows_keyword hplain (shuns_blanks isBlank_of_isWord (shuns_sign (by decide)))

theorem forIn_shows : forIn.Shows [.word "for".toList] := shows_keyword (by decide) shuns_gap

theorem exceptAs_shows : exceptAs.Shows [.word "except".toList] :=
  shows_keyword (by decide) shuns_gap

theorem exceptKind_shows : exceptKind.Shows [.word "except".toList] :=
  shows_keyword (by decide) shuns_gap

theorem classHeader_shows : classHeader.Shows [.word "class".toList] :=
  shows_keyword (by decide) shuns_gap

theorem classExtends_shows : classExtends.Shows [.word "class".toList] :=
  shows_keyword (by decide) shuns_gap

theorem len_shows : len.Shows [.word "len".toList] :=
  shows_keyword (by decide) (shuns_sign (by decide))

/-! ## Lines that start with their indentation -/

theorem stays_margin : (Pattern.group 1 margin).Stays := (stays_many (by decide)).group

/-- Behind spaces and tabs a word may begin if it may begin before them. -/
theorem head?_behind_margin {run before : List Char} (hrun : ∀ c ∈ run, isMargin c = true)
    (hbefore : before.head?.any isWord = false) :
      (run.reverse ++ before).head?.any isWord = false := by
  cases hr : run.reverse with
  | nil => exact hbefore
  | cons c more =>
    have hc : c ∈ run := List.mem_reverse.mp (hr ▸ List.mem_cons_self)
    simpa using isWord_of_isMargin c (hrun c hc)

/-- Spaces and tabs are no line feeds. -/
theorem not_mem_of_margin {run : List Char} (hrun : ∀ c ∈ run, isMargin c = true) : '\n' ∉ run :=
  fun hmem => absurd (hrun _ hmem) (by decide)

/-- No word ends in front of a line. -/
theorem head?_of_lineStart {s : Spot} (h : s.meets .lineStart = true) :
    s.before.head?.any isWord = false := by
  cases hb : s.before with
  | nil => rfl
  | cons c before =>
    obtain rfl : c = '\n' := by simpa [Spot.meets, hb] using h
    exact (by decide : isWord '\n' = false)

/-- No word goes on behind a line. -/
theorem head?_of_lineEnd {s : Spot} (h : s.meets .lineEnd = true) :
    s.rest.head?.any isWord = false := by
  cases hr : s.rest with
  | nil => rfl
  | cons c rest =>
    obtain rfl : c = '\n' := by simpa [Spot.meets, hr] using h
    exact (by decide : isWord '\n' = false)

/-- Where a gap is read no word goes on. -/
theorem head?_of_read_gap {next : Next} {s : Spot}
    (h : ((all (gap :: ps)).read next s).isSome = true) :
    s.rest.head?.any isWord = false := by
  obtain ⟨before, rest, kept⟩ := s
  cases rest with
  | nil => rfl
  | cons c rest =>
    cases hc : isWord c with
    | false => simp [hc]
    | true =>
      rw [shuns_gap next c hc] at h
      exact absurd h (by simp)

/-- A returned value shows the keyword. It is read without a word edge, but stands at the start of
its line, and a gap follows. -/
theorem returnLine_shows : returnLine.Shows [.word "return".toList] := by
  intro next s hread
  obtain ⟨hstart, hread⟩ := meets_of_read_edge hread
  obtain ⟨run, rest, hrest, hrun, hread⟩ := exists_of_read_many hread
  obtain ⟨tail, htail, hread⟩ := exists_of_read_text hread
  exact ⟨_, List.mem_singleton_self _, run, rest, not_mem_of_margin hrun, hrest,
    head?_behind_margin hrun (head?_of_lineStart hstart), tail, htail, head?_of_read_gap hread⟩

/-- A comment shows its sign, behind nothing but spaces and tabs. -/
theorem comment_shows : comment.Shows [.text ['#']] :=
  .behind stays_edge (.behind stays_margin shows_text.seq)

/-! ## Assignments -/

theorem stays_name : (Pattern.group 2 word).Stays := (stays_many1 (by decide)).group

/-- An assignment shows its equality sign. -/
theorem assign_shows (value : List Pattern) : (assign value).Shows [.text ['=']] :=
  .behind stays_edge <| .behind stays_margin <| .behind stays_name <|
    .behind (stays_many (by decide)) shows_text.seq

/-- An assignment shows what its value shows. -/
theorem assign_shows_of_value {value : List Pattern}
    (h : (all (value ++ [.edge .lineEnd])).Shows cues) : (assign value).Shows cues :=
  .behind stays_edge <| .behind stays_margin <| .behind stays_name <|
    .behind (stays_many (by decide)) <| .behind (stays_text (by decide)) <|
      .behind (stays_many (by decide)) h

/-- An assigned text shows its quote. -/
theorem assignText_shows (quote : Char) : (assignText quote).Shows [.text [quote]] :=
  assign_shows_of_value (shows_one fun _ => beq_iff_eq.mp).seq

/-- An assigned list shows its bracket. -/
theorem assignBetween_shows (opening closing : Char) :
    (assignBetween opening closing).Shows [.text [opening]] :=
  assign_shows_of_value (shows_one fun _ => beq_iff_eq.mp).seq

/-- An assigned fraction shows its point. -/
theorem assignFloat_shows : assignFloat.Shows [.text ['.']] :=
  assign_shows_of_value <| .seq <| .group <| .behind (stays_many1 (by decide)) shows_text.seq

/-- An assigned word is a word of its own, as it ends the line. -/
theorem assignWord_shows (value : String) : (assignWord value).Shows [.word value.toList] :=
  .behind stays_edge <| .behind stays_margin <| .behind stays_name <|
    .behind (stays_many (by decide)) fun next s hread => by
      obtain ⟨rest, hrest, hread⟩ := exists_of_read_text hread
      obtain ⟨run, tail, htail, hrun, hread⟩ := exists_of_read_many hread
      obtain ⟨end', hend, hread⟩ := exists_of_read_text hread
      have hskip : '\n' ∉ "=".toList ++ run := by simp [not_mem_of_margin hrun]
      refine ⟨_, List.mem_singleton_self _, "=".toList ++ run, tail, hskip, ?_, ?_⟩
      · rw [hrest, show rest = run ++ tail from htail, List.append_assoc]
      · refine ⟨?_, end', hend, head?_of_lineEnd (meets_of_read_edge hread).1⟩
        rw [List.reverse_append, List.append_assoc]
        exact head?_behind_margin hrun (by simpa using (by decide : isWord '=' = false))

/-! ## Methods -/

/-- A method shows its dot, its name and the parenthesis, as one text. -/
theorem methodOpen_shows (name : String) :
    (methodOpen name).Shows [.text ("." ++ name ++ "(").toList] := shows_text

theorem methodCall_shows (name : String) :
    (methodCall name).Shows [.text ("." ++ name ++ "()").toList] := shows_text

theorem stays_receiver : (Pattern.group 1 word).Stays := (stays_many1 (by decide)).group

/-- A method on a receiver shows the same behind the receiver's name. -/
theorem appendTo_shows : appendTo.Shows [.text ".append(".toList] :=
  .behind stays_edge (.behind stays_receiver shows_text.seq)

theorem methodOn_shows (name : String) :
    (methodOn name).Shows [.text ("." ++ name ++ "()").toList] :=
  .behind stays_edge (.behind stays_receiver (methodCall_shows name).seq)

end Recast.Form
