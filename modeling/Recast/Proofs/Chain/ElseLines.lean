import Recast.Proofs.Chain.Steps

/-!
# Proofs/Chain/ElseLines — closing braces in front of `else`

The two rules for `else` look beyond the end of a line: behind a closing brace they pass over blanks
of any kind, line feeds too, and want the word to follow. So they do not work line by line as the
others do. A line that holds nothing but a closing brace is left as it is only where the text goes
on without that word (`SkipsElse`), which it does where no line starts with it.
-/

namespace Recast

open Form Pattern Text Source

/-! ## Lines that do not start with the word -/

namespace Chain

/-- What follows does not go on with `else`, behind blanks of any kind. -/
def SkipsElse (rest : List Char) : Prop :=
  ∀ blank tail, rest = blank ++ ("else".toList ++ tail) → (∀ c ∈ blank, isBlank c = true) →
    tail.head?.any isWord = true

theorem skipsElse_nil : SkipsElse [] := fun blank tail h _ => absurd h (by simp)

/-- The first word of a line is not `else`. -/
theorem skipsElse_line {ink : List Char} (hink : ink.head?.any isBlank = false)
    (hword : ink.takeWhile isWord ≠ "else".toList) (depth : Nat) :
    SkipsElse ('\n' :: (indentation depth ++ ink)) := by
  intro blank tail hcut hblank
  have hspace : ∀ c ∈ '\n' :: indentation depth, isBlank c = true :=
    List.forall_mem_cons.mpr ⟨by decide, forall_mem_indentation (by decide)⟩
  have hself : ink.dropWhile isBlank = ink := by
    cases ink with
    | nil => rfl
    | cons c ink => rw [List.dropWhile_cons, if_neg (by simpa using hink)]
  have helse : ink = "else".toList ++ tail := by
    have hdrop := congrArg (List.dropWhile isBlank) hcut
    rw [← List.cons_append, List.dropWhile_append_of_pos hspace, hself,
      List.dropWhile_append_of_pos hblank] at hdrop
    exact hdrop
  by_contra htail
  refine hword ?_
  have hword : ∀ c ∈ "else".toList, isWord c = true := List.all_eq_true.mp (by decide)
  rw [helse, List.takeWhile_append_of_pos hword]
  cases tail with
  | nil => rfl
  | cons c tail => rw [List.takeWhile_cons, if_neg (by simpa using htail), List.append_nil]

end Chain

/-- The first word of the stencil ends in it, and is not `else`, unless it is what fills a blank. -/
def Stencil.skipsElse : Stencil → Bool
  | .text chars :: _ => chars.any (!isWord ·) && chars.takeWhile isWord != "else".toList
  | .blank _ :: .text chars :: _ => chars.head?.any (!isWord ·)
  | _ => false

namespace Chain

/-- **What starts with a name, or with some other word,** does not go on with `else`. -/
theorem skipsElse_fill {kinds : List Blank} {values : List (List Char)} {stencil : Stencil}
    (hfits : List.Forall₂ Blank.Fits kinds values) (hink : stencil.startsInk kinds = true)
    (hskips : stencil.skipsElse = true) (depth : Nat) (more : List Char) :
    SkipsElse ('\n' :: (indentation depth ++ stencil.fill (fillers values) ++ more)) := by
  rw [List.append_assoc]
  refine skipsElse_line ?_ ?_ depth
  · obtain ⟨c, rest, hfill, hc⟩ := Stencil.exists_fill_of_startsInk hfits hink
    simpa [hfill] using hc
  · match stencil with
    | .text chars :: rest =>
      obtain ⟨hend, hne⟩ := Bool.and_eq_true_iff.mp hskips
      rw [Stencil.fill_text, List.append_assoc, takeWhile_append_of_any _ hend]
      simpa using hne
    | .blank n :: .text (c :: chars) :: rest =>
      have hword : IsWordRun (fillers values n) := isWordRun_of_isWordAt hfits hink
      have hc : isWord c = false := by simpa [Stencil.skipsElse] using hskips
      rw [Stencil.fill_blank, Stencil.fill_text, List.append_assoc,
        List.takeWhile_append_of_pos hword.isWord, List.cons_append, List.cons_append,
        List.takeWhile_cons, if_neg (by simp [hc]), List.append_nil]
      intro helse
      have hmem : "else".toList ∈ words (fillers values n) := by
        rw [words_of_all hword.isWord, helse]
        exact List.mem_singleton_self _
      have hreserved := (tame_fillers hfits n).unreserved _ hmem
      exact absurd hreserved (by decide)

/-! ## Closing braces -/

variable {rule : Rule} {before rest : List Char} {ps : List Pattern}

/-- A closing brace is not the one in front of an `else`. -/
theorem read_brace_else (hps : (all ps).Shuns isWord) (hrest : SkipsElse rest) :
    (all (.text "\x7d" :: blanks :: .text "else" :: ps)).readAt?
      ⟨before, '}' :: rest, []⟩ = none := by
  by_contra hread
  obtain ⟨rest₁, hrest₁, h⟩ := exists_of_read_text (Option.isSome_iff_ne_none.mpr hread)
  obtain ⟨blank, rest₂, hrest₂, hblank, h⟩ := exists_of_read_many h
  obtain ⟨tail, htail, h⟩ := exists_of_read_text h
  obtain rfl : rest = rest₁ := (List.cons.inj hrest₁).2
  have hcut : rest = blank ++ ("else".toList ++ tail) := by
    rw [show rest = blank ++ rest₂ from hrest₂, show rest₂ = "else".toList ++ tail from htail]
  have hword := hrest blank tail hcut hblank
  cases tail with
  | nil => exact absurd hword (by simp)
  | cons c tail =>
    have hnone := hps some c (by simpa using hword)
    exact absurd (hnone _ _ _) (Option.isSome_iff_ne_none.mp h)

/-- **A line with nothing but a closing brace is left as it is.** -/
theorem turnsBefore_brace (hpattern : rule.pattern =
    all (.text "\x7d" :: blanks :: .text "else" :: ps))
    (hps : (all ps).Shuns isWord) (depth : Nat) :
    rule.TurnsBefore SkipsElse (indentation depth ++ ['}']) (indentation depth ++ ['}']) := by
  intro before rest _ _ hskips
  have hshuns : rule.pattern.Shuns (· != '}') := by
    rw [hpattern]
    exact shuns_sign rfl
  have hspace : ∀ c ∈ indentation depth, (c != '}') = true := forall_mem_indentation (by decide)
  have hbrace : rule.pattern.Misses ((indentation depth).reverse ++ before) ['}'] rest := by
    rw [hpattern]
    exact .cons (read_brace_else hps hskips) misses_nil
  exact replaceFrom_of_misses ((misses_of_shuns hshuns hspace).append hbrace)

end Chain

end Recast
