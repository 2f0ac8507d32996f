import Recast.Proofs.Pattern.Takes
import Recast.Proofs.Text.Lines

/-!
# Proofs/Pattern/LineFilter — patterns that take whole lines away

A pattern that is read at the start of a line, and to its end, takes the line away together with its
line feed when nothing is written in its place. It is settled line by line whether that happens
(`Pattern.Sifts`), and then the pattern works as a filter on the lines of a text
(`replaceAll_eq_dropLines`).

What such a filter leaves is *not* the other lines joined again: where the last line goes, the line
feed in front of it stays (`dropLines_eq`). Trimming takes that line feed away too
(`trim_dropLines`), and if each line counts with the line feed that ends it, there is nothing to
except (`dropLines_eq_flatten`).
-/

namespace Recast

/-! ## What is left of the lines -/

namespace Text

/-- What is left of lines when some are taken away, each with its line feed. -/
def dropLines (drops : List Char → Bool) : List (List Char) → List Char
  | [] => []
  | [line] => if drops line then [] else line
  | line :: next :: more =>
    (if drops line then [] else line ++ ['\n']) ++ dropLines drops (next :: more)

/-- The lines that are left, and an empty one if the last line goes. -/
def linesLeft (drops : List Char → Bool) (ls : List (List Char)) : List (List Char) :=
  ls.filter (!drops ·) ++ if ls.getLast?.any drops then [[]] else []

variable {drops : List Char → Bool} {ls : List (List Char)} {text : List Char}

theorem linesLeft_ne_nil (hne : ls ≠ []) : linesLeft drops ls ≠ [] := by
  obtain ⟨last, hlast⟩ : ∃ last, ls.getLast? = some last := ⟨_, List.getLast?_eq_some_getLast hne⟩
  rw [linesLeft, hlast]
  cases hdrops : drops last with
  | true => simp [hdrops]
  | false =>
    have hmem : last ∈ ls.filter (!drops ·) :=
      List.mem_filter.mpr ⟨List.mem_of_getLast? hlast, by simp [hdrops]⟩
    exact fun hnil => List.ne_nil_of_mem hmem (List.append_eq_nil_iff.mp hnil).1

theorem linesLeft_cons_cons (drops : List Char → Bool) (line next : List Char)
    (more : List (List Char)) : linesLeft drops (line :: next :: more) =
      if drops line then linesLeft drops (next :: more)
      else line :: linesLeft drops (next :: more) := by
  rw [linesLeft, linesLeft, List.getLast?_cons_cons, List.filter_cons]
  cases drops line <;> rfl

/-- **Only the line feed of the last line can be left over.** -/
theorem dropLines_eq : ∀ {ls : List (List Char)}, ls ≠ [] →
    dropLines drops ls = joinLines (linesLeft drops ls)
  | [line], _ => by
      cases hdrops : drops line <;> simp [dropLines, linesLeft, hdrops, joinLines_singleton]
  | line :: next :: more, _ => by
      have hmore : dropLines drops (next :: more) = joinLines (linesLeft drops (next :: more)) :=
        dropLines_eq (List.cons_ne_nil next more)
      rw [dropLines, hmore, linesLeft_cons_cons]
      cases drops line with
      | true => rfl
      | false =>
        cases hleft : linesLeft drops (next :: more) with
        | nil => exact absurd hleft (linesLeft_ne_nil (List.cons_ne_nil next more))
        | cons first rest => simp [joinLines_cons_cons]

/-- **What is left are the ended lines that do not go**, one after the other. -/
theorem dropLines_eq_flatten : ∀ {ls : List (List Char)}, (∀ line ∈ ls, '\n' ∉ line) →
    dropLines drops ls = ((endLines ls).filter fun line => !drops (bareLine line)).flatten
  | [], _ => rfl
  | [line], h => by
      have hbare : bareLine (line ++ []) = line := bareLine_append (h line List.mem_cons_self) rfl
      rw [List.append_nil] at hbare
      cases hdrops : drops line <;> simp [dropLines, endLines, hbare, hdrops]
  | line :: next :: more, h => by
      have hbare : bareLine (line ++ ['\n']) = line :=
        bareLine_append (h line List.mem_cons_self) rfl
      have hmore : dropLines drops (next :: more) = _ :=
        dropLines_eq_flatten fun l hl => h l (List.mem_cons_of_mem line hl)
      rw [dropLines, hmore, endLines, List.filter_cons, hbare]
      cases drops line <;> rfl

theorem trim_append_blank {c : Char} (hc : isBlank c = true) (text : List Char) :
    trim (text ++ [c]) = trim text := by
  have hend : ∀ rest, trimEnd (rest ++ [c]) = trimEnd rest := fun rest => by
    rw [trimEnd, trimEnd, List.reverse_append, List.reverse_singleton, List.singleton_append,
      List.dropWhile_cons_of_pos hc]
  rw [trim, trim, trimStart, trimStart, List.dropWhile_append]
  split
  · rename_i hnil
    rw [List.isEmpty_iff.mp hnil, List.dropWhile_cons_of_pos hc]
    rfl
  · exact hend _

/-- **Trimmed, what is left is the other lines joined.** -/
theorem trim_dropLines (hne : ls ≠ []) :
    trim (dropLines drops ls) = trim (joinLines (ls.filter (!drops ·))) := by
  rw [dropLines_eq hne, linesLeft]
  cases ls.getLast?.any drops with
  | false => simp
  | true =>
    rw [if_pos rfl]
    cases hkept : ls.filter (!drops ·) with
    | nil => rfl
    | cons first more =>
      rw [joinLines_concat_nil (List.cons_ne_nil first more)]
      exact trim_append_blank (by decide) _

end Text

open Text

/-! ## Patterns that take lines away -/

namespace Pattern

variable {p : Pattern} {ps : List Pattern} {fill : Spot → List Char} {drops : List Char → Bool}
  {before line rest : List Char} {kept : List (Nat × Stretch)} {spot : Spot}

/-- The end of a line, with the line feed if there is one. -/
def lineBreak : Pattern := .alt (.text "\n") (.edge .lineEnd)

/-- **The pattern takes the line away if it is to go, and cannot be read if not**, wherever the line
stands between two line ends. -/
structure Sifts (p : Pattern) (drops : List Char → Bool) (line : List Char) : Prop where
  reads : drops line = true → ∀ before rest, before.head?.all (· = '\n') = true →
    rest.head?.all (· = '\n') = true →
      ∃ spot, p.readAt? ⟨before, line ++ rest, []⟩ = some spot ∧ spot.rest = rest.tail
  refuses : drops line = false → ∀ before rest, before.head?.all (· = '\n') = true →
    rest.head?.all (· = '\n') = true → p.readAt? ⟨before, line ++ rest, []⟩ = none

theorem tail_of_read_lineBreak (h : lineBreak.read some ⟨before, rest, kept⟩ = some spot) :
    rest.head?.all (· = '\n') = true ∧ spot.rest = rest.tail := by
  rw [lineBreak, read_alt] at h
  rcases Option.or_eq_some_iff.mp h with hfeed | ⟨hfeed, hedge⟩
  · obtain ⟨tail, htail, hspot⟩ := exists_of_read_text_eq_some hfeed
    obtain rfl : rest = '\n' :: tail := htail
    obtain rfl : _ = spot := Option.some.inj hspot
    exact ⟨rfl, rfl⟩
  · obtain ⟨hmeets, -⟩ := meets_of_read_edge (Option.isSome_of_eq_some hedge)
    rw [read_edge _ hmeets] at hedge
    obtain rfl : _ = spot := Option.some.inj hedge
    refine ⟨hmeets, ?_⟩
    cases rest with
    | nil => rfl
    | cons c tail =>
      -- the line feed would have been read
      obtain rfl : c = '\n' := by simpa [Spot.meets] using hmeets
      exact absurd (hfeed.symm.trans (read_text "\n" some before tail kept)) (by simp)

/-- What is read within a line and up to its end is the whole line. -/
theorem rest_of_read_lineBreak (hps : (all ps).takesInline = true) (hline : '\n' ∉ line)
    (hrest : rest.head?.all (· = '\n') = true)
    (h : (all (ps ++ [lineBreak])).read some ⟨before, line ++ rest, kept⟩ = some spot) :
    spot.rest = rest.tail := by
  rw [read_all_append] at h
  obtain ⟨taken, rest', kept', hcut, htakes, hread⟩ := exists_takes_of_read h
  obtain ⟨hend, hspot⟩ := tail_of_read_lineBreak hread
  have hwhole := Cue.eq_of_append_eq hrest hend hline (htakes.lineFeed_not_mem hps) hcut
  rw [hspot, hwhole.2]

/-- One line is taken away or passed over. -/
theorem Sifts.replaceFrom_line (h : p.Sifts drops line) (hstart : p.StartsLine)
    (hline : '\n' ∉ line) (hfill : ∀ spot, fill spot = [])
    (hbefore : before.head?.all (· = '\n') = true) (hrest : rest.head?.all (· = '\n') = true)
    (hne : line ++ rest ≠ []) :
    p.replaceFrom fill 0 before (line ++ rest) =
      if drops line then p.replaceFrom fill 0 ((line ++ rest.take 1).reverse ++ before) rest.tail
      else line ++ p.replaceFrom fill 0 (line.reverse ++ before) rest := by
  cases hdrops : drops line with
  | true =>
    obtain ⟨spot, hspot, hend⟩ := h.reads hdrops before rest hbefore hrest
    have hcut : line ++ rest = (line ++ rest.take 1) ++ rest.tail := by
      rw [List.append_assoc, ← List.drop_one, List.take_append_drop]
    have htaken : line ++ rest.take 1 ≠ [] := by
      rintro hnil
      obtain ⟨rfl, htake⟩ := List.append_eq_nil_iff.mp hnil
      obtain rfl : rest = [] := by simpa using htake
      exact hne rfl
    rw [hcut] at hspot ⊢
    rw [replaceFrom_of_read htaken hend hspot, hfill, if_pos rfl, List.nil_append]
  | false =>
    have hmisses : p.Misses before line rest :=
      misses_of_startsLine hstart hline (h.refuses hdrops before rest hbefore hrest)
    rw [replaceFrom_of_misses hmisses, if_neg (by decide)]

/-- **The lines are taken away one by one**, each with its line feed. -/
theorem replaceFrom_joinLines_dropLines (hstart : p.StartsLine) (hbreak : p.Shuns (· == '\n'))
    (hfill : ∀ spot, fill spot = []) : ∀ {ls : List (List Char)} {before : List Char},
      (∀ line ∈ ls, '\n' ∉ line) → (∀ line ∈ ls, p.Sifts drops line) →
      before.head?.all (· = '\n') = true →
      p.replaceFrom fill 0 before (joinLines ls) = dropLines drops ls
  | [], _, _, _, _ => rfl
  | [[]], _, _, _, _ => by
      rw [joinLines_singleton, dropLines, ite_self]
      rfl
  | [c :: line], before, hls, hsifts, hbefore => by
      have hmem := List.mem_singleton_self (c :: line)
      have hline : p.replaceFrom fill 0 before (c :: line ++ []) = _ :=
        (hsifts _ hmem).replaceFrom_line hstart (hls _ hmem) hfill hbefore rfl (by simp)
      rw [List.append_nil] at hline
      rw [joinLines_singleton, dropLines, hline]
      simp [replaceFrom]
  | line :: next :: more, before, hls, hsifts, hbefore => by
      have hbelow : ∀ before : List Char, p.replaceFrom fill 0 ('\n' :: before)
          (joinLines (next :: more)) = dropLines drops (next :: more) := fun before =>
        replaceFrom_joinLines_dropLines hstart hbreak hfill
          (fun l hl => hls l (List.mem_cons_of_mem _ hl))
          (fun l hl => hsifts l (List.mem_cons_of_mem _ hl)) rfl
      have hfeed : p.Misses (line.reverse ++ before) ['\n'] (joinLines (next :: more)) :=
        misses_of_shuns hbreak (by simp)
      rw [joinLines_cons_cons, dropLines,
        (hsifts line List.mem_cons_self).replaceFrom_line hstart (hls line List.mem_cons_self) hfill
          hbefore rfl (by simp), ← List.singleton_append, replaceFrom_of_misses hfeed]
      cases drops line with
      | true => simpa using hbelow _
      | false => simpa using hbelow _

/-- **A pattern that sifts lines is a filter on the lines of a text.** -/
theorem replaceAll_eq_dropLines (hstart : p.StartsLine) (hbreak : p.Shuns (· == '\n'))
    (hfill : ∀ spot, fill spot = []) {text : List Char}
    (hsifts : ∀ line ∈ lines text, p.Sifts drops line) :
    p.replaceAll fill text = dropLines drops (lines text) := by
  have hlines : p.replaceFrom fill 0 [] (joinLines (lines text)) = dropLines drops (lines text) :=
    replaceFrom_joinLines_dropLines hstart hbreak hfill (fun _ => not_mem_of_mem_lines) hsifts rfl
  rw [joinLines_lines] at hlines
  exact hlines

end Pattern

end Recast
