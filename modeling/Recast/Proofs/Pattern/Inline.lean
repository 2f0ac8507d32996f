import Recast.Proofs.Pattern.Takes

/-!
# Proofs/Pattern/Inline — patterns that see no further than their line

A pattern is **inline** if it takes no line feed and looks at nothing but the characters next to a
place (`Pattern.staysInline`). To such a pattern the line feed behind a line is as good as the end
of the text, and the one in front of it as good as the start. So on a line alone it is read as it is
within any text, with the same stretches kept (`Pattern.framed_read`), and a rule that looks for it
makes a text into what it makes of each line on its own (`Rule.apply_eq_joinLines_map`).

What carries the proof is the surrounded place (`Spot.within`): reading commutes with putting text
around a place, as long as a line ends where that text begins.
-/

namespace Recast

open Text

/-! ## A place with text around it -/

/-- The stretch in a text that goes on with `after`. -/
def Stretch.extend (after : List Char) (stretch : Stretch) : Stretch :=
  ⟨stretch.fromStart ++ after, stretch.fromEnd ++ after⟩

/-- The stretches in a text that goes on with `after`, under the same numbers. -/
def Stretch.extendAll (after : List Char) (kept : List (Nat × Stretch)) : List (Nat × Stretch) :=
  kept.map fun entry => (entry.1, entry.2.extend after)

/-- **The place with text around it**: `before` in front, its nearest character first, and `after`
behind. -/
def Spot.within (before after : List Char) (s : Spot) : Spot :=
  ⟨s.before ++ before, s.rest ++ after, Stretch.extendAll after s.kept⟩

section Within

variable {before after front rest : List Char} {s : Spot} {kept : List (Nat × Stretch)}
  {phrase : Phrase} {condition : Edge} {c : Char}

theorem Stretch.chars_extend (stretch : Stretch) :
    (stretch.extend after).chars = stretch.chars := by
  obtain ⟨fromStart, fromEnd⟩ := stretch
  have hlength : (fromStart ++ after).length - (fromEnd ++ after).length =
      fromStart.length - fromEnd.length := by
    rw [List.length_append, List.length_append]
    omega
  rw [extend, chars, hlength, List.take_append_of_le_length (Nat.sub_le _ _)]
  rfl

theorem Stretch.lookup_extendAll (number : Nat) : ∀ kept : List (Nat × Stretch),
    (extendAll after kept).lookup number = (kept.lookup number).map (extend after)
  | [] => rfl
  | (n, stretch) :: kept => by
      have ih := lookup_extendAll number kept
      rw [extendAll] at ih ⊢
      rw [List.map_cons, List.lookup_cons, List.lookup_cons, ih]
      cases number == n <;> rfl

/-- On a line that goes on, the same character comes next. -/
theorem Spot.within_cons : Spot.within before after ⟨front, c :: rest, kept⟩ =
    ⟨front ++ before, c :: (rest ++ after), Stretch.extendAll after kept⟩ := rfl

/-- At the end of the line, what comes next is the text behind it. -/
theorem Spot.within_nil : Spot.within before after ⟨front, [], kept⟩ =
    ⟨front ++ before, after, Stretch.extendAll after kept⟩ := rfl

theorem Spot.keptText?_within (number : Nat) :
    (s.within before after).keptText? number = s.keptText? number := by
  rw [keptText?, keptText?, within, Stretch.lookup_extendAll, Option.map_map]
  exact congrArg (fun f => (s.kept.lookup number).map f) (funext Stretch.chars_extend)

/-- What is written depends on the kept texts only. -/
theorem Phrase.fillFrom_within : phrase.fillFrom (s.within before after) = phrase.fillFrom s := by
  rw [fillFrom, fillFrom]
  exact congrArg phrase.fill (funext fun number => by rw [Spot.keptText?_within])

/-! ## Conditions on the line -/

/-- Whether a place meets the condition is seen on its line. -/
def Edge.looksInline : Edge → Bool
  | .word | .lineStart | .lineEnd => true
  | .ahead allowed => !allowed '\n'
  | .start | .finish | .notBehind _ => false

theorem Text.head?_all_append (hafter : after.head?.all (· = '\n') = true) (line : List Char) :
    (line ++ after).head?.all (· = '\n') = line.head?.all (· = '\n') := by
  cases line with
  | nil => exact hafter
  | cons c line => rfl

/-- **Between two line ends** a place meets the conditions that it meets on the line alone. -/
theorem Spot.meets_within (hbefore : before.head?.all (· = '\n') = true)
    (hafter : after.head?.all (· = '\n') = true) (hcondition : condition.looksInline = true) :
    (s.within before after).meets condition = s.meets condition := by
  cases condition with
  | word =>
    have hword : isWord '\n' = false := by decide
    exact congrArg₂ (· != ·) (head?_any_append hword hbefore s.before)
      (head?_any_append hword hafter s.rest)
  | lineStart => exact head?_all_append hbefore s.before
  | lineEnd => exact head?_all_append hafter s.rest
  | ahead allowed =>
    have hfeed : allowed '\n' = false := by simpa [Edge.looksInline] using hcondition
    exact head?_any_append hfeed hafter s.rest
  | start | finish | notBehind => cases hcondition

end Within

/-! ## Reading within a text -/

namespace Pattern

variable {p : Pattern} {allowed : Char → Bool} {next next' : Next} {before after : List Char}
  {word : String} {fill : Spot → List Char}

/-- The pattern looks at nothing beyond the characters next to a place. -/
def looksInline : Pattern → Bool
  | .seq p q | .alt p q => p.looksInline && q.looksInline
  | .group _ p => p.looksInline
  | .edge condition => condition.looksInline
  | _ => true

/-- **The pattern sees no further than its line.** -/
def staysInline (p : Pattern) : Bool := p.takesInline && p.looksInline

/-- Within the text `next'` accepts the places that `next` accepts on the line alone, and leads to
the same ends. -/
def Next.Framed (before after : List Char) (next next' : Next) : Prop :=
  ∀ s : Spot, next' (s.within before after) = (next s).map (Spot.within before after)

section Framed

/-- The end of a line refuses what the end of the text refuses. -/
theorem pass_lineEnd (hafter : after.head?.all (· = '\n') = true) {c : Char} {word : List Char}
    (hc : c ≠ '\n') (before : List Char) (kept : List (Nat × Stretch)) :
    Spot.pass (c :: word) ⟨before, after, kept⟩ = none := by
  cases after with
  | nil => rfl
  | cons d after =>
    obtain rfl : d = '\n' := by simpa using hafter
    rw [pass_cons, if_neg (Ne.symm hc)]

/-- A word is passed alike with a text around the line. -/
theorem pass_within (hafter : after.head?.all (· = '\n') = true) :
    ∀ {word : List Char} (s : Spot), '\n' ∉ word →
      (s.within before after).pass word = (s.pass word).map (Spot.within before after)
  | [], _, _ => rfl
  | c :: word, ⟨front, [], kept⟩, hword => by
      have hc : c ≠ '\n' := fun heq => hword (heq ▸ List.mem_cons_self)
      rw [Spot.within_nil, pass_lineEnd hafter hc]
      rfl
  | c :: word, ⟨front, d :: rest, kept⟩, hword => by
      have hrest : '\n' ∉ word := fun hmem => hword (List.mem_cons_of_mem c hmem)
      rw [Spot.within_cons, pass_cons, pass_cons]
      split
      · exact pass_within hafter ⟨d :: front, rest, kept⟩ hrest
      · rfl

variable (hafter : after.head?.all (· = '\n') = true) (hnext : Next.Framed before after next next')

include hafter hnext

theorem framed_text (hword : '\n' ∉ word.toList) :
    Next.Framed before after ((Pattern.text word).read next) ((Pattern.text word).read next') := by
  intro s
  rw [read_text_eq, read_text_eq, pass_within hafter s hword]
  cases s.pass word.toList with
  | none => rfl
  | some t => exact hnext t

theorem framed_one (hfeed : allowed '\n' = false) :
    Next.Framed before after ((Pattern.one allowed).read next)
      ((Pattern.one allowed).read next') := by
  rintro ⟨front, rest, kept⟩
  cases rest with
  | nil =>
    have hstop : after.head?.any allowed = false := head?_of_lineFeed hfeed hafter
    rw [Spot.within_nil, read_one_nil]
    cases after with
    | nil => rfl
    | cons d after => rw [read_one, if_neg (by simpa using hstop), Option.map_none]
  | cons c rest =>
    rw [Spot.within_cons, read_one, read_one]
    split
    · exact hnext ⟨c :: front, rest, kept⟩
    · rfl

/-- A long run without line ends reads alike. -/
theorem framed_many (hfeed : allowed '\n' = false) :
    Next.Framed before after ((Pattern.many allowed).read next)
      ((Pattern.many allowed).read next') := by
  rintro ⟨front, rest, kept⟩
  induction rest generalizing front with
  | nil =>
    have hstop : after.head?.any allowed = false := head?_of_lineFeed hfeed hafter
    rw [Spot.within_nil, read_many_nil hstop]
    exact hnext ⟨front, [], kept⟩
  | cons c rest ih =>
    have hshort := hnext ⟨front, c :: rest, kept⟩
    rw [Spot.within_cons] at hshort ⊢
    rw [read_many_eq, read_many_eq, readMany_cons, readMany_cons]
    split
    · rw [Option.map_or, hshort]
      exact congrArg (Option.or · _) (ih (c :: front))
    · exact hshort

theorem framed_few (hfeed : allowed '\n' = false) :
    Next.Framed before after ((Pattern.few allowed).read next)
      ((Pattern.few allowed).read next') := by
  rintro ⟨front, rest, kept⟩
  induction rest generalizing front with
  | nil =>
    have hstop : after.head?.any allowed = false := head?_of_lineFeed hfeed hafter
    have hshort := hnext ⟨front, [], kept⟩
    rw [Spot.within_nil] at hshort ⊢
    cases after with
    | nil => exact hshort
    | cons d after =>
      rw [read_few_eq, readFew_cons, if_neg (by simpa using hstop), Option.or_none]
      exact hshort
  | cons c rest ih =>
    have hshort := hnext ⟨front, c :: rest, kept⟩
    rw [Spot.within_cons] at hshort ⊢
    rw [read_few_eq, read_few_eq, readFew_cons, readFew_cons, Option.map_or, hshort]
    split
    · exact congrArg (Option.or _ ·) (ih (c :: front))
    · rfl

end Framed

/-- **An inline pattern is read within a text as on the line alone**, and leads to the same end. -/
theorem framed_read (hbefore : before.head?.all (· = '\n') = true)
    (hafter : after.head?.all (· = '\n') = true) (htakes : p.takesInline = true)
    (hlooks : p.looksInline = true) (hnext : Next.Framed before after next next') :
    Next.Framed before after (p.read next) (p.read next') := by
  induction p generalizing next next' with
  | text word => exact framed_text hafter hnext (by simpa [takesInline] using htakes)
  | one allowed => exact framed_one hafter hnext (by simpa [takesInline] using htakes)
  | many allowed => exact framed_many hafter hnext (by simpa [takesInline] using htakes)
  | few allowed => exact framed_few hafter hnext (by simpa [takesInline] using htakes)
  | seq p q ihp ihq =>
    obtain ⟨hp, hq⟩ := Bool.and_eq_true_iff.mp htakes
    obtain ⟨hp', hq'⟩ := Bool.and_eq_true_iff.mp hlooks
    exact ihp hp hp' (ihq hq hq' hnext)
  | alt p q ihp ihq =>
    obtain ⟨hp, hq⟩ := Bool.and_eq_true_iff.mp htakes
    obtain ⟨hp', hq'⟩ := Bool.and_eq_true_iff.mp hlooks
    intro s
    rw [read_alt, read_alt, ihp hp hp' hnext, ihq hq hq' hnext, Option.map_or]
  | group number p ih =>
    intro s
    rw [read_group, read_group]
    exact ih htakes hlooks
      (fun t => hnext ⟨t.before, t.rest, (number, ⟨s.rest, t.rest⟩) :: t.kept⟩) s
  | again => cases htakes
  | edge condition =>
    intro s
    rw [read_edge_eq, read_edge_eq, Spot.meets_within hbefore hafter hlooks]
    split
    · exact hnext s
    · rfl

/-- **A pattern that stays in its line** reads alike with a text around the line. -/
theorem readAt?_within (hbefore : before.head?.all (· = '\n') = true)
    (hafter : after.head?.all (· = '\n') = true) (hp : p.staysInline = true) (s : Spot) :
    p.readAt? (s.within before after) = (p.readAt? s).map (Spot.within before after) := by
  obtain ⟨htakes, hlooks⟩ := Bool.and_eq_true_iff.mp hp
  exact framed_read hbefore hafter htakes hlooks (fun _ => rfl) s

/-! ## Replacing within a text -/

/-- **What is replaced on the line alone is replaced within the text**, and the search goes on
behind the line. -/
theorem replaceFrom_within (hbefore : before.head?.all (· = '\n') = true)
    (hafter : after.head?.all (· = '\n') = true) (hp : p.staysInline = true)
    (hfill : ∀ s, fill (Spot.within before after s) = fill s) :
    ∀ (front : List Char) {line : List Char} {skip : Nat}, skip ≤ line.length →
      p.replaceFrom fill skip (front ++ before) (line ++ after) =
        p.replaceFrom fill skip front line ++
          p.replaceFrom fill 0 (line.reverse ++ (front ++ before)) after
  | front, [], skip, hskip => by
      obtain rfl : skip = 0 := Nat.le_zero.mp hskip
      rfl
  | front, c :: line, skip + 1, hskip => by
      have ih := replaceFrom_within hbefore hafter hp hfill (c :: front)
        (Nat.le_of_succ_le_succ hskip)
      simpa [replaceFrom] using ih
  | front, c :: line, 0, _ => by
      have hread : p.readAt? ⟨front ++ before, c :: (line ++ after), []⟩ = _ :=
        readAt?_within hbefore hafter hp ⟨front, c :: line, []⟩
      have ih {skip : Nat} (hskip : skip ≤ line.length) :=
        replaceFrom_within hbefore hafter hp hfill (c :: front) hskip
      have hkeep : c :: p.replaceFrom fill 0 (c :: (front ++ before)) (line ++ after) =
          (c :: p.replaceFrom fill 0 (c :: front) line) ++
            p.replaceFrom fill 0 ((c :: line).reverse ++ (front ++ before)) after := by
        simpa using ih (Nat.zero_le _)
      rw [List.cons_append, replaceFrom, replaceFrom, hread]
      cases p.readAt? ⟨front, c :: line, []⟩ with
      | none => exact hkeep
      | some spot =>
        have hwidth : (line ++ after).length + 1 - (spot.within before after).rest.length =
            line.length + 1 - spot.rest.length := by
          rw [Spot.within, List.length_append, List.length_append]
          omega
        simp only [Option.map_some, hwidth, hfill]
        cases hspot : line.length + 1 - spot.rest.length with
        | zero => exact hkeep
        | succ width =>
          have hline : width ≤ line.length := by omega
          simpa using ih hline

/-! ## Line feeds are passed over -/

/-- Whatever the pattern takes, it takes a character. -/
def takesSome : Pattern → Bool
  | .text word => !word.toList.isEmpty
  | .one _ => true
  | .seq p q => p.takesSome || q.takesSome
  | .alt p q => p.takesSome && q.takesSome
  | .group _ p => p.takesSome
  | .many _ | .few _ | .again _ | .edge _ => false

/-- A pattern that takes something takes no empty stretch. -/
theorem Takes.ne_nil {taken : List Char} {kept : List (Nat × Stretch)} (h : p.Takes taken kept)
    (hsome : p.takesSome = true) : taken ≠ [] := by
  induction h with
  | text word => simpa [takesSome] using hsome
  | one => exact List.cons_ne_nil _ _
  | seq _ _ ihp ihq =>
    rcases Bool.or_eq_true_iff.mp hsome with hp | hq
    · exact List.append_ne_nil_of_left_ne_nil (ihp hp) _
    · exact List.append_ne_nil_of_right_ne_nil _ (ihq hq)
  | first _ _ ih => exact ih (Bool.and_eq_true_iff.mp hsome).1
  | second _ _ ih => exact ih (Bool.and_eq_true_iff.mp hsome).2
  | group _ _ _ ih => exact ih hsome
  | many | few | again | edge => cases hsome

/-- A pattern that takes characters of one line cannot be read at its end. -/
theorem shuns_lineFeed_of_takesInline (htakes : p.takesInline = true)
    (hsome : p.takesSome = true) : p.Shuns (· == '\n') := by
  intro next c hc before rest kept
  obtain rfl : c = '\n' := by simpa using hc
  by_contra hread
  obtain ⟨spot, hspot⟩ := Option.ne_none_iff_exists'.mp hread
  obtain ⟨taken, tail, later, hrest, htaken, -⟩ := exists_takes_of_read hspot
  cases taken with
  | nil => exact htaken.ne_nil hsome rfl
  | cons d taken =>
    obtain rfl : '\n' = d := (List.cons.inj hrest).1
    exact htaken.lineFeed_not_mem htakes List.mem_cons_self

end Pattern

/-! ## Rules that look for them -/

namespace Rule

variable {rule : Rule}

/-- **Wherever a line stands, it is made into what it is made into alone.** -/
theorem turns_apply (h : rule.pattern.staysInline = true) (line : List Char) :
    rule.Turns line (rule.apply line) := by
  intro before after hbefore hafter _
  exact Pattern.replaceFrom_within hbefore hafter h (fun _ => Phrase.fillFrom_within) []
    (Nat.zero_le line.length)

/-- **A rule with an inline pattern acts on the lines of a text one by one.** -/
theorem apply_eq_joinLines_map (h : rule.pattern.staysInline = true)
    (hsome : rule.pattern.takesSome = true) (text : List Char) :
    rule.apply text = joinLines ((lines text).map rule.apply) := by
  have hbreak : rule.pattern.Shuns (· == '\n') :=
    Pattern.shuns_lineFeed_of_takesInline (Bool.and_eq_true_iff.mp h).1 hsome
  have hturns : List.Forall₂ rule.Turns (lines text) ((lines text).map rule.apply) :=
    List.forall₂_map_right_iff.mpr (List.forall₂_same.mpr fun line _ => turns_apply h line)
  calc rule.apply text = rule.apply (joinLines (lines text)) := by rw [joinLines_lines]
    _ = joinLines ((lines text).map rule.apply) := apply_joinLines hbreak hturns

end Rule

end Recast
