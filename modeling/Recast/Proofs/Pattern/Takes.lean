import Recast.Proofs.Pattern.Lines

/-!
# Proofs/Pattern/Takes — what a reading may take

Whatever stands around it and however often it goes back, a reading takes a text that its pattern
describes part by part (`Pattern.Takes`, `exists_takes_of_read`). So what a reading can take, and
what its groups can keep of that, is known from the pattern alone: whether there can be a line feed
in it (`Takes.lineFeed_not_mem`), and how many the groups can keep (`Takes.lineFeeds_le`).
-/

namespace Recast

namespace Pattern

variable {p q : Pattern} {next : Next} {s t spot : Spot} {taken before rest out : List Char}
  {kept : List (Nat × Stretch)} {number : Nat} {fill : Spot → List Char}

/-! ## Texts that a pattern may take -/

/-- **The pattern may take the text** and keep the stretches, the latest first. The conditions at
its edges are left out. -/
inductive Takes : Pattern → List Char → List (Nat × Stretch) → Prop
  | text (word : String) : Takes (.text word) word.toList []
  | one {allowed : Char → Bool} {c : Char} (h : allowed c = true) : Takes (.one allowed) [c] []
  | many {allowed : Char → Bool} {run : List Char} (h : ∀ c ∈ run, allowed c = true) :
      Takes (.many allowed) run []
  | few {allowed : Char → Bool} {run : List Char} (h : ∀ c ∈ run, allowed c = true) :
      Takes (.few allowed) run []
  | seq {p q : Pattern} {taken more : List Char} {kept later : List (Nat × Stretch)}
      (hp : Takes p taken kept) (hq : Takes q more later) :
      Takes (.seq p q) (taken ++ more) (later ++ kept)
  | first {p : Pattern} (q : Pattern) {taken : List Char} {kept : List (Nat × Stretch)}
      (h : Takes p taken kept) : Takes (.alt p q) taken kept
  | second (p : Pattern) {q : Pattern} {taken : List Char} {kept : List (Nat × Stretch)}
      (h : Takes q taken kept) : Takes (.alt p q) taken kept
  | group (number : Nat) {p : Pattern} {taken : List Char} {kept : List (Nat × Stretch)}
      (rest : List Char) (h : Takes p taken kept) :
      Takes (.group number p) taken ((number, ⟨taken ++ rest, rest⟩) :: kept)
  | again (number : Nat) (taken : List Char) : Takes (.again number) taken []
  | edge (condition : Edge) : Takes (.edge condition) [] []

/-- **A reading takes a text that its pattern may take.** -/
theorem exists_takes_of_read (h : p.read next s = some t) :
    ∃ taken rest kept, s.rest = taken ++ rest ∧ p.Takes taken kept ∧
      next ⟨taken.reverse ++ s.before, rest, kept ++ s.kept⟩ = some t := by
  induction p generalizing next s with
  | text word =>
    obtain ⟨rest, hrest, hnext⟩ := exists_of_read_text_eq_some h
    exact ⟨_, rest, [], hrest, .text word, hnext⟩
  | one allowed =>
    obtain ⟨c, rest, hrest, hc, hnext⟩ := exists_of_read_one_eq_some h
    exact ⟨[c], rest, [], hrest, .one hc, hnext⟩
  | many allowed =>
    obtain ⟨run, rest, hrest, hrun, hnext⟩ := exists_of_read_many_eq_some h
    exact ⟨run, rest, [], hrest, .many hrun, hnext⟩
  | few allowed =>
    obtain ⟨run, rest, hrest, hrun, hnext⟩ := exists_of_read_few_eq_some h
    exact ⟨run, rest, [], hrest, .few hrun, hnext⟩
  | seq p q ihp ihq =>
    -- what `p` is followed by is a reading of `q`, which is why `next` is generalized
    obtain ⟨taken, rest, kept, hrest, hp, hread⟩ := ihp h
    obtain ⟨more, rest', later, hrest', hq, hnext⟩ := ihq hread
    replace hrest' : rest = more ++ rest' := hrest'
    refine ⟨taken ++ more, rest', later ++ kept, ?_, .seq hp hq, by simpa using hnext⟩
    rw [hrest, hrest', List.append_assoc]
  | alt p q ihp ihq =>
    rw [read_alt] at h
    rcases Option.or_eq_some_iff.mp h with hp | ⟨-, hq⟩
    · obtain ⟨taken, rest, kept, hrest, htakes, hnext⟩ := ihp hp
      exact ⟨taken, rest, kept, hrest, .first q htakes, hnext⟩
    · obtain ⟨taken, rest, kept, hrest, htakes, hnext⟩ := ihq hq
      exact ⟨taken, rest, kept, hrest, .second p htakes, hnext⟩
  | group number p ih =>
    obtain ⟨taken, rest, kept, hrest, htakes, hnext⟩ := ih h
    refine ⟨taken, rest, _, hrest, .group number rest htakes, ?_⟩
    rw [hrest] at hnext
    exact hnext
  | again number =>
    rw [read_again_eq] at h
    obtain ⟨word, -, hbind⟩ := Option.bind_eq_some_iff.mp h
    obtain ⟨u, hpass, hnext⟩ := Option.bind_eq_some_iff.mp hbind
    obtain ⟨rest, hrest, rfl⟩ := exists_of_pass hpass
    exact ⟨word, rest, [], hrest, .again number word, hnext⟩
  | edge condition =>
    rw [read_edge_eq] at h
    split at h
    · exact ⟨[], s.rest, [], rfl, .edge condition, h⟩
    · cases h

/-! ## Line feeds -/

/-- No text that the pattern takes has a line feed. -/
def takesInline : Pattern → Bool
  | .text word => !word.toList.contains '\n'
  | .one allowed | .many allowed | .few allowed => !allowed '\n'
  | .seq p q | .alt p q => p.takesInline && q.takesInline
  | .group _ p => p.takesInline
  | .again _ => false
  | .edge _ => true

/-- The pattern has no group. -/
def keepsNothing : Pattern → Bool
  | .seq p q | .alt p q => p.keepsNothing && q.keepsNothing
  | .group _ _ => false
  | _ => true

/-- No group of the pattern has a group within. -/
def isFlat : Pattern → Bool
  | .seq p q | .alt p q => p.isFlat && q.isFlat
  | .group _ p => p.keepsNothing
  | _ => true

/-- No text that is kept under the number has a line feed. -/
def keepsInline (number : Nat) : Pattern → Bool
  | .seq p q | .alt p q => p.keepsInline number && q.keepsInline number
  | .group n p => (n != number || p.takesInline) && p.keepsInline number
  | _ => true

/-- The text that is found under the number, if any. -/
def keptText (kept : List (Nat × Stretch)) (number : Nat) : List Char :=
  ((kept.lookup number).map Stretch.chars).getD []

/-- The number of line feeds in all that was kept. -/
def lineFeeds (kept : List (Nat × Stretch)) : Nat :=
  (kept.flatMap fun entry => entry.2.chars).count '\n'

namespace Takes

variable (h : p.Takes taken kept)

include h

theorem lineFeed_not_mem (hinline : p.takesInline = true) : '\n' ∉ taken := by
  induction h with
  | text word => simpa [takesInline] using hinline
  | one hc =>
    rintro hmem
    obtain rfl := List.mem_singleton.mp hmem
    simp [takesInline, hc] at hinline
  | many hrun | few hrun =>
    intro hmem
    simp [takesInline, hrun _ hmem] at hinline
  | seq _ _ ihp ihq =>
    obtain ⟨hp, hq⟩ := Bool.and_eq_true_iff.mp hinline
    simp [ihp hp, ihq hq]
  | first _ _ ih => exact ih (Bool.and_eq_true_iff.mp hinline).1
  | second _ _ ih => exact ih (Bool.and_eq_true_iff.mp hinline).2
  | group _ _ _ ih => exact ih hinline
  | again => cases hinline
  | edge => simp

theorem kept_eq_nil (hnothing : p.keepsNothing = true) : kept = [] := by
  induction h with
  | seq _ _ ihp ihq =>
    obtain ⟨hp, hq⟩ := Bool.and_eq_true_iff.mp hnothing
    rw [ihp hp, ihq hq, List.append_nil]
  | first _ _ ih => exact ih (Bool.and_eq_true_iff.mp hnothing).1
  | second _ _ ih => exact ih (Bool.and_eq_true_iff.mp hnothing).2
  | group => cases hnothing
  | _ => rfl

/-- **Groups that are not nested keep no more line feeds than are taken.** -/
theorem lineFeeds_le (hflat : p.isFlat = true) : lineFeeds kept ≤ taken.count '\n' := by
  induction h with
  | seq _ _ ihp ihq =>
    obtain ⟨hp, hq⟩ := Bool.and_eq_true_iff.mp hflat
    have := ihp hp
    have := ihq hq
    rw [lineFeeds, List.flatMap_append, List.count_append, List.count_append]
    simp only [lineFeeds] at *
    omega
  | first _ _ ih => exact ih (Bool.and_eq_true_iff.mp hflat).1
  | second _ _ ih => exact ih (Bool.and_eq_true_iff.mp hflat).2
  | group number rest htakes =>
    rw [htakes.kept_eq_nil hflat]
    simp [lineFeeds]
  | _ => exact Nat.zero_le _

theorem lineFeed_not_mem_kept (hinline : p.keepsInline number = true) :
    ∀ stretch, (number, stretch) ∈ kept → '\n' ∉ stretch.chars := by
  induction h with
  | seq _ _ ihp ihq =>
    obtain ⟨hp, hq⟩ := Bool.and_eq_true_iff.mp hinline
    intro stretch hmem
    rcases List.mem_append.mp hmem with hlater | hearlier
    · exact ihq hq stretch hlater
    · exact ihp hp stretch hearlier
  | first _ _ ih => exact ih (Bool.and_eq_true_iff.mp hinline).1
  | second _ _ ih => exact ih (Bool.and_eq_true_iff.mp hinline).2
  | group n rest htakes ih =>
    obtain ⟨hgroup, hinner⟩ := Bool.and_eq_true_iff.mp hinline
    intro stretch hmem
    rcases List.mem_cons.mp hmem with heq | hmem
    · obtain ⟨rfl, rfl⟩ := Prod.mk.inj heq
      rw [chars_append]
      exact htakes.lineFeed_not_mem (by simpa using hgroup)
    · exact ih hinner stretch hmem
  | _ => simp

theorem lineFeed_not_mem_keptText (hinline : p.keepsInline number = true) :
    '\n' ∉ keptText kept number := by
  rw [keptText]
  cases hlookup : kept.lookup number with
  | none => simp
  | some stretch =>
    obtain ⟨before, after, heq, -⟩ := List.lookup_eq_some_iff.mp hlookup
    have hmem : (number, stretch) ∈ kept := by simp [heq]
    exact h.lineFeed_not_mem_kept hinline stretch hmem

end Takes

/-- Of each number at most one text is found among what was kept. -/
theorem count_keptText_le : ∀ (kept : List (Nat × Stretch)) {numbers : List Nat}, numbers.Nodup →
    (numbers.flatMap (keptText kept)).count '\n' ≤ lineFeeds kept
  | [], numbers, _ => by
      have hnil : numbers.flatMap (keptText []) = [] := List.flatMap_eq_nil_iff.mpr fun _ _ => rfl
      rw [hnil]
      exact Nat.zero_le _
  | (number, stretch) :: kept, numbers, hnodup => by
      have hall : lineFeeds ((number, stretch) :: kept) =
          (keptText ((number, stretch) :: kept) number).count '\n' + lineFeeds kept := by
        simp [lineFeeds, keptText]
      have hothers : ∀ {others : List Nat}, number ∉ others → others.Nodup →
          (others.flatMap (keptText ((number, stretch) :: kept))).count '\n' ≤ lineFeeds kept := by
        intro others hnot hothers
        have hsame : others.flatMap (keptText ((number, stretch) :: kept)) =
            others.flatMap (keptText kept) := by
          refine List.flatMap_congr fun n hn => ?_
          have hne : n ≠ number := fun heq => hnot (heq ▸ hn)
          rw [keptText, keptText, List.lookup_cons, beq_false_of_ne hne]
        rw [hsame]
        exact count_keptText_le kept hothers
      by_cases hmem : number ∈ numbers
      · have hperm := (List.perm_cons_erase hmem).flatMap_right
          (keptText ((number, stretch) :: kept))
        have hle := hothers (List.Nodup.not_mem_erase hnodup) (hnodup.erase number)
        rw [hperm.count_eq, List.flatMap_cons, List.count_append, hall]
        exact Nat.add_le_add_left hle _
      · rw [hall]
        exact Nat.le_add_left_of_le (hothers hmem hnodup)

/-! ## Replacing, step by step -/

/-- **What holds of keeping a character and of replacing a stretch holds of replacing all.** -/
theorem replaceFrom_induction {P : (before rest out : List Char) → Prop}
    (nil : ∀ before, P before [] [])
    (keep : ∀ before c rest out, P (c :: before) rest out → P before (c :: rest) (c :: out))
    (replace : ∀ before taken rest kept out, p.Takes taken kept →
      p.readAt? ⟨before, taken ++ rest, []⟩ = some ⟨taken.reverse ++ before, rest, kept⟩ →
      P (taken.reverse ++ before) rest out →
      P before (taken ++ rest) (fill ⟨taken.reverse ++ before, rest, kept⟩ ++ out)) :
    ∀ before rest, P before rest (p.replaceFrom fill 0 before rest) := by
  intro before rest
  induction hlength : rest.length using Nat.strongRecOn generalizing before rest with
  | _ n ih =>
    cases rest with
    | nil => exact nil before
    | cons c rest =>
      have htail := ih rest.length (by simp [← hlength]) (c :: before) rest rfl
      have hkeep := keep before c rest _ htail
      cases hread : p.readAt? ⟨before, c :: rest, []⟩ with
      | none =>
        rw [replaceFrom, hread]
        exact hkeep
      | some spot =>
        obtain ⟨taken, rest', kept, hrest, htakes, hspot⟩ := exists_takes_of_read hread
        obtain rfl : _ = spot := Option.some.inj hspot
        simp only [List.append_nil] at hread hspot hrest
        cases taken with
        | nil =>
          obtain rfl : c :: rest = rest' := hrest
          rw [replaceFrom, hread]
          simpa using hkeep
        | cons d taken =>
          have hshort : rest'.length < n := by
            rw [← hlength, hrest, List.length_append, List.length_cons]
            omega
          rw [hrest] at hread ⊢
          have hstep : p.replaceFrom fill 0 before (d :: taken ++ rest') =
              fill ⟨(d :: taken).reverse ++ before, rest', kept⟩ ++
                p.replaceFrom fill 0 ((d :: taken).reverse ++ before) rest' :=
            replaceFrom_of_read (List.cons_ne_nil d taken) rfl hread
          rw [hstep]
          exact replace before _ rest' kept _ htakes hread (ih _ hshort _ rest' rfl)

end Pattern

end Recast
