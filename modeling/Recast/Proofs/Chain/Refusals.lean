import Recast.Proofs.Chain.Readings

/-!
# Proofs/Chain/Refusals — lines that a form begins to read and gives up

A form may find its keyword on a line that is not made for it: the line was written by an earlier
rule of the chain, or belongs to a form that looks much the same. Then the reading breaks off at the
first part that differs, and the keyword stands nowhere else on the line
(`holds_nothing_of_refusal`).
-/

namespace Recast.Form

open Pattern Text Source

variable {ps : List Pattern} {next : Next} {before rest x y : List Char}
  {kept : List (Nat × Stretch)} {depth : Nat} {values : List (List Char)} {kinds : List Blank}

/-! ## One place to look at -/

/-- A keyword shuns the signs that it does not start with. -/
theorem shuns_keyword {name : String} {allowed : Char → Bool}
    (h : (name.toList.head?.any fun c => !allowed c) = true) :
    (all (keyword name :: ps)).Shuns allowed := (Shuns.edge_seq (shuns_text h)).seq

/-- **A pattern that is refused where its keyword stands passes over the line.** -/
theorem known_nothing_of_refusal {p : Pattern} {c : Char} {word a more : List Char}
    {stencil : Stencil} (hshows : p.Shows [.word word]) (hplain : (Cue.word word).isPlain = true)
    (hreserved : isReserved word = true) (hshuns : p.Shuns (· != c)) (hspace : c ≠ ' ')
    (ha : a.all (· != c) = true) (hlast : a.getLast?.any isWord = false)
    (hread : ∀ values, List.Forall₂ Blank.Fits kinds values → ∀ before rest : List Char,
      (a.reverse ++ before).head?.any isWord = false → rest.head?.all (· = '\n') = true →
      p.readAt?
        ⟨a.reverse ++ before, c :: more ++ stencil.fill (fillers values) ++ rest, []⟩ = none)
    (hmissing : (Cue.word word).missing (.text more :: stencil) = true) :
    Verdict.nothing.Known p kinds (.text (a ++ c :: more) :: stencil) := by
  intro values hfits depth before rest hbefore hrest
  have hfirst : (a.reverse ++ ((indentation depth).reverse ++ before)).head?.any
    isWord = false := by
    cases hr : a.reverse with
    | nil => exact head?_behind_indentation depth hbefore
    | cons d a' =>
      have hd : a.getLast? = some d := by rw [List.getLast?_eq_head?_reverse, hr]; rfl
      simpa [hd] using hlast
  have hmargin : ∀ d ∈ indentation depth, (d != c) = true :=
    forall_mem_indentation (by simpa using hspace.symm)
  have hother : ∀ d ∈ indentation depth ++ a, (d != c) = true := fun d hd => by
    rcases List.mem_append.mp hd with hd | hd
    · exact hmargin d hd
    · exact List.all_eq_true.mp ha d hd
  have hbehind : ∀ before : List Char,
      p.Misses before (more ++ stencil.fill (fillers values)) rest := fun before => by
    refine misses_of_shows hshows (by simpa using hplain) hrest fun cue hcue => ?_
    obtain rfl := List.mem_singleton.mp hcue
    have hcue : (Cue.word word).isReserved = true := hreserved
    exact Cue.not_in_of_missing 0 hcue (tame_fillers hfits) hmissing
  have hhere := hread values hfits ((indentation depth).reverse ++ before) rest hfirst hrest
  have hline : indentation depth ++
      Stencil.fill (.text (a ++ c :: more) :: stencil) (fillers values) =
      (indentation depth ++ a) ++ (c :: (more ++ stencil.fill (fillers values))) := by simp
  rw [hline]
  exact (misses_of_shuns hshuns hother).append (.cons (by simpa using hhere) (hbehind _))

/-! ## Output -/

/-- What is printed does not stand between quotes. -/
theorem callText_refuses {quote : Char} (hquote : isWord quote = false) (hx : IsWordRun x)
    (hbefore : before.head?.any isWord = false) :
    (callText "print" quote).readAt? ⟨before, "print(".toList ++ (x ++ rest), []⟩ = none := by
  have hline : "print(".toList ++ (x ++ rest) = "print".toList ++
    ("(".toList ++ (x ++ rest)) := by simp
  have hother : ∀ c, isWord c = true → (c == quote) = false := by
    intro c hc
    by_contra hne
    rw [show c = quote by simpa using hne, hquote] at hc
    exact absurd hc (by decide)
  rw [hline, readAt?, callText, call, quotedText]
  simp only [List.cons_append, List.nil_append]
  rw [read_keyword hbefore rfl, read_blanks rfl, read_sign,
    read_blanks (head?_of_isWordRun hx isBlank_of_isWord),
    read_one_none (head?_of_isWordRun hx hother)]

/-! ## Branches -/

/-- Another condition follows, and no colon. -/
theorem bareHeader_refuses {c : Char} (hblank : isBlank c = false) (hcolon : c ≠ ':')
    (hbefore : before.head?.any isWord = false) :
    (bareHeader "else").readAt? ⟨before, "else".toList ++ ([' '] ++ c :: rest), []⟩ = none := by
  rw [readAt?, bareHeader, read_keyword hbefore rfl,
    read_blanks_space (by simpa using hblank) (shuns_sign rfl)]
  exact read_sign_of_ne rfl hcolon

/-! ## Loops -/

theorem for_space (rest : List Char) : "for ".toList ++ rest = "for".toList ++ ([' '] ++ rest) := by
  simp

/-- No name follows. -/
theorem forIn_refuses_sign {c : Char} (hblank : isBlank c = false) (hword : isWord c = false)
    (hbefore : before.head?.any isWord = false) :
    (all (forIn :: ps)).read next ⟨before, "for ".toList ++ c :: rest, kept⟩ = none := by
  have hc : (c :: rest).head?.any isWord = false := by simpa using hword
  rw [all_cons, read_seq, forIn, for_space, read_keyword hbefore rfl,
    read_gap (by simpa using hblank)]
  exact read_many1_nil hc

/-- The name is followed by something else than `in`. -/
theorem forIn_refuses_other {c : Char} (hx : IsWordRun x) (hblank : isBlank c = false)
    (hi : c ≠ 'i')
    (hbefore : before.head?.any isWord = false) :
    (all (forIn :: ps)).read next ⟨before, "for ".toList ++ (x ++ ([' '] ++ c :: rest)), kept⟩ =
      none := by
  rw [all_cons, read_seq, forIn, for_space, read_keyword hbefore rfl,
    read_gap (head?_of_isWordRun hx isBlank_of_isWord), read_word hx rfl shuns_gap,
    read_gap (by simpa using hblank)]
  exact read_sign_of_ne rfl hi

/-- A loop over something that does not start like a range. -/
theorem forRange_refuses_sign {bounds : List Pattern} {c : Char} (hx : IsWordRun x)
    (hblank : isBlank c = false) (hr : c ≠ 'r') (hbefore : before.head?.any isWord = false) :
    (forRange bounds).readAt? ⟨before, "for ".toList ++ (x ++ (" in ".toList ++ c :: rest)), []⟩ =
      none := by
  rw [readAt?, forRange]
  simp only [List.cons_append, List.nil_append]
  rw [read_forIn hx (by simpa using hblank) hbefore]
  exact read_sign_of_ne rfl hr

/-- A word that is not the one that is looked for. -/
theorem read_text_of_word {word : String} (hword : ∀ c ∈ word.toList, isWord c = true)
    (hps : (all ps).Shuns isWord) (hy : IsWordRun y) (hne : y ≠ word.toList)
    (hrest : rest.head?.any isWord = false) :
    (all (.text word :: ps)).read next ⟨before, y ++ rest, kept⟩ = none := by
  by_contra hread
  obtain ⟨tail, htail, hnext⟩ := exists_of_read_text (Option.isSome_iff_ne_none.mpr hread)
  rcases List.append_eq_append_iff.mp htail with ⟨more, hmore, hend⟩ | ⟨more, hmore, hend⟩
  · cases more with
    | nil => exact hne (by simpa using hmore.symm)
    | cons c more =>
      have hc : isWord c = true := hword c (by simp [hmore])
      rw [hend] at hrest
      simp [hc] at hrest
  · cases more with
    | nil => exact hne (by simpa using hmore)
    | cons c more =>
      have hc : isWord c = true := hy.isWord c (by simp [hmore])
      have hnone := hps next c hc (word.toList.reverse ++ before) (more ++ rest) kept
      rw [hend] at hnext
      exact Option.isSome_iff_ne_none.mp hnext hnone

/-- A name that is not `range` is not read as `range`. -/
theorem read_range_of_word (hy : IsWordRun y) (hne : y ≠ "range".toList)
    (hrest : rest.head?.any isWord = false) :
    (all (.text "range" :: blanks :: .text "(" :: ps)).read next
      ⟨before, y ++ rest, kept⟩ = none :=
  read_text_of_word (List.all_eq_true.mp (by decide))
    (shuns_blanks isBlank_of_isWord (shuns_sign rfl)) hy hne hrest

theorem isReserved_range : isReserved "range".toList = true := by decide

/-- The word of a range is no name. -/
theorem ne_range_of_tame (hy : IsWordRun y) (htame : Tame y) : y ≠ "range".toList := by
  rintro rfl
  have hword := htame.unreserved "range".toList (by rw [words_of_all hy.isWord]; simp)
  rw [isReserved_range] at hword
  exact absurd hword (by decide)

/-- **A loop over a name** is no loop over a range. -/
theorem forRange_refuses_word {bounds : List Pattern} (hx : IsWordRun x) (hy : IsWordRun y)
    (hne : y ≠ "range".toList) (hrest : rest.head?.any isWord = false)
    (hbefore : before.head?.any isWord = false) :
    (forRange bounds).readAt? ⟨before, "for ".toList ++ (x ++ (" in ".toList ++ (y ++ rest))), []⟩ =
      none := by
  rw [readAt?, forRange]
  simp only [List.cons_append, List.nil_append]
  rw [read_forIn hx (head?_of_isWordRun hy isBlank_of_isWord) hbefore]
  exact read_range_of_word hy hne hrest

/-- The line ends with something else than a colon. -/
theorem forEachLine_refuses {line : List Char} {stop : Char} (hx : IsWordRun x)
    (hblank : line.head?.any isBlank = false) (hinline : '\n' ∉ line)
    (hlast : line.getLast? = some stop) (hmargin : isMargin stop = false) (hcolon : stop ≠ ':')
    (hbefore : before.head?.any isWord = false) (hrest : rest.head?.all (· = '\n') = true) :
    forEachLine.readAt? ⟨before, "for ".toList ++ (x ++ (" in ".toList ++ (line ++ rest))), []⟩ =
      none := by
  have hhead : (line ++ rest).head?.any isBlank = false := by
    cases line with
    | nil => simp at hlast
    | cons c line => exact hblank
  rw [readAt?, forEachLine, read_forIn hx hhead hbefore]
  by_contra hread
  have hitems : ((few1 isInline).read (fun t => (all [":", margin, .edge .lineEnd]).read some
      ⟨t.before, t.rest, (2, ⟨line ++ rest, t.rest⟩) :: t.kept⟩)
      ⟨behindIn before x, line ++ rest, [(1, ⟨x ++ (" in ".toList ++ (line ++ rest)),
        " in ".toList ++ (line ++ rest)⟩)]⟩).isSome = true := Option.isSome_iff_ne_none.mpr hread
  obtain ⟨run, rest₁, hrest₁, hrun, hread⟩ := exists_of_read_few1 hitems
  obtain ⟨rest₂, hrest₂, hread⟩ := exists_of_read_text hread
  obtain ⟨run', rest₃, hrest₃, hrun', hread⟩ := exists_of_read_many hread
  have hend : rest₃.head?.all (· = '\n') = true := (meets_of_read_edge hread).1
  have hline : line ++ rest = (run ++ ':' :: run') ++ rest₃ := by
    rw [show line ++ rest = run ++ rest₁ from hrest₁, show rest₁ = ":".toList ++ rest₂ from hrest₂,
      show rest₂ = run' ++ rest₃ from hrest₃]
    simp
  have hfree : '\n' ∉ run ++ ':' :: run' := fun hmem => by
    rcases List.mem_append.mp hmem with hmem | hmem
    · exact absurd (hrun _ hmem) (by decide)
    · rcases List.mem_cons.mp hmem with hmem | hmem
      · exact absurd hmem (by decide)
      · exact absurd (hrun' _ hmem) (by decide)
  have hsame : line = run ++ ':' :: run' := (Cue.eq_of_append_eq hrest hend hinline hfree hline).1
  rw [hsame, List.getLast?_append, List.getLast?_cons] at hlast
  cases hr : run'.getLast? with
  | none => exact hcolon (by simpa [hr] using hlast.symm)
  | some d =>
    obtain rfl : d = stop := by simpa [hr] using hlast
    rw [hrun' d (List.mem_of_getLast? hr)] at hmargin
    exact absurd hmargin (by decide)

/-! ## Assignments -/

/-- The line does not start with a name and an equality sign. -/
theorem assign_refuses {value : List Pattern} {i w m : List Char} {c : Char}
    (hi : ∀ d ∈ i, isMargin d = true) (hw : ∀ d ∈ w, isWord d = true)
    (hm : ∀ d ∈ m, isMargin d = true) (hmargin : isMargin c = false)
    (hc : c ≠ '=') (hfirst : w = [] → m = []) (hapart : m = [] → isWord c = false)
    (hbefore : before.head?.all (· = '\n') = true) :
    (assign value).readAt? ⟨before, i ++ (w ++ (m ++ c :: rest)), []⟩ = none := by
  have hsign : (m ++ c :: rest).head?.any isWord = false := by
    cases m with
    | nil => simpa using hapart rfl
    | cons d m => simpa using isWord_of_isMargin d (hm d (by simp))
  have hhead : (w ++ (m ++ c :: rest)).head?.any isMargin = false := by
    cases w with
    | nil => simpa [hfirst rfl] using hmargin
    | cons d w => simpa using isMargin_of_isWord d (hw d (by simp))
  rw [readAt?, assign]
  simp only [List.cons_append, List.nil_append]
  rw [read_lineStart hbefore, read_indentation hi hhead (shuns_word isWord_of_isMargin)]
  cases w with
  | nil => exact read_many1_nil hsign
  | cons d w =>
    have hequal : (all (margin :: .text "=" :: margin ::
      (value ++ [.edge .lineEnd]))).Shuns isWord :=
      shuns_margin isMargin_of_isWord (shuns_sign (by decide))
    rw [word, read_group_many1 (by simp) hw hsign hequal, all_cons, read_seq, margin,
      read_many hm (by simpa using hmargin) (shuns_sign (by decide) _)]
    exact read_sign_of_ne rfl hc

/-- A value that has to start with a digit is not found in another word. -/
theorem assign_refuses_word {value : List Pattern} {m : List Char}
    (hm : ∀ d ∈ m, isMargin d = true) (hx : IsWordRun x) (hy : IsWordRun y)
    (hdigit : y.head?.any isDigit = false)
    (hvalue : (all (value ++ [.edge .lineEnd])).Shuns (!isDigit ·))
    (hbefore : before.head?.all (· = '\n') = true) :
    (assign value).readAt? ⟨before, m ++ (x ++ (" = ".toList ++ (y ++ rest))), []⟩ = none := by
  have hmargin : (all (value ++ [.edge .lineEnd])).Shuns isMargin :=
    hvalue.mono fun c hc => by simpa using isDigit_of_isBlank c (isBlank_of_isMargin hc)
  obtain ⟨before', hread⟩ := read_assign value hm hx hbefore
  rw [hread, read_margin_space (head?_of_isWordRun hy isMargin_of_isWord) hmargin]
  obtain ⟨c, chars, rfl, -⟩ := hy.exists_cons
  exact hvalue some c (by simpa using hdigit) _ _ _

theorem shuns_digits_lineEnd : (all ([.group 3 digits] ++ [.edge .lineEnd])).Shuns (!isDigit ·) :=
  shuns_digits fun c hc => by simpa using hc

theorem shuns_number_lineEnd : (all ([.group 3 (all [digits, .optional ".", .many isDigit])] ++
    [.edge .lineEnd])).Shuns (!isDigit ·) := by
  have hdigits : (all [digits, .optional ".", .many isDigit]).Shuns (!isDigit ·) :=
    (shuns_many1 fun c hc => by simpa using hc).seq
  exact hdigits.group.seq

/-! ## Refusals that a stencil shows -/

/-- The pattern begins like a loop. -/
def IsLoop (p : Pattern) : Prop := ∃ ps, p = all (forIn :: ps)

theorem forRange_isLoop (bounds : List Pattern) : IsLoop (forRange bounds) := ⟨_, rfl⟩

theorem forEach_isLoop : IsLoop forEach := ⟨_, rfl⟩

theorem forEachLine_isLoop : IsLoop forEachLine := ⟨_, rfl⟩

/-- A pattern for loops finds nothing in what it cannot read behind the first `for`. -/
theorem known_nothing_of_for {p : Pattern} {more : List Char} {stencil : Stencil} (hp : IsLoop p)
    (hread : ∀ values, List.Forall₂ Blank.Fits kinds values → ∀ before rest : List Char,
      before.head?.any isWord = false → rest.head?.all (· = '\n') = true →
      p.readAt? ⟨before, "for ".toList ++ (more ++
        (stencil.fill (fillers values) ++ rest)), []⟩ = none)
    (hmissing : (Cue.word "for".toList).missing (.text ("or ".toList ++ more) :: stencil) = true) :
    Verdict.nothing.Known p kinds (.text ("for ".toList ++ more) :: stencil) := by
  obtain ⟨ps, rfl⟩ := hp
  have hshuns : (all (forIn :: ps)).Shuns (· != 'f') := Shuns.seq (shuns_keyword rfl)
  have hknown : Verdict.nothing.Known (all (forIn :: ps)) kinds
      (.text ([] ++ 'f' :: ("or ".toList ++ more)) :: stencil) := by
    refine known_nothing_of_refusal forIn_shows.seq (by decide) (by decide)
      hshuns (by decide)
      (by simp) rfl (fun values hfits before rest hbefore hrest => ?_) hmissing
    have hnone := hread values hfits before rest hbefore hrest
    simpa using hnone
  exact hknown

/-- The keyword is followed by a sign. -/
def refusesForSign : Stencil → Bool
  | .text ('f' :: 'o' :: 'r' :: ' ' :: c :: more) :: rest => !isBlank c && !isWord c &&
      (Cue.word "for".toList).missing (.text ('o' :: 'r' :: ' ' :: c :: more) :: rest)
  | _ => false

/-- No loop is read where a sign follows `for`. -/
theorem known_nothing_of_refusesForSign {p : Pattern} (hp : IsLoop p) {stencil : Stencil}
    (h : refusesForSign stencil = true) : Verdict.nothing.Known p kinds stencil := by
  unfold refusesForSign at h
  split at h
  · rename_i c more rest
    obtain ⟨hc, hmissing⟩ := Bool.and_eq_true_iff.mp h
    obtain ⟨hblank, hword⟩ : isBlank c = false ∧ isWord c = false := by simpa using hc
    refine known_nothing_of_for hp (fun values hfits before rest hbefore _ => ?_) hmissing
    obtain ⟨ps, rfl⟩ := hp
    exact forIn_refuses_sign hblank hword hbefore
  · exact absurd h (by simp)

/-- The name behind the keyword is followed by something else than `in`, or it is part of a
condition. -/
def refusesForName (kinds : List Blank) : Stencil → Bool
  | .text ['f', 'o', 'r', ' '] :: .blank n :: rest =>
    (blankAt kinds n == some .condition || isWordAt kinds n && match rest with
      | .text (' ' :: c :: _) :: _ => !isBlank c && c != 'i'
      | _ => false) &&
    (Cue.word "for".toList).missing (.text "or ".toList :: .blank n :: rest)
  | _ => false

/-- No loop is read where something else than `in` follows the name. -/
theorem known_nothing_of_refusesForName {p : Pattern} (hp : IsLoop p) {stencil : Stencil}
    (h : refusesForName kinds stencil = true) : Verdict.nothing.Known p kinds stencil := by
  unfold refusesForName at h
  split at h
  · rename_i n rest
    obtain ⟨hname, hmissing⟩ := Bool.and_eq_true_iff.mp h
    have hread : ∀ values, List.Forall₂ Blank.Fits kinds values → ∀ before more : List Char,
        before.head?.any isWord = false → p.readAt? ⟨before, "for ".toList ++ ([] ++
          (Stencil.fill (.blank n :: rest) (fillers values) ++ more)), []⟩ = none := by
      intro values hfits before more hbefore
      obtain ⟨ps, rfl⟩ := hp
      rcases Bool.or_eq_true_iff.mp hname with hcondition | hword
      · obtain ⟨c, hc⟩ := fits_of_blankAt hfits (beq_iff_eq.mp hcondition)
        obtain ⟨w, sign, tail, hw, hsign, hblank, htext⟩ := exists_of_condition c
        rw [Stencil.fill_blank, hc, htext]
        have hi : sign ≠ 'i' := by
          rintro rfl
          exact absurd hsign (by decide)
        simpa [readAt?] using forIn_refuses_other hw hblank hi hbefore
      · obtain ⟨hrun, hrest⟩ := Bool.and_eq_true_iff.mp hword
        split at hrest
        · rename_i c tail rest
          obtain ⟨hblank, hi⟩ : isBlank c = false ∧ c ≠ 'i' := by simpa using hrest
          have hw := isWordRun_of_isWordAt hfits hrun
          simpa [readAt?] using forIn_refuses_other hw hblank hi hbefore
        · exact absurd hrest (by simp)
    exact known_nothing_of_for hp (fun values hfits before rest hbefore _ =>
      hread values hfits before rest hbefore) hmissing
  · exact absurd h (by simp)

/-- The loop runs over something that starts with another letter than a range. -/
def refusesRangeSign (kinds : List Blank) : Stencil → Bool
  | .text ['f', 'o', 'r', ' '] :: .blank n ::
    .text (' ' :: 'i' :: 'n' :: ' ' :: c :: more) :: rest =>
    isWordAt kinds n && !isBlank c && c != 'r' && (Cue.word "for".toList).missing
      (.text "or ".toList :: .blank n :: .text (' ' :: 'i' :: 'n' :: ' ' :: c :: more) :: rest)
  | _ => false

/-- No range is read where another letter follows `in`. -/
theorem known_nothing_of_refusesRangeSign {bounds : List Pattern} {stencil : Stencil}
    (h : refusesRangeSign kinds stencil = true) :
    Verdict.nothing.Known (forRange bounds) kinds stencil := by
  unfold refusesRangeSign at h
  split at h
  · rename_i n c more rest
    obtain ⟨h, hmissing⟩ := Bool.and_eq_true_iff.mp h
    obtain ⟨h, hr⟩ := Bool.and_eq_true_iff.mp h
    obtain ⟨hname, hblank⟩ := Bool.and_eq_true_iff.mp h
    have hknown : Verdict.nothing.Known (forRange bounds) kinds
      (.text ("for ".toList ++ []) :: .blank n
        :: .text (' ' :: 'i' :: 'n' :: ' ' :: c :: more) :: rest) := by
      refine known_nothing_of_for (forRange_isLoop bounds) ?_ hmissing
      intro values hfits before tail hbefore _
      have hx := isWordRun_of_isWordAt hfits hname
      simpa using forRange_refuses_sign hx (by simpa using hblank) (by simpa using hr) hbefore
    exact hknown
  · exact absurd h (by simp)

/-- The loop runs over what a name or number stands for. -/
def refusesRangeWord (kinds : List Blank) : Stencil → Bool
  | .text ['f', 'o', 'r', ' '] :: .blank n :: .text [' ', 'i', 'n', ' '] :: .blank m :: rest =>
    isWordAt kinds n && isWordAt kinds m && Stencil.startsApart rest &&
      (Cue.word "for".toList).missing
        (.text "or ".toList :: .blank n :: .text [' ', 'i', 'n', ' '] :: .blank m :: rest)
  | _ => false

/-- No range is read where the loop runs over a name or a number. -/
theorem known_nothing_of_refusesRangeWord {bounds : List Pattern} {stencil : Stencil}
    (h : refusesRangeWord kinds stencil = true) :
    Verdict.nothing.Known (forRange bounds) kinds stencil := by
  unfold refusesRangeWord at h
  split at h
  · rename_i n m rest
    obtain ⟨h, hmissing⟩ := Bool.and_eq_true_iff.mp h
    obtain ⟨h, hapart⟩ := Bool.and_eq_true_iff.mp h
    obtain ⟨hname, hitems⟩ := Bool.and_eq_true_iff.mp h
    have hknown : Verdict.nothing.Known (forRange bounds) kinds
      (.text ("for ".toList ++ []) :: .blank n
        :: .text [' ', 'i', 'n', ' '] :: .blank m :: rest) := by
      refine known_nothing_of_for (forRange_isLoop bounds) ?_ hmissing
      intro values hfits before tail hbefore htail
      have hx := isWordRun_of_isWordAt hfits hname
      have hy := isWordRun_of_isWordAt hfits hitems
      have hend : (Stencil.fill rest (fillers values) ++ tail).head?.any isWord = false := by
        have hhead : (Stencil.fill rest (fillers values)).head?.any isWord = false :=
          Stencil.head?_fill_of_startsApart hapart
        cases hr : Stencil.fill rest (fillers values) with
        | nil => exact head?_of_lineFeed (by decide) htail
        | cons c rest => simpa [hr] using hhead
      have hne := ne_range_of_tame hy (tame_fillers hfits m)
      simpa using forRange_refuses_word hx hy hne hend hbefore
    exact hknown
  · exact absurd h (by simp)

/-- The line of the loop ends with a brace. -/
def refusesLine (kinds : List Blank) : Stencil → Bool
  | .text ['f', 'o', 'r', ' '] :: .blank n :: .text (' ' :: 'i' :: 'n' :: ' ' :: more) :: rest =>
    isWordAt kinds n && Stencil.startsInk kinds (.text more :: rest) &&
      Stencil.endsWith '{' (.text more :: rest) && Stencil.isFree '\n' (.text more :: rest) &&
      (Cue.word "for".toList).missing
        (.text "or ".toList :: .blank n :: .text (' ' :: 'i' :: 'n' :: ' ' :: more) :: rest)
  | _ => false

/-- No loop is read to a colon at the end of a line that ends with a brace. -/
theorem known_nothing_of_refusesLine {stencil : Stencil} (h : refusesLine kinds stencil = true) :
    Verdict.nothing.Known forEachLine kinds stencil := by
  unfold refusesLine at h
  split at h
  · rename_i n more rest
    obtain ⟨h, hmissing⟩ := Bool.and_eq_true_iff.mp h
    obtain ⟨h, hfree⟩ := Bool.and_eq_true_iff.mp h
    obtain ⟨h, hlast⟩ := Bool.and_eq_true_iff.mp h
    obtain ⟨hname, hink⟩ := Bool.and_eq_true_iff.mp h
    have hknown : Verdict.nothing.Known forEachLine kinds
      (.text ("for ".toList ++ []) :: .blank n ::
        .text (' ' :: 'i' :: 'n' :: ' ' :: more) :: rest) := by
      refine known_nothing_of_for forEachLine_isLoop ?_ hmissing
      intro values hfits before tail hbefore htail
      have hx := isWordRun_of_isWordAt hfits hname
      have hnone := forEachLine_refuses hx (Stencil.head?_fill_of_startsInk hfits hink)
        (Stencil.not_mem_fill_of_isFree (tame_fillers hfits) hfree)
        (Stencil.getLast?_fill_of_endsWith hlast) (by decide) (by decide) hbefore htail
      simpa using hnone
    exact hknown
  · exact absurd h (by simp)

/-- A word starts the stencil, in a blank. -/
def startsWord (kinds : List Blank) : Stencil → Bool
  | .blank n :: _ => isWordAt kinds n || blankAt kinds n == some .condition
  | _ => false

/-- A stencil that starts with a word starts with a sign of one. -/
theorem exists_of_startsWord {stencil : Stencil} (hfits : List.Forall₂ Blank.Fits kinds values)
    (h : startsWord kinds stencil = true) :
    ∃ c more, isWord c = true ∧ stencil.fill (fillers values) = c :: more := by
  match stencil with
  | .blank n :: rest =>
    have hrun : ∃ w more, IsWordRun w ∧
        Stencil.fill (.blank n :: rest) (fillers values) = w ++ more := by
      rcases Bool.or_eq_true_iff.mp h with hword | hcondition
      · exact ⟨_, _, isWordRun_of_isWordAt hfits hword, rfl⟩
      · obtain ⟨c, hc⟩ := fits_of_blankAt hfits (beq_iff_eq.mp hcondition)
        obtain ⟨w, sign, more, hw, -, -, htext⟩ := exists_of_condition c
        exact ⟨w, _, hw, by rw [Stencil.fill_blank, hc, htext, List.append_assoc]⟩
    obtain ⟨w, more, hw, hfill⟩ := hrun
    obtain ⟨c, w, rfl, hc⟩ := hw.exists_cons
    exact ⟨c, w ++ more, hc, hfill⟩

/-- No equality sign follows the name at the start of the line, if there is one. -/
def refusesAssign (kinds : List Blank) : Stencil → Bool
  | .text chars :: rest =>
    let margin := (chars.dropWhile isWord).takeWhile isMargin
    (!(chars.takeWhile isWord).isEmpty || margin.isEmpty) &&
    (match (chars.dropWhile isWord).dropWhile isMargin with
      | c :: _ => c != '='
      | [] => !margin.isEmpty && startsWord kinds rest) && Stencil.isFree '\n' (.text chars :: rest)
  | _ => false

/-- The name, what separates it from the next sign, and the sign. -/
theorem exists_of_refusesAssign {stencil : Stencil} (hfits : List.Forall₂ Blank.Fits kinds values)
    (h : refusesAssign kinds stencil = true) :
    ∃ w m c more, stencil.fill (fillers values) = w ++ (m ++ c :: more) ∧
      (∀ d ∈ w, isWord d = true) ∧ (∀ d ∈ m, isMargin d = true) ∧ isMargin c = false ∧ c ≠ '=' ∧
      (w = [] → m = []) ∧ (m = [] → isWord c = false) := by
  match stencil with
  | .text chars :: rest =>
    obtain ⟨hfirst, hnext⟩ := Bool.and_eq_true_iff.mp (Bool.and_eq_true_iff.mp h).1
    have hchars : chars = chars.takeWhile isWord ++ ((chars.dropWhile isWord).takeWhile isMargin ++
        (chars.dropWhile isWord).dropWhile isMargin) := by
      rw [List.takeWhile_append_dropWhile, List.takeWhile_append_dropWhile]
    have hdrop : chars.dropWhile isWord = (chars.dropWhile isWord).takeWhile isMargin ++
        (chars.dropWhile isWord).dropWhile isMargin := by rw [List.takeWhile_append_dropWhile]
    have hw : ∀ d ∈ chars.takeWhile isWord, isWord d = true :=
      List.all_eq_true.mp List.all_takeWhile
    have hm : ∀ d ∈ (chars.dropWhile isWord).takeWhile isMargin, isMargin d = true :=
      List.all_eq_true.mp List.all_takeWhile
    have hempty : chars.takeWhile isWord = [] → (chars.dropWhile isWord).takeWhile isMargin = [] :=
      fun hnil => by simpa [hnil] using hfirst
    have hword := List.head?_dropWhile_not isWord chars
    have hmargin := List.head?_dropWhile_not isMargin (chars.dropWhile isWord)
    split at hnext
    · rename_i c more hmore
      rw [hmore] at hchars hdrop hmargin
      refine ⟨_, _, c, more ++ Stencil.fill rest (fillers values), ?_, hw,
        hm, by simpa using hmargin,
        by simpa using hnext, hempty, fun hnil => ?_⟩
      · rw [Stencil.fill_text]
        conv_lhs => rw [hchars]
        simp
      · rw [hnil, List.nil_append] at hdrop
        simpa [hdrop] using hword
    · rename_i hmore
      obtain ⟨hspace, hstart⟩ := Bool.and_eq_true_iff.mp hnext
      obtain ⟨c, more, hc, hfill⟩ := exists_of_startsWord hfits hstart
      have hequal : c ≠ '=' := by
        rintro rfl
        exact absurd hc (by decide)
      rw [hmore, List.append_nil] at hchars
      refine ⟨_, _, c, more, ?_, hw, hm, isMargin_of_isWord c hc, hequal, hempty, fun hnil => ?_⟩
      · rw [Stencil.fill_text, hfill]
        conv_lhs => rw [hchars]
        simp
      · simp [hnil] at hspace

/-- An assignment needs a name at the start of the line. -/
theorem known_nothing_of_refusesAssign {value : List Pattern} {stencil : Stencil}
    (h : refusesAssign kinds stencil = true) :
    Verdict.nothing.Known (assign value) kinds stencil := by
  intro values hfits depth before tail hbefore _
  have hfree : stencil.isFree '\n' = true := by
    match stencil with
    | .text chars :: rest => exact (Bool.and_eq_true_iff.mp h).2
  refine misses_of_startsLine startsLine_edge_seq
    (Cue.not_mem_line _ (tame_fillers hfits) (by decide) hfree) ?_
  obtain ⟨w, m, c, more, hfill, hw, hm, hmargin, hequal, hempty, hapart⟩ :=
    exists_of_refusesAssign hfits h
  rw [hfill]
  simpa using assign_refuses isMargin_indentation hw hm hmargin hequal hempty hapart hbefore

/-- Another condition follows `else`, and no colon. -/
def refusesElse : Stencil → Bool
  | .text ('}' :: ' ' :: 'e' :: 'l' :: 's' :: 'e' :: ' ' :: c :: more) :: rest =>
    !isBlank c && c != ':' && (Cue.word "else".toList).missing
      (.text ('l' :: 's' :: 'e' :: ' ' :: c :: more) :: rest)
  | _ => false

/-- The last branch needs its colon. -/
theorem known_nothing_of_refusesElse {stencil : Stencil} (h : refusesElse stencil = true) :
    Verdict.nothing.Known (bareHeader "else") kinds stencil := by
  unfold refusesElse at h
  split at h
  · rename_i c more rest
    obtain ⟨h, hmissing⟩ := Bool.and_eq_true_iff.mp h
    obtain ⟨hblank, hcolon⟩ : isBlank c = false ∧ c ≠ ':' := by simpa using h
    have hknown : Verdict.nothing.Known (bareHeader "else") kinds
        (.text (['}', ' '] ++ 'e' :: ('l' :: 's' :: 'e' :: ' ' :: c :: more)) :: rest) := by
      refine known_nothing_of_refusal (bareHeader_shows "else" (by decide)) (by decide)
        (by decide) (shuns_keyword rfl) (by decide) (by decide) (by decide) ?_ hmissing
      intro values hfits before tail hbefore _
      simpa using bareHeader_refuses hblank hcolon hbefore
    exact hknown
  · exact absurd h (by simp)

/-- The keyword is `print`, and no quote follows. -/
def refusesText (kinds : List Blank) : Stencil → Bool
  | .text ['p', 'r', 'i', 'n', 't', '('] :: .blank n :: rest => isWordAt kinds n &&
      (Cue.word "print".toList).missing (.text ['r', 'i', 'n', 't', '('] :: .blank n :: rest)
  | _ => false

/-- A printed text needs its quote. -/
theorem known_nothing_of_refusesText {quote : Char} (hquote : isWord quote = false)
    {stencil : Stencil} (h : refusesText kinds stencil = true) :
    Verdict.nothing.Known (callText "print" quote) kinds stencil := by
  unfold refusesText at h
  split at h
  · rename_i n rest
    obtain ⟨hword, hmissing⟩ := Bool.and_eq_true_iff.mp h
    have hknown : Verdict.nothing.Known (callText "print" quote) kinds
        (.text ([] ++ 'p' :: ['r', 'i', 'n', 't', '(']) :: .blank n :: rest) := by
      refine known_nothing_of_refusal (call_shows "print" _ (by decide)) (by decide)
        (by decide) (shuns_keyword rfl) (by decide) (by simp) rfl ?_ hmissing
      intro values hfits before tail hbefore _
      simpa using callText_refuses hquote (isWordRun_of_isWordAt hfits hword) hbefore
    exact hknown
  · exact absurd h (by simp)

end Recast.Form
