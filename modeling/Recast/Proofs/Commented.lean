import Recast.Proofs.Echo
import Recast.Proofs.Recaster

/-!
# Proofs/Commented — which echoes are comments from end to end

An echo writes the comment token in front of each of its own lines and of each line of the source,
but not in front of a line that begins within a language's name. A name is what the user wrote for
an id, so it may have several lines. The lines of an echo are all comments or empty just when the
further lines of the two names are (`Echo.isCommented_render_iff`), and for the languages that are
known from the start they always are.
-/

namespace Recast

open Text

/-! ## Texts that are comments -/

namespace Echo

variable {target : Language} {text more : List Char}

/-- The line is empty, or starts with the comment token of the language. -/
def IsComment (target : Language) (line : List Char) : Prop :=
  line = [] ∨ target.commentPrefix.toList <+: line

/-- **Each line of the text is empty or a comment.** -/
def IsCommented (target : Language) (text : List Char) : Prop :=
  ∀ line ∈ lines text, IsComment target line

/-- Each line of the text is empty or a comment, from the second on. -/
def GoesOnCommented (target : Language) (text : List Char) : Prop :=
  ∀ line ∈ (lines text).tail, IsComment target line

instance (target : Language) (line : List Char) : Decidable (IsComment target line) :=
  inferInstanceAs (Decidable (_ ∨ _))

instance (target : Language) (text : List Char) : Decidable (IsCommented target text) :=
  inferInstanceAs (Decidable (∀ line ∈ lines text, _))

instance (target : Language) (text : List Char) : Decidable (GoesOnCommented target text) :=
  inferInstanceAs (Decidable (∀ line ∈ (lines text).tail, _))

theorem isCommented_iff : IsCommented target text ↔
    IsComment target (text.takeWhile (· ≠ '\n')) ∧ GoesOnCommented target text := by
  rw [IsCommented, lines_eq_cons, List.forall_mem_cons, GoesOnCommented]

theorem goesOnCommented_of_not_mem (h : '\n' ∉ text) : GoesOnCommented target text := by
  have htail : (lines text).tail = [] := by
    have happend := tail_lines_append h []
    rwa [List.append_nil] at happend
  rw [GoesOnCommented, htail]
  exact fun line hline => absurd hline List.not_mem_nil

theorem isCommented_nil : IsCommented target [] := fun line hline =>
  .inl (by simpa [lines] using hline)

theorem goesOnCommented_append_of_not_mem (h : '\n' ∉ text) (more : List Char) :
    GoesOnCommented target (text ++ more) ↔ GoesOnCommented target more := by
  rw [GoesOnCommented, GoesOnCommented, tail_lines_append h]

theorem goesOnCommented_lineFeed :
    GoesOnCommented target ('\n' :: text) ↔ IsCommented target text := by
  rw [GoesOnCommented, tail_lines_cons, if_pos rfl, IsCommented]

theorem isCommented_joinLines : ∀ {ls : List (List Char)}, ls ≠ [] →
    (IsCommented target (joinLines ls) ↔ ∀ text ∈ ls, IsCommented target text)
  | [text], _ => by rw [joinLines_singleton, List.forall_mem_singleton]
  | text :: next :: more, _ => by
      rw [joinLines_cons_cons, IsCommented, lines_append_lineFeed, List.forall_mem_append,
        ← IsCommented, ← IsCommented, isCommented_joinLines (List.cons_ne_nil next more),
        ← List.forall_mem_cons]

/-! ## Texts that go on behind a blank -/

section Prefix

variable (htoken : ∀ c ∈ target.commentPrefix.toList, isBlank c = false)

include htoken

theorem lineFeed_not_mem_commentPrefix : '\n' ∉ target.commentPrefix.toList := fun hmem =>
  absurd (htoken _ hmem) (by decide)

/-- The comment token is on the first line of a text if the text starts with it. -/
theorem isComment_firstLine : IsComment target (text.takeWhile (· ≠ '\n')) ↔
    text.head?.all (· = '\n') = true ∨ target.commentPrefix.toList <+: text := by
  have hnil : text.takeWhile (· ≠ '\n') = [] ↔ text.head?.all (· = '\n') = true := by
    cases text <;> simp
  rw [IsComment, hnil]
  refine or_congr_right ⟨fun h => h.trans (List.takeWhile_prefix _), ?_⟩
  rintro ⟨rest, rfl⟩
  have hinline : ∀ c ∈ target.commentPrefix.toList, decide (c ≠ '\n') = true := fun c hc =>
    decide_eq_true fun heq => lineFeed_not_mem_commentPrefix htoken (heq ▸ hc)
  rw [List.takeWhile_append_of_pos hinline]
  exact List.prefix_append _ _

/-- The comment token holds no blank, so it is not completed by a text behind one. -/
theorem prefix_append_iff (hmore : more.head?.all isBlank = true) :
    target.commentPrefix.toList <+: text ++ more ↔ target.commentPrefix.toList <+: text := by
  refine ⟨fun ⟨tail, htail⟩ => ?_, fun h => h.trans (List.prefix_append text more)⟩
  rcases List.append_eq_append_iff.mp htail with ⟨rest, hrest, -⟩ | ⟨rest, hrest, hcut⟩
  · exact ⟨rest, hrest.symm⟩
  · cases rest with
    | nil => exact ⟨[], by rw [hrest]; simp⟩
    | cons c rest =>
      have hblank : isBlank c = true := by simpa [hcut] using hmore
      rw [htoken c (by simp [hrest])] at hblank
      exact absurd hblank (by decide)

/-- **A text that goes on behind a blank**, having ended within a line. -/
theorem goesOnCommented_append (htext : text.getLast? ≠ some '\n')
    (hmore : more.head?.all isBlank = true) :
    GoesOnCommented target (text ++ more) ↔
      GoesOnCommented target text ∧ GoesOnCommented target more := by
  induction text with
  | nil => simp [GoesOnCommented, lines]
  | cons c text ih =>
    have hcons : ∀ rest, c ≠ '\n' →
        (GoesOnCommented target (c :: rest) ↔ GoesOnCommented target rest) := fun rest hc =>
      goesOnCommented_append_of_not_mem (List.mem_singleton.not.mpr (Ne.symm hc)) rest
    cases text with
    | nil =>
      have hc : c ≠ '\n' := by simpa using htext
      rw [List.cons_append, hcons _ hc, List.nil_append, and_iff_right]
      exact goesOnCommented_of_not_mem (List.mem_singleton.not.mpr (Ne.symm hc))
    | cons d text =>
      have ih := ih (by simpa using htext)
      rw [List.cons_append]
      by_cases hc : c = '\n'
      · rw [hc, goesOnCommented_lineFeed, goesOnCommented_lineFeed, isCommented_iff,
          isCommented_iff, ih, isComment_firstLine htoken, isComment_firstLine htoken,
          prefix_append_iff htoken hmore, and_assoc]
        rfl
      · rw [hcons _ hc, hcons _ hc, ih]

/-! ## Echoes -/

/-- A text behind the comment token is commented if it goes on so. -/
theorem isCommented_prefix_append (text : List Char) :
    IsCommented target (target.commentPrefix.toList ++ text) ↔ GoesOnCommented target text := by
  rw [isCommented_iff, isComment_firstLine htoken,
    goesOnCommented_append_of_not_mem (lineFeed_not_mem_commentPrefix htoken)]
  exact and_iff_right (.inr (List.prefix_append _ _))

theorem isCommented_comment {line : List Char} (hline : '\n' ∉ line) :
    IsCommented target (comment target line) :=
  (isCommented_prefix_append htoken _).mpr
    (goesOnCommented_of_not_mem (by simpa using hline))

variable {source : Language} (hsource : source.displayName.toList.getLast? ≠ some '\n')

include hsource

/-- The banner names both languages, and the source once more. -/
theorem isCommented_banner_iff :
    (∀ line ∈ (banner source target).map String.toList, IsCommented target line) ↔
      GoesOnCommented target source.displayName.toList ∧
        GoesOnCommented target target.displayName.toList := by
  have hto := goesOnCommented_append htoken hsource
    (show (" to ".toList ++ target.displayName.toList).head?.all isBlank = true from rfl)
  have hcode := goesOnCommented_append htoken hsource
    (show " code:".toList.head?.all isBlank = true from rfl)
  have hempty : IsCommented target "".toList := isCommented_nil
  simp only [banner, List.map_cons, List.map_nil, List.forall_mem_cons, List.not_mem_nil,
    false_implies, implies_true, String.toList_append, List.append_assoc,
    isCommented_prefix_append htoken, hempty]
  simp (disch := decide) only [goesOnCommented_append_of_not_mem, goesOnCommented_of_not_mem, hto,
    hcode, and_true, true_and]
  exact and_iff_left_of_imp And.left

/-- So does the guidance, each of them once. -/
theorem isCommented_guidance_iff (htarget : target.displayName.toList.getLast? ≠ some '\n') :
    (∀ line ∈ (guidance source target).map String.toList, IsCommented target line) ↔
      GoesOnCommented target source.displayName.toList ∧
        GoesOnCommented target target.displayName.toList := by
  have hto := goesOnCommented_append htoken hsource
    (show (" code to ".toList ++ (target.displayName.toList ++ " by hand.".toList)).head?.all
      isBlank = true from rfl)
  have hhand := goesOnCommented_append htoken htarget
    (show " by hand.".toList.head?.all isBlank = true from rfl)
  have hempty : IsCommented target "".toList := isCommented_nil
  simp only [guidance, List.map_cons, List.map_nil, List.forall_mem_cons, List.not_mem_nil,
    false_implies, implies_true, String.toList_append, List.append_assoc,
    isCommented_prefix_append htoken, hempty]
  simp (disch := decide) only [goesOnCommented_append_of_not_mem, goesOnCommented_of_not_mem, hto,
    hhand, and_true, true_and]

/-- **An echo is commented from end to end** just when the names of the two languages, which stand
in banner and guidance as they are, go on commented. -/
theorem isCommented_render_iff (htarget : target.displayName.toList.getLast? ≠ some '\n')
    (code : List Char) :
    IsCommented target (render code source target) ↔
      GoesOnCommented target source.displayName.toList ∧
        GoesOnCommented target target.displayName.toList := by
  have hmarked : ∀ line ∈ (lines code).map (comment target), IsCommented target line :=
    List.forall_mem_map.mpr fun line hline =>
      isCommented_comment htoken (not_mem_of_mem_lines hline)
  rw [render, isCommented_joinLines (by simp [banner]), List.forall_mem_append,
    List.forall_mem_append, and_iff_left hmarked, isCommented_banner_iff htoken hsource,
    isCommented_guidance_iff htoken hsource htarget, and_self]

end Prefix

end Echo

/-! ## Languages that are looked up -/

/-- The comment token holds no blank, and the name ends within a line. -/
structure Language.IsShown (language : Language) : Prop where
  commentPrefix : ∀ c ∈ language.commentPrefix.toList, isBlank c = false
  displayName : language.displayName.toList.getLast? ≠ some '\n'

namespace Catalog

theorem isShown_of_mem : ∀ language ∈ Catalog.standard.languages, language.IsShown := by
  have hall : Catalog.standard.languages.all (fun language =>
      language.commentPrefix.toList.all (!isBlank ·) &&
        language.displayName.toList.getLast? != some '\n') = true := by decide
  intro language hmem
  obtain ⟨htoken, hname⟩ := Bool.and_eq_true_iff.mp (List.all_eq_true.mp hall language hmem)
  exact ⟨fun c hc => Bool.not_eq_true' _ ▸ List.all_eq_true.mp htoken c hc, by simpa using hname⟩

theorem isShown_adHoc (id : String) : (Language.adHoc id).IsShown where
  commentPrefix c hc := by
    have hall : "//".toList.all (!isBlank ·) = true := by decide
    simpa using List.all_eq_true.mp hall c hc
  displayName := by
    rw [Language.adHoc, Language.of]
    split
    · exact show "Unknown".toList.getLast? ≠ some '\n' by decide
    · intro hlast
      have hblank := getLast?_trim id.toList
      rw [String.toList_ofList] at hlast
      rw [hlast] at hblank
      exact absurd hblank (by decide)

/-- **A language is shown by a name that ends within a line**, listed or made up. -/
theorem isShown_resolve (id : String) : (Catalog.standard.resolve id).IsShown := by
  rw [resolve]
  cases hfind : Catalog.standard.find? id with
  | none => exact isShown_adHoc id
  | some language => exact isShown_of_mem language (List.mem_of_find?_eq_some hfind)

end Catalog

/-! ## Results -/

namespace Recaster

open Echo

/-- A result of the generic way is an echo, whether that way was chosen or stood in. -/
theorem code_of_generic {recaster : Recaster} {code : List Char} {source target : Language}
    (h : (recaster.recastText code source target).1.strategy = .generic) :
    (recaster.recastText code source target).1.code.toList = render code source target := by
  cases hfollow : recaster.follow? (recaster.chosen source target) code source target with
  | none =>
    rw [recastText_of_none hfollow]
    exact String.toList_ofList
  | some made =>
    rw [recastText_of_follow? hfollow] at h ⊢
    have hchosen : recaster.chosen source target = .generic := h
    rw [hchosen, follow?, Option.some_inj] at hfollow
    rw [← hfollow]
    exact String.toList_ofList

/-- **Each line of a generic result is empty or a comment** just when the further lines of the two
names are. An unknown id may write there what it pleases; a name on one line has no such lines
(`Echo.goesOnCommented_of_not_mem`). -/
theorem isCommented_recast_iff (recaster : Recaster) (hcatalog : recaster.catalog = .standard)
    (code : Option String) (source target : String)
    (hgeneric : (recaster.recast code (.id source) (.id target)).1.strategy = .generic) :
    IsCommented (Catalog.standard.resolve target)
        (recaster.recast code (.id source) (.id target)).1.code.toList ↔
      GoesOnCommented (Catalog.standard.resolve target)
          (Catalog.standard.resolve source).displayName.toList ∧
        GoesOnCommented (Catalog.standard.resolve target)
          (Catalog.standard.resolve target).displayName.toList := by
  rw [recast] at hgeneric ⊢
  rw [code_of_generic hgeneric, hcatalog]
  exact isCommented_render_iff (Catalog.isShown_resolve target).commentPrefix
    (Catalog.isShown_resolve source).displayName (Catalog.isShown_resolve target).displayName _

/-- A source id whose second line is a comment itself, and a listed target. -/
theorem isCommented_recast_iff_twoLines :
    (({} : Recaster).recast (some "x\ny") (.id " a\n// b") (.id "dart")).1.strategy = .generic ∧
      IsCommented (Catalog.standard.resolve "dart")
        (({} : Recaster).recast (some "x\ny") (.id " a\n// b") (.id "dart")).1.code.toList := by
  have hgeneric :
      (({} : Recaster).recast (some "x\ny") (.id " a\n// b") (.id "dart")).1.strategy =
        .generic := by decide
  refine ⟨hgeneric, (isCommented_recast_iff {} rfl (some "x\ny") " a\n// b" "dart"
    hgeneric).mpr ?_⟩
  decide

/-- The second line of a source id leaves the comment. -/
theorem not_isCommented_recast_twoLines :
    (({} : Recaster).recast (some "x") (.id "a\nb") (.id "dart")).1.strategy = .generic ∧
      ¬ IsCommented (Catalog.standard.resolve "dart")
        (({} : Recaster).recast (some "x") (.id "a\nb") (.id "dart")).1.code.toList := by
  have hgeneric : (({} : Recaster).recast (some "x") (.id "a\nb") (.id "dart")).1.strategy =
      .generic := by decide
  refine ⟨hgeneric, ?_⟩
  have hsource := Catalog.isShown_resolve "a\nb"
  have htarget := Catalog.isShown_resolve "dart"
  rw [recast] at hgeneric ⊢
  rw [code_of_generic hgeneric]
  exact mt (isCommented_render_iff htarget.commentPrefix hsource.displayName
    htarget.displayName _).mp (by decide)

end Recaster

end Recast
