import Recast.Proofs.Settings.Entries
import Recast.Settings.Environment

/-!
# Proofs/Settings/Overlay — a mapping overlaid by the environment

What the environment says is a list of fields for each section (`engineFields`, `loggingFields`),
unless a variable holds a word that means nothing (`IsUnclear`), and whether it does is not up to
the mapping. So overlaying is setting fields: in the sections those of the environment, and in the
mapping the two sections (`overlay_eq`). From this come all laws (`overlay_plain`): the variables
win, everything else stays, and a second overlay finds its fields set already.

Values are not changed in place, so the mapping that was overlaid is what it was before.
-/

namespace Recast

namespace Matching

/-- A name of the list is the name of a way to match. -/
theorem exists_ofName? {word : String} (h : word ∈ all.map name) :
    ∃ matching, ofName? word = some matching ∧ matching.name = word := by
  obtain ⟨matching, -, rfl⟩ := List.mem_map.mp h
  exact ⟨matching, ofName?_name matching, rfl⟩

theorem ofName?_of_not_mem {word : String} (h : word ∉ all.map name) : ofName? word = none :=
  List.find?_eq_none.mpr fun _ hmem heq => h (eq_of_beq heq ▸ List.mem_map_of_mem hmem)

end Matching

namespace Settings

/-! ## What the environment says -/

/-- The word that a variable holds, blanks around it ignored. -/
def truthWord (value : String) : String := small (String.ofList (Text.trim value.toList))

/-- The words for true. -/
def yesWords : List String := ["1", "true", "yes", "on"]

/-- The words for false. -/
def noWords : List String := ["0", "false", "no", "off"]

/-- A variable that is set and not empty holds a word that means nothing. Blanks count in the name
of a way of matching, but not around a truth value. -/
def IsUnclear (env : Environment) : Prop :=
  (∃ value ∈ env.value? matchingVariable, small value ∉ ["lookahead", "stack"]) ∨
    ∃ value ∈ env.value? templatesVariable, truthWord value ∉ yesWords ++ noWords

instance : DecidablePred IsUnclear := fun _ => inferInstanceAs (Decidable (_ ∨ _))

/-- What the environment says about the section on recasting. -/
def engineFields (env : Environment) : List (String × Value) :=
  ((env.value? matchingVariable).map fun value =>
      ("block_matching", Value.text (small value))).toList ++
    ((env.value? templatesVariable).map fun value =>
      ("prefer_templates", Value.bool (decide (truthWord value ∈ yesWords)))).toList

/-- What the environment says about the section on messages. -/
def loggingFields (env : Environment) : List (String × Value) :=
  ((env.value? levelVariable).map fun value => ("level", Value.text value)).toList

theorem truthOf_eq (name value : String) : truthOf name value =
    if truthWord value ∈ yesWords then .ok true
    else if truthWord value ∈ noWords then .ok false
    else .error (.badTruth name value) := by
  rw [truthOf]
  simp only [List.contains_eq_mem, decide_eq_true_eq]
  rfl

/-- A word for yes or no is read as such. -/
theorem truthOf_of_mem {name value : String} (h : truthWord value ∈ yesWords ++ noWords) :
    truthOf name value = .ok (decide (truthWord value ∈ yesWords)) := by
  rw [truthOf_eq]
  by_cases hyes : truthWord value ∈ yesWords
  · rw [if_pos hyes, decide_eq_true hyes]
  · rw [if_neg hyes, if_pos ((List.mem_append.mp h).resolve_left hyes), decide_eq_false hyes]

/-- Any other word is an error that names the variable and the word. -/
theorem truthOf_of_not_mem {name value : String} (h : truthWord value ∉ yesWords ++ noWords) :
    truthOf name value = .error (.badTruth name value) := by
  obtain ⟨hyes, hno⟩ := not_or.mp (List.mem_append.not.mp h)
  rw [truthOf_eq, if_neg hyes, if_neg hno]

/-! ## One section -/

variable {env : Environment} {raw engine logging : Entries} {name : String}

/-- A variable that is not unclear names a way to match. -/
theorem exists_ofName?_of_value? {value : String}
    (hvalue : env.value? matchingVariable = some value)
    (h : ¬∃ value ∈ env.value? matchingVariable, small value ∉ ["lookahead", "stack"]) :
    ∃ matching, Matching.ofName? (small value) = some matching ∧ matching.name = small value :=
  Matching.exists_ofName? (Decidable.not_not.mp fun hnot => h ⟨value, hvalue, hnot⟩)

/-- **An environment that is clear** sets its fields. -/
theorem overlayEngine_of_not_isUnclear (h : ¬IsUnclear env) :
    overlayEngine env engine = .ok (engine.setAll (engineFields env)) := by
  obtain ⟨hmatching, htemplates⟩ := not_or.mp h
  have hwords : ∀ value, env.value? templatesVariable = some value →
      truthOf templatesVariable value = .ok (decide (truthWord value ∈ yesWords)) :=
    fun value hvalue => truthOf_of_mem
      (Decidable.not_not.mp fun hnot => htemplates ⟨value, hvalue, hnot⟩)
  rw [overlayEngine, engineFields]
  cases hm : env.value? matchingVariable with
  | none =>
    cases ht : env.value? templatesVariable with
    | none => rfl
    | some word =>
      simp only [hwords word ht]
      rfl
  | some value =>
    obtain ⟨matching, hsome, hname⟩ := exists_ofName?_of_value? hm hmatching
    cases ht : env.value? templatesVariable with
    | none =>
      simp only [hsome, hname]
      rfl
    | some word =>
      simp only [hsome, hname, hwords word ht]
      rfl

/-- **An environment that is unclear** is a fault, whatever the section holds. -/
theorem exists_overlayEngine_of_isUnclear (h : IsUnclear env) :
    ∃ error : SettingsError, error.isSettingsFault = true ∧
      ∀ engine, overlayEngine env engine = .error error := by
  by_cases hmatching : ∃ value ∈ env.value? matchingVariable, small value ∉ ["lookahead", "stack"]
  · obtain ⟨value, hvalue, hnot⟩ := hmatching
    refine ⟨.badMatching value, rfl, fun engine => ?_⟩
    rw [overlayEngine]
    simp only [Option.mem_def.mp hvalue, Matching.ofName?_of_not_mem hnot]
    rfl
  · obtain ⟨value, hvalue, hnot⟩ := h.resolve_left hmatching
    refine ⟨.badTruth templatesVariable value, rfl, fun engine => ?_⟩
    rw [overlayEngine]
    simp only [Option.mem_def.mp hvalue, truthOf_of_not_mem hnot]
    cases hm : env.value? matchingVariable with
    | none => rfl
    | some name =>
      obtain ⟨matching, hname, -⟩ := exists_ofName?_of_value? hm hmatching
      simp only [hname]
      rfl

/-- What the environment says of logging is set field by field. -/
theorem overlayLogging_eq (env : Environment) (logging : Entries) :
    overlayLogging env logging = logging.setAll (loggingFields env) := by
  rw [overlayLogging, loggingFields]
  cases env.value? levelVariable <;> rfl

/-- No field is set twice. -/
theorem nodup_engineFields (env : Environment) : ((engineFields env).map Prod.fst).Nodup := by
  rw [engineFields]
  cases env.value? matchingVariable <;> cases env.value? templatesVariable <;> simp

theorem nodup_loggingFields (env : Environment) : ((loggingFields env).map Prod.fst).Nodup := by
  rw [loggingFields]
  cases env.value? levelVariable <;> simp

/-! ## Both sections -/

/-- The section is not there, says nothing, or is a mapping. -/
def IsPlain (raw : Entries) (name : String) : Prop :=
  ∀ value ∈ raw.get? name, value.isVoid = true ∨ ∃ entries, value = .mapping entries

/-- The entries of a section that is a mapping. -/
def sectionOf (raw : Entries) (name : String) : Entries :=
  match raw.get? name with
  | some (.mapping entries) => entries
  | _ => []

theorem section?_of_get? {entries : Entries}
    (h : raw.get? name = some (.mapping entries)) : section? raw name = .ok entries := by
  rw [section?, h]
  cases entries <;> rfl

/-- A section that is absent counts as an empty one. -/
theorem section?_of_isPlain (h : IsPlain raw name) : section? raw name =
    .ok (sectionOf raw name) := by
  cases hget : raw.get? name with
  | none => rw [section?, sectionOf, hget]
  | some value =>
    by_cases hmapping : ∃ entries, value = .mapping entries
    · obtain ⟨entries, rfl⟩ := hmapping
      rw [section?_of_get? hget, sectionOf, hget]
    · have hvoid := (h value hget).resolve_right hmapping
      rw [section?, sectionOf, hget]
      simp only [hvoid, if_true]
      cases value with
      | mapping entries => exact absurd ⟨entries, rfl⟩ hmapping
      | _ => rfl

/-- The two sections as the environment leaves them. -/
def overlaidSections (env : Environment) (engine logging : Entries) : List (String × Value) :=
  [("engine", .mapping (engine.setAll (engineFields env))),
    ("logging", .mapping (logging.setAll (loggingFields env)))]

/-- **The overlay has no more to say** of sections that it has gone over. -/
theorem overlaidSections_setAll (env : Environment) (engine logging : Entries) :
    overlaidSections env (engine.setAll (engineFields env)) (logging.setAll (loggingFields env)) =
      overlaidSections env engine logging := by
  rw [overlaidSections, Entries.setAll_setAll (nodup_engineFields env),
    Entries.setAll_setAll (nodup_loggingFields env), overlaidSections]

theorem nodup_overlaidSections (env : Environment) (engine logging : Entries) :
    ((overlaidSections env engine logging).map Prod.fst).Nodup :=
  (by decide : ["engine", "logging"].Nodup)

/-! A section that is none is a fault before anything else is looked at. -/

/-- Once there are sections, it is only up to the environment whether a mapping can be overlaid. -/
theorem overlay_of_sections (hengine : section? raw "engine" = .ok engine)
    (hlogging : section? raw "logging" = .ok logging) :
    overlay env raw = (overlayEngine env engine).map fun engine =>
      (raw.set "engine" (.mapping engine)).set "logging"
        (.mapping (overlayLogging env logging)) := by
  rw [overlay, hengine, hlogging]
  simp only [Except.mapError, bind, Except.bind]
  cases overlayEngine env engine <;> rfl

/-- A fault of the environment is one whatever mapping is overlaid. -/
theorem exists_overlay_of_isUnclear (h : IsUnclear env) :
    ∃ error : SettingsError, error.isSettingsFault = true ∧ ∀ {raw engine logging : Entries},
      (section? raw "engine" = .ok engine) → (section? raw "logging" = .ok logging) →
        overlay env raw = .error error := by
  obtain ⟨error, hfault, herror⟩ := exists_overlayEngine_of_isUnclear h
  refine ⟨error, hfault, fun hengine hlogging => ?_⟩
  rw [overlay_of_sections hengine hlogging, herror]
  rfl

/-- **Overlaying is setting fields:** those of the environment in the sections, and the sections in
the mapping. -/
theorem overlay_eq (hengine : section? raw "engine" = .ok engine)
    (hlogging : section? raw "logging" = .ok logging) (hclear : ¬IsUnclear env) :
    overlay env raw = .ok (raw.setAll (overlaidSections env engine logging)) := by
  rw [overlay_of_sections hengine hlogging, overlayEngine_of_not_isUnclear hclear,
    overlayLogging_eq]
  rfl

/-- **Overlaying twice** is overlaying once. -/
theorem overlay_setAll (hclear : ¬IsUnclear env) (raw engine logging : Entries) :
    overlay env (raw.setAll (overlaidSections env engine logging)) =
      .ok (raw.setAll (overlaidSections env engine logging)) := by
  have hsections := nodup_overlaidSections env engine logging
  have hholds := Entries.holds_setAll hsections raw
  have hengine := section?_of_get? (hholds _ List.mem_cons_self).get?_eq
  have hlogging := section?_of_get? (hholds _ (.tail _ List.mem_cons_self)).get?_eq
  rw [overlay_eq hengine hlogging hclear, overlaidSections_setAll, Entries.setAll_setAll hsections]

/-! ## The laws -/

/-- What a mapping is when it has been overlaid. -/
structure IsOverlaid (env : Environment) (raw merged : Entries) : Prop where
  /-- All but the sections is as it was. -/
  without_eq : merged.without ["engine", "logging"] = raw.without ["engine", "logging"]
  /-- The section on recasting takes what the environment says about it. -/
  engine : ∃ entries : Entries, merged.Holds "engine" (.mapping entries) ∧
    entries.Takes (sectionOf raw "engine") (engineFields env)
  /-- The section on messages takes what the environment says about it. -/
  logging : ∃ entries : Entries, merged.Holds "logging" (.mapping entries) ∧
    entries.Takes (sectionOf raw "logging") (loggingFields env)

/-- **What is overlaid** differs from the mapping in the two sections only. -/
theorem isOverlaid_setAll (env : Environment) (raw : Entries) : IsOverlaid env raw
    (raw.setAll (overlaidSections env (sectionOf raw "engine") (sectionOf raw "logging"))) where
  without_eq := Entries.without_setAll (by simp [overlaidSections]) raw
  engine := ⟨_, Entries.holds_setAll (nodup_overlaidSections _ _ _) raw _ List.mem_cons_self,
    Entries.takes_setAll (nodup_engineFields env) _⟩
  logging := ⟨_, Entries.holds_setAll (nodup_overlaidSections _ _ _) raw _
    (.tail _ List.mem_cons_self), Entries.takes_setAll (nodup_loggingFields env) _⟩

/-- **The laws of the overlay.** -/
theorem overlay_plain (env : Environment) (raw : Entries) (hengine : IsPlain raw "engine")
    (hlogging : IsPlain raw "logging") :
    (IsUnclear env ↔ ∃ error, overlay env raw = .error error ∧ error.isSettingsFault = true) ∧
      (¬IsUnclear env → ∃ merged, overlay env raw = .ok merged ∧ IsOverlaid env raw merged ∧
        overlay env merged = .ok merged) := by
  have hoverlay : ¬IsUnclear env → overlay env raw = .ok (raw.setAll
      (overlaidSections env (sectionOf raw "engine") (sectionOf raw "logging"))) :=
    overlay_eq (section?_of_isPlain hengine) (section?_of_isPlain hlogging)
  refine ⟨⟨fun hunclear => ?_, fun ⟨error, herror, _⟩ => ?_⟩, fun hclear =>
    ⟨_, hoverlay hclear, isOverlaid_setAll env raw, overlay_setAll hclear _ _ _⟩⟩
  · obtain ⟨error, hfault, herror⟩ := exists_overlay_of_isUnclear hunclear
    exact ⟨error, herror (section?_of_isPlain hengine) (section?_of_isPlain hlogging), hfault⟩
  · by_contra hclear
    rw [hoverlay hclear] at herror
    cases herror

/-- A mapping with a way of matching that is none, and a section that says nothing. -/
def sideways : Entries :=
  [ (.int 1, .null),
    (.text "engine", .mapping
      [(.text "block_matching", .text "sideways"), (.text "max_source_lines", .int 9)]),
    (.text "logging", .bool false) ]

/-- An environment with all variables in it, of which one is empty. -/
def loud : Environment :=
  [("RULEMORPH_BLOCK_MATCHING", "STACK"), ("RULEMORPH_PREFER_TEMPLATES", " Off "),
    ("RULEMORPH_LOG_LEVEL", "")]

/-- A mapping with a key besides, in an environment that says everything. -/
theorem overlay_plain_sideways : IsPlain sideways "engine" ∧ IsPlain sideways "logging" ∧
    ¬IsUnclear loud ∧ ∃ merged, overlay loud sideways = .ok merged ∧
      IsOverlaid loud sideways merged ∧ overlay loud merged = .ok merged := by
  have hengine : IsPlain sideways "engine" := by
    rintro value ⟨rfl⟩
    exact .inr ⟨_, rfl⟩
  have hlogging : IsPlain sideways "logging" := by
    rintro value ⟨rfl⟩
    exact .inl rfl
  have hclear : ¬IsUnclear loud := by decide
  exact ⟨hengine, hlogging, hclear, (overlay_plain loud sideways hengine hlogging).2 hclear⟩

end Settings

end Recast
