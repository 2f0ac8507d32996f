import Recast.Proofs.Command.Effects
import Recast.Proofs.Settings.Loading

/-!
# Proofs/Settings/Initial — the initial file changes nothing

What settings are without a file is written down twice: in the records that are filled from fields,
and in the file that is written for a user to edit. The two agree (`initial_eq_toEntries`). So with
every field that the environment sets in both, the file says of each field what is assumed of it
where there is no file (`sayAlike_initial`), and whether the environment is at fault does not depend
on the sections. Loading the file therefore comes to the same as loading none (`load_initEffort`),
fault or no fault.
-/

namespace Recast

namespace Settings

variable {env : Environment} {raw engine logging : Entries} {tools : Tools}

/-! ## What the initial file says -/

/-- **The file says what is assumed** of fields that are not there. -/
theorem initial_eq_toEntries : initial = toEntries {} := rfl

theorem sectionOf_of_holds {entries fields : Entries} {name : String}
    (h : entries.Holds name (.mapping fields)) : sectionOf entries name = fields := by
  rw [sectionOf, h.get?_eq]

/-- The sections of an overlaid mapping. -/
theorem sectionOf_overlaid (env : Environment) (raw engine logging : Entries) :
    sectionOf (raw.setAll (overlaidSections env engine logging)) "engine" =
        engine.setAll (engineFields env) ∧
      sectionOf (raw.setAll (overlaidSections env engine logging)) "logging" =
        logging.setAll (loggingFields env) := by
  have hholds := Entries.holds_setAll (nodup_overlaidSections env engine logging) raw
  exact ⟨sectionOf_of_holds (hholds _ List.mem_cons_self),
    sectionOf_of_holds (hholds _ (.tail _ List.mem_cons_self))⟩

theorem hasSections_overlaid (env : Environment) (raw engine logging : Entries) :
    HasSections (raw.setAll (overlaidSections env engine logging)) := by
  obtain ⟨hengine, hlogging⟩ := sectionOf_overlaid env raw engine logging
  have hholds := Entries.holds_setAll (nodup_overlaidSections env engine logging) raw
  intro name hname
  simp only [List.mem_cons, List.not_mem_nil, or_false] at hname
  rcases hname with rfl | rfl
  · rw [hengine]
    exact (hholds _ List.mem_cons_self).get?_eq
  · rw [hlogging]
    exact (hholds _ (.tail _ List.mem_cons_self)).get?_eq

/-- A section that says what is assumed, and one that says nothing, say the same once the same
fields are set in both. -/
theorem get?_setAll_or {fields : List (String × Value)} (hnodup : (fields.map Prod.fst).Nodup)
    (assumed : Entries) (name : String) :
    ((assumed.setAll fields).get? name).or (assumed.get? name) =
      ((Entries.setAll [] fields).get? name).or (assumed.get? name) := by
  rw [Entries.get?_setAll hnodup, Entries.get?_setAll hnodup, Option.or_assoc, Option.or_self,
    Option.or_assoc]
  rfl

/-- **In every environment** the initial file says the same as no file. -/
theorem sayAlike_initial (env : Environment) : SayAlike
    (initial.setAll (overlaidSections env (sectionOf initial "engine")
      (sectionOf initial "logging")))
    (Entries.setAll [] (overlaidSections env [] [])) := by
  refine ⟨⟨hasSections_overlaid _ _ _ _, hasSections_overlaid _ _ _ _⟩, fun field hfield => ?_⟩
  obtain ⟨hengine, hlogging⟩ := sectionOf_overlaid env initial (sectionOf initial "engine")
    (sectionOf initial "logging")
  obtain ⟨hengine', hlogging'⟩ := sectionOf_overlaid env [] [] []
  have hsection : field.1 = "engine" ∨ field.1 = "logging" := by
    revert field
    decide
  rw [fieldOf, fieldOf, ← initial_eq_toEntries]
  rcases hsection with heq | heq
  · rw [heq, hengine, hengine']
    exact get?_setAll_or (nodup_engineFields env) _ _
  · rw [heq, hlogging, hlogging']
    exact get?_setAll_or (nodup_loggingFields env) _ _

theorem build_initial (hfills : tools.FillsIn) (env : Environment) :
    build env initial tools = build env [] tools := by
  have hengine : section? initial "engine" = .ok (sectionOf initial "engine") := rfl
  have hlogging : section? initial "logging" = .ok (sectionOf initial "logging") := rfl
  have hengine' : section? [] "engine" = .ok [] := rfl
  have hlogging' : section? [] "logging" = .ok [] := rfl
  by_cases hunclear : IsUnclear env
  · obtain ⟨error, -, herror⟩ := exists_overlay_of_isUnclear hunclear
    rw [build_of_overlay_error (herror hengine hlogging),
      build_of_overlay_error (herror hengine' hlogging')]
  · rw [build_of_overlay_ok (overlay_eq hengine hlogging hunclear),
      build_of_overlay_ok (overlay_eq hengine' hlogging' hunclear), all_isTextKey_setAll,
      all_isTextKey_setAll, hfills _ _ (sayAlike_initial env)]
    rfl

/-! ## Loading it -/

/-- A path that the initial settings have been written to leads to their file. -/
theorem place_initEffort {files : Files} {path : Path}
    (h : (Command.initEffort files path tools).fault = none) :
    (files.apply (Command.initEffort files path tools).changes).place path =
      .ok (.file (Text.encode (render tools).toList)) := by
  rcases Command.initEffort_cases tools files path with
    ⟨hfault, -⟩ | ⟨directories, place, -, hlocate, hfree, heffort⟩
  · rw [h] at hfault
    cases hfault
  · rw [heffort, Files.apply_snoc]
    exact Files.place_change_write hlocate hfree

/-- **The initial file changes nothing:** loading it comes to the same as loading no file, whatever
the environment says. Of the tools it is asked that they read back what they have written, and that
a field left out counts as one with its default. -/
theorem load_initEffort {tools : Tools} (hreads : tools.ReadsBack) (hfills : tools.FillsIn)
    (env : Environment) (files : Files) (path : Path)
    (h : (Command.initEffort files path tools).fault = none) :
    load env (files.apply (Command.initEffort files path tools).changes) (some path) tools =
      load env files none tools := by
  rw [load_of_mapping (place_initEffort h) hreads]
  exact build_initial hfills env

theorem load_initEffort_nested :
    Tools.ReadsBack {} ∧ Tools.FillsIn {} ∧
      (Command.initEffort { contents := [] } (Path.ofText "new/recast.yaml")).fault = none ∧
      load loud (Files.apply { contents := [] }
          (Command.initEffort { contents := [] } (Path.ofText "new/recast.yaml")).changes)
        (some (Path.ofText "new/recast.yaml")) = load loud { contents := [] } none := by
  have hwritten : (Command.initEffort { contents := [] } (Path.ofText "new/recast.yaml")).fault =
    none := by decide
  exact ⟨Tools.readsBack_default, Tools.fillsIn_default, hwritten,
    load_initEffort Tools.readsBack_default Tools.fillsIn_default loud { contents := [] }
      (Path.ofText "new/recast.yaml") hwritten⟩

end Settings

end Recast
