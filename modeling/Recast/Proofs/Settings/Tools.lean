import Recast.Proofs.Settings.Overlay
import Recast.Settings.File

/-!
# Proofs/Settings/Tools — what is relied on in the tools of settings

Three things are known of reading, writing and checking settings, each a law of the tools and none
of them about an environment. Settings that have passed the check are within their bounds
(`ChecksBounds`). A field that is left out counts as one with its default, and a field that is not
declared counts for nothing (`FillsIn`). The initial file is read as what was written
(`ReadsBack`). The tools at hand obey all three.
-/

namespace Recast

/-! ## Fields that were read -/

namespace Checked

variable {α β : Type} {a : α} {b : β} {reading : Checked α} {other : Checked β}

end Checked

namespace Fields

variable {α : Type} {a otherwise : α} {entries : Entries} {name : String} {read : Value → Checked α}

end Fields

namespace Settings

namespace Tools

end Tools

end Settings

/-! ## Defaults -/

namespace Fields

variable {α : Type} {otherwise : α} {before other : Entries} {name : String} {value : Value}
  {read : Value → Checked α}

/-- Two sections that say the same of a field, by its default or not, are read alike. -/
theorem withDefault_congr (hdefault : read value = .ok otherwise)
    (h : (before.get? name).or (some value) = (other.get? name).or (some value)) :
    withDefault before name otherwise read = withDefault other name otherwise read := by
  have hread (entries : Entries) : withDefault entries name otherwise read =
      Checked.under name (read (((entries.get? name).or (some value)).getD value)) := by
    rw [withDefault]
    cases entries.get? name with
    | none => exact (congrArg (Checked.under name) hdefault).symm
    | some _ => rfl
  rw [hread, hread, h]

end Fields

/-- A level is read from its name. -/
theorem Level.ofValue_name (level : Level) : Level.ofValue (.text level.name) = .ok level := by
  have hname : Level.ofText? level.name = some level := by cases level <;> decide +kernel
  rw [Level.ofValue, Fields.text]
  simp only [bind, Except.bind, hname]

namespace Settings

/-- The settings as the mapping that says them. -/
def toEntries (settings : Settings) : Entries :=
  let maxLines : Value :=
    match settings.options.maxLines with
    | none => .null
    | some limit => .int limit
  [ (.text "engine", .mapping
      [ (.text "block_matching", .text settings.options.matching.name),
        (.text "prefer_templates", .bool settings.options.preferTemplates),
        (.text "max_source_lines", maxLines) ]),
    (.text "logging", .mapping [(.text "level", .text settings.level.name)]) ]

/-- The fields that are declared, each with the section it belongs to. -/
def declared : List (String × String) :=
  [ ("engine", "block_matching"), ("engine", "prefer_templates"), ("engine", "max_source_lines"),
    ("logging", "level") ]

/-- What a mapping says of a field. A field that is not there has its default. -/
def fieldOf (entries : Entries) (field : String × String) : Option Value :=
  ((sectionOf entries field.1).get? field.2).or ((sectionOf (toEntries {}) field.1).get? field.2)

/-- The mapping has both sections, and they are mappings. -/
def HasSections (entries : Entries) : Prop :=
  ∀ name ∈ ["engine", "logging"], entries.get? name = some (.mapping (sectionOf entries name))

/-- The mappings have both sections, and say the same of every field that is declared. -/
structure SayAlike (entries other : Entries) : Prop where
  sections : HasSections entries ∧ HasSections other
  fieldOf_eq : ∀ field ∈ declared, fieldOf entries field = fieldOf other field

/-- A section that is there is read, under its own name. -/
theorem readSection_of_hasSections {α : Type} {entries : Entries} {name : String} {otherwise : α}
    {read : Entries → Checked α} (h : HasSections entries) (hname : name ∈ ["engine", "logging"]) :
    readSection entries name otherwise read =
      Checked.under name (read (sectionOf entries name)) := by
  rw [readSection, Fields.withDefault, h name hname]

/-- **Mappings that say the same** come to the same settings. -/
theorem ofEntries_congr {entries other : Entries} (h : SayAlike entries other) :
    ofEntries entries = ofEntries other := by
  have hmatching : Fields.withDefault (sectionOf entries "engine") "block_matching" .lookahead
      Matching.ofValue = Fields.withDefault (sectionOf other "engine") "block_matching" .lookahead
        Matching.ofValue :=
    Fields.withDefault_congr rfl (h.fieldOf_eq ("engine", "block_matching") (by decide))
  have htemplates : Fields.withDefault (sectionOf entries "engine") "prefer_templates" true
      Fields.truth = Fields.withDefault (sectionOf other "engine") "prefer_templates" true
        Fields.truth :=
    Fields.withDefault_congr rfl (h.fieldOf_eq ("engine", "prefer_templates") (by decide))
  have hlines : Fields.withDefault (sectionOf entries "engine") "max_source_lines" none
      (Fields.nullable (Fields.wholeBetween (some 1) none)) =
        Fields.withDefault (sectionOf other "engine") "max_source_lines" none
          (Fields.nullable (Fields.wholeBetween (some 1) none)) :=
    Fields.withDefault_congr rfl (h.fieldOf_eq ("engine", "max_source_lines") (by decide))
  have hengine : Options.ofEntries (sectionOf entries "engine") =
      Options.ofEntries (sectionOf other "engine") := by
    rw [Options.ofEntries, Options.ofEntries, hmatching, htemplates, hlines]
  have hlogging : Level.ofEntries (sectionOf entries "logging") =
      Level.ofEntries (sectionOf other "logging") :=
    Fields.withDefault_congr (Level.ofValue_name .info)
      (h.fieldOf_eq ("logging", "level") (by decide))
  obtain ⟨hsections, hsections'⟩ := h.sections
  rw [ofEntries, ofEntries, readSection_of_hasSections hsections (by decide),
    readSection_of_hasSections hsections (by decide),
    readSection_of_hasSections hsections' (by decide),
    readSection_of_hasSections hsections' (by decide), hengine, hlogging]

namespace Tools

/-- **A field that is left out** counts as one with its default, and one that is not declared counts
for nothing. -/
def FillsIn (tools : Tools) : Prop :=
  ∀ entries other, SayAlike entries other → tools.check entries = tools.check other

/-- The built-in check fills in what is missing as expected. -/
theorem fillsIn_default : FillsIn {} := fun _ _ => ofEntries_congr

end Tools

end Settings

/-! ## Values compared

Values have no decidable equality, since numbers with fractions have none. -/

namespace Value

mutual

/-- The values are the same, and hold neither numbers with fractions nor lists. -/
def agrees : Value → Value → Bool
  | .null, .null => true
  | .bool a, .bool b => a == b
  | .int a, .int b => a == b
  | .text a, .text b => a == b
  | .mapping a, .mapping b => agreeAll a b
  | _, _ => false

/-- The entries are the same, in the same order. -/
def agreeAll : List (Value × Value) → List (Value × Value) → Bool
  | [], [] => true
  | (key, value) :: entries, (key', value') :: entries' =>
    key.agrees key' && value.agrees value' && agreeAll entries entries'
  | _, _ => false

end

mutual

/-- Values that agree in the comparison by evaluation are equal. -/
theorem eq_of_agrees : ∀ {a b : Value}, a.agrees b = true → a = b
  | .null, .null, _ => rfl
  | .bool _, .bool _, h => congrArg bool (eq_of_beq h)
  | .int _, .int _, h => congrArg int (eq_of_beq h)
  | .text _, .text _, h => congrArg text (eq_of_beq h)
  | .mapping _, .mapping _, h => congrArg mapping (eq_of_agreeAll h)

theorem eq_of_agreeAll : ∀ {a b : List (Value × Value)}, agreeAll a b = true → a = b
  | [], [], _ => rfl
  | (key, value) :: entries, (key', value') :: entries', h => by
      simp only [agreeAll, Bool.and_eq_true] at h
      rw [eq_of_agrees h.1.1, eq_of_agrees h.1.2, eq_of_agreeAll h.2]

end

end Value

namespace Settings.Tools

/-- **The initial file is read** as what was written. -/
def ReadsBack (tools : Tools) : Prop :=
  tools.read (Text.encode (render tools).toList) = .ok (.mapping initial)

/-- The built-in printer is read back by the built-in reader, as is found by evaluation. -/
theorem readsBack_default : ReadsBack {} := by
  have hread : (match readDocument (Text.encode (render {}).toList) with
      | .error _ => false
      | .ok value => value.agrees (.mapping initial)) = true := by decide +kernel
  split at hread
  · cases hread
  next value hvalue => exact hvalue.trans (congrArg Except.ok (Value.eq_of_agrees hread))

end Settings.Tools

end Recast
