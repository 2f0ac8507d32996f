/-!
# Settings/Fault — what can be wrong with a record of fields

A record is read field by field, and every fault is reported, each with the path to its field. A
reading is therefore either a value or a list of faults (`Checked`), and two readings join their
faults.
-/

namespace Recast

/-- What is wrong with a field. -/
inductive Complaint
  | missing
  | notText
  | notDecodable
  | notTruth
  | unclearTruth
  | notWhole
  | unclearWhole
  | fractional
  | infinite
  | tooLong
  | below (least : Int)
  | above (most : Int)
  | notAmong (names : List String)
  | notRecord (kind : String)
  | refused (reason : String)
  | frozen
deriving Repr, DecidableEq

namespace Complaint

/-- The names, each between quotes, with commas and a last `or`. -/
def eitherOf : List String → String
  | [] => ""
  | [name] => "'" ++ name ++ "'"
  | [name, last] => "'" ++ name ++ "' or '" ++ last ++ "'"
  | name :: names => "'" ++ name ++ "', " ++ eitherOf names

/-- The short name of the complaint. -/
def code : Complaint → String
  | .missing => "missing"
  | .notText => "string_type"
  | .notDecodable => "string_unicode"
  | .notTruth => "bool_type"
  | .unclearTruth => "bool_parsing"
  | .notWhole => "int_type"
  | .unclearWhole => "int_parsing"
  | .fractional => "int_from_float"
  | .infinite => "finite_number"
  | .tooLong => "int_parsing_size"
  | .below _ => "greater_than_equal"
  | .above _ => "less_than_equal"
  | .notAmong _ => "enum"
  | .notRecord _ => "model_type"
  | .refused _ => "value_error"
  | .frozen => "frozen_instance"

/-- What is said about the field. -/
def message : Complaint → String
  | .missing => "Field required"
  | .notText => "Input should be a valid string"
  | .notDecodable => "Input should be a valid string, unable to parse raw data as a unicode string"
  | .notTruth => "Input should be a valid boolean"
  | .unclearTruth => "Input should be a valid boolean, unable to interpret input"
  | .notWhole => "Input should be a valid integer"
  | .unclearWhole => "Input should be a valid integer, unable to parse string as an integer"
  | .fractional => "Input should be a valid integer, got a number with a fractional part"
  | .infinite => "Input should be a finite number"
  | .tooLong => "Unable to parse input string as an integer, exceeded maximum size"
  | .below least => s!"Input should be greater than or equal to {least}"
  | .above most => s!"Input should be less than or equal to {most}"
  | .notAmong names => "Input should be " ++ eitherOf names
  | .notRecord kind => "Input should be a valid dictionary or instance of " ++ kind
  | .refused reason => "Value error, " ++ reason
  | .frozen => "Instance is frozen"

end Complaint

/-- Something wrong with a field. -/
structure Fault where
  /-- The names that lead to the field, outermost first. -/
  path : List String
  complaint : Complaint
deriving Repr, DecidableEq

/-- A value, or all that is wrong. -/
abbrev Checked (α : Type) := Except (List Fault) α

namespace Checked

/-- One fault. -/
def fault {α : Type} (complaint : Complaint) : Checked α := .error [⟨[], complaint⟩]

/-- Two readings together; the faults of the first come first. -/
def both {α β : Type} : Checked α → Checked β → Checked (α × β)
  | .ok a, .ok b => .ok (a, b)
  | .ok _, .error faults => .error faults
  | .error faults, .ok _ => .error faults
  | .error faults, .error more => .error (faults ++ more)

/-- The reading as that of the field `name` of an outer record. -/
def under {α : Type} (name : String) : Checked α → Checked α
  | .ok a => .ok a
  | .error faults => .error (faults.map fun fault => { fault with path := name :: fault.path })

end Checked

end Recast
