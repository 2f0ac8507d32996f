import Recast.Text.Quoted

/-!
# Yaml/Fault — why a text is no document that can be understood

Most faults are breaches of the rules of the format. The others lie in a single scalar, which has
the form of a value, or is said to be one, while no such value exists.
-/

namespace Recast.Yaml

/-- Why a scalar stands for no value. -/
inductive ScalarFault
  /-- There is no character of the number that is written. -/
  | noCharacter
  /-- A number has no digits at all. -/
  | noDigits
  /-- What is written are no digits of the base. -/
  | badDigits (base : Nat) (written : String)
  /-- There are more decimal digits than are read. -/
  | tooManyDigits (count : Nat)
  /-- What is written is no number with a fraction. -/
  | badFraction (written : String)
  /-- The word stands for no truth value. -/
  | badTruth (word : String)
  /-- A moment is not written as one. -/
  | badMoment
  /-- The calendar or the clock has no such moment, for the given reason. -/
  | noMoment (reason : String)
deriving Repr, DecidableEq

/-- The most decimal digits of a number that is read. -/
def mostDigits : Nat := 4300

/-- What is said about the scalar. -/
def ScalarFault.message : ScalarFault → String
  | .noCharacter => "chr() arg not in range(0x110000)"
  | .noDigits => "string index out of range"
  | .badDigits base written =>
    s!"invalid literal for int() with base {base}: " ++
      String.ofList ((Text.quoted written).toList.take 200)
  | .tooManyDigits count =>
    s!"Exceeds the limit ({mostDigits} digits) for integer string conversion: " ++
      s!"value has {count} digits; use sys.set_int_max_str_digits() to increase the limit"
  | .badFraction written => "could not convert string to float: " ++ Text.quoted written
  | .badTruth word => Text.quoted word
  | .badMoment => "'NoneType' object has no attribute 'groupdict'"
  | .noMoment reason => reason

/-- Why a text is no document that can be understood. -/
inductive Fault
  /-- It breaks the rules of the format. -/
  | malformed
  /-- One of its scalars stands for no value. -/
  | scalar (fault : ScalarFault)
deriving Repr, DecidableEq

end Recast.Yaml
