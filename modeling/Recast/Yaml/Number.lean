import Recast.Text.Blank
import Recast.Text.Digit
import Recast.Text.Lower
import Recast.Text.Pieces
import Recast.Yaml.Fault

/-!
# Yaml/Number — whole numbers and numbers with a fraction

A number may be signed, and underscores in it say nothing. Whole numbers are written in the bases 2,
8, 10 and 16; numbers of either sort also in base 60, with colons between the digits, as times are.

A plain scalar counts as a number only if it is written as one (`isWhole`, `isFraction`). Reading is
more generous, since a tag may claim that any scalar is a number.
-/

namespace Recast.Yaml.Number

/-! ## Forms -/

/-- The text without the sign in front. -/
def unsigned : List Char → List Char
  | '+' :: rest => rest
  | '-' :: rest => rest
  | text => text

/-- A decimal digit or an underscore. -/
def isDigitOrGap (c : Char) : Bool := c.isDigit || c == '_'

/-- A digit, and further digits and underscores behind it. -/
def isGrouped : List Char → Bool
  | [] => false
  | c :: rest => c.isDigit && rest.all isDigitOrGap

/-- A digit of base 60. -/
def isSixtieth : List Char → Bool
  | [d] => d.isDigit
  | [d, e] => '0' ≤ d && d ≤ '5' && e.isDigit
  | _ => false

/-- The text is written as a whole number. -/
def isWhole (text : List Char) : Bool :=
  match unsigned text with
  | '0' :: 'b' :: rest => !rest.isEmpty && rest.all fun c => c == '0' || c == '1' || c == '_'
  | '0' :: 'x' :: rest =>
    !rest.isEmpty && rest.all fun c =>
      isDigitOrGap c || 'a' ≤ c && c ≤ 'f' || 'A' ≤ c && c ≤ 'F'
  | '0' :: rest => rest.all fun c => '0' ≤ c && c ≤ '7' || c == '_'
  | rest =>
    match Text.pieces ':' rest with
    | first :: others => isGrouped first && others.all isSixtieth
    | [] => false

/-- Nothing, or an exponent with its sign. -/
def isExponent : List Char → Bool
  | [] => true
  | mark :: sign :: digits =>
    (mark == 'e' || mark == 'E') && (sign == '+' || sign == '-') && !digits.isEmpty &&
      digits.all Char.isDigit
  | _ => false

/-- The words for infinity, behind their point. -/
def infinities : List String := ["inf", "Inf", "INF"]

/-- The words for what is no number, with their point. -/
def notNumbers : List String := [".nan", ".NaN", ".NAN"]

/-- The text is written as a number with a fraction. -/
def isFraction (text : List Char) : Bool :=
  match unsigned text with
  | '.' :: rest =>
    infinities.contains (String.ofList rest) || notNumbers.contains (String.ofList text) ||
      text.head? == some '.' && rest.head?.any Char.isDigit &&
        isExponent (rest.dropWhile isDigitOrGap)
  | number =>
    match Text.pieces ':' (number.takeWhile (· != '.')), number.dropWhile (· != '.') with
    | [whole], '.' :: rest => isGrouped whole && isExponent (rest.dropWhile isDigitOrGap)
    | first :: others, '.' :: rest =>
      isGrouped first && others.all isSixtieth && rest.all isDigitOrGap
    | _, _ => false

/-! ## Values -/

/-- The sign in front of a text, and the text behind it. -/
def signed (text : List Char) : Bool × List Char := (text.head? == some '-', unsigned text)

/-- The value of a digit in a base of at most 36. -/
def digitIn? (base : Nat) (c : Char) : Option Nat :=
  let value? :=
    if 'a' ≤ c && c ≤ 'z' then some (c.toNat - 'a'.toNat + 10)
    else if 'A' ≤ c && c ≤ 'Z' then some (c.toNat - 'A'.toNat + 10)
    else Text.digitValue? c
  value?.filter (· < base)

/-- The number that digits of a base write. -/
def natOf? (base : Nat) (digits : List Char) : Option Nat :=
  if digits.isEmpty then none
  else digits.foldlM (fun number c => (digitIn? base c).map (base * number + ·)) 0

/-- The digits behind the mark of their base, if the mark is there. -/
def afterMark (base : Nat) : List Char → List Char
  | '0' :: mark :: rest =>
    let marks :=
      match base with
      | 2 => ['b', 'B']
      | 8 => ['o', 'O']
      | 16 => ['x', 'X']
      | _ => []
    if marks.contains mark then rest else '0' :: mark :: rest
  | digits => digits

/-- The whole number that is written in a base, blanks around it ignored. -/
def wholeIn (base : Nat) (text : List Char) : Except ScalarFault Int :=
  let (negative, digits) := signed (Text.trim text)
  match natOf? base (afterMark base digits) with
  | none => .error (.badDigits base (String.ofList text))
  | some number =>
    if base == 10 && mostDigits < digits.length then .error (.tooManyDigits digits.length)
    else .ok (if negative then -number else number)

/-- **The whole number that a scalar writes.** -/
def whole (text : List Char) : Except ScalarFault Int := do
  let chars := text.filter (· != '_')
  if chars.isEmpty then throw .noDigits
  let (negative, digits) := signed chars
  let number ←
    match digits with
    | ['0'] => pure 0
    | '0' :: 'b' :: rest => wholeIn 2 rest
    | '0' :: 'x' :: rest => wholeIn 16 rest
    | '0' :: _ => wholeIn 8 digits
    | [] => throw .noDigits
    | _ =>
      (Text.pieces ':' digits).foldlM
        (fun number part => (60 * number + ·) <$> wholeIn 10 part) 0
  return if negative then -number else number

/-- The number `digits · 10 ^ exponent`. What is far beyond the reach of 64 bits is infinite or
zero. -/
def decimal (digits : List Char) (exponent : Int) : Float :=
  match natOf? 10 digits with
  | none => 0
  | some 0 => 0
  | some number =>
    if 400 < exponent then 1.0 / 0.0
    else if exponent < -(400 + digits.length : Int) then 0
    else Float.ofScientific number (exponent < 0) exponent.natAbs

/-- The number behind the mark of an exponent; without a mark it is zero. -/
def exponent? : List Char → Option Int
  | [] => some 0
  | mark :: rest =>
    if mark == 'e' || mark == 'E' then
      let (negative, digits) := signed rest
      (natOf? 10 digits).map fun number => if negative then -(number : Int) else number
    else none

/-- The number that is written with a point, an exponent, both or neither, blanks around it
ignored. -/
def fractionIn (text : List Char) : Except ScalarFault Float :=
  let (negative, number) := signed (Text.trim text)
  let isDigit (c : Char) : Bool := (Text.digitValue? c).isSome
  let size? : Option Float :=
    match String.ofList (number.map Char.toLower) with
    | "inf" | "infinity" => some (1.0 / 0.0)
    | "nan" => some (0.0 / 0.0)
    | _ =>
      let lead := number.takeWhile isDigit
      let rest := number.dropWhile isDigit
      let tail := if rest.head? == some '.' then (rest.drop 1).takeWhile isDigit else []
      let rest := if rest.head? == some '.' then (rest.drop 1).dropWhile isDigit else rest
      if lead.isEmpty && tail.isEmpty then none
      else (exponent? rest).map fun exponent => decimal (lead ++ tail) (exponent - tail.length)
  match size? with
  | none => .error (.badFraction (String.ofList text))
  | some size => .ok (if negative then -size else size)

/-- **The number with a fraction that a scalar writes.** -/
def fraction (text : List Char) : Except ScalarFault Float := do
  let chars := Text.lower (text.filter (· != '_'))
  if chars.isEmpty then throw .noDigits
  let (negative, digits) := signed chars
  let size ←
    match String.ofList digits with
    | ".inf" => pure (1.0 / 0.0)
    | ".nan" => pure (0.0 / 0.0)
    | _ => do
      let parts ← (Text.pieces ':' digits).mapM fractionIn
      let (size, _) := parts.reverse.foldl
        (fun (size, unit) part => (size + part * unit, 60 * unit)) ((0.0 : Float), (1.0 : Float))
      pure size
  return if negative then -size else size

end Recast.Yaml.Number
