import Recast.Settings.Fault
import Recast.Settings.Value
import Recast.Text.Blank

/-!
# Settings/Fields — reading a field as a text, a truth value or a whole number

Fields are read generously. A truth value may be written as a word or a number, a whole number as a
text or as a number without a fraction; a number is no text, though. What cannot be read is
reported as a `Complaint`, which tells a value of the wrong kind from one whose words make no sense.
-/

namespace Recast.Fields

/-- A text. -/
def text : Value → Checked String
  | .text words => .ok words
  | .bytes content =>
    match String.fromUTF8? ⟨content.toArray⟩ with
    | some words => .ok words
    | none => .fault .notDecodable
  | _ => .fault .notText

/-! ## Truth values -/

/-- The words for true. -/
def trueWords : List String := ["1", "t", "true", "y", "yes", "on"]

/-- The words for false. -/
def falseWords : List String := ["0", "f", "false", "n", "no", "off"]

/-- The truth value that a word stands for, in large or small ASCII letters. -/
def truthOfWord (word : String) : Checked Bool :=
  let word := word.map Char.toLower
  if trueWords.contains word then .ok true
  else if falseWords.contains word then .ok false
  else .fault .unclearTruth

/-- The number fits in 64 bits. -/
def isShort (number : Int) : Bool :=
  -9223372036854775808 ≤ number && number < 9223372036854775808

/-- The truth value that a number stands for. -/
def truthOfInt (number : Int) : Checked Bool :=
  if number = 0 then .ok false
  else if number = 1 then .ok true
  else if isShort number then .fault .unclearTruth
  else .fault .notTruth

/-- The whole number that is equal to a number, if there is one of moderate size. -/
def wholeOfFloat (number : Float) : Checked Int :=
  if number.isNaN || number.isInf then .fault .infinite
  else if number.floor != number then .fault .fractional
  else if -9223372036854775808.0 < number && number < 9223372036854775808.0 then
    .ok number.toInt64.toInt
  else .fault .tooLong

/-- A truth value, a word for one, or 0 or 1. -/
def truth : Value → Checked Bool
  | .bool truth => .ok truth
  | .text word => truthOfWord word
  | .bytes content =>
    match String.fromUTF8? ⟨content.toArray⟩ with
    | some word => truthOfWord word
    | none => .fault .unclearTruth
  | .int number => truthOfInt number
  | .float number =>
    match wholeOfFloat number with
    | .ok number => truthOfInt number
    | .error _ => .fault .notTruth
  | _ => .fault .notTruth

/-! ## Whole numbers -/

/-- The most characters a number may be written with. -/
def longestNumber : Nat := 4300

/-- Decimal digits, with single underscores between them where the writer wants them. -/
def digits? : List Char → Option Nat
  | [] => none
  | chars =>
    if chars.head? = some '_' || chars.getLast? = some '_' then none
    else go 0 chars
where
  go : Nat → List Char → Option Nat
    | number, [] => some number
    | number, '_' :: c :: rest => if c = '_' then none else go number (c :: rest)
    | number, c :: rest =>
      if c.isDigit then go (10 * number + (c.toNat - '0'.toNat)) rest else none

/-- A sign or none, digits, and perhaps a point with nothing but zeros behind it. -/
def number? (chars : List Char) : Option Int :=
  let (negative, chars) :=
    match chars with
    | '+' :: rest => (false, rest)
    | '-' :: rest => (true, rest)
    | _ => (false, chars)
  let whole := chars.takeWhile (· != '.')
  let fraction := (chars.dropWhile (· != '.')).drop 1
  if fraction.all (· == '0') then
    (digits? whole).map fun number => if negative then -(number : Int) else number
  else none

/-- The blanks that may stand around a number. -/
def isOuterBlank (c : Char) : Bool := Text.isBlank c && !(0x1C ≤ c.toNat && c.toNat ≤ 0x1F)

/-- The whole number that a text writes. -/
def wholeOfText (words : String) : Checked Int :=
  let inner := words.toList.dropWhile isOuterBlank
  let inner := (inner.reverse.dropWhile isOuterBlank).reverse
  if longestNumber < inner.length then .fault .tooLong
  else match number? inner with
    | some number => .ok number
    | none => .fault .unclearWhole

/-- A whole number, a number equal to one, or a text that writes one. -/
def whole : Value → Checked Int
  | .bool truth => .ok (if truth then 1 else 0)
  | .int number => .ok number
  | .float number => wholeOfFloat number
  | .text words => wholeOfText words
  | .bytes content =>
    match String.fromUTF8? ⟨content.toArray⟩ with
    | some words => wholeOfText words
    | none => .fault .unclearWhole
  | _ => .fault .notWhole

/-- A whole number between two bounds, either of which may be left open. -/
def wholeBetween (least most : Option Int) (value : Value) : Checked Int := do
  let number ← whole value
  match least, most with
  | some least, some most =>
    if number < least then .fault (.below least)
    else if most < number then .fault (.above most)
    else .ok number
  | some least, none => if number < least then .fault (.below least) else .ok number
  | none, some most => if most < number then .fault (.above most) else .ok number
  | none, none => .ok number

/-- One of the things that have names, by its name. -/
def named {α : Type} (names : List String) (ofName? : String → Option α) : Value → Checked α
  | .text words =>
    match ofName? words with
    | some thing => .ok thing
    | none => .fault (.notAmong names)
  | _ => .fault (.notAmong names)

/-! ## Fields of a record -/

/-- The field of that name, which has to be there. -/
def required {α : Type} (entries : Entries) (name : String) (read : Value → Checked α) :
    Checked α :=
  match entries.get? name with
  | some value => (read value).under name
  | none => .under name (.fault .missing)

/-- The field of that name, or what it is without being there. -/
def withDefault {α : Type} (entries : Entries) (name : String) (otherwise : α)
    (read : Value → Checked α) : Checked α :=
  match entries.get? name with
  | some value => (read value).under name
  | none => .ok otherwise

/-- A field that may be null. -/
def nullable {α : Type} (read : Value → Checked α) : Value → Checked (Option α)
  | .null => .ok none
  | value => (read value).map some

end Recast.Fields
