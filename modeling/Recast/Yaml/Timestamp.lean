import Recast.Settings.Value
import Recast.Yaml.Fault

/-!
# Yaml/Timestamp — days, and times of a day

A day is written as year, month and day with hyphens between them; a time of that day may follow,
with a fraction of a second and the distance from Greenwich. A plain scalar of that form counts as a
moment even if the calendar has no such day.
-/

namespace Recast.Yaml

/-- A time of a day. -/
structure Clock where
  hour : Nat
  minute : Nat
  second : Nat
  /-- The minutes to the east of Greenwich. -/
  offset : Option Int

/-- A day as it is written, and a time of it. -/
structure Timestamp where
  year : Nat
  month : Nat
  day : Nat
  clock : Option Clock

namespace Timestamp

/-- The number that comes next, written with `least` to `most` digits, and the text behind it. -/
def number? (least most : Nat) (text : List Char) : Option (Nat × List Char) :=
  let digits := (text.take most).takeWhile Char.isDigit
  if digits.length < least then none
  else
    some (digits.foldl (fun number c => 10 * number + (c.toNat - '0'.toNat)) 0,
      text.drop digits.length)

/-- The text behind the sign that comes next. -/
def after? (sign : Char) : List Char → Option (List Char)
  | [] => none
  | c :: rest => if c == sign then some rest else none

/-- The distance from Greenwich at the end of a text, if it ends with one or with nothing. -/
def offset? (text : List Char) : Option (Option Int) :=
  match text, text.dropWhile fun c => c == ' ' || c == '\t' with
  | [], _ => some none
  | _, ['Z'] => some (some 0)
  | _, sign :: rest => do
    guard (sign == '+' || sign == '-')
    let (hours, rest) ← number? 1 2 rest
    let minutes ←
      match rest with
      | [] => some 0
      | _ => do
        let (minutes, rest) ← number? 2 2 (← after? ':' rest)
        guard rest.isEmpty
        some minutes
    let distance : Int := 60 * hours + minutes
    some (some (if sign == '-' then -distance else distance))
  | _, [] => none

/-- The time at the end of a text. -/
def clock? (text : List Char) : Option Clock := do
  let (hour, rest) ← number? 1 2 text
  let (minute, rest) ← number? 2 2 (← after? ':' rest)
  let (second, rest) ← number? 2 2 (← after? ':' rest)
  let rest := if rest.head? == some '.' then (rest.drop 1).dropWhile Char.isDigit else rest
  let offset ← offset? rest
  some { hour, minute, second, offset }

/-- The moment that a text writes. -/
def read? (text : List Char) : Option Timestamp := do
  let (year, rest) ← number? 4 4 text
  let (month, rest) ← number? 1 2 (← after? '-' rest)
  let (day, rest) ← number? 1 2 (← after? '-' rest)
  match rest with
  | [] => some { year, month, day, clock := none }
  | c :: more =>
    let isBlank (c : Char) : Bool := c == ' ' || c == '\t'
    if c == 'T' || c == 't' then (clock? more).map fun clock =>
      { year, month, day, clock := some clock }
    else if isBlank c then (clock? (more.dropWhile isBlank)).map fun clock =>
      { year, month, day, clock := some clock }
    else none

/-- The text is written as a moment; a day by itself needs all its digits. -/
def isTimestamp (text : List Char) : Bool :=
  match read? text with
  | none => false
  | some moment => moment.clock.isSome || text.length == 10

/-! ## The calendar and the clock -/

/-- The year has a day more. -/
def isLeap (year : Nat) : Bool := year % 4 == 0 && (year % 100 != 0 || year % 400 == 0)

/-- The days of a month. -/
def daysIn (year month : Nat) : Nat :=
  if month == 2 then (if isLeap year then 29 else 28)
  else if [4, 6, 9, 11].contains month then 30
  else 31

/-- What is said about a distance from Greenwich of a day or more. -/
def offsetReason (minutes : Int) : String :=
  let days := minutes.fdiv 1440
  let seconds := 60 * minutes.fmod 1440
  let parts := ["days=" ++ toString days] ++ if seconds == 0 then [] else [s!"seconds={seconds}"]
  "offset must be a timedelta strictly between -timedelta(hours=24) and timedelta(hours=24), " ++
    "not datetime.timedelta(" ++ ", ".intercalate parts ++ ")."

/-- Why there is no such day. -/
def dayFault? (t : Timestamp) : Option String :=
  if t.year == 0 then some s!"year {t.year} is out of range"
  else if t.month == 0 || 12 < t.month then some "month must be in 1..12"
  else if t.day == 0 || daysIn t.year t.month < t.day then some "day is out of range for month"
  else none

/-- Why a clock shows no such time. -/
def clockFault? (c : Clock) : Option String :=
  if 23 < c.hour then some "hour must be in 0..23"
  else if 59 < c.minute then some "minute must be in 0..59"
  else if 59 < c.second then some "second must be in 0..59"
  else none

/-- Why the distance from Greenwich is none. -/
def offsetFault? (c : Clock) : Option String :=
  (c.offset.filter fun minutes => 1440 ≤ minutes.natAbs).map offsetReason

/-- **The moment that a scalar writes.** -/
def moment (text : List Char) : Except ScalarFault Moment :=
  match read? text with
  | none => .error .badMoment
  | some t =>
    match (t.clock.bind offsetFault?).or (t.dayFault?.or (t.clock.bind clockFault?)) with
    | some reason => .error (.noMoment reason)
    | none => .ok (if t.clock.isSome then .dateTime else .date)

end Timestamp

end Recast.Yaml
