/-!
# Settings/Value — what a settings file can hold

A settings file holds values of a few kinds, nested to any depth. A mapping keeps its entries in the
order in which their keys first came; a key that comes again takes a new value at its old place.
Keys may be values of any simple kind, though only texts mean anything here.

A file can also hold a value that contains itself. Such a value stands here as deep as it is looked
at, which is the third level at most.
-/

namespace Recast

/-- A point in time, of which only its kind matters. -/
inductive Moment
  | date
  | dateTime
deriving Repr, DecidableEq

/-- What a settings file can hold. -/
inductive Value
  | null
  | bool (truth : Bool)
  | int (number : Int)
  | float (number : Float)
  | text (words : String)
  | bytes (content : List UInt8)
  | moment (kind : Moment)
  /-- A member of a list of pairs. -/
  | pair (first second : Value)
  | list (items : List Value)
  | set (members : List Value)
  | mapping (entries : List (Value × Value))
deriving Inhabited

/-- The entries of a mapping, in the order of their keys. -/
abbrev Entries := List (Value × Value)

namespace Value

/-- What messages call a value of this kind. -/
def kindName : Value → String
  | .null => "NoneType"
  | .bool _ => "bool"
  | .int _ => "int"
  | .float _ => "float"
  | .text _ => "str"
  | .bytes _ => "bytes"
  | .moment .date => "datetime.date"
  | .moment .dateTime => "datetime.datetime"
  | .pair _ _ => "tuple"
  | .list _ => "list"
  | .set _ => "set"
  | .mapping _ => "dict"

/-- The value says nothing: it is absent, false, zero or empty. -/
def isVoid : Value → Bool
  | .null => true
  | .bool truth => !truth
  | .int number => number == 0
  | .float number => number == 0
  | .text words => words.isEmpty
  | .bytes content => content.isEmpty
  | .moment _ | .pair _ _ => false
  | .list items => items.isEmpty
  | .set members => members.isEmpty
  | .mapping entries => entries.isEmpty

/-- The value can be a key. -/
def isKey : Value → Bool
  | .list _ | .set _ | .mapping _ => false
  | .pair first second => first.isKey && second.isKey
  | _ => true

/-- What messages call the part of the value that keeps it from being a key. -/
def keyFault : Value → String
  | .pair first second => if first.isKey then second.keyFault else first.keyFault
  | value => value.kindName

/-- The number that a key stands for; truth values are 0 and 1. -/
def keyNumber? : Value → Option Float
  | .bool truth => some (if truth then 1 else 0)
  | .int number => some (Float.ofInt number)
  | .float number => some number
  | _ => none

/-- The two values are the same key. -/
def sameKey : Value → Value → Bool
  | .null, .null => true
  | .text a, .text b => a == b
  | .bytes a, .bytes b => a == b
  | .int a, .int b => a == b
  | .pair a b, .pair c d => a.sameKey c && b.sameKey d
  | a, b =>
    match a.keyNumber?, b.keyNumber? with
    | some m, some n => m == n
    | _, _ => false

end Value

namespace Entries

/-- The value under the name. -/
def get? (entries : Entries) (name : String) : Option Value :=
  entries.findSome? fun
    | (.text key, value) => if key = name then some value else none
    | _ => none

/-- The entries with one value set: at the place of its key, or behind all others. -/
def put (entries : Entries) (key value : Value) : Entries :=
  if entries.any (·.1.sameKey key) then
    entries.map fun entry => if entry.1.sameKey key then (entry.1, value) else entry
  else entries ++ [(key, value)]

/-- The entries with the value under the name set. -/
def set (entries : Entries) (name : String) (value : Value) : Entries :=
  entries.put (.text name) value

/-- The entries of the pairs, later ones replacing earlier ones. -/
def ofPairs (pairs : List (Value × Value)) : Entries :=
  pairs.foldl (fun entries pair => entries.put pair.1 pair.2) []

end Entries

end Recast
