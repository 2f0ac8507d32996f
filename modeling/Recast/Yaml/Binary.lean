/-!
# Yaml/Binary — bytes written with 64 letters

Four letters, of six bits each, write three bytes. Other characters among the letters are passed
over; equals signs fill up the last group of four and end the text.
-/

namespace Recast.Yaml

/-- The six bits that a letter stands for. -/
def sixBits? (c : Char) : Option Nat :=
  if 'A' ≤ c && c ≤ 'Z' then some (c.toNat - 'A'.toNat)
  else if 'a' ≤ c && c ≤ 'z' then some (c.toNat - 'a'.toNat + 26)
  else if '0' ≤ c && c ≤ '9' then some (c.toNat - '0'.toNat + 52)
  else if c == '+' then some 62
  else if c == '/' then some 63
  else none

/-- The bytes that are written from here on. `place` letters of a group have been read, of which the
bits `left` are left over, and `pads` signs that fill it up. -/
def bytesFrom (place left pads : Nat) : List Char → Option (List UInt8)
  | [] => if place == 0 then some [] else none
  | c :: rest =>
    if c == '=' then
      if 2 ≤ place && 4 ≤ place + pads + 1 then some []
      else bytesFrom place left (if 2 ≤ place then pads + 1 else pads) rest
    else match sixBits? c with
      | none => bytesFrom place left pads rest
      | some bits =>
        match place with
        | 0 => bytesFrom 1 bits 0 rest
        | 1 => (bytesFrom 2 (bits % 16) 0 rest).map ((4 * left + bits / 16).toUInt8 :: ·)
        | 2 => (bytesFrom 3 (bits % 4) 0 rest).map ((16 * left + bits / 4).toUInt8 :: ·)
        | _ => (bytesFrom 0 0 0 rest).map ((64 * left + bits).toUInt8 :: ·)

/-- The bytes that a text writes. -/
def bytes? (text : List Char) : Option (List UInt8) :=
  if text.all fun c => c.toNat < 0x80 then bytesFrom 0 0 0 text else none

end Recast.Yaml
