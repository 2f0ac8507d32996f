/-!
# Text/Utf8 — text from bytes

A character is written with one to four bytes. The first says how many follow; of those that follow,
the first is restricted further, so that every character has one written form and surrogates have
none. Bytes that write no text are refused with the place and the length of the first fault.
-/

namespace Recast.Text

/-- Why bytes write no text. -/
inductive Utf8Reason
  | start
  | continuation
  | ending
deriving Repr, DecidableEq

/-- The first place at which bytes write no text. -/
structure Utf8Fault where
  /-- The bytes that are at fault. -/
  bytes : List UInt8
  position : Nat
  reason : Utf8Reason
deriving Repr, DecidableEq

/-- What is said about the reason. -/
def Utf8Reason.message : Utf8Reason → String
  | .start => "invalid start byte"
  | .continuation => "invalid continuation byte"
  | .ending => "unexpected end of data"

/-- A character of which some bytes are missing. -/
structure PartialChar where
  /-- The bytes that are there, the last first. -/
  bytes : List UInt8
  /-- The bits that they hold. -/
  code : Nat
  /-- How many bytes are missing. -/
  missing : Nat
  /-- The least byte that may come next. -/
  least : UInt8
  /-- The greatest byte that may come next. -/
  most : UInt8

/-- The character that a byte other than an ASCII character starts. -/
def PartialChar.ofStart? (byte : UInt8) : Option PartialChar :=
  let start (bits missing : Nat) (least most : UInt8) : Option PartialChar :=
    some { bytes := [byte], code := bits, missing, least, most }
  if byte < 0xC2 then none
  else if byte < 0xE0 then start (byte.toNat - 0xC0) 1 0x80 0xBF
  else if byte < 0xF0 then
    start (byte.toNat - 0xE0) 2 (if byte == 0xE0 then 0xA0 else 0x80)
      (if byte == 0xED then 0x9F else 0xBF)
  else if byte < 0xF5 then
    start (byte.toNat - 0xF0) 3 (if byte == 0xF0 then 0x90 else 0x80)
      (if byte == 0xF4 then 0x8F else 0xBF)
  else none

/-- The text of the bytes from `position` on, behind those of the character `begun`. -/
def decodeFrom (position : Nat) (begun : Option PartialChar) :
    List UInt8 → Except Utf8Fault (List Char)
  | [] =>
    match begun with
    | none => .ok []
    | some char =>
      .error
        { bytes := char.bytes.reverse, position := position - char.bytes.length
          reason := .ending }
  | byte :: rest =>
    match begun with
    | some char =>
      if char.least ≤ byte && byte ≤ char.most then
        let code := 64 * char.code + (byte.toNat - 0x80)
        if char.missing ≤ 1 then
          (decodeFrom (position + 1) none rest).map (Char.ofNat code :: ·)
        else
          decodeFrom (position + 1)
            (some { bytes := byte :: char.bytes, code, missing := char.missing - 1,
                    least := 0x80, most := 0xBF }) rest
      else
        .error
          { bytes := char.bytes.reverse, position := position - char.bytes.length
            reason := .continuation }
    | none =>
      if byte < 0x80 then (decodeFrom (position + 1) none rest).map (Char.ofNat byte.toNat :: ·)
      else match PartialChar.ofStart? byte with
        | some char => decodeFrom (position + 1) (some char) rest
        | none => .error { bytes := [byte], position, reason := .start }

/-- **The text that bytes write.** -/
def decode (bytes : List UInt8) : Except Utf8Fault (List Char) := decodeFrom 0 none bytes

/-- The bytes of a text. -/
def encode (text : List Char) : List UInt8 := (String.ofList text).toUTF8.toList

end Recast.Text
