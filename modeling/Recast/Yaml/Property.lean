import Recast.Yaml.Scalar
import Recast.Yaml.Token

/-!
# Yaml/Property — anchors, tags and directives

In front of a node may stand an anchor, which gives it a name, and a tag, which says of what kind it
is. In front of a document may stand directives: the version of the format, and handles that shorten
tags.
-/

namespace Recast.Yaml

/-! ## Anchors -/

/-- The name behind the sign of an anchor or an alias. -/
def anchorName (c : Cursor) : Reading String :=
  let name := c.span isNameChar
  let behind := c.skip name.length
  if name.isEmpty then .error .malformed
  else if behind.endsOr 0 fun x => isGap x || "?:,]\x7d%@`".toList.contains x then
    .ok (String.ofList name, behind)
  else .error .malformed

/-! ## Tags -/

/-- The characters of a tag that are written as they are. -/
def isTagChar (c : Char) : Bool :=
  c.isAlphanum || "-;/?:@&=+$,_.!~*'()[]".toList.contains c

/-- The bytes that are written as a percent sign and two digits each. -/
def codedBytes : List Char → List UInt8 → Option (List UInt8 × Nat)
  | '%' :: high :: low :: rest, bytes => do
    let byte ← hexNumber? [high, low]
    codedBytes rest (bytes ++ [byte.toUInt8])
  | '%' :: _, _ => none
  | _, bytes => some (bytes, 3 * bytes.length)

/-- The rest of a tag. -/
def tagRest : Nat → Cursor → Reading (List Char)
  | 0, _ => .error .malformed
  | fuel + 1, c =>
    if c.nextIs (· == '%') then
      match codedBytes c.rest [] with
      | none => .error .malformed
      | some (bytes, width) =>
        match String.fromUTF8? ⟨bytes.toArray⟩ with
        | none => .error .malformed
        | some words =>
          (tagRest fuel (c.skip width)).map fun (rest, c) => (words.toList ++ rest, c)
    else
      let chars := c.span isTagChar
      if chars.isEmpty then .ok ([], c)
      else (tagRest fuel (c.skip chars.length)).map fun (rest, c) => (chars ++ rest, c)

/-- The text of a tag, which must not be empty. -/
def tagText (c : Cursor) : Reading String :=
  (tagRest (c.rest.length + 1) c).bind fun (chars, behind) =>
    if c.nextIs fun x => x == '%' || isTagChar x then .ok (String.ofList chars, behind)
    else .error .malformed

/-- A handle: an exclamation mark, or a name between two of them. -/
def tagHandle (c : Cursor) : Reading String :=
  if !c.nextIs (· == '!') then .error .malformed
  else if c.step.nextIs (· == ' ') then .ok ("!", c.step)
  else
    let name := c.step.span isNameChar
    let behind := c.step.skip name.length
    if behind.nextIs (· == '!') then .ok ("!" ++ String.ofList name ++ "!", behind.step)
    else .error .malformed

/-- A tag, as a handle or none and what follows it. -/
def tagOf (c : Cursor) : Reading (Option String × String) :=
  let ended (reading : Reading (Option String × String)) : Reading (Option String × String) :=
    reading.bind fun (tag, behind) =>
      if behind.endsOr 0 isSpaceOrBreak then .ok (tag, behind) else .error .malformed
  match c.peek? 1 with
  | some '<' => ended <|
    (tagText (c.skip 2)).bind fun (suffix, behind) =>
      if behind.nextIs (· == '>') then .ok ((none, suffix), behind.step) else .error .malformed
  | next =>
    if next.all isGap then ended (.ok ((none, "!"), c.step))
    else if (c.step.span (!isSpaceOrBreak ·)).contains '!' then ended <|
      (tagHandle c).bind fun (handle, behind) =>
        (tagText behind).map fun (suffix, behind) => ((some handle, suffix), behind)
    else ended <|
      (tagText c.step).map fun (suffix, behind) => ((some "!", suffix), behind)

/-! ## Directives -/

/-- A number of a version. -/
def versionNumber (c : Cursor) : Reading Nat :=
  let digits := c.span Char.isDigit
  if digits.isEmpty then .error .malformed
  else
    .ok (digits.foldl (fun number x => 10 * number + (x.toNat - '0'.toNat)) 0,
      c.skip digits.length)

/-- What the directive of that name says. -/
def directiveContent (name : String) (c : Cursor) : Reading Directive :=
  match name with
  | "YAML" =>
    (versionNumber c.skipSpaces).bind fun (major, behind) =>
      if !behind.nextIs (· == '.') then .error .malformed
      else (versionNumber behind.step).bind fun (_, behind) =>
        if behind.endsOr 0 isSpaceOrBreak then .ok (.version major, behind)
        else .error .malformed
  | "TAG" =>
    (tagHandle c.skipSpaces).bind fun (handle, behind) =>
      if !behind.nextIs (· == ' ') then .error .malformed
      else (tagText behind.skipSpaces).bind fun (lead, behind) =>
        if behind.endsOr 0 isSpaceOrBreak then .ok (.tag handle lead, behind)
        else .error .malformed
  | _ => .ok (.other, c.skipLine)

/-- The directive behind a percent sign, with the rest of its line. -/
def directiveOf (c : Cursor) : Reading Directive :=
  let name := c.span isNameChar
  let behind := c.skip name.length
  if name.isEmpty || !behind.endsOr 0 isSpaceOrBreak then .error .malformed
  else (directiveContent (String.ofList name) behind).bind fun (directive, behind) =>
    match behind.skipRest? with
    | some behind => .ok (directive, behind)
    | none => .error .malformed

end Recast.Yaml
