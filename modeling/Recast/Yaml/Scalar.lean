import Recast.Yaml.Cursor
import Recast.Yaml.Fault

/-!
# Yaml/Scalar — the text of a scalar

A scalar is written plain, between quotes, or as an indented block behind `|` or `>`. Except in a
literal block, a single line break counts as a space and further ones as line feeds.

Readers take the place where the scalar starts and give its text and the place behind it. They are
bounded by the length of the text, which every round of theirs shortens.
-/

namespace Recast.Yaml

/-- What a reader gives: something, and the place behind it. -/
abbrev Reading (α : Type) := Except Fault (α × Cursor)

/-- A line break and the breaks behind it, as they count in a scalar whose lines are folded. -/
def foldBreaks (first : Char) (more : List Char) : List Char :=
  if first != '\n' then first :: more
  else if more.isEmpty then [' ']
  else more

/-! ## Between quotes -/

/-- The line breaks that come next, with the blanks around them; a separator of documents must not
come among them. -/
def quotedBreaks : Nat → Cursor → Reading (List Char)
  | 0, _ => .error .malformed
  | fuel + 1, c =>
    if c.atSeparator then .error .malformed
    else
      let c := c.skipWhile isSpaceOrTab
      match c.lineBreak? with
      | none => .ok ([], c)
      | some (x, c) => (quotedBreaks fuel c).map fun (more, c) => (x :: more, c)

/-- The blanks and line breaks inside a quoted scalar. -/
def quotedSpaces (fuel : Nat) (c : Cursor) : Reading (List Char) :=
  let blanks := c.span isSpaceOrTab
  let c := c.skip blanks.length
  match c.next? with
  | none => .error .malformed
  | some _ =>
    match c.lineBreak? with
    | none => .ok (blanks, c)
    | some (first, c) => (quotedBreaks fuel c).map fun (more, c) => (foldBreaks first more, c)

/-- The character that a letter behind a backslash stands for. -/
def escape? : Char → Option Char
  | '0' => some '\u0000'
  | 'a' => some '\u0007'
  | 'b' => some '\u0008'
  | 't' => some '\t'
  | '\t' => some '\t'
  | 'n' => some '\n'
  | 'v' => some '\u000B'
  | 'f' => some '\u000C'
  | 'r' => some '\r'
  | 'e' => some '\u001B'
  | ' ' => some ' '
  | '"' => some '"'
  | '\\' => some '\\'
  | '/' => some '/'
  | 'N' => some '\u0085'
  | '_' => some '\u00A0'
  | 'L' => some '\u2028'
  | 'P' => some '\u2029'
  | _ => none

/-- The number of hexadecimal digits that a letter behind a backslash announces. -/
def escapeWidth? : Char → Option Nat
  | 'x' => some 2
  | 'u' => some 4
  | 'U' => some 8
  | _ => none

/-- The value of a hexadecimal digit. -/
def hexDigit? (c : Char) : Option Nat :=
  if c.isDigit then some (c.toNat - '0'.toNat)
  else if 'a' ≤ c && c ≤ 'f' then some (c.toNat - 'a'.toNat + 10)
  else if 'A' ≤ c && c ≤ 'F' then some (c.toNat - 'A'.toNat + 10)
  else none

/-- The number that hexadecimal digits write. -/
def hexNumber? (digits : List Char) : Option Nat :=
  digits.foldlM (fun number c => (hexDigit? c).map (16 * number + ·)) 0

/-- The character behind a backslash and the letter that announces `width` digits. -/
def codedChar (width : Nat) (c : Cursor) : Reading (List Char) :=
  let digits := c.rest.take width
  if digits.length < width then .error .malformed
  else match hexNumber? digits with
    | none => .error .malformed
    | some code =>
      if code < 0x110000 then .ok ([Char.ofNat code], c.skip width)
      else .error (.scalar .noCharacter)

/-- What comes behind a backslash in a scalar between double quotes. -/
def escaped (fuel : Nat) (c : Cursor) : Reading (List Char) :=
  match c.next? with
  | none => .error .malformed
  | some x =>
    match escape? x, escapeWidth? x, c.lineBreak? with
    | some y, _, _ => .ok ([y], c.step)
    | none, some width, _ => codedChar width c.step
    | none, none, some (_, c) => quotedBreaks fuel c
    | none, none, none => .error .malformed

/-- The scalar from here to the quote that ends it. -/
def quotedRest (double : Bool) : Nat → Cursor → Reading (List Char)
  | 0, _ => .error .malformed
  | fuel + 1, c =>
    let more (first : Reading (List Char)) : Reading (List Char) :=
      first.bind fun (chars, c) =>
        (quotedRest double fuel c).map fun (rest, c) => (chars ++ rest, c)
    match c.next? with
    | none => .error .malformed
    | some x =>
      if isGap x then more (quotedSpaces fuel c)
      else if double then
        if x == '"' then .ok ([], c.step)
        else if x == '\\' then more (escaped fuel c.step)
        else more (.ok ([x], c.step))
      else
        if x == '\'' then
          if c.peek? 1 == some '\'' then more (.ok (['\''], c.skip 2)) else .ok ([], c.step)
        else more (.ok ([x], c.step))

/-- A scalar between quotes. -/
def quotedScalar (double : Bool) (c : Cursor) : Reading (List Char) :=
  quotedRest double (c.rest.length + 1) c.step

/-! ## Plain -/

/-- The characters of a plain scalar up to a gap or an indicator. -/
def plainWord (inFlow : Bool) : List Char → List Char
  | [] => []
  | x :: rest =>
    let afterColon (y : Char) : Bool := isGap y || (inFlow && ",[]\x7b\x7d".toList.contains y)
    if isGap x then []
    else if x == ':' && rest.head?.all afterColon then []
    else if inFlow && ",?[]\x7b\x7d".toList.contains x then []
    else x :: plainWord inFlow rest

/-- What lies between two words of a plain scalar. -/
structure PlainGap where
  /-- The characters that it counts for. -/
  chars : List Char
  /-- A line ended. -/
  broken : Bool
  /-- A separator of documents follows, so the scalar has ended. -/
  separator : Bool

/-- The breaks and spaces behind a line break in a plain scalar, and whether a separator of
documents ended them. -/
def plainBreaks : Nat → Cursor → List Char × Bool × Cursor
  | 0, c => ([], false, c)
  | fuel + 1, c =>
    if c.nextIs (· == ' ') then plainBreaks fuel c.step
    else match c.lineBreak? with
      | none => ([], false, c)
      | some (x, c) =>
        if c.atSeparator then ([x], true, c)
        else
          let (more, separator, c) := plainBreaks fuel c
          (x :: more, separator, c)

/-- The gap that comes next in a plain scalar. -/
def plainGap (fuel : Nat) (c : Cursor) : PlainGap × Cursor :=
  let spaces := c.span (· == ' ')
  let c := c.skip spaces.length
  match c.lineBreak? with
  | none => ({ chars := spaces, broken := false, separator := false }, c)
  | some (first, c) =>
    if c.atSeparator then ({ chars := [], broken := true, separator := true }, c)
    else
      let (more, separator, c) := plainBreaks fuel c
      ({ chars := foldBreaks first more, broken := true, separator }, c)

/-- A plain scalar from here on, whose words are at least `indent` wide indented outside a flow
collection. Says besides whether it ended with a line. -/
def plainRest (inFlow : Bool) (indent : Int) :
    Nat → (gap : List Char) → (broken : Bool) → Cursor → List Char × Bool × Cursor
  | 0, _, broken, c => ([], broken, c)
  | fuel + 1, gap, broken, c =>
    let word := if c.nextIs (· == '#') then [] else plainWord inFlow c.rest
    if word.isEmpty then ([], broken, c)
    else
      let (next, behind) := plainGap fuel (c.skip word.length)
      if next.separator || next.chars.isEmpty || behind.nextIs (· == '#') ||
          (!inFlow && (behind.column : Int) < indent) then
        (gap ++ word, next.broken, behind)
      else
        let (rest, broken, c) := plainRest inFlow indent fuel next.chars next.broken behind
        (gap ++ word ++ rest, broken, c)

/-- A plain scalar, and whether it ended with a line. -/
def plainScalar (inFlow : Bool) (indent : Int) (c : Cursor) : List Char × Bool × Cursor :=
  plainRest inFlow indent (c.rest.length + 1) [] false c

/-! ## Blocks -/

/-- What becomes of the line breaks at the end of a block. -/
inductive Chomping
  /-- All go. -/
  | strip
  /-- One stays. -/
  | clip
  /-- All stay. -/
  | keep
deriving Repr, DecidableEq

/-- The sign of a way of chomping. -/
def Chomping.ofSign? : Char → Option Chomping
  | '-' => some .strip
  | '+' => some .keep
  | _ => none

/-- The chomping and the indentation that are announced behind `|` or `>`, in either order. -/
def blockHeader (c : Cursor) : Reading (Chomping × Option Nat) :=
  let sign (c : Cursor) : Option Chomping × Cursor :=
    match c.next?.bind Chomping.ofSign? with
    | some chomping => (some chomping, c.step)
    | none => (none, c)
  let digit (c : Cursor) : Option Nat × Cursor :=
    match c.next? with
    | some x => if x.isDigit then (some (x.toNat - '0'.toNat), c.step) else (none, c)
    | none => (none, c)
  let (early, c) := sign c
  let (increment, c) := digit c
  let (late, c) := if early.isNone && increment.isSome then sign c else (none, c)
  if increment == some 0 || !c.endsOr 0 isSpaceOrBreak then .error .malformed
  else .ok (((early.or late).getD .clip, increment), c)

/-- The empty lines at the start of a block, and the widest indentation met in them. -/
def leadingBreaks : Nat → Cursor → List Char × Nat × Cursor
  | 0, c => ([], 0, c)
  | fuel + 1, c =>
    if c.nextIs (· == ' ') then
      let (breaks, width, behind) := leadingBreaks fuel c.step
      (breaks, max c.step.column width, behind)
    else match c.lineBreak? with
      | none => ([], 0, c)
      | some (x, c) =>
        let (breaks, width, behind) := leadingBreaks fuel c
        (x :: breaks, width, behind)

/-- Behind the spaces in front of column `indent`. -/
def skipIndent (indent : Nat) (c : Cursor) : Cursor :=
  c.skip (min (c.span (· == ' ')).length (indent - c.column))

/-- The empty lines that come next in a block that is `indent` wide indented. -/
def innerBreaks (indent : Nat) : Nat → Cursor → List Char × Cursor
  | 0, c => ([], c)
  | fuel + 1, c =>
    let c := skipIndent indent c
    match c.lineBreak? with
    | none => ([], c)
    | some (x, c) =>
      let (more, c) := innerBreaks indent fuel c
      (x :: more, c)

/-- The lines of a block from here on, `breaks` being the empty lines in front of the next one. -/
def blockLines (folded : Bool) (chomping : Chomping) (indent : Nat) :
    Nat → (breaks : List Char) → Cursor → List Char × Cursor
  | 0, _, c => ([], c)
  | fuel + 1, breaks, c =>
    let flush (c : Cursor) : Bool := !c.nextIs isSpaceOrTab
    let line := c.span (!isBreak ·)
    let behind := c.skip line.length
    let (lineBreak, behind) :=
      match behind.lineBreak? with
      | some (x, c) => ([x], c)
      | none => ([], behind)
    let (more, behind) := innerBreaks indent fuel behind
    if behind.column == indent && behind.next?.isSome then
      let joint :=
        if folded && lineBreak == ['\n'] && flush c && flush behind then
          if more.isEmpty then [' '] else []
        else lineBreak
      let (rest, behind) := blockLines folded chomping indent fuel more behind
      (breaks ++ line ++ joint ++ rest, behind)
    else
      let ending :=
        match chomping with
        | .strip => []
        | .clip => lineBreak
        | .keep => lineBreak ++ more
      (breaks ++ line ++ ending, behind)

/-- A block scalar inside a collection that is `parent` wide indented. -/
def blockScalar (folded : Bool) (parent : Int) (c : Cursor) : Reading (List Char) :=
  let fuel := c.rest.length + 1
  (blockHeader c.step).bind fun ((chomping, increment), c) =>
  match c.skipRest? with
  | none => .error .malformed
  | some c =>
    let least := (max (parent + 1) 1).toNat
    let (breaks, indent, c) :=
      match increment with
      | some increment =>
        let indent := least + increment - 1
        let (breaks, c) := innerBreaks indent fuel c
        (breaks, indent, c)
      | none =>
        let (breaks, width, c) := leadingBreaks fuel c
        (breaks, max least width, c)
    if c.column == indent && c.next?.isSome then
      .ok (blockLines folded chomping indent fuel breaks c)
    else
      .ok (if chomping == .keep then breaks else [], c)

end Recast.Yaml
