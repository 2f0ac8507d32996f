import Recast.Yaml.Property

/-!
# Yaml/Layout — the tokens of a document

The tokens of a document are read from its start to its end. What a character means depends on the
collections that are open there. Inside brackets (a flow collection) indentation means nothing;
outside, a token that stands further to the left than an open block collection ends it.

Any node that fits into a line may turn out to be a key, which shows only when a colon follows. So
the place where the last node started is remembered, for the innermost collection and for those
around it, until the line is over or too long. A node that must be a key, because a block mapping
stands in its column, is a fault if no colon comes.
-/

namespace Recast.Yaml

/-- A place where a key may have started. -/
structure KeyStart where
  /-- The number of tokens in front of it. -/
  position : Nat
  /-- It must be a key. -/
  required : Bool
  place : Cursor

/-- How far behind its start a key may end. -/
def longestKey : Nat := 1024

/-- The place, unless it is too far away for a key that starts there to end here. -/
def KeyStart.stillOpen (here : Cursor) : Option KeyStart → Except Fault (Option KeyStart)
  | none => .ok none
  | some key =>
    if key.place.line == here.line && here.index - key.place.index ≤ longestKey then .ok (some key)
    else if key.required then .error .malformed
    else .ok none

/-- A document read up to some place. -/
structure Layout where
  place : Cursor
  tokens : Array Token := #[]
  /-- The column of the innermost block collection, or −1. -/
  indent : Int := -1
  /-- The columns of the block collections around it, and −1. -/
  outerIndents : List Int := []
  /-- A key may start here. -/
  keyAllowed : Bool := true
  /-- Where a key may have started in the innermost collection. -/
  lastKey : Option KeyStart := none
  /-- The same for the collections around it, one for each open flow collection. -/
  outerKeys : List (Option KeyStart) := []

namespace Layout

/-- A flow collection is open. -/
def inFlow (l : Layout) : Bool := !l.outerKeys.isEmpty

/-- One token more. -/
def push (l : Layout) (token : Token) : Layout := { l with tokens := l.tokens.push token }

/-- Behind the next `n` characters. -/
def skip (l : Layout) (n : Nat) : Layout := { l with place := l.place.skip n }

/-- Whether a key may start at the next token. -/
def allowKey (l : Layout) (allowed : Bool) : Layout := { l with keyAllowed := allowed }

/-! ## Keys -/

/-- The last node is no key. -/
def dropKey (l : Layout) : Except Fault Layout :=
  if l.lastKey.any (·.required) then .error .malformed else .ok { l with lastKey := none }

/-- The node that starts here may be a key. -/
def saveKey (l : Layout) : Except Fault Layout :=
  if l.keyAllowed then
    l.dropKey.map fun l =>
      { l with
        lastKey := some
          { position := l.tokens.size
            required := !l.inFlow && l.indent == l.place.column
            place := l.place } }
  else .ok l

/-- Places that are too far away are forgotten. -/
def dropFarKeys (l : Layout) : Except Fault Layout := do
  let outerKeys ← l.outerKeys.mapM (KeyStart.stillOpen l.place)
  let lastKey ← KeyStart.stillOpen l.place l.lastKey
  return { l with lastKey, outerKeys }

/-! ## Block collections -/

/-- Ends every block collection to the right of the column. -/
def unwind (column : Int) (l : Layout) : Layout :=
  if l.inFlow then l else go l.indent l.outerIndents l.tokens
where
  go : Int → List Int → Array Token → Layout
    | indent, [], tokens => { l with indent, outerIndents := [], tokens }
    | indent, outer :: others, tokens =>
      if column < indent then go outer others (tokens.push .blockEnd)
      else { l with indent, outerIndents := outer :: others, tokens }

/-- Starts a block collection in the column, unless one is open there. Its first token takes the
position among the others. -/
def startBlock (column position : Nat) (token : Token) (l : Layout) : Layout :=
  if l.indent < column then
    { l with
      indent := column
      outerIndents := l.indent :: l.outerIndents
      tokens := l.tokens.insertIdxIfInBounds position token }
  else l

/-- Starts a block collection here, where a key would be allowed too. -/
def startBlockHere (token : Token) (l : Layout) : Except Fault Layout :=
  if l.inFlow then .ok l
  else if l.keyAllowed then .ok (l.startBlock l.place.column l.tokens.size token)
  else .error .malformed

/-! ## Tokens -/

/-- A directive. -/
def readDirective (l : Layout) : Except Fault Layout := do
  let l ← (l.unwind (-1)).dropKey
  let (directive, place) ← directiveOf l.place.step
  return ({ l with place }.push (.directive directive)).allowKey false

/-- A separator of documents. -/
def readSeparator (token : Token) (l : Layout) : Except Fault Layout := do
  let l ← (l.unwind (-1)).dropKey
  return ((l.skip 3).push token).allowKey false

/-- The bracket that opens a flow collection. -/
def openFlow (token : Token) (l : Layout) : Except Fault Layout := do
  let l ← l.saveKey
  return (({ l with lastKey := none, outerKeys := l.lastKey :: l.outerKeys }.skip 1).push
    token).allowKey true

/-- The bracket that closes a flow collection. -/
def closeFlow (token : Token) (l : Layout) : Except Fault Layout := do
  let l ← l.dropKey
  match l.outerKeys with
  | [] => throw .malformed
  | lastKey :: outerKeys =>
    return (({ l with lastKey, outerKeys }.skip 1).push token).allowKey false

/-- The comma between the entries of a flow collection. -/
def readComma (l : Layout) : Except Fault Layout := do
  let l ← l.dropKey
  return ((l.skip 1).push .flowEntry).allowKey true

/-- The dash in front of an entry of a block sequence. -/
def readDash (l : Layout) : Except Fault Layout := do
  let l ← l.startBlockHere .blockSequenceStart
  let l ← l.dropKey
  return ((l.skip 1).push .blockEntry).allowKey true

/-- The question mark in front of a key. -/
def readKey (l : Layout) : Except Fault Layout := do
  let l ← l.startBlockHere .blockMappingStart
  let l ← l.dropKey
  return ((l.skip 1).push .key).allowKey !l.inFlow

/-- The colon in front of a value. The node before it is the key, if it can be one. -/
def readColon (l : Layout) : Except Fault Layout := do
  match l.lastKey with
  | some key =>
    let l := { l with
      lastKey := none
      tokens := l.tokens.insertIdxIfInBounds key.position .key }
    let l := if l.inFlow then l
      else l.startBlock key.place.column key.position .blockMappingStart
    return ((l.skip 1).push .value).allowKey false
  | none =>
    let l ← l.startBlockHere .blockMappingStart
    return ((l.skip 1).push .value).allowKey !l.inFlow

/-- A token that may be the start of a key. -/
def readInline {α : Type} (read : Cursor → Reading α) (token : α → Token) (l : Layout) :
    Except Fault Layout := do
  let l ← l.saveKey
  let (content, place) ← read l.place
  return ({ l with place }.push (token content)).allowKey false

/-- A plain scalar. If its last line is over, a key may follow. -/
def readPlain (l : Layout) : Except Fault Layout := do
  let l ← l.saveKey
  let (chars, broken, place) := plainScalar l.inFlow (l.indent + 1) l.place
  return ({ l with place }.push (.scalar (String.ofList chars) true)).allowKey broken

/-- A block scalar. -/
def readBlock (folded : Bool) (l : Layout) : Except Fault Layout := do
  let l ← l.dropKey
  let (chars, place) ← blockScalar folded l.indent l.place
  return ({ l with place }.push (.scalar (String.ofList chars) false)).allowKey true

/-- A scalar between quotes. -/
def readQuoted (double : Bool) (l : Layout) : Except Fault Layout :=
  l.readInline (quotedScalar double) fun chars => .scalar (String.ofList chars) false

/-- The character, which comes next, starts a plain scalar. -/
def startsPlain (l : Layout) (x : Char) : Bool :=
  !(isGap x || "-?:,[]\x7b\x7d#&*!|>'\"%@`".toList.contains x) ||
    !l.place.endsOr 1 isGap && (x == '-' || !l.inFlow && (x == '?' || x == ':'))

/-- The token that starts with the character, which comes next. -/
def readToken (x : Char) (l : Layout) : Except Fault Layout :=
  let atMargin := l.place.column == 0
  let alone := l.place.endsOr 1 isGap
  if atMargin && x == '%' then l.readDirective
  else if atMargin && l.place.startsWithMark "---" then l.readSeparator .documentStart
  else if atMargin && l.place.startsWithMark "..." then l.readSeparator .documentEnd
  else if x == '[' then l.openFlow .flowSequenceStart
  else if x == '\x7b' then l.openFlow .flowMappingStart
  else if x == ']' then l.closeFlow .flowSequenceEnd
  else if x == '\x7d' then l.closeFlow .flowMappingEnd
  else if x == ',' then l.readComma
  else if x == '-' && alone then l.readDash
  else if x == '?' && (alone || l.inFlow) then l.readKey
  else if x == ':' && (alone || l.inFlow) then l.readColon
  else if x == '*' then l.readInline (fun c => anchorName c.step) .alias
  else if x == '&' then l.readInline (fun c => anchorName c.step) .anchor
  else if x == '!' then l.readInline tagOf fun (handle, suffix) => .tag handle suffix
  else if x == '|' && !l.inFlow then l.readBlock false
  else if x == '>' && !l.inFlow then l.readBlock true
  else if x == '\'' then l.readQuoted false
  else if x == '"' then l.readQuoted true
  else if l.startsPlain x then l.readPlain
  else .error .malformed

/-! ## Documents -/

/-- Behind the spaces, comments and line breaks. Outside flow collections a new line allows a key.
-/
def skipGap : Nat → Layout → Layout
  | 0, l => l
  | fuel + 1, l =>
    let c := l.place.skipSpaces
    let c := if c.nextIs (· == '#') then c.skipLine else c
    match c.lineBreak? with
    | none => { l with place := c }
    | some (_, c) => skipGap fuel { l with place := c, keyAllowed := l.keyAllowed || !l.inFlow }

/-- All tokens from here on. -/
def readAll : Nat → Layout → Except Fault Layout
  | 0, _ => .error .malformed
  | fuel + 1, l => do
    let l ← (l.skipGap (l.place.rest.length + 1)).dropFarKeys
    let l := l.unwind l.place.column
    match l.place.next? with
    | none => (l.unwind (-1)).dropKey
    | some x => readAll fuel (← l.readToken x)

end Layout

/-- **The tokens of a text.** A byte order mark may stand in front of it. -/
def tokens? (text : List Char) : Except Fault (List Token) :=
  if !text.all isAllowed then .error .malformed
  else
    let start : Cursor := { rest := text }
    let start := if start.nextIs (· == '\uFEFF') then start.step else start
    (Layout.readAll (text.length + 1) { place := start }).map (·.tokens.toList)

end Recast.Yaml
