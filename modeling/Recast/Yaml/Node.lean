import Recast.Yaml.Kind
import Recast.Yaml.Layout

/-!
# Yaml/Node — the nodes of a document

A node is a scalar or a collection of nodes. Where nothing is written a node stands all the same, an
empty plain scalar; an alias stands for the node that its name was given to. A text holds one
document at most.

Every node takes up at least one token, or is empty and comes behind a token that is taken up; that
bounds the depth of reading.
-/

namespace Recast.Yaml

/-- A node of a document. -/
inductive Node
  | scalar (kind : Kind) (text : String)
  | sequence (kind : Kind) (items : List Node)
  | mapping (kind : Kind) (entries : List (Node × Node))

/-- The node where nothing is written. -/
def Node.empty : Node := .scalar (.ofPlain "") ""

/-- Where a node stands, which says how it may be written. -/
inductive Position
  /-- Between brackets: no block collections. -/
  | flow
  /-- In a block sequence. -/
  | block
  /-- In a block mapping: a sequence may stand in the column of the mapping. -/
  | entry
deriving Repr, DecidableEq

/-- What is known while nodes are read. -/
structure NodeState where
  /-- The tokens that come next. -/
  tokens : List Token
  /-- The nodes that have names; a collection that is not yet complete counts as empty. -/
  anchors : List (String × Node)

/-- A reader of nodes. -/
abbrev NodeReader := StateT NodeState (Except Fault)

namespace NodeReader

/-- The token that comes next. -/
def next? : NodeReader (Option Token) := do return (← get).tokens.head?

/-- Goes on behind the next token. -/
def advance : NodeReader Unit := modify fun s => { s with tokens := s.tokens.tail }

/-- One of the tokens comes next. -/
def nextIn (tokens : List Token) : NodeReader Bool := do return (← next?).any tokens.contains

/-- Goes on behind the token, if it comes next. -/
def skip? (token : Token) : NodeReader Bool := do
  if ← nextIn [token] then
    advance
    return true
  else return false

/-- Goes on behind the token, which has to come next. -/
def expect (token : Token) : NodeReader Unit := do
  if !(← skip? token) then throw .malformed

/-- The anchor that comes next, if one does. -/
def anchor? : NodeReader (Option String) := do
  match ← next? with
  | some (.anchor name) =>
    advance
    return some name
  | _ => return none

/-- The tag that comes next, if one does, with its handle explained. -/
def tag? (handles : List (String × String)) : NodeReader (Option String) := do
  match ← next? with
  | some (.tag handle suffix) =>
    advance
    match handle with
    | none => return some suffix
    | some handle =>
      match handles.lookup handle with
      | some lead => return some (lead ++ suffix)
      | none => throw .malformed
  | _ => return none

/-- The anchor and the tag of a node, in either order. -/
def properties (handles : List (String × String)) :
    NodeReader (Option String × Option String) := do
  match ← anchor? with
  | some name => return (some name, ← tag? handles)
  | none =>
    let tag ← tag? handles
    return (← anchor?, tag)

/-- Gives the node a name, if there is an anchor. -/
def name (anchor : Option String) (node : Node) : NodeReader Unit := do
  match anchor with
  | none => pure ()
  | some name => modify fun s => { s with anchors := (name, node) :: s.anchors }

/-- The kind that a tag says; the tag `!` says as much as none. -/
def kindOf (tag : Option String) (untagged : Kind) : Kind :=
  match tag with
  | none => untagged
  | some "!" => untagged
  | some tag => .ofTag tag

/-- The kind of a scalar. The tag `!` makes one between quotes count as plain. -/
def scalarKind (tag : Option String) (text : String) (plain : Bool) : Kind :=
  kindOf tag (if plain || tag.isSome then .ofPlain text else .text)

mutual

/-- The node that comes next. -/
def node (handles : List (String × String)) : Nat → Position → NodeReader Node
  | 0, _ => throw .malformed
  | fuel + 1, position => do
    match ← next? with
    | some (.alias name) =>
      advance
      match (← get).anchors.lookup name with
      | some node => return node
      | none => throw .malformed
    | _ =>
      let (anchor, tag) ← properties handles
      let anchors := (← get).anchors
      if anchor.any fun name => (anchors.lookup name).isSome then throw .malformed
      let node ← content handles fuel position anchor tag
      name anchor node
      return node

/-- What stands behind the anchor and the tag of a node. -/
def content (handles : List (String × String)) :
    Nat → Position → Option String → Option String → NodeReader Node
  | 0, _, _, _ => throw .malformed
  | fuel + 1, position, anchor, tag => do
    let items (read : NodeReader (List Node)) : NodeReader Node := do
      name anchor (.sequence (kindOf tag .sequence) [])
      return .sequence (kindOf tag .sequence) (← read)
    let entries (read : NodeReader (List (Node × Node))) : NodeReader Node := do
      name anchor (.mapping (kindOf tag .mapping) [])
      return .mapping (kindOf tag .mapping) (← read)
    match ← next?, position with
    | some .blockEntry, .entry => items (flushItems handles fuel)
    | some (.scalar text plain), _ =>
      advance
      return .scalar (scalarKind tag text plain) text
    | some .flowSequenceStart, _ =>
      advance
      items (flowItems handles fuel true)
    | some .flowMappingStart, _ =>
      advance
      entries (flowEntries handles fuel true)
    | some .blockSequenceStart, .block | some .blockSequenceStart, .entry =>
      advance
      items (blockItems handles fuel)
    | some .blockMappingStart, .block | some .blockMappingStart, .entry =>
      advance
      entries (blockEntries handles fuel)
    | _, _ =>
      if anchor.isSome || tag.isSome then return .scalar (scalarKind tag "" true) ""
      else throw .malformed

/-- A node, or an empty one if one of the tokens comes next. -/
def nodeBefore (handles : List (String × String)) :
    Nat → Position → List Token → NodeReader Node
  | 0, _, _ => throw .malformed
  | fuel + 1, position, ends => do
    if ← nextIn ends then return .empty else node handles fuel position

/-- The items of a block sequence from here on. -/
def blockItems (handles : List (String × String)) : Nat → NodeReader (List Node)
  | 0 => throw .malformed
  | fuel + 1 => do
    if ← skip? .blockEntry then
      let item ← nodeBefore handles fuel .block [.blockEntry, .blockEnd]
      return item :: (← blockItems handles fuel)
    else
      expect .blockEnd
      return []

/-- The items of a sequence that stands in the column of the mapping around it. -/
def flushItems (handles : List (String × String)) : Nat → NodeReader (List Node)
  | 0 => throw .malformed
  | fuel + 1 => do
    if ← skip? .blockEntry then
      let item ← nodeBefore handles fuel .block [.blockEntry, .key, .value, .blockEnd]
      return item :: (← flushItems handles fuel)
    else return []

/-- The entries of a block mapping from here on. -/
def blockEntries (handles : List (String × String)) : Nat → NodeReader (List (Node × Node))
  | 0 => throw .malformed
  | fuel + 1 => do
    if ← skip? .key then
      let ends : List Token := [.key, .value, .blockEnd]
      let key ← nodeBefore handles fuel .entry ends
      let value ← if ← skip? .value then nodeBefore handles fuel .entry ends else pure .empty
      return (key, value) :: (← blockEntries handles fuel)
    else
      expect .blockEnd
      return []

/-- The value behind a key between brackets. -/
def flowValue (handles : List (String × String)) : Nat → Token → NodeReader Node
  | 0, _ => throw .malformed
  | fuel + 1, bracket => do
    if ← skip? .value then nodeBefore handles fuel .flow [.flowEntry, bracket] else return .empty

/-- The items of a flow sequence from here on. A key makes the item a mapping with one entry. -/
def flowItems (handles : List (String × String)) : Nat → (first : Bool) → NodeReader (List Node)
  | 0, _ => throw .malformed
  | fuel + 1, first => do
    if ← skip? .flowSequenceEnd then return []
    if !first then expect .flowEntry
    if ← skip? .key then
      let key ← nodeBefore handles fuel .flow [.value, .flowEntry, .flowSequenceEnd]
      let value ← flowValue handles fuel .flowSequenceEnd
      return .mapping .mapping [(key, value)] :: (← flowItems handles fuel false)
    else if ← skip? .flowSequenceEnd then return []
    else
      let item ← node handles fuel .flow
      return item :: (← flowItems handles fuel false)

/-- The entries of a flow mapping from here on. -/
def flowEntries (handles : List (String × String)) :
    Nat → (first : Bool) → NodeReader (List (Node × Node))
  | 0, _ => throw .malformed
  | fuel + 1, first => do
    if ← skip? .flowMappingEnd then return []
    if !first then expect .flowEntry
    if ← skip? .key then
      let key ← nodeBefore handles fuel .flow [.value, .flowEntry, .flowMappingEnd]
      let value ← flowValue handles fuel .flowMappingEnd
      return (key, value) :: (← flowEntries handles fuel false)
    else if ← skip? .flowMappingEnd then return []
    else
      let key ← node handles fuel .flow
      return (key, .empty) :: (← flowEntries handles fuel false)

end

/-! ## Documents -/

/-- What the handles stand for that need no directive. -/
def commonHandles : List (String × String) := [("!", "!"), ("!!", Kind.commonLead)]

/-- The directives that come next, behind `version` and the handles of others. -/
def directives : List Token → (version : Bool) → (handles : List (String × String)) →
    Except Fault (List (String × String) × List Token)
  | .directive (.version major) :: rest, version, handles =>
    if version || major != 1 then .error .malformed else directives rest true handles
  | .directive (.tag handle lead) :: rest, version, handles =>
    if (handles.lookup handle).isSome then .error .malformed
    else directives rest version ((handle, lead) :: handles)
  | .directive .other :: rest, version, handles => directives rest version handles
  | rest, _, handles => .ok (handles ++ commonHandles, rest)

/-- The node of a document, in front of the end of the text. -/
def documentNode (handles : List (String × String)) : NodeReader Node := do
  let tokens := (← get).tokens
  let node ← node handles (4 * tokens.length + 4) .block
  if (← get).tokens.all (· == .documentEnd) then return node else throw .malformed

/-- A document behind the mark of its start. -/
def markedNode (handles : List (String × String)) : NodeReader Node := do
  match ← next? with
  | none | some (.directive _) | some .documentStart | some .documentEnd =>
    if (← get).tokens.all (· == .documentEnd) then return .empty else throw .malformed
  | _ => documentNode handles

end NodeReader

open NodeReader in
/-- **The node of the only document that the tokens write,** if they write any. -/
def Node.ofTokens? (tokens : List Token) : Except Fault (Option Node) :=
  match tokens with
  | [] => .ok none
  | .directive _ :: _ | .documentStart :: _ => do
    let (handles, rest) ← directives tokens false []
    match rest with
    | .documentStart :: rest =>
      let (node, _) ← (markedNode handles).run { tokens := rest, anchors := [] }
      return some node
    | _ => throw .malformed
  | _ => do
    let (node, _) ← (documentNode commonHandles).run { tokens, anchors := [] }
    return some node

end Recast.Yaml
