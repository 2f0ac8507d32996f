import Recast.Yaml.Binary
import Recast.Yaml.Node

/-!
# Yaml/Reading — the value of a document

A node becomes the value that its kind says. The key `<<` of a mapping takes over the entries of
another mapping, or of several, of which the first counts most; the mapping's own entries count more
than those taken over.
-/

namespace Recast.Yaml

/-- The fault of a scalar as that of its text. -/
def ofScalar {α : Type} (reading : Except ScalarFault α) : Except Fault α :=
  reading.mapError .scalar

/-- The truth value that a scalar writes. -/
def truth (text : String) : Except ScalarFault Bool :=
  let word := String.ofList (Text.lower text.toList)
  if Kind.trueWords.contains word then .ok true
  else if Kind.falseWords.contains word then .ok false
  else .error (.badTruth word)

/-- The value of a scalar. -/
def scalarValue (kind : Kind) (text : String) : Except Fault Value :=
  match kind with
  | .null => .ok .null
  | .truth => ofScalar ((truth text).map .bool)
  | .whole => ofScalar ((Number.whole text.toList).map .int)
  | .fraction => ofScalar ((Number.fraction text.toList).map .float)
  | .moment => ofScalar ((Timestamp.moment text.toList).map .moment)
  | .text => .ok (.text text)
  | .binary =>
    match bytes? text.toList with
    | some content => .ok (.bytes content)
    | none => .error .malformed
  | _ => .error .malformed

/-- The entry, whose key has to be one. -/
def entryOf (key value : Value) : Except Fault (Value × Value) :=
  if key.isKey then .ok (key, value) else .error .malformed

/-- The entries of a mapping: those that are taken over, and its own. -/
structure Gathered where
  merged : List (Value × Value)
  own : List (Value × Value)

/-- All entries, in the order in which later ones count more. -/
def Gathered.all (g : Gathered) : List (Value × Value) := g.merged ++ g.own

mutual

/-- The value of a node. -/
def Node.value : Node → Except Fault Value
  | .scalar kind text => scalarValue kind text
  | .sequence .sequence items => (valuesOf items).map .list
  | .sequence .pairs items => (pairsOf items).map .list
  | .mapping .mapping entries => (gather entries).map fun g => .mapping (Entries.ofPairs g.all)
  | .mapping .set entries =>
    (gather entries).map fun g => .set ((Entries.ofPairs g.all).map Prod.fst)
  | _ => .error .malformed

/-- The values of nodes. -/
def valuesOf : List Node → Except Fault (List Value)
  | [] => .ok []
  | node :: nodes => do
    let value ← node.value
    return value :: (← valuesOf nodes)

/-- The pairs that mappings with one entry each write. -/
def pairsOf : List Node → Except Fault (List Value)
  | [] => .ok []
  | .mapping _ [(key, value)] :: nodes => do
    let key ← key.value
    let value ← value.value
    return .pair key value :: (← pairsOf nodes)
  | _ :: _ => .error .malformed

/-- The entries of a mapping. -/
def gather : List (Node × Node) → Except Fault Gathered
  | [] => .ok { merged := [], own := [] }
  | (.scalar .merge _, source) :: entries => do
    let taken ← entriesOf source
    let others ← gather entries
    return { others with merged := taken ++ others.merged }
  | (.scalar .default name, value) :: entries => do
    let value ← value.value
    let others ← gather entries
    return { others with own := (.text name, value) :: others.own }
  | (key, value) :: entries => do
    let key ← key.value
    let entry ← entryOf key (← value.value)
    let others ← gather entries
    return { others with own := entry :: others.own }

/-- The entries that a mapping takes over from a node. -/
def entriesOf : Node → Except Fault (List (Value × Value))
  | .mapping _ entries => (gather entries).map Gathered.all
  | .sequence _ items => mergedEntries items
  | .scalar _ _ => .error .malformed

/-- The entries of several mappings, those of the first last. -/
def mergedEntries : List Node → Except Fault (List (Value × Value))
  | [] => .ok []
  | .mapping _ entries :: nodes => do
    let entries ← gather entries
    return (← mergedEntries nodes) ++ entries.all
  | _ :: _ => .error .malformed

end

/-- **The value of the document that a text writes;** a text without one is null. -/
def read (text : List Char) : Except Fault Value := do
  match ← Node.ofTokens? (← tokens? text) with
  | some node => node.value
  | none => return .null

end Recast.Yaml
