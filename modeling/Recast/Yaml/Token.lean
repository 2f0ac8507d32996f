/-!
# Yaml/Token — what a document is written with

Indentation becomes tokens of its own: the start of a block collection, and the end of one. A key in
front of a colon becomes a key only when the colon is reached, so its token is put in front of what
was read already.
-/

namespace Recast.Yaml

/-- An instruction in front of a document. -/
inductive Directive
  | version (major : Nat)
  | tag (handle lead : String)
  | other
deriving Repr, DecidableEq

/-- What a document is written with. -/
inductive Token
  | directive (directive : Directive)
  | documentStart
  | documentEnd
  | blockSequenceStart
  | blockMappingStart
  | blockEnd
  | flowSequenceStart
  | flowSequenceEnd
  | flowMappingStart
  | flowMappingEnd
  | blockEntry
  | flowEntry
  | key
  | value
  | alias (name : String)
  | anchor (name : String)
  /-- A tag: a handle that a directive explains, and what follows it. -/
  | tag (handle : Option String) (suffix : String)
  /-- A scalar; a plain one is written without quotes. -/
  | scalar (text : String) (plain : Bool)
deriving Repr, DecidableEq

end Recast.Yaml
