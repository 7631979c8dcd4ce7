import ReplicaBootstrap.Yaml.Cursor

/-! # Tokens

The signs and scalars that a document is made of. The layout of block collections is told by tokens
of its own, so that the rest of the reading need not look at lines.
-/

namespace ReplicaBootstrap.Yaml

/-- A tag as it is written; one without a handle is whole. -/
structure TagName where
  handle : Option String
  suffix : String
  deriving DecidableEq, Repr

inductive Directive where
  | version (major minor : Int)
  | tag (handle expansion : String)
  | other
  deriving DecidableEq, Repr

inductive Token where
  | directive (d : Directive)
  | documentStart
  | documentEnd
  | blockSequence
  | blockMapping
  | blockEnd
  | flowSequence
  | flowSequenceEnd
  | flowMapping
  | flowMappingEnd
  /-- the hyphen of a block sequence -/
  | item
  | comma
  | key
  | value
  | alias (name : String)
  | anchor (name : String)
  | tag (name : TagName)
  | scalar (text : String) (isPlain : Bool)
  deriving DecidableEq, Repr

/-- The tokens of a text, up to the first that cannot be read. -/
structure TokenList where
  tokens : List Token
  fault : Option Fault

end ReplicaBootstrap.Yaml
