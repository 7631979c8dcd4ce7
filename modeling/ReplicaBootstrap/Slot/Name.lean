import ReplicaBootstrap.Hash.Md5
import ReplicaBootstrap.Node
import ReplicaBootstrap.Text.Utf8

/-! # Names of replication slots

The name of a slot is made of the names of the database and of the two nodes. Long parts are cut and
end in a digest of the whole part; what a slot name may not hold becomes an underscore.
-/

namespace ReplicaBootstrap.SlotName

def nameLimit : Nat := 64

def partLimit : Nat := 16

def digest (name : String) : List Char :=
  (Md5.hexDigest (Text.encodeUtf8 name)).take 8

/-- The first `n` characters; a negative `n` drops that many from the end. -/
def takeSigned (n : Int) (cs : List Char) : List Char :=
  if 0 ≤ n then cs.take n.toNat else cs.take (cs.length - (-n).toNat)

/-- A name of at most `limit` characters as it is, a longer one with its end replaced by a digest. -/
def shorten (name : String) (limit : Int) : String :=
  if (name.length : Int) ≤ limit then name
  else String.ofList (takeSigned (limit - 8) name.toList ++ digest name)

def isSlotChar (c : Char) : Bool :=
  ('a' ≤ c && c ≤ 'z') || ('0' ≤ c && c ≤ '9') || c = '_'

def sanitize (s : String) : String :=
  String.ofList <|
    (Text.lowerCase (String.ofList (s.toList.take (nameLimit - 1)))).toList.map fun c =>
      if isSlotChar c then c else '_'

def join (database origin target : String) : String :=
  sanitize s!"pgl_{database}_{origin}_{target}"

def ofTexts (database origin target : String) : String :=
  join (shorten database partLimit) (shorten origin partLimit) (shorten target partLimit)

/-- The text of one part, which the catalog may have given as anything. -/
def partText (v : Value) : Except Fault String :=
  let measured (count : Nat) : Except Fault String :=
    if count ≤ partLimit then .ok v.plain
    else .error (.host .missingMember s!"'{v.typeName}' object has no attribute 'encode'")
  match v with
  | .text s => .ok (shorten s partLimit)
  | .list items => measured items.length
  | .map entries => measured entries.length
  | .set members => measured members.length
  | .bytes bs => measured bs.length
  | .pair _ _ => measured 2
  | v => .error (.host .wrongType s!"object of type '{v.typeName}' has no len()")

def generate (database : Value) (origin target : Node) : Except Fault String := do
  let db ← partText database
  let source ← partText origin.name
  let destination ← partText target.name
  return join db source destination

theorem generate_text {database o t : String} {origin target : Node}
    (ho : origin.name = .text o) (ht : target.name = .text t) :
    generate (.text database) origin target = .ok (ofTexts database o t) := by
  simp only [generate, partText, ho, ht, ofTexts]
  rfl

end ReplicaBootstrap.SlotName
