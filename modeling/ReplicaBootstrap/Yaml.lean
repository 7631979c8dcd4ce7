import ReplicaBootstrap.Yaml.Scalar.Binary
import ReplicaBootstrap.Yaml.Scalar.Number
import ReplicaBootstrap.Yaml.Tree

/-! # Documents

The value of a document. Of several faults the one of the outermost collection is told, and of these
the first.
-/

namespace ReplicaBootstrap.Yaml

/-- A fault, and how many collections lie around the place where it was met. -/
structure DeepFault where
  depth : Nat
  fault : Fault

abbrev Outcome := Except DeepFault

def failAt {α : Type} (depth : Nat) (fault : Fault := malformed) : Outcome α :=
  .error ⟨depth, fault⟩

/-- The less deep of two faults, else the first. -/
def DeepFault.outer (f g : DeepFault) : DeepFault := if g.depth < f.depth then g else f

/-- All values, or the outermost fault. -/
def gather {α : Type} : List (Outcome α) → Outcome (List α)
  | [] => .ok []
  | .ok a :: rest => (a :: ·) <$> gather rest
  | .error f :: rest =>
    match gather rest with
    | .ok _ => .error f
    | .error g => .error (f.outer g)

/-! ## Scalars -/

def boolWords : List (String × Bool) := [
    ("yes", true), ("no", false), ("true", true), ("false", false), ("on", true), ("off", false)]

def boolOf (s : String) : Except Fault Value :=
  let word := Text.lowerCase s
  match boolWords.lookup word with
  | some b => .ok (.bool b)
  | none => .error (.host .missingKey (Text.quoted word))

def ofFieldError (e : Calendar.FieldError) : Fault := .host .badValue e.message

def TimestampFields.toValue (t : TimestampFields) : Except Fault Value :=
  Except.mapError ofFieldError <|
    match t.clock with
    | none => Value.date <$> Calendar.Date.ofFields t.year t.month t.day
    | some c => do
      let offset ← c.offset.mapM Calendar.checkOffset
      Value.moment <$>
        Calendar.Moment.ofFields t.year t.month t.day c.hour c.minute c.second c.microsecond offset

def timestampOf (s : String) : Except Fault Value :=
  match TimestampFields.read? (Tag.withoutFinalBreak s.toList) with
  | some t => t.toValue
  | none => .error (.host .missingMember "'NoneType' object has no attribute 'groupdict'")

def scalarValue (tag : Tag) (s : String) : Except Fault Value :=
  match tag with
  | .null => .ok .null
  | .bool => boolOf s
  | .int => .int <$> wholeNumber s
  | .float => .real <$> realNumber s
  | .binary =>
    match decodeBase64? s with
    | some bytes => .ok (.bytes bytes)
    | none => .error malformed
  | .timestamp => timestampOf s
  | .text => .ok (.text s)
  | _ => .error malformed

def Tag.isCollection : Tag → Bool
  | .omap | .pairs | .set | .sequence | .mapping => true
  | _ => false

/-! ## Collections -/

def Tree.tag? : Tree → Option Tag
  | .scalar tag _ | .sequence tag _ | .mapping tag _ => some tag
  | .again _ => none

mutual

/-- The text that stands for a tree: a mapping may have it under its value key. -/
def Tree.scalarText? : Tree → Option String
  | .scalar _ s => some s
  | .mapping _ entries => valueText? entries
  | _ => none

def valueText? : List (Tree × Tree) → Option String
  | [] => none
  | (k, v) :: rest => if k.tag? = some .value then v.scalarText? else valueText? rest

end

/-- A mapping under a tag of scalars has the value of its text. -/
def mappingAsScalar (tag : Tag) (text : Option String) : Except Fault Value :=
  match text, tag with
  | none, _ => .error malformed
  | some _, .timestamp =>
    .error (.host .wrongType "expected string or bytes-like object, got 'list'")
  | some s, tag => scalarValue tag s

structure Entry where
  key : Outcome Value
  value : Outcome Value

/-- The key, which collections cannot be; what is wrong inside of them is not looked at. -/
def Entry.checkedKey (depth : Nat) (e : Entry) : Outcome Value :=
  match e.key with
  | .ok k => if k.isKey then .ok k else failAt depth
  | .error f => if f.depth = depth then .error f else failAt depth

/-- The entries of a map: the last value of a key wins, at the place of the first. -/
def collect (depth : Nat) (entries : List Entry) : Outcome (List (Value × Value)) := do
  let cells ← gather (entries.flatMap fun e => [e.checkedKey depth, e.value])
  return pairUp [] cells
where
  pairUp (done : List (Value × Value)) : List Value → List (Value × Value)
    | k :: v :: rest => pairUp (Value.insertEntry k v done) rest
    | _ => done

mutual

def Tree.valueAt (depth : Nat) : Tree → Outcome Value
  | .scalar tag s =>
    if tag.isCollection then failAt (depth + 1)
    else (scalarValue tag s).mapError (⟨depth, ·⟩)
  | .sequence tag items =>
    match tag with
    | .sequence => .list <$> gather (valuesAt (depth + 1) items)
    | .omap | .pairs => .list <$> gather (pairsAt (depth + 1) items)
    | .set | .mapping => failAt (depth + 1)
    | _ => failAt depth
  | .mapping tag entries =>
    match tag with
    | .mapping => .map <$> mapAt (depth + 1) entries
    | .set => (fun es => .set (es.map (·.1))) <$> mapAt (depth + 1) entries
    | .omap | .pairs | .sequence => failAt (depth + 1)
    | tag => (mappingAsScalar tag (valueText? entries)).mapError (⟨depth, ·⟩)
  | .again shape => .ok (.again shape)

def valuesAt (depth : Nat) : List Tree → List (Outcome Value)
  | [] => []
  | t :: rest => t.valueAt depth :: valuesAt depth rest

/-- Every item of an ordered map is a mapping of one entry. -/
def pairsAt (depth : Nat) : List Tree → List (Outcome Value)
  | [] => []
  | .mapping _ [(k, v)] :: rest =>
    (do return .pair (← k.valueAt depth) (← v.valueAt depth)) :: pairsAt depth rest
  | _ :: rest => failAt depth :: pairsAt depth rest

def mapAt (depth : Nat) (entries : List (Tree × Tree)) : Outcome (List (Value × Value)) :=
  match entriesAt depth entries with
  | .error f => failAt depth f
  | .ok (merged, own) => collect depth (merged ++ own)

/-- The entries that merge keys bring in, and the other ones. -/
def entriesAt (depth : Nat) : List (Tree × Tree) → Except Fault (List Entry × List Entry)
  | [] => .ok ([], [])
  | (k, v) :: rest => do
    match k.tag? with
    | some .merge =>
      let entries ← mergedAt depth v
      let (merged, own) ← entriesAt depth rest
      return (entries ++ merged, own)
    | some .value =>
      let (merged, own) ← entriesAt depth rest
      return (merged, ⟨.ok (.text ((k.scalarText?).getD "")), v.valueAt depth⟩ :: own)
    | _ =>
      let (merged, own) ← entriesAt depth rest
      return (merged, ⟨k.valueAt depth, v.valueAt depth⟩ :: own)

/-- The entries that a tree under a merge key brings in. Of several mappings the first wins. -/
def mergedAt (depth : Nat) : Tree → Except Fault (List Entry)
  | .mapping _ entries => do
    let (merged, own) ← entriesAt depth entries
    return merged ++ own
  | .sequence _ items => do
    let each ← mergedEach depth items
    return each.reverse.flatten
  | .again _ => .ok []
  | .scalar _ _ => .error malformed

def mergedEach (depth : Nat) : List Tree → Except Fault (List (List Entry))
  | [] => .ok []
  | .mapping _ entries :: rest => do
    let (merged, own) ← entriesAt depth entries
    return (merged ++ own) :: (← mergedEach depth rest)
  | .again .map :: rest | .again .set :: rest => mergedEach depth rest
  | _ :: _ => .error malformed

end

/-- The value of a text with at most one document; without one it is null. -/
def load (text : String) : Except Fault Value := do
  match ← Tree.ofTokens? (.ofText text) with
  | none => return .null
  | some t => (t.valueAt 0).mapError (·.fault)

end ReplicaBootstrap.Yaml
