import ReplicaBootstrap.Value
import ReplicaBootstrap.Yaml.Layout
import ReplicaBootstrap.Yaml.Tag

/-! # Trees

The nodes of a document. An alias is replaced by the node that it names, or by a mark when that node
contains it.
-/

namespace ReplicaBootstrap.Yaml

inductive Tree where
  | scalar (tag : Tag) (text : String)
  | sequence (tag : Tag) (items : List Tree)
  | mapping (tag : Tag) (entries : List (Tree × Tree))
  /-- a collection inside itself -/
  | again (shape : Shape)
  deriving Repr

instance : Inhabited Tree := ⟨.again .list⟩

/-- The tag that leaves the kind of a node to its looks. -/
def openTag : String := "!"

def standardHandles : List (String × String) := [("!", "!"), ("!!", Tag.family)]

structure Reading where
  tokens : List Token
  /-- what is met behind the last token -/
  fault : Option Fault
  anchors : List (String × Tree) := []
  handles : List (String × String) := standardHandles

abbrev Reader := StateT Reading (Except Fault)

/-- Where a node stands: this decides which collections can start without a bracket. -/
inductive Position where
  | flow
  | block
  /-- behind a question mark or a colon, where the hyphens of a sequence need no indentation -/
  | entry
  deriving DecidableEq, Repr

structure Properties where
  anchor : Option String := none
  tag : Option String := none

namespace Reader

def peek : Reader (Option Token) := do
  let r ← get
  match r.tokens.head?, r.fault with
  | none, some f => throw f
  | t, _ => return t

def skip : Reader Unit := modify fun r => { r with tokens := r.tokens.tail }

def fail {α : Type} : Reader α := throw malformed

def expect (t : Token) : Reader Unit := do
  if (← peek) = some t then skip else fail

def nameNew (name : String) (t : Tree) : Reader Unit := do
  if ((← get).anchors.lookup name).isSome then fail
  modify fun r => { r with anchors := (name, t) :: r.anchors }

def rename (name : String) (t : Tree) : Reader Unit :=
  modify fun r => { r with anchors := (name, t) :: r.anchors }

def named (name : String) : Reader Tree := do
  match (← get).anchors.lookup name with
  | some t => return t
  | none => fail

def tagText (name : TagName) : Reader String := do
  match name.handle with
  | none => return name.suffix
  | some handle =>
    match (← get).handles.lookup handle with
    | some expansion => return expansion ++ name.suffix
    | none => fail

def properties : Reader Properties := do
  match ← peek with
  | some (.anchor name) =>
    skip
    match ← peek with
    | some (.tag t) => skip; return ⟨some name, some (← tagText t)⟩
    | _ => return ⟨some name, none⟩
  | some (.tag t) =>
    skip
    match ← peek with
    | some (.anchor name) => skip; return ⟨some name, some (← tagText t)⟩
    | _ => return ⟨none, some (← tagText t)⟩
  | _ => return {}

def tagOr (shown : Tag) (tag : Option String) : Tag :=
  match tag with
  | none => shown
  | some name => if name = openTag then shown else .ofName name

/-- A text is looked at for its tag when it is plain, or when the tag is left open. -/
def scalarTag (text : String) (isPlain : Bool) (tag : Option String) : Tag :=
  match tag with
  | none => if isPlain then .shownBy text else .text
  | some name => if name = openTag then .shownBy text else .ofName name

def scalar (props : Properties) (text : String) (isPlain : Bool) : Reader Tree := do
  let t := Tree.scalar (scalarTag text isPlain props.tag) text
  if let some name := props.anchor then nameNew name t
  return t

def absent : Tree := .scalar .null ""

def mappingShape : Tag → Shape
  | .set => .set
  | .mapping => .map
  | _ => .list

/-- Reads a collection; inside it its own name stands for the mark. -/
def collection (props : Properties) (shape : Shape) (body : Reader Tree) : Reader Tree := do
  match props.anchor with
  | none => body
  | some name =>
    nameNew name (.again shape)
    let t ← body
    rename name t
    return t

mutual

/-- Reads a node with its properties, in at most so many nested steps. -/
def node : (steps : Nat) → Position → Reader Tree
  | 0, _ => fail
  | steps + 1, position => do
    if let some (.alias name) ← peek then
      skip
      return (← named name)
    let props ← properties
    let sequence (items : Reader (List Tree)) : Reader Tree :=
      collection props .list do return .sequence (tagOr .sequence props.tag) (← items)
    let mapping (entries : Reader (List (Tree × Tree))) : Reader Tree :=
      let tag := tagOr .mapping props.tag
      collection props (mappingShape tag) do return .mapping tag (← entries)
    match ← peek, position with
    | some .item, .entry => sequence (looseItems steps)
    | some (.scalar text isPlain), _ => skip; scalar props text isPlain
    | some .flowSequence, _ => skip; sequence (flowItems steps true)
    | some .flowMapping, _ => skip; mapping (flowEntries steps true)
    | some .blockSequence, .block | some .blockSequence, .entry =>
      skip
      sequence (blockItems steps)
    | some .blockMapping, .block | some .blockMapping, .entry =>
      skip
      mapping (blockEntries steps)
    | _, _ =>
      if props.anchor.isSome || props.tag.isSome then scalar props "" true else fail

/-- A node, unless one of the tokens that show that there is none comes first. -/
def nodeUnless (stops : Token → Bool) : (steps : Nat) → Position → Reader Tree
  | 0, _ => fail
  | steps + 1, position => do
    match ← peek with
    | some t => if stops t then return absent else node steps position
    | none => node steps position

def blockItems : (steps : Nat) → Reader (List Tree)
  | 0 => fail
  | steps + 1 => do
    match ← peek with
    | some .item =>
      skip
      let first ← nodeUnless (fun t => t = .item || t = .blockEnd) steps .block
      return first :: (← blockItems steps)
    | _ => expect .blockEnd; return []

/-- The items of a block sequence that is not indented: anything but a hyphen ends it. -/
def looseItems : (steps : Nat) → Reader (List Tree)
  | 0 => fail
  | steps + 1 => do
    match ← peek with
    | some .item =>
      skip
      let first ← nodeUnless (fun t => t = .item || t = .key || t = .value || t = .blockEnd)
        steps .block
      return first :: (← looseItems steps)
    | _ => return []

/-- The value behind the colon of an entry; without a colon it is not written. -/
def entryValue (stops : Token → Bool) (position : Position) : (steps : Nat) → Reader Tree
  | 0 => fail
  | steps + 1 => do
    match ← peek with
    | some .value => skip; nodeUnless stops steps position
    | _ => return absent

def blockEntries : (steps : Nat) → Reader (List (Tree × Tree))
  | 0 => fail
  | steps + 1 => do
    let stops := fun t => t = Token.key || t = .value || t = .blockEnd
    match ← peek with
    | some .key =>
      skip
      let key ← nodeUnless stops steps .entry
      let value ← entryValue stops .entry steps
      return (key, value) :: (← blockEntries steps)
    | _ => expect .blockEnd; return []

/-- The items up to a closing bracket; a key among them makes a mapping of one entry. -/
def flowItems : (steps : Nat) → (isFirst : Bool) → Reader (List Tree)
  | 0, _ => fail
  | steps + 1, isFirst => do
    if (← peek) = some .flowSequenceEnd then
      skip
      return []
    if !isFirst then expect .comma
    match ← peek with
    | some .flowSequenceEnd => skip; return []
    | some .key =>
      skip
      let key ← nodeUnless (fun t => t = .value || t = .comma || t = .flowSequenceEnd) steps .flow
      let value ← entryValue (fun t => t = .comma || t = .flowSequenceEnd) .flow steps
      return .mapping .mapping [(key, value)] :: (← flowItems steps false)
    | _ =>
      let first ← node steps .flow
      return first :: (← flowItems steps false)

/-- The entries up to a closing brace; a node that is no key is one without a value. -/
def flowEntries : (steps : Nat) → (isFirst : Bool) → Reader (List (Tree × Tree))
  | 0, _ => fail
  | steps + 1, isFirst => do
    if (← peek) = some .flowMappingEnd then
      skip
      return []
    if !isFirst then expect .comma
    match ← peek with
    | some .flowMappingEnd => skip; return []
    | some .key =>
      skip
      let key ← nodeUnless (fun t => t = .value || t = .comma || t = .flowMappingEnd) steps .flow
      let value ← entryValue (fun t => t = .comma || t = .flowMappingEnd) .flow steps
      return (key, value) :: (← flowEntries steps false)
    | _ =>
      let key ← node steps .flow
      return (key, absent) :: (← flowEntries steps false)

end

/-- Takes in the directives before a document. The version is told once at most, and is one of the
first major version; each handle is told once at most. -/
def takeDirectives : (hasVersion : Bool) → List (String × String) → List Directive →
    Except Fault (List (String × String))
  | _, handles, [] => .ok (handles ++ standardHandles)
  | hasVersion, handles, .version major _ :: rest =>
    if hasVersion || major ≠ 1 then .error malformed else takeDirectives true handles rest
  | hasVersion, handles, .tag handle expansion :: rest =>
    if (handles.lookup handle).isSome then .error malformed
    else takeDirectives hasVersion ((handle, expansion) :: handles) rest
  | hasVersion, handles, .other :: rest => takeDirectives hasVersion handles rest

def splitDirectives : List Token → List Directive × List Token
  | .directive d :: rest => let (ds, after) := splitDirectives rest; (d :: ds, after)
  | tokens => ([], tokens)

def startDocument : Reader Unit := do
  let (ds, rest) := splitDirectives (← get).tokens
  let handles ← takeDirectives false [] ds
  modify fun r => { r with tokens := rest, handles }
  expect .documentStart

def contentUnless (steps : Nat) : Reader Tree := do
  match ← peek with
  | none | some (.directive _) | some .documentStart | some .documentEnd => return absent
  | some _ => node steps .block

def finish : Reader Unit := do
  modify fun r => { r with tokens := r.tokens.dropWhile (· = .documentEnd) }
  if (← peek).isSome then
    startDocument
    fail

def document? (steps : Nat) : Reader (Option Tree) := do
  match ← peek with
  | none => return none
  | some (.directive _) | some .documentStart =>
    startDocument
    let t ← contentUnless steps
    finish
    return some t
  | some _ =>
    let t ← node steps .block
    finish
    return some t

end Reader

def Tree.ofTokens? (list : TokenList) : Except Fault (Option Tree) :=
  let steps := 4 * list.tokens.length + 4
  (Reader.document? steps).run' { tokens := list.tokens, fault := list.fault }

end ReplicaBootstrap.Yaml
