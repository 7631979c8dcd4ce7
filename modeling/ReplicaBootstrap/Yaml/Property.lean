import ReplicaBootstrap.Text.Utf8
import ReplicaBootstrap.Yaml.Scalar.Quoted
import ReplicaBootstrap.Yaml.Token

/-! # Anchors and tags

The names that can stand before a node or in its place.
-/

namespace ReplicaBootstrap.Yaml

def followsAnchor (c : Char) : Bool :=
  isGap c || ['?', ':', ',', ']', '\x7d', '%', '@', '\x60'].contains c

def anchorName (p : Cursor) : Except Fault (String × Cursor) := do
  let (name, q) := p.advance.span isNameChar
  if name.isEmpty || !endOr followsAnchor q.peek then throw malformed
  return (String.ofList name, q)

def isTagChar (c : Char) : Bool :=
  isNameChar c ||
    [';', '/', '?', ':', '@', '&', '=', '+', '$', ',', '.', '!', '~', '*', '\'', '(', ')', '[',
      ']', '%'].contains c

def percentDecoded : List Char → Except Fault (List UInt8)
  | '%' :: rest =>
    match rest with
    | a :: b :: more =>
      match hexNumber? [a, b] with
      | some n => do return UInt8.ofNat n :: (← percentDecoded more)
      | none => .error malformed
    | _ => .error malformed
  | c :: rest => do return Text.encodeUtf8 (String.singleton c) ++ (← percentDecoded rest)
  | [] => .ok []

def tagText (p : Cursor) : Except Fault (String × Cursor) := do
  let (text, q) := p.span isTagChar
  if text.isEmpty then throw malformed
  match Text.decodeUtf8 (← percentDecoded text) with
  | .ok s => return (s, q)
  | .error _ => throw malformed

def tagHandle (p : Cursor) : Except Fault (String × Cursor) := do
  if p.peek != some '!' then throw malformed
  if p.peekAt 1 = some ' ' then return ("!", p.advance)
  let (name, q) := p.advance.span isNameChar
  if q.peek != some '!' then throw malformed
  return (String.ofList ('!' :: name ++ ['!']), q.advance)

/-- Whether an exclamation mark stands before the next space or line end. -/
def hasSecondMark (p : Cursor) : Bool :=
  (p.span fun c => !(c = ' ' || isBreak c)).1.contains '!'

/-- The tag behind an exclamation mark at `p`, without a look at what follows it. -/
def bareTag (p : Cursor) : Except Fault (TagName × Cursor) := do
  let q := p.advance
  if q.peek = some '<' then
    let (suffix, r) ← tagText q.advance
    if r.peek != some '>' then throw malformed
    return (⟨none, suffix⟩, r.advance)
  else if endOr isGap q.peek then return (⟨none, "!"⟩, q)
  else if hasSecondMark q then
    let (handle, r) ← tagHandle p
    let (suffix, after) ← tagText r
    return (⟨some handle, suffix⟩, after)
  else
    let (suffix, after) ← tagText q
    return (⟨some "!", suffix⟩, after)

def tagName (p : Cursor) : Except Fault (TagName × Cursor) := do
  let (name, q) ← bareTag p
  if !endOr (fun c => c = ' ' || isBreak c) q.peek then throw malformed
  return (name, q)

end ReplicaBootstrap.Yaml
