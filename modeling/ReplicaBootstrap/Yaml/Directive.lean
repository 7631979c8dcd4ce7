import ReplicaBootstrap.Number.Radix
import ReplicaBootstrap.Yaml.Property
import ReplicaBootstrap.Yaml.Scalar.Block

/-! # Directives

The lines before a document that tell the version of the format and the meaning of tag handles.
-/

namespace ReplicaBootstrap.Yaml

def isSpaceOrBreak (c : Char) : Bool := c = ' ' || isBreak c

def versionNumber (p : Cursor) : Except Fault (Int × Cursor) := do
  let (digits, q) := p.span Char.isDigit
  if digits.isEmpty then throw malformed
  let text := String.ofList digits
  match Number.readInt 10 text with
  | .ok n => return (n, q)
  | .error e => throw (.host .badValue (e.message 10 text))

def versionDirective (p : Cursor) : Except Fault (Directive × Cursor) := do
  let (major, q) ← versionNumber p.skipSpaces
  if q.peek != some '.' then throw malformed
  let (minor, r) ← versionNumber q.advance
  if !endOr isSpaceOrBreak r.peek then throw malformed
  return (.version major minor, r)

def tagDirective (p : Cursor) : Except Fault (Directive × Cursor) := do
  let (handle, q) ← tagHandle p.skipSpaces
  if q.peek != some ' ' then throw malformed
  let (expansion, r) ← tagText q.skipSpaces
  if !endOr isSpaceOrBreak r.peek then throw malformed
  return (.tag handle expansion, r)

/-- The directive whose percent sign stands at `p`; others than the two known ones are skipped. -/
def directive (p : Cursor) : Except Fault (Directive × Cursor) := do
  let (name, q) := p.advance.span isNameChar
  if name.isEmpty || !endOr isSpaceOrBreak q.peek then throw malformed
  let (d, r) ←
    match String.ofList name with
    | "YAML" => versionDirective q
    | "TAG" => tagDirective q
    | _ => .ok (.other, q.skipWhile (!isBreak ·))
  return (d, ← restOfLine r)

end ReplicaBootstrap.Yaml
