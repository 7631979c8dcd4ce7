import ReplicaBootstrap.Yaml.Cursor

/-! # Plain scalars

A scalar without quotes goes on until something ends it. A line end inside it becomes a space, and
further ones stay.
-/

namespace ReplicaBootstrap.Yaml

def stopsPlain (inFlow : Bool) (c : Char) (rest : List Char) : Bool :=
  isGap c ||
    (c = ':' && endOr (fun d => isGap d || (inFlow && isFlowSign d)) rest.head?) ||
    (inFlow && (isFlowSign c || c = '?'))

def plainWord (inFlow : Bool) (p : Cursor) : List Char × Cursor :=
  Cursor.spanOf (fun c rest => !stopsPlain inFlow c rest) p.rest p

def foldBreaks (first : Char) (more : List Char) : List Char :=
  if first ≠ '\n' then first :: more else if more.isEmpty then [' '] else more

/-- The line ends at the start of a line and the spaces between them; nothing is folded in front of
a separator of documents. -/
def plainBreaks (p : Cursor) : Option (List Char) × Cursor :=
  if p.atSeparator then (none, p)
  else
    let q := p.skipSpaces
    match _h : q.lineBreak? with
    | none => (some [], q)
    | some (c, r) =>
      let (more, after) := plainBreaks r
      (more.map (c :: ·), after)
termination_by p.rest.length
decreasing_by
  have h1 := Cursor.length_lineBreak?_lt _h
  have h2 : q.rest.length ≤ p.rest.length := Cursor.length_skipWhile_le _ _
  omega

/-- What stands between two words of a plain scalar; an empty text ends the scalar. -/
structure PlainGap where
  text : List Char
  endedLine : Bool
  after : Cursor

def plainGap (p : Cursor) : PlainGap :=
  let (spaces, q) := p.span (· = ' ')
  match q.lineBreak? with
  | none => ⟨spaces, false, q⟩
  | some (c, r) =>
    match plainBreaks r with
    | (none, after) => ⟨[], true, after⟩
    | (some more, after) => ⟨foldBreaks c more, true, after⟩

structure PlainScalar where
  text : List Char
  endedLine : Bool
  after : Cursor

def PlainGap.continues (inFlow : Bool) (indent : Int) (g : PlainGap) : Bool :=
  !g.text.isEmpty && g.after.peek != some '#' && (inFlow || indent ≤ g.after.column) &&
    !(plainWord inFlow g.after).1.isEmpty

def plainScalar (inFlow : Bool) (indent : Int) (p : Cursor) : PlainScalar :=
  let (word, q) := plainWord inFlow p
  let gap := plainGap q
  if _h : gap.after.rest.length < p.rest.length then
    if gap.continues inFlow indent then
      let more := plainScalar inFlow indent gap.after
      { more with text := word ++ gap.text ++ more.text }
    else ⟨word, gap.endedLine, gap.after⟩
  else ⟨word, gap.endedLine, gap.after⟩
termination_by p.rest.length

end ReplicaBootstrap.Yaml
