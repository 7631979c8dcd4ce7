import ReplicaBootstrap.Yaml.Cursor

/-! # Block scalars

A scalar made of whole indented lines. Its header says how the line ends at its end are kept and, if
need be, how far it is indented.
-/

namespace ReplicaBootstrap.Yaml

inductive Chomping where
  | clip
  | strip
  | keep
  deriving DecidableEq, Repr

structure BlockHeader where
  chomping : Chomping := .clip
  /-- the indentation beyond that of the parent, when it is told -/
  increment : Option Nat := none

def chomping? (p : Cursor) : Option Chomping :=
  match p.peek with
  | some '+' => some .keep
  | some '-' => some .strip
  | _ => none

def increment? (p : Cursor) : Option Nat :=
  match p.peek with
  | some c => if c.isDigit then some (c.toNat - 48) else none
  | none => none

/-- The signs behind the indicator, in either order. -/
def blockSigns (p : Cursor) : BlockHeader × Cursor :=
  match chomping? p, increment? p with
  | some chomping, _ =>
    match increment? p.advance with
    | some n => (⟨chomping, some n⟩, p.skip 2)
    | none => (⟨chomping, none⟩, p.advance)
  | none, some n =>
    match chomping? p.advance with
    | some chomping => (⟨chomping, some n⟩, p.skip 2)
    | none => (⟨.clip, some n⟩, p.advance)
  | none, none => ({}, p)

def restOfLine (p : Cursor) : Except Fault Cursor :=
  let q := p.skipSpaces.skipComment
  if endOr isBreak q.peek then .ok q.skipBreak else .error malformed

def blockHeader (p : Cursor) : Except Fault (BlockHeader × Cursor) := do
  let (header, q) := blockSigns p
  if header.increment = some 0 then throw malformed
  if !endOr (fun c => c = ' ' || isBreak c) q.peek then throw malformed
  return (header, ← restOfLine q)

def skipIndent : (room : Nat) → Cursor → Cursor
  | 0, p => p
  | room + 1, p => if p.peek = some ' ' then skipIndent room p.advance else p

theorem length_skipIndent_le (room : Nat) (p : Cursor) :
    (skipIndent room p).rest.length ≤ p.rest.length := by
  induction room generalizing p with
  | zero => exact Nat.le_refl _
  | succ room ih =>
    rw [skipIndent]
    split
    · exact Nat.le_trans (ih p.advance) (by simp)
    · exact Nat.le_refl _

/-- The line ends of the empty lines from here on, each line indented by at most `indent`. -/
def blockBreaks (indent : Nat) (p : Cursor) : List Char × Cursor :=
  let q := skipIndent (indent - p.column) p
  match _h : q.lineBreak? with
  | none => ([], q)
  | some (c, r) =>
    let (more, after) := blockBreaks indent r
    (c :: more, after)
termination_by p.rest.length
decreasing_by
  have h1 := Cursor.length_lineBreak?_lt _h
  have h2 : q.rest.length ≤ p.rest.length := length_skipIndent_le _ _
  omega

def blockIndentation (p : Cursor) : List Char × Nat × Cursor :=
  let q := p.skipSpaces
  match _h : q.lineBreak? with
  | none => ([], q.column, q)
  | some (c, r) =>
    let (more, width, after) := blockIndentation r
    (c :: more, max q.column width, after)
termination_by p.rest.length
decreasing_by
  have h1 := Cursor.length_lineBreak?_lt _h
  have h2 : q.rest.length ≤ p.rest.length := Cursor.length_skipWhile_le _ _
  omega

def isIndentedText (c : Char) : Bool := c = ' ' || c = '\t'

/-- The lines of a block scalar from a place at its indentation on; `breaks` are the line ends
before it. A line end between two lines that start with text is folded, if the scalar folds. -/
def blockLines (folds : Bool) (chomping : Chomping) (indent : Nat) (breaks : List Char)
    (p : Cursor) : List Char × Cursor :=
  let (line, q) := p.span (!isBreak ·)
  let ending := (q.lineBreak?.map fun (c, _) => [c]).getD []
  let (more, after) := blockBreaks indent q.skipBreak
  if _h : after.column = indent ∧ after.peek.isSome ∧ after.rest.length < p.rest.length then
    let joined :=
      if folds && ending == ['\n'] && !(p.peek.any isIndentedText) &&
          !(after.peek.any isIndentedText) then
        if more.isEmpty then [' '] else []
      else ending
    let (text, behind) := blockLines folds chomping indent more after
    (breaks ++ line ++ joined ++ text, behind)
  else
    let ends := match chomping with
      | .strip => []
      | .clip => ending
      | .keep => ending ++ more
    (breaks ++ line ++ ends, after)
termination_by p.rest.length

def blockScalar (folds : Bool) (parent : Int) (p : Cursor) : Except Fault (List Char × Cursor) := do
  let (header, q) ← blockHeader p.advance
  let least := (max (parent + 1) 1).toNat
  let (breaks, indent, start) :=
    match header.increment with
    | some n =>
      let (breaks, start) := blockBreaks (least + n - 1) q
      (breaks, least + n - 1, start)
    | none =>
      let (breaks, width, start) := blockIndentation q
      (breaks, max least width, start)
  if start.column = indent ∧ start.peek.isSome then
    return blockLines folds header.chomping indent breaks start
  else
    return (if header.chomping = .keep then breaks else [], start)

end ReplicaBootstrap.Yaml
