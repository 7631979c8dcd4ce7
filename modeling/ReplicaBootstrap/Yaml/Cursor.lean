import ReplicaBootstrap.Fault

/-! # Cursors

A place in a document: what follows it, and how far it is from the start of the text and of its line.
-/

namespace ReplicaBootstrap.Yaml

/-- Every way in which a document is not well formed is told alike. -/
def malformed : Fault := .host .document ""

def isBreak (c : Char) : Bool :=
  c = '\n' || c = '\r' || c = '\x85' || c = '\u2028' || c = '\u2029'

def isGap (c : Char) : Bool := c = ' ' || c = '\t' || isBreak c

def isFlowSign (c : Char) : Bool :=
  c = ',' || c = '[' || c = ']' || c = '\x7b' || c = '\x7d'

def isNameChar (c : Char) : Bool := c.isAlphanum || c = '-' || c = '_'

def endOr (good : Char → Bool) : Option Char → Bool
  | none => true
  | some c => good c

/-- Whether a text starts with a mark that separates documents. -/
def startsSeparator : List Char → Bool
  | '-' :: '-' :: '-' :: rest => endOr isGap rest.head?
  | '.' :: '.' :: '.' :: rest => endOr isGap rest.head?
  | _ => false

structure Cursor where
  rest : List Char
  index : Nat := 0
  line : Nat := 0
  column : Nat := 0
  deriving Repr, Inhabited

namespace Cursor

def peek (p : Cursor) : Option Char := p.rest.head?

def peekAt (p : Cursor) (n : Nat) : Option Char := p.rest[n]?

/-- Whether a line ends with `c` in front of `rest`: the first half of a pair does not end it. -/
def endsLine (c : Char) (rest : List Char) : Bool :=
  isBreak c && !(c = '\r' && rest.head? = some '\n')

/-- The place behind the next character. A byte order mark takes no column. -/
def advance (p : Cursor) : Cursor :=
  match p.rest with
  | [] => p
  | c :: rest =>
    if endsLine c rest then ⟨rest, p.index + 1, p.line + 1, 0⟩
    else ⟨rest, p.index + 1, p.line, if c = '\ufeff' then p.column else p.column + 1⟩

def skip (p : Cursor) : Nat → Cursor
  | 0 => p
  | n + 1 => p.advance.skip n

def spanOf (good : Char → List Char → Bool) : List Char → Cursor → List Char × Cursor
  | [], p => ([], p)
  | c :: rest, p =>
    if good c rest then
      let (cs, q) := spanOf good rest p.advance
      (c :: cs, q)
    else ([], p)

def span (p : Cursor) (good : Char → Bool) : List Char × Cursor :=
  spanOf (fun c _ => good c) p.rest p

def skipWhile (p : Cursor) (good : Char → Bool) : Cursor := (p.span good).2

def skipSpaces (p : Cursor) : Cursor := p.skipWhile (· = ' ')

def skipComment (p : Cursor) : Cursor :=
  if p.peek = some '#' then p.skipWhile (!isBreak ·) else p

def lineBreak? (p : Cursor) : Option (Char × Cursor) :=
  match p.rest with
  | '\r' :: '\n' :: _ => some ('\n', p.advance.advance)
  | c :: _ =>
    if isBreak c then some (if c = '\u2028' || c = '\u2029' then c else '\n', p.advance) else none
  | [] => none

def skipBreak (p : Cursor) : Cursor := (p.lineBreak?.map (·.2)).getD p

def atSeparator (p : Cursor) : Bool := startsSeparator p.rest

@[simp] theorem rest_advance (p : Cursor) : p.advance.rest = p.rest.tail := by
  unfold advance
  split
  · simp_all
  · split <;> simp_all

theorem length_spanOf_le (good : Char → List Char → Bool) (cs : List Char) (p : Cursor)
    (h : p.rest = cs) : (spanOf good cs p).2.rest.length ≤ p.rest.length := by
  induction cs generalizing p with
  | nil => simp [spanOf]
  | cons c rest ih =>
    have step := ih p.advance (by simp [h])
    simp only [spanOf]
    split
    · refine Nat.le_trans step ?_
      simp [h]
    · exact Nat.le_refl _

theorem length_skipWhile_le (p : Cursor) (good : Char → Bool) :
    (p.skipWhile good).rest.length ≤ p.rest.length :=
  length_spanOf_le _ _ _ rfl

theorem length_skipComment_le (p : Cursor) : p.skipComment.rest.length ≤ p.rest.length := by
  unfold skipComment
  split
  · exact length_skipWhile_le _ _
  · exact Nat.le_refl _

theorem length_lineBreak?_lt {p q : Cursor} {c : Char} (h : p.lineBreak? = some (c, q)) :
    q.rest.length < p.rest.length := by
  unfold lineBreak? at h
  split at h
  · rename_i rest hr
    simp only [Option.some.injEq, Prod.mk.injEq] at h
    rw [← h.2, rest_advance, rest_advance, hr]
    exact Nat.lt_succ_of_lt (Nat.lt_succ_self _)
  · rename_i d rest _ hr
    split at h
    · simp only [Option.some.injEq, Prod.mk.injEq] at h
      simp [← h.2, hr]
    · simp at h
  · simp at h

end Cursor

/-- Skips spaces, comments and line ends, and tells whether a line ended. -/
def skipBlank (p : Cursor) : Bool × Cursor :=
  let q := p.skipSpaces.skipComment
  match _h : q.lineBreak? with
  | some (_, r) => (true, (skipBlank r).2)
  | none => (false, q)
termination_by p.rest.length
decreasing_by
  have h1 := Cursor.length_lineBreak?_lt _h
  have h2 : q.rest.length ≤ p.skipSpaces.rest.length := Cursor.length_skipComment_le _
  have h3 : p.skipSpaces.rest.length ≤ p.rest.length := Cursor.length_skipWhile_le _ _
  omega

end ReplicaBootstrap.Yaml
