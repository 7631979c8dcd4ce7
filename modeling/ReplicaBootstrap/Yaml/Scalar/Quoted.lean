import ReplicaBootstrap.Yaml.Scalar.Plain

/-! # Quoted scalars

Between single quotes only the quote is written in a way of its own, twice; between double quotes a
backslash starts an escape. Line ends are folded as in plain scalars.
-/

namespace ReplicaBootstrap.Yaml

/-- The line ends from here on with the blanks around them. A separator of documents may not stand
inside quotes. -/
def quotedBreaks (p : Cursor) : Except Fault (List Char × Cursor) :=
  if p.atSeparator then .error malformed
  else
    let q := p.skipWhile fun c => c = ' ' || c = '\t'
    match _h : q.lineBreak? with
    | none => .ok ([], q)
    | some (c, r) => do
      let (more, after) ← quotedBreaks r
      return (c :: more, after)
termination_by p.rest.length
decreasing_by
  have h1 := Cursor.length_lineBreak?_lt _h
  have h2 : q.rest.length ≤ p.rest.length := Cursor.length_skipWhile_le _ _
  omega

/-- A run of blanks inside quotes: blanks stay unless the line ends behind them. -/
def quotedGap (p : Cursor) : Except Fault (List Char × Cursor) := do
  let (blanks, q) := p.span fun c => c = ' ' || c = '\t'
  match q.lineBreak? with
  | none => return (blanks, q)
  | some (c, r) =>
    let (more, after) ← quotedBreaks r
    return (foldBreaks c more, after)

def shortEscapes : List (Char × Char) := [
    ('0', '\x00'), ('a', '\x07'), ('b', '\x08'), ('t', '\t'), ('\t', '\t'), ('n', '\n'),
    ('v', '\x0b'), ('f', '\x0c'), ('r', '\r'), ('e', '\x1b'), (' ', ' '), ('"', '"'),
    ('\\', '\\'), ('/', '/'), ('N', '\x85'), ('_', '\xa0'), ('L', '\u2028'), ('P', '\u2029')]

def hexEscapeWidth? (c : Char) : Option Nat :=
  if c = 'x' then some 2 else if c = 'u' then some 4 else if c = 'U' then some 8 else none

def hexValue? (c : Char) : Option Nat :=
  if c.isDigit then some (c.toNat - 48)
  else if 'a' ≤ c && c ≤ 'f' then some (c.toNat - 87)
  else if 'A' ≤ c && c ≤ 'F' then some (c.toNat - 55)
  else none

def hexNumber? (cs : List Char) : Option Nat := do
  let values ← cs.mapM hexValue?
  return values.foldl (fun n d => n * 16 + d) 0

/-- The character with a code. A lone half of a pair has none of its own. -/
def charOfCode (code : Nat) : Except Fault Char :=
  if 0x80000000 ≤ code then .error (.host .overflow "Python int too large to convert to C int")
  else if 0x110000 ≤ code then .error (.host .badValue "chr() arg not in range(0x110000)")
  else if 0xd800 ≤ code ∧ code < 0xe000 then .ok '\ufffd'
  else .ok (Char.ofNat code)

def escape (p : Cursor) : Except Fault (List Char × Cursor) :=
  match p.lineBreak?, p.peek with
  | some (_, q), _ => quotedBreaks q
  | none, none => .error malformed
  | none, some letter =>
    match shortEscapes.lookup letter, hexEscapeWidth? letter with
    | some c, _ => .ok ([c], p.advance)
    | none, some width =>
      let digits := p.advance.rest.take width
      match hexNumber? digits with
      | some code =>
        if digits.length = width then
          (charOfCode code).map fun c => ([c], p.advance.skip width)
        else .error malformed
      | none => .error malformed
    | none, none => .error malformed

def quotedRest (quote : Char) : (steps : Nat) → Cursor → Except Fault (List Char × Cursor)
  | 0, _ => .error malformed
  | steps + 1, p =>
    match p.rest with
    | [] => .error malformed
    | c :: rest => do
      if c = quote && !(quote = '\'' && rest.head? = some '\'') then return ([], p.advance)
      let (text, q) ←
        if c = quote then .ok ([c], p.skip 2)
        else if c = '\\' && quote = '"' then escape p.advance
        else if isGap c then quotedGap p
        else .ok ([c], p.advance)
      let (more, after) ← quotedRest quote steps q
      return (text ++ more, after)

/-- The scalar that starts with the quote at `p`. Every step reads a character at least. -/
def quotedScalar (quote : Char) (p : Cursor) : Except Fault (List Char × Cursor) :=
  quotedRest quote p.rest.length p.advance

end ReplicaBootstrap.Yaml
