import ReplicaBootstrap.Yaml.Directive

/-! # Layout

The tokens of a document. Block collections have no closing signs: they are opened and closed by
indentation, and a key is known as such only when the colon behind it is met.
-/

namespace ReplicaBootstrap.Yaml

/-- A place where a key may have started. -/
structure KeyMark where
  /-- how many tokens came before it -/
  token : Nat
  /-- whether nothing but a key can stand there -/
  isRequired : Bool
  index : Nat
  line : Nat
  column : Nat

/-- How far a document has been read into tokens. -/
structure Layout where
  place : Cursor
  tokens : Array Token := #[]
  allowsKey : Bool := true
  /-- the column of the innermost block collection -/
  indent : Int := -1
  /-- the columns of those around it -/
  outerIndents : List Int := []
  /-- the place of the latest possible key -/
  key : Option KeyMark := none
  /-- the places of possible keys outside of each open bracket -/
  outerKeys : List (Option KeyMark) := []

namespace Layout

def longestKey : Nat := 1024

def inFlow (s : Layout) : Bool := !s.outerKeys.isEmpty

def push (s : Layout) (t : Token) : Layout := { s with tokens := s.tokens.push t }

def moveTo (s : Layout) (p : Cursor) : Layout := { s with place := p }

/-- A key and its colon stand on one line, not too far from each other. -/
def freshKey (p : Cursor) (key : Option KeyMark) : Except Fault (Option KeyMark) :=
  match key with
  | none => .ok none
  | some k =>
    if k.line = p.line ∧ p.index - k.index ≤ longestKey then .ok (some k)
    else if k.isRequired then .error malformed
    else .ok none

def dropStaleKeys (s : Layout) : Except Fault Layout := do
  let key ← freshKey s.place s.key
  let outerKeys ← s.outerKeys.mapM (freshKey s.place)
  return { s with key, outerKeys }

def forgetKey (s : Layout) : Except Fault Layout :=
  if s.key.any (·.isRequired) then .error malformed else .ok { s with key := none }

/-- Notes that the next token may start a key. -/
def noteKey (s : Layout) : Except Fault Layout := do
  if !s.allowsKey then return s
  let s ← s.forgetKey
  let isRequired := !s.inFlow && s.indent == s.place.column
  let { index, line, column, .. } := s.place
  return { s with key := some ⟨s.tokens.size, isRequired, index, line, column⟩ }

/-- The columns after closing those beyond `column`, and how many were closed. -/
def closed (column indent : Int) : List Int → Nat × Int × List Int
  | [] => (0, indent, [])
  | outer :: rest =>
    if column < indent then
      let (count, indent', rest') := closed column outer rest
      (count + 1, indent', rest')
    else (0, indent, outer :: rest)

def unwind (column : Int) (s : Layout) : Layout :=
  if s.inFlow then s
  else
    let (count, indent, outerIndents) := closed column s.indent s.outerIndents
    let ends := Array.replicate count Token.blockEnd
    { s with indent, outerIndents, tokens := s.tokens ++ ends }

def openBlock (t : Token) (column : Int) (i : Nat) (s : Layout) : Layout :=
  if s.indent < column then
    { s with
      indent := column
      outerIndents := s.indent :: s.outerIndents
      tokens := s.tokens.insertIdxIfInBounds i t }
  else s

def openBlockHere (t : Token) (s : Layout) : Except Fault Layout :=
  if s.inFlow then .ok s
  else if s.allowsKey then .ok (s.openBlock t s.place.column s.tokens.size)
  else .error malformed

/-- Ends all blocks in front of what stands outside of documents. -/
def leaveBlocks (s : Layout) : Except Fault Layout := do
  let s ← (s.unwind (-1)).forgetKey
  return { s with allowsKey := false }

def keyLike (read : Cursor → Except Fault (Token × Cursor)) (s : Layout) : Except Fault Layout := do
  let s ← s.noteKey
  let (t, p) ← read s.place
  return { s.push t with place := p, allowsKey := false }

def openFlow (t : Token) (s : Layout) : Except Fault Layout := do
  let s ← s.noteKey
  return { s.push t with
    place := s.place.advance, allowsKey := true, key := none, outerKeys := s.key :: s.outerKeys }

def closeFlow (t : Token) (s : Layout) : Except Fault Layout := do
  let s ← s.forgetKey
  match s.outerKeys with
  | [] => throw malformed
  | key :: outerKeys =>
    return { s.push t with place := s.place.advance, allowsKey := false, key, outerKeys }

/-- Reads a comma, or the hyphen or the question mark that opens an entry of a block. -/
def opener (t : Token) (allowsKey : Bool) (s : Layout) : Except Fault Layout := do
  let s ← s.forgetKey
  return { s.push t with place := s.place.advance, allowsKey }

/-- Reads a colon. The possible key before it turns out to be one. -/
def colon (s : Layout) : Except Fault Layout := do
  match s.key with
  | some k =>
    let s := { s with key := none, tokens := s.tokens.insertIdxIfInBounds k.token .key }
    let s := if s.inFlow then s else s.openBlock .blockMapping k.column k.token
    return { s.push .value with place := s.place.advance, allowsKey := false }
  | none =>
    let s ← s.openBlockHere .blockMapping
    s.opener .value (!s.inFlow)

def plain (s : Layout) : Except Fault Layout := do
  let s ← s.noteKey
  let scalar := plainScalar s.inFlow (s.indent + 1) s.place
  return { s.push (.scalar (String.ofList scalar.text) true) with
    place := scalar.after, allowsKey := scalar.endedLine }

def block (folds : Bool) (s : Layout) : Except Fault Layout := do
  let s ← s.forgetKey
  let (text, p) ← blockScalar folds s.indent s.place
  return { s.push (.scalar (String.ofList text) false) with place := p, allowsKey := true }

def quoted (quote : Char) : Layout → Except Fault Layout :=
  keyLike fun p => do
    let (text, q) ← quotedScalar quote p
    return (.scalar (String.ofList text) false, q)

def named (kind : String → Token) : Layout → Except Fault Layout :=
  keyLike fun p => do
    let (name, q) ← anchorName p
    return (kind name, q)

def tagged : Layout → Except Fault Layout :=
  keyLike fun p => do
    let (name, q) ← tagName p
    return (.tag name, q)

/-- A character that no plain scalar starts with, unless it is one of three and text follows. -/
def isIndicator (c : Char) : Bool :=
  ['-', '?', ':', ',', '[', ']', '\x7b', '\x7d', '#', '&', '*', '!', '|', '>', '\'', '"', '%',
    '@', '\x60'].contains c

def startsPlain (inFlow : Bool) (c : Char) (next : Option Char) : Bool :=
  !(isGap c || isIndicator c) ||
    (!endOr isGap next && (c = '-' || (!inFlow && (c = '?' || c = ':'))))

def token (s : Layout) (c : Char) : Except Fault Layout :=
  let p := s.place
  let endsHere := endOr isGap (p.peekAt 1)
  if p.column = 0 && c = '%' then do
    let s ← s.leaveBlocks
    let (d, q) ← directive s.place
    return (s.push (.directive d)).moveTo q
  else if p.column = 0 && p.atSeparator then do
    let s ← s.leaveBlocks
    return (s.push (if c = '-' then .documentStart else .documentEnd)).moveTo (s.place.skip 3)
  else if c = '[' then s.openFlow .flowSequence
  else if c = '\x7b' then s.openFlow .flowMapping
  else if c = ']' then s.closeFlow .flowSequenceEnd
  else if c = '\x7d' then s.closeFlow .flowMappingEnd
  else if c = ',' then s.opener .comma true
  else if c = '-' && endsHere then do
    (← s.openBlockHere .blockSequence).opener .item true
  else if c = '?' && (s.inFlow || endsHere) then do
    (← s.openBlockHere .blockMapping).opener .key (!s.inFlow)
  else if c = ':' && (s.inFlow || endsHere) then s.colon
  else if c = '*' then s.named .alias
  else if c = '&' then s.named .anchor
  else if c = '!' then s.tagged
  else if (c = '|' || c = '>') && !s.inFlow then s.block (c = '>')
  else if c = '\'' || c = '"' then s.quoted c
  else if startsPlain s.inFlow c (p.peekAt 1) then s.plain
  else .error malformed

/-- The state in front of the next token: what is skipped there may end lines and blocks. -/
def atToken (s : Layout) : Except Fault Layout := do
  let (endedLine, p) := skipBlank s.place
  let s ← { s with place := p, allowsKey := s.allowsKey || (endedLine && !s.inFlow) }.dropStaleKeys
  return s.unwind s.place.column

def next (s : Layout) : Except Fault Layout := do
  let start ← s.atToken
  match start.place.peek with
  | none => start.leaveBlocks
  | some c => start.token c

/-- The first token that may still turn out to be a key. -/
def firstPending (s : Layout) : Nat :=
  (s.key :: s.outerKeys).foldl (fun first key =>
    match freshKey s.place key with
    | .ok (some k) => min first k.token
    | _ => first) s.tokens.size

/-- The tokens when the next one cannot be read: one that may be a key is not told before it is
known whether it is. -/
def stoppedBy (f : Fault) (s : Layout) : TokenList :=
  ⟨s.tokens.toList.take s.firstPending, some f⟩

def toEnd (s : Layout) : TokenList :=
  match s.next with
  | .error f => s.stoppedBy f
  | .ok next =>
    if _h : next.place.rest.length < s.place.rest.length then next.toEnd
    else ⟨next.tokens.toList, none⟩
termination_by s.place.rest.length

end Layout

def isAllowed (c : Char) : Bool :=
  c = '\t' || c = '\n' || c = '\r' || (' ' ≤ c && c ≤ '~') || c = '\x85' ||
    ('\xa0' ≤ c && c ≤ '\ufffd') || 0x10000 ≤ c.toNat

def TokenList.ofText (text : String) : TokenList :=
  let start : Cursor := { rest := text.toList }
  if start.rest.all isAllowed then
    let place := if start.peek = some '\ufeff' then start.advance else start
    Layout.toEnd { place }
  else ⟨[], some malformed⟩

end ReplicaBootstrap.Yaml
