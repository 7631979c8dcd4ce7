import ReplicaBootstrap.Fault
import ReplicaBootstrap.Value

/-! # Rendering of SQL

Quoted identifiers and literals as they stand in a statement.
-/

namespace ReplicaBootstrap.Sql

def doubled (mark : Char) (cs : List Char) : List Char :=
  cs.flatMap fun c => if c = mark then [c, c] else [c]

def quotedName (name : String) : String :=
  String.ofList ('"' :: doubled '"' name.toList ++ ['"'])

def identifier (parts : List Value) : Except Fault String := do
  let names ← parts.mapM fun
    | .text s => .ok (quotedName s)
    | v => .error (.host .wrongType s!"SQL identifier parts must be strings, got {v.quoted} instead")
  return ".".intercalate names

/-- A text literal. With a backslash in it the escape form is used, set off by a blank. -/
def textLiteral (s : String) : Except Fault String :=
  let cs := s.toList
  if cs.contains '\x00' then
    .error (.driver .data "PostgreSQL text fields cannot contain NUL (0x00) bytes")
  else
    let body := doubled '\'' cs
    if cs.contains '\\' then .ok (String.ofList (" E'".toList ++ doubled '\\' body ++ ['\'']))
    else .ok (String.ofList ('\'' :: body ++ ['\'']))

/-- A negative number is set off from a minus sign before it. -/
def numberLiteral (text : String) : String :=
  if text.front? = some '-' then " " ++ text else text

def realLiteral (x : Binary64) : String :=
  if x.isNaN then "'NaN'::float8"
  else if !x.isFinite then if x.isNegative then "'-Infinity'::float8" else "'Infinity'::float8"
  else numberLiteral x.text

/-- A value of a statement. Collections do not occur there. -/
def literal : Value → Except Fault String
  | .null => .ok "NULL"
  | .bool b => .ok (if b then "true" else "false")
  | .int n => .ok (numberLiteral (toString n))
  | .real x => .ok (realLiteral x)
  | .text s => textLiteral s
  | v => .error (.driver .programming s!"cannot adapt type '{v.typeName}'")

end ReplicaBootstrap.Sql
