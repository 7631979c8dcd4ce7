import ReplicaBootstrap.Conninfo.KeyValue
import ReplicaBootstrap.Conninfo.Uri
import ReplicaBootstrap.Value

/-! # Connection strings

Reading, writing, overlaying and masking of connection strings. `write` gives the keyword form, and
what it gives is read again before it is used.
-/

namespace ReplicaBootstrap.Conninfo

def entries (dsn : String) : Except Error (List Entry) :=
  let cs := dsn.toList.takeWhile (· ≠ '\x00')
  match afterScheme? cs with
  | some body => uriEntries (String.ofList cs) body
  | none => keyValueEntries cs

def parse (dsn : String) : Except Error Params := do
  collect (← entries dsn)

def escapeChar (c : Char) : List Char :=
  if c = '\\' || c = '\'' then ['\\', c] else [c]

/-- A value as it is written: quoted when it holds a blank of any script. -/
def writeValue (value : List Char) : List Char :=
  if value.isEmpty then ['\'', '\'']
  else
    let escaped := value.flatMap escapeChar
    if escaped.any Text.isBlank then '\'' :: escaped ++ ['\''] else escaped

def write (params : Params) : String :=
  " ".intercalate (params.map fun (k, v) => k ++ "=" ++ String.ofList (writeValue v.toList))

/-- `params` with `keyword` set: at its old place, or else at the end. -/
def set (keyword value : String) : Params → Params
  | [] => [(keyword, value)]
  | (k, v) :: rest =>
    if k = keyword then (k, value) :: rest else (k, v) :: set keyword value rest

def overlay (params news : Params) : Params :=
  news.foldl (fun ps (k, v) => set k v ps) params

def writeChecked (params : Params) : Except Error String := do
  if params.isEmpty then return ""
  let _ ← entries (write params)
  return write params

def notEncodable (v : Value) : Fault :=
  .host .missingMember s!"'{v.typeName}' object has no attribute 'encode'"

/-- The connection string `dsn` with further parameters; a value that is not given sets none. -/
def extend (dsn : Value) (news : Params) : Except Fault String := do
  let base ←
    if dsn.isGiven then
      match dsn with
      | .text s => (parse s).mapError Error.fault
      | v => .error (notEncodable v)
    else pure []
  (writeChecked (overlay base news)).mapError Error.fault

def passwordMask : String := "********"

def unparseable : String := "<unparseable dsn>"

def maskParams (params : Params) : Params :=
  params.map fun (k, v) => (k, if k = "password" then passwordMask else v)

def mask (dsn : String) : Except Fault String :=
  match parse dsn with
  | .ok params => (writeChecked (maskParams params)).mapError Error.fault
  | .error (.notText e) => .error (Error.notText e).fault
  | .error _ => .ok unparseable

def maskValue : Value → Except Fault String
  | .text s => mask s
  | v => .error (notEncodable v)

end ReplicaBootstrap.Conninfo
