import ReplicaBootstrap.Calendar
import ReplicaBootstrap.Number.Binary64
import ReplicaBootstrap.Text.Quoted

/-! # Values

The values that a settings document or a row of a server can hold, the name of their kind, whether
they count as given, and their two texts: plain, and as they stand inside a list.
-/

namespace ReplicaBootstrap

inductive Shape where
  | list
  | map
  | set
  deriving DecidableEq, Repr

inductive Value where
  | null
  | bool (b : Bool)
  | int (n : Int)
  | real (x : Binary64)
  | text (s : String)
  | bytes (bs : List UInt8)
  | date (d : Calendar.Date)
  | moment (m : Calendar.Moment)
  | list (items : List Value)
  | pair (first second : Value)
  | map (entries : List (Value × Value))
  | set (members : List Value)
  /-- a collection met again inside itself -/
  | again (shape : Shape)
  deriving Repr

namespace Value

instance : Inhabited Value := ⟨.null⟩

instance : Coe String Value := ⟨.text⟩

def typeName : Value → String
  | .null => "NoneType"
  | .bool _ => "bool"
  | .int _ => "int"
  | .real _ => "float"
  | .text _ => "str"
  | .bytes _ => "bytes"
  | .date _ => "date"
  | .moment _ => "datetime"
  | .list _ | .again .list => "list"
  | .pair _ _ => "tuple"
  | .map _ | .again .map => "dict"
  | .set _ | .again .set => "set"

/-- The name with the family of the kind, where it has one. -/
def qualifiedTypeName (v : Value) : String :=
  match v with
  | .date _ | .moment _ => "datetime." ++ v.typeName
  | _ => v.typeName

/-- Whether a value counts as given: not null, zero, false or empty. -/
def isGiven : Value → Bool
  | .null => false
  | .bool b => b
  | .int n => n ≠ 0
  | .real x => !x.isZero
  | .text s => !s.isEmpty
  | .bytes bs => !bs.isEmpty
  | .date _ | .moment _ | .pair _ _ | .again _ => true
  | .list items => !items.isEmpty
  | .map entries => !entries.isEmpty
  | .set members => !members.isEmpty

def boolText (b : Bool) : String := if b then "True" else "False"

def enclosed (left right : String) (items : List String) : String :=
  left ++ ", ".intercalate items ++ right

mutual

def quoted : Value → String
  | .null => "None"
  | .bool b => boolText b
  | .int n => toString n
  | .real x => x.text
  | .text s => Text.quoted s
  | .bytes bs => Text.quotedBytes bs
  | .date d => d.expression
  | .moment m => m.expression
  | .list items => enclosed "[" "]" (quotedItems items)
  | .pair first second => enclosed "(" ")" [quoted first, quoted second]
  | .map entries => enclosed "\x7b" "\x7d" (quotedEntries entries)
  | .set members =>
    if members.isEmpty then "set()" else enclosed "\x7b" "\x7d" (quotedItems members)
  | .again .list => "[...]"
  | .again .map => "\x7b...\x7d"
  | .again .set => "set(...)"

def quotedItems : List Value → List String
  | [] => []
  | v :: rest => quoted v :: quotedItems rest

def quotedEntries : List (Value × Value) → List String
  | [] => []
  | (k, v) :: rest => (quoted k ++ ": " ++ quoted v) :: quotedEntries rest

end

def plain : Value → String
  | .text s => s
  | .date d => d.text
  | .moment m => m.text
  | v => v.quoted

def text? : Value → Option String
  | .text s => some s
  | _ => none

@[simp] theorem plain_text (s : String) : plain (.text s) = s := rfl

@[simp] theorem text?_text (s : String) : text? (.text s) = some s := rfl

theorem text?_eq_some {v : Value} {s : String} : v.text? = some s ↔ v = .text s := by
  cases v <;> simp [text?]

/-- The number that a key stands for, whole or not: equal numbers are the same key. -/
def keyNumber? : Value → Option (Int ⊕ Binary64)
  | .bool b => some (.inl (if b then 1 else 0))
  | .int n => some (.inl n)
  | .real x =>
    if x.isFinite && Binary64.ofInt x.truncate == x || x.isZero then some (.inl x.truncate)
    else some (.inr x)
  | _ => none

def sameKey (a b : Value) : Bool :=
  match a.keyNumber?, b.keyNumber? with
  | some (.inl m), some (.inl n) => m == n
  | some (.inr x), some (.inr y) => x == y
  | none, none =>
    match a, b with
    | .null, .null => true
    | .text s, .text t => s == t
    | .bytes s, .bytes t => s == t
    | .date s, .date t => s == t
    | .moment s, .moment t => s == t
    | _, _ => false
  | _, _ => false

def isKey : Value → Bool
  | .list _ | .map _ | .set _ | .again _ => false
  | .pair first second => isKey first && isKey second
  | _ => true

/-- The entries with `value` under `key`: at the old place of the key, else at the end. -/
def insertEntry (key value : Value) : List (Value × Value) → List (Value × Value)
  | [] => [(key, value)]
  | (k, v) :: rest =>
    if k.sameKey key then (k, value) :: rest else (k, v) :: insertEntry key value rest

end Value

end ReplicaBootstrap
