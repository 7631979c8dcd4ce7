import ReplicaBootstrap.Text.Blank
import ReplicaBootstrap.Text.Digit
import ReplicaBootstrap.Text.Quoted

/-! # Whole numbers in a base

Reading accepts blanks around the number, one sign, the prefix of the base, digits of any script and
single underscores between digits. Decimal texts are limited in length, both ways.
-/

namespace ReplicaBootstrap.Number

open Text

def maxDecimalDigits : Nat := 4300

inductive RadixError where
  | malformed
  | tooLong (digits : Nat)
  deriving DecidableEq, Repr

def digitBelow? (base : Nat) (c : Char) : Option Nat :=
  let value :=
    if 'a' ≤ c && c ≤ 'z' then some (c.toNat - 87)
    else if 'A' ≤ c && c ≤ 'Z' then some (c.toNat - 55)
    else digitValue? c
  value.filter (· < base)

/-- The digits at the front, with single underscores between them, and what follows. -/
def digitRun (base : Nat) : List Char → List Nat × List Char
  | [] => ([], [])
  | '_' :: c :: rest =>
    match digitBelow? base c with
    | some d => let (ds, after) := digitRun base rest; (d :: ds, after)
    | none => ([], '_' :: c :: rest)
  | c :: rest =>
    match digitBelow? base c with
    | some d => let (ds, after) := digitRun base rest; (d :: ds, after)
    | none => ([], c :: rest)

def ofDigits (base : Nat) (ds : List Nat) : Nat :=
  ds.foldl (fun n d => n * base + d) 0

def prefixLetters (base : Nat) : List Char :=
  if base = 16 then ['x', 'X'] else if base = 8 then ['o', 'O'] else if base = 2 then ['b', 'B'] else []

/-- Drops the announcement of the base, with one underscore after it. -/
def dropPrefix (base : Nat) : List Char → List Char
  | '0' :: letter :: rest =>
    if (prefixLetters base).contains letter then
      match rest with
      | '_' :: more => more
      | more => more
    else '0' :: letter :: rest
  | cs => cs

/-- The digits after the sign; the run may not begin or end with an underscore. -/
def readMagnitude (base : Nat) (cs : List Char) : Except RadixError Nat :=
  match dropPrefix base cs with
  | '_' :: _ => .error .malformed
  | body =>
    let (digits, after) := digitRun base body
    if digits.isEmpty || after.head? == some '_' then .error .malformed
    else if base = 10 ∧ maxDecimalDigits < digits.length then .error (.tooLong digits.length)
    else if after.all isNumberBlank then .ok (ofDigits base digits)
    else .error .malformed

/-- Digits of other scripts count as the ASCII ones, also in the announcement of the base. -/
def plainDigit (c : Char) : Char :=
  match digitValue? c with
  | some d => Char.ofNat (48 + d)
  | none => c

def readInt (base : Nat) (s : String) : Except RadixError Int :=
  match (s.toList.dropWhile isNumberBlank).map plainDigit with
  | '-' :: rest => (readMagnitude base rest).map fun n => -(n : Int)
  | '+' :: rest => (readMagnitude base rest).map fun n => (n : Int)
  | cs => (readMagnitude base cs).map fun n => (n : Int)

/-- The wording of a failed reading; a long text is cut. -/
def RadixError.message (base : Nat) (s : String) : RadixError → String
  | .malformed =>
    s!"invalid literal for int() with base {base}: " ++ String.ofList ((quoted s).toList.take 200)
  | .tooLong digits =>
    s!"Exceeds the limit ({maxDecimalDigits} digits) for integer string conversion: value has " ++
      s!"{digits} digits; use sys.set_int_max_str_digits() to increase the limit"

def writeLimitMessage : String :=
  s!"Exceeds the limit ({maxDecimalDigits} digits) for integer string conversion; use " ++
    "sys.set_int_max_str_digits() to increase the limit"

def writeDecimal? (n : Int) : Option String :=
  if n.natAbs < Nat.pow 10 maxDecimalDigits then some (toString n) else none

def hexUpper (n : Nat) : String :=
  String.ofList ((Nat.toDigits 16 n).map Char.toUpper)

end ReplicaBootstrap.Number
