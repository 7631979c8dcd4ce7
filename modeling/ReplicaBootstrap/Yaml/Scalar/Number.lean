import ReplicaBootstrap.Fault
import ReplicaBootstrap.Number.Binary64
import ReplicaBootstrap.Number.Radix
import ReplicaBootstrap.Text.LowerCase

/-! # Numbers in documents

Whole and real numbers as documents write them: with underscores anywhere, in several bases, and with
colons between parts that count in sixties.
-/

namespace ReplicaBootstrap.Yaml

open Number

def isSign (c : Char) : Bool := c = '+' || c = '-'

/-- A text without its sign, and whether that is a minus. A sign is looked for in the first
character, which has to be there. -/
def splitSign (cs : List Char) : Except Fault (Bool × List Char) :=
  match cs with
  | [] => .error (.host .missingItem "string index out of range")
  | c :: rest => .ok (c == '-', if isSign c then rest else c :: rest)

def readWhole (base : Nat) (cs : List Char) : Except Fault Int :=
  let s := String.ofList cs
  (readInt base s).mapError fun e => .host .badValue (e.message base s)

def ofSixtieths (parts : List Int) : Int := parts.foldl (fun n d => n * 60 + d) 0

/-- A whole number without its sign: its first characters tell the base. -/
def magnitude (cs : List Char) : Except Fault Int :=
  match cs with
  | [] => .error (.host .missingItem "string index out of range")
  | ['0'] => .ok 0
  | '0' :: 'b' :: digits => readWhole 2 digits
  | '0' :: 'x' :: digits => readWhole 16 digits
  | '0' :: digits => readWhole 8 ('0' :: digits)
  | body =>
    if body.contains ':' then ofSixtieths <$> (Text.splitChars ':' body).mapM (readWhole 10)
    else readWhole 10 body

def wholeNumber (s : String) : Except Fault Int := do
  let (negative, body) ← splitSign (s.toList.filter (· ≠ '_'))
  let n ← magnitude body
  return if negative then -n else n

def exponent? (cs : List Char) : Option Int :=
  match cs with
  | [] => some 0
  | e :: rest =>
    if e = 'e' || e = 'E' then
      let (negative, digits) :=
        match rest with
        | c :: more => (c == '-', if isSign c then more else c :: more)
        | [] => (false, [])
      if digits.isEmpty || !digits.all Char.isDigit then none
      else
        let n : Int := ofDigits 10 (digits.map fun c => c.toNat - 48)
        some (if negative then -n else n)
    else none

def decimal? (negative : Bool) (cs : List Char) : Option Binary64 := do
  let whole := cs.takeWhile Char.isDigit
  let (fraction, rest) :=
    match cs.dropWhile Char.isDigit with
    | '.' :: more => (more.takeWhile Char.isDigit, more.dropWhile Char.isDigit)
    | more => ([], more)
  guard !(whole ++ fraction).isEmpty
  let e ← exponent? rest
  let digits := ofDigits 10 ((whole ++ fraction).map fun c => c.toNat - 48)
  return .ofDecimal negative digits (e - fraction.length)

def readReal? (cs : List Char) : Option Binary64 :=
  let body := (Text.trimChars Text.isNumberBlank cs).map plainDigit
  let (negative, rest) :=
    match body with
    | c :: more => (c == '-', if isSign c then more else c :: more)
    | [] => (false, [])
  match Text.lowerCase (String.ofList rest) with
  | "inf" | "infinity" => some (.infinity negative)
  | "nan" => some .nan
  | _ => decimal? negative rest

def readReal (cs : List Char) : Except Fault Binary64 :=
  match readReal? cs with
  | some x => .ok x
  | none =>
    .error (.host .badValue
      s!"could not convert string to float: {Text.quoted (String.ofList cs)}")

def realOfSixtieths (unit : Int) (sum : Float) : List Binary64 → Except Fault Float
  | [] => .ok sum
  | x :: rest =>
    let scale := Binary64.ofInt unit
    if scale.isFinite then realOfSixtieths (unit * 60) (sum + x.toFloat * scale.toFloat) rest
    else .error (.host .overflow "int too large to convert to float")

def negated (x : Binary64) : Binary64 := .ofFloat (-x.toFloat)

def realMagnitude (cs : List Char) : Except Fault Binary64 :=
  if cs = ".inf".toList then .ok (.infinity false)
  else if cs = ".nan".toList then .ok .nan
  else if cs.contains ':' then do
    let parts ← (Text.splitChars ':' cs).mapM readReal
    return .ofFloat (← realOfSixtieths 1 0 parts.reverse)
  else readReal cs

def realNumber (s : String) : Except Fault Binary64 := do
  let lowered := (Text.lowerCase (String.ofList (s.toList.filter (· ≠ '_')))).toList
  let (negative, body) ← splitSign lowered
  let x ← realMagnitude body
  return if negative then negated x else x

end ReplicaBootstrap.Yaml
