import ReplicaBootstrap.Fault
import ReplicaBootstrap.Number.Radix

/-! # Log positions

A log position is a number, written as its high and its low half in hexadecimal with a slash
between them. Reading takes each half as any hexadecimal number and combines the halves bit by bit.
-/

namespace ReplicaBootstrap.Lsn

open Number

inductive Error where
  | tooFewParts
  | tooManyParts
  | part (text : String) (error : RadixError)
  deriving DecidableEq, Repr

def Error.message : Error → String
  | .tooFewParts => "not enough values to unpack (expected 2, got 1)"
  | .tooManyParts => "too many values to unpack (expected 2)"
  | .part text error => error.message 16 text

def parsePart (s : String) : Except Error Int :=
  (readInt 16 s).mapError (.part s)

/-- `a ||| b` on whole numbers of either sign in two's complement. -/
def orInt (a b : Int) : Int :=
  match a, b with
  | .ofNat m, .ofNat n => .ofNat (m ||| n)
  | .ofNat m, .negSucc n => .negSucc (n - (m &&& n))
  | .negSucc m, .ofNat n => .negSucc (m - (m &&& n))
  | .negSucc m, .negSucc n => .negSucc (m &&& n)

def halfRange : Int := 0x100000000

def parse (s : String) : Except Error Int :=
  match Text.split '/' s with
  | [high, low] => do
    let h ← parsePart high
    let l ← parsePart low
    return orInt (h * halfRange) l
  | _ :: _ :: _ => .error .tooManyParts
  | _ => .error .tooFewParts

/-- The two halves of a position: the low one has 32 bits, the high one the rest with the sign. -/
def format (v : Int) : String :=
  let high := v.fdiv halfRange
  let low := v.fmod halfRange
  (if high < 0 then "-" else "") ++ hexUpper high.natAbs ++ "/" ++ hexUpper low.toNat

end ReplicaBootstrap.Lsn
