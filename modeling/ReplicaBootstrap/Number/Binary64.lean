/-! # Binary floating point

The 64-bit format: exact decoding, nearest reading of a quotient, the shortest decimal text that
reads back, and text with fixed places.
-/

namespace ReplicaBootstrap

structure Binary64 where
  bits : UInt64
  deriving DecidableEq, Repr

namespace Binary64

def ofFloat (x : Float) : Binary64 := ⟨x.toBits⟩

def toFloat (x : Binary64) : Float := Float.ofBits x.bits

def isNegative (x : Binary64) : Bool := Nat.pow 2 63 ≤ x.bits.toNat

def exponentField (x : Binary64) : Nat := x.bits.toNat / Nat.pow 2 52 % 2048

def fractionField (x : Binary64) : Nat := x.bits.toNat % Nat.pow 2 52

def isFinite (x : Binary64) : Bool := x.exponentField ≠ 2047

def isNaN (x : Binary64) : Bool := x.exponentField = 2047 && x.fractionField ≠ 0

/-- The magnitude of a finite double is `mantissa x * 2 ^ scale x`. -/
def mantissa (x : Binary64) : Nat :=
  if x.exponentField = 0 then x.fractionField else Nat.pow 2 52 + x.fractionField

def scale (x : Binary64) : Int :=
  if x.exponentField = 0 then -1074 else (x.exponentField : Int) - 1075

def isZero (x : Binary64) : Bool := x.bits.toNat % Nat.pow 2 63 = 0

def ofMagnitude (negative : Bool) (magnitude : Nat) : Binary64 :=
  ⟨UInt64.ofNat ((if negative then Nat.pow 2 63 else 0) + magnitude)⟩

def infinity (negative : Bool) : Binary64 := ofMagnitude negative (2047 * Nat.pow 2 52)

def nan : Binary64 := ofMagnitude false (2047 * Nat.pow 2 52 + Nat.pow 2 51)

def roundHalfEven (num den : Nat) : Nat :=
  let q := num / den
  let twice := 2 * (num % den)
  if twice < den then q else if den < twice then q + 1 else if q % 2 = 0 then q else q + 1

/-- The double nearest to `num / den`, ties to the even mantissa, beyond the range infinite. -/
def ofRatio (negative : Bool) (num den : Nat) : Binary64 :=
  if num = 0 then ofMagnitude negative 0
  else
    -- `num / den` lies in `(2 ^ (top - 1), 2 ^ (top + 1))`
    let top : Int := (num.log2 : Int) - den.log2
    let guess : Int := max (top - 53) (-1074)
    let scaled (q : Int) : Nat :=
      if 0 ≤ q then roundHalfEven num (den * Nat.pow 2 q.toNat)
      else roundHalfEven (num * Nat.pow 2 (-q).toNat) den
    let (m, q) :=
      if Nat.pow 2 53 < scaled guess then (scaled (guess + 1), guess + 1) else (scaled guess, guess)
    let (m, q) := if m = Nat.pow 2 53 then (Nat.pow 2 52, q + 1) else (m, q)
    if 971 < q then infinity negative
    else if m < Nat.pow 2 52 then ofMagnitude negative m
    else ofMagnitude negative ((q + 1075).toNat * Nat.pow 2 52 + (m - Nat.pow 2 52))

def ofDecimal (negative : Bool) (digits : Nat) (exponent : Int) : Binary64 :=
  if digits = 0 then ofMagnitude negative 0
  else if 310 < exponent then infinity negative
  else if exponent + ((Nat.toDigits 10 digits).length : Int) < -330 then ofMagnitude negative 0
  else if 0 ≤ exponent then ofRatio negative (digits * Nat.pow 10 exponent.toNat) 1
  else ofRatio negative digits (Nat.pow 10 (-exponent).toNat)

def ofInt (n : Int) : Binary64 := ofRatio (n < 0) n.natAbs 1

def toRatio (x : Binary64) : Nat × Nat :=
  if 0 ≤ x.scale then (x.mantissa * Nat.pow 2 x.scale.toNat, 1)
  else (x.mantissa, Nat.pow 2 (-x.scale).toNat)

def truncate (x : Binary64) : Int :=
  let (num, den) := x.toRatio
  let n : Int := num / den
  if x.isNegative then -n else n

/-- The greatest `e` with `10 ^ e ≤ num / den`, for a positive quotient. -/
def decimalExponent (num den : Nat) : Int :=
  if den ≤ num then ((Nat.toDigits 10 (num / den)).length : Int) - 1
  else
    -- `(den - 1) / num` has as many digits as there are steps up to one
    -(((Nat.toDigits 10 ((den - 1) / num)).length : Int))

/-- The digits and the decimal exponent of the last one: the fewest digits that read back, the
nearest such text to the value. The quotient is the value; numbers from `low` to `high`, over the
same denominator, read back, the ends included when `closed`. -/
def shortestFrom (num low high den : Nat) (closed : Bool) (top : Int) : (budget digits : Nat) → Nat × Int
  | 0, _ => (0, 0)
  | budget + 1, digits =>
    let place : Int := top - digits
    let up := Nat.pow 10 (-place).toNat
    let down := Nat.pow 10 place.toNat
    -- the value is `n / d` in units of the last place
    let n := num * up
    let d := den * down
    let fits (c : Nat) : Bool :=
      if closed then low * up ≤ c * d && c * d ≤ high * up else low * up < c * d && c * d < high * up
    let c := n / d
    let near := roundHalfEven n d
    if fits near then (near, place)
    else if fits c then (c, place)
    else if fits (c + 1) then (c + 1, place)
    else shortestFrom num low high den closed top budget (digits + 1)

def dropTrailingZeros (cs : List Char) : List Char :=
  (cs.reverse.dropWhile (· == '0')).reverse

def shortestDigits (x : Binary64) : List Char × Int :=
  let (num, den) := x.toRatio
  let below := if x.fractionField = 0 && 1 < x.exponentField then 1 else 2
  let (high, low, den4) :=
    if 0 ≤ x.scale then
      let unit := Nat.pow 2 x.scale.toNat
      ((4 * x.mantissa + 2) * unit, (4 * x.mantissa - below) * unit, 4)
    else (4 * x.mantissa + 2, 4 * x.mantissa - below, 4 * den)
  let (digits, place) :=
    shortestFrom (4 * num) low high den4 (x.mantissa % 2 = 0) (decimalExponent num den) 18 0
  let cs := Nat.toDigits 10 digits
  (dropTrailingZeros cs, place + cs.length - 1)

structure Layout where
  /-- exponents of the first digit that are written positionally -/
  least : Int
  most : Int
  infinity : String
  notANumber : String

/-- Positional from `10 ^ -4` up to below `10 ^ 16`, a whole value with `.0`, else an exponent with
a sign and at least two digits. -/
def plainLayout : Layout := ⟨-4, 15, "inf", "nan"⟩

def exponentText (e : Int) : List Char :=
  let cs := Nat.toDigits 10 e.natAbs
  (if e < 0 then '-' else '+') :: (if cs.length < 2 then '0' :: cs else cs)

def layOut (layout : Layout) (ds : List Char) (e : Int) : List Char :=
  if layout.least ≤ e && e ≤ layout.most then
    if e < 0 then '0' :: '.' :: List.replicate (-e - 1).toNat '0' ++ ds
    else
      let whole := ds.take (e.toNat + 1)
      let fraction := ds.drop (e.toNat + 1)
      whole ++ List.replicate (e.toNat + 1 - whole.length) '0' ++
        '.' :: (if fraction.isEmpty then ['0'] else fraction)
  else
    match ds with
    | [] => []
    | [d] => d :: 'e' :: exponentText e
    | d :: more => d :: '.' :: more ++ 'e' :: exponentText e

def text (x : Binary64) : String :=
  let sign := if x.isNegative && !x.isNaN then "-" else ""
  if x.isNaN then plainLayout.notANumber
  else if !x.isFinite then sign ++ plainLayout.infinity
  else if x.isZero then sign ++ "0.0"
  else
    let (ds, e) := x.shortestDigits
    sign ++ String.ofList (layOut plainLayout ds e)

/-- The text with `places` digits after the point, nearest, ties to the even digit. -/
def fixed (places : Nat) (x : Binary64) : String :=
  let sign := if x.isNegative && !x.isNaN then "-" else ""
  if x.isNaN then plainLayout.notANumber
  else if !x.isFinite then sign ++ plainLayout.infinity
  else
    let (num, den) := x.toRatio
    let cs := Nat.toDigits 10 (roundHalfEven (num * Nat.pow 10 places) den)
    let padded := List.replicate (places + 1 - cs.length) '0' ++ cs
    let whole := padded.take (padded.length - places)
    let fraction := padded.drop (padded.length - places)
    sign ++ String.ofList (whole ++ (if places = 0 then [] else '.' :: fraction))

end Binary64

end ReplicaBootstrap
