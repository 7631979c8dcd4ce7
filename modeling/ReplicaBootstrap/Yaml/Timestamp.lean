import ReplicaBootstrap.Calendar

/-! # Timestamps in documents

The written form of a date, or of a date with a time of day and perhaps a zone.
-/

namespace ReplicaBootstrap.Yaml

open Calendar

structure ClockFields where
  hour : Nat
  minute : Nat
  second : Nat
  microsecond : Nat
  /-- seconds ahead of universal time -/
  offset : Option Int
  deriving DecidableEq, Repr

structure TimestampFields where
  year : Nat
  month : Nat
  day : Nat
  /-- whether the month and the day have two digits each -/
  isFull : Bool
  clock : Option ClockFields
  deriving DecidableEq, Repr

namespace TimestampFields

def number (digits : List Char) : Nat :=
  digits.foldl (fun n c => n * 10 + (c.toNat - 48)) 0

def digits (least most : Nat) (cs : List Char) : Option (List Char × List Char) :=
  let run := (cs.take most).takeWhile Char.isDigit
  if least ≤ run.length then some (run, cs.drop run.length) else none

def sign (c : Char) : List Char → Option (List Char)
  | d :: rest => if c = d then some rest else none
  | [] => none

def isBlank (c : Char) : Bool := c = ' ' || c = '\t'

def zone (cs : List Char) : Option Int := do
  match cs with
  | ['Z'] => some 0
  | direction :: rest =>
    guard (direction = '+' || direction = '-')
    let (hours, rest) ← digits 1 2 rest
    let minutes ←
      if rest.isEmpty then some 0
      else do
        let (minutes, after) ← digits 2 2 (← sign ':' rest)
        guard after.isEmpty
        some (number minutes)
    let seconds : Int := number hours * 3600 + minutes * 60
    some (if direction = '-' then -seconds else seconds)
  | [] => none

def microseconds (fraction : List Char) : Nat :=
  number (fraction.take 6 ++ List.replicate (6 - fraction.length) '0')

def clockOf? (cs : List Char) : Option ClockFields := do
  let (hour, rest) ← digits 1 2 cs
  let (minute, rest) ← digits 2 2 (← sign ':' rest)
  let (second, rest) ← digits 2 2 (← sign ':' rest)
  let (fraction, rest) :=
    match rest with
    | '.' :: more => (more.takeWhile Char.isDigit, more.dropWhile Char.isDigit)
    | _ => ([], rest)
  let offset ←
    if rest.isEmpty then some none else (zone (rest.dropWhile isBlank)).map some
  some ⟨number hour, number minute, number second, microseconds fraction, offset⟩

def separator (cs : List Char) : Option (List Char) :=
  match cs with
  | c :: rest =>
    if c = 'T' || c = 't' then some rest
    else if isBlank c then some (rest.dropWhile isBlank)
    else none
  | [] => none

def read? (cs : List Char) : Option TimestampFields := do
  let (year, rest) ← digits 4 4 cs
  let (month, rest) ← digits 1 2 (← sign '-' rest)
  let (day, rest) ← digits 1 2 (← sign '-' rest)
  let clock ← if rest.isEmpty then some none else (clockOf? (← separator rest)).map some
  some ⟨number year, number month, number day, month.length = 2 && day.length = 2, clock⟩

/-- A date alone has to be written in full to show itself as one. -/
def showsItself (t : TimestampFields) : Bool := t.isFull || t.clock.isSome

end TimestampFields

end ReplicaBootstrap.Yaml
