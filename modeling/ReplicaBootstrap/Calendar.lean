/-! # Dates and moments

Days of the calendar and moments of a day with an optional offset, with the checks on their fields
and their two texts.
-/

namespace ReplicaBootstrap.Calendar

structure Date where
  year : Nat
  month : Nat
  day : Nat
  deriving DecidableEq, Repr

structure Moment where
  date : Date
  hour : Nat
  minute : Nat
  second : Nat
  microsecond : Nat
  /-- seconds ahead of universal time -/
  offset : Option Int
  deriving DecidableEq, Repr

inductive FieldError where
  | year (n : Nat)
  | month
  | day
  | hour
  | minute
  | second
  | offset (seconds : Int)
  deriving DecidableEq, Repr

def isLeap (year : Nat) : Bool :=
  year % 4 = 0 && (year % 100 ≠ 0 || year % 400 = 0)

def daysInMonth (year month : Nat) : Nat :=
  if month = 2 then if isLeap year then 29 else 28
  else if month = 4 ∨ month = 6 ∨ month = 9 ∨ month = 11 then 30
  else 31

def Date.ofFields (year month day : Nat) : Except FieldError Date :=
  if year < 1 ∨ 9999 < year then .error (.year year)
  else if month < 1 ∨ 12 < month then .error .month
  else if day < 1 ∨ daysInMonth year month < day then .error .day
  else .ok ⟨year, month, day⟩

def checkOffset (seconds : Int) : Except FieldError Int :=
  if seconds ≤ -86400 ∨ 86400 ≤ seconds then .error (.offset seconds) else .ok seconds

def Moment.ofFields (year month day hour minute second microsecond : Nat) (offset : Option Int) :
    Except FieldError Moment := do
  let date ← Date.ofFields year month day
  if 23 < hour then throw .hour
  if 59 < minute then throw .minute
  if 59 < second then throw .second
  return ⟨date, hour, minute, second, microsecond, offset⟩

def padded (width n : Nat) : String :=
  let cs := Nat.toDigits 10 n
  String.ofList (List.replicate (width - cs.length) '0' ++ cs)

def Date.text (d : Date) : String :=
  s!"{padded 4 d.year}-{padded 2 d.month}-{padded 2 d.day}"

def offsetText (seconds : Int) : String :=
  let minutes := seconds.natAbs / 60
  (if seconds < 0 then "-" else "+") ++ padded 2 (minutes / 60) ++ ":" ++ padded 2 (minutes % 60)

def Moment.text (m : Moment) : String :=
  let fraction := if m.microsecond = 0 then "" else "." ++ padded 6 m.microsecond
  s!"{m.date.text} {padded 2 m.hour}:{padded 2 m.minute}:{padded 2 m.second}" ++ fraction ++
    (m.offset.map offsetText).getD ""

def Date.expression (d : Date) : String :=
  s!"datetime.date({d.year}, {d.month}, {d.day})"

/-- A span of time as whole days, which may be negative, and seconds of a day. -/
def spanExpression (seconds : Int) : String :=
  let days := seconds.fdiv 86400
  let rest := seconds.fmod 86400
  let parts :=
    (if days = 0 then [] else [s!"days={days}"]) ++ (if rest = 0 then [] else [s!"seconds={rest}"])
  let inner := if parts.isEmpty then "0" else ", ".intercalate parts
  s!"datetime.timedelta({inner})"

def offsetExpression (seconds : Int) : String :=
  if seconds = 0 then "datetime.timezone.utc" else s!"datetime.timezone({spanExpression seconds})"

def Moment.expression (m : Moment) : String :=
  let clock :=
    if m.second = 0 ∧ m.microsecond = 0 then [m.hour, m.minute]
    else if m.microsecond = 0 then [m.hour, m.minute, m.second]
    else [m.hour, m.minute, m.second, m.microsecond]
  let fields := ([m.date.year, m.date.month, m.date.day] ++ clock).map toString
  let zone := (m.offset.map fun s => ["tzinfo=" ++ offsetExpression s]).getD []
  let inner := ", ".intercalate (fields ++ zone)
  s!"datetime.datetime({inner})"

def FieldError.message : FieldError → String
  | .year n => s!"year {n} is out of range"
  | .month => "month must be in 1..12"
  | .day => "day is out of range for month"
  | .hour => "hour must be in 0..23"
  | .minute => "minute must be in 0..59"
  | .second => "second must be in 0..59"
  | .offset seconds =>
    "offset must be a timedelta strictly between -timedelta(hours=24) and timedelta(hours=24), " ++
      s!"not {spanExpression seconds}."

end ReplicaBootstrap.Calendar
