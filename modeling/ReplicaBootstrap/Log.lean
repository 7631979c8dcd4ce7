import ReplicaBootstrap.Event

/-! # The log

Records at or above a threshold are written as lines. A line follows a template, in which a percent
sign starts a field of the record.
-/

namespace ReplicaBootstrap

inductive LogField where
  | time
  | level
  | logger
  | message
  deriving DecidableEq, Repr

namespace LogField

def names : List (String × LogField) :=
  [("asctime", time), ("levelname", level), ("name", logger), ("message", message)]

/-- The text of a field; the time is not told apart. -/
def text (r : LogRecord) : LogField → String
  | time => "TIME"
  | level => r.level.label
  | logger => r.logger
  | message => r.text

end LogField

structure LogFit where
  width : Nat := 0
  limit : Option Nat := none
  leftAligned : Bool := false
  deriving DecidableEq, Repr

inductive LogPiece where
  | text (s : String)
  | field (f : LogField) (fit : LogFit)
  deriving DecidableEq, Repr

def LogFit.apply (fit : LogFit) (s : String) : String :=
  let cs := match fit.limit with
    | none => s.toList
    | some n => s.toList.take n
  let padding := List.replicate (fit.width - cs.length) ' '
  String.ofList (if fit.leftAligned then cs ++ padding else padding ++ cs)

def LogPiece.render (r : LogRecord) : LogPiece → String
  | .text s => s
  | .field f fit => fit.apply (f.text r)

namespace LogTemplate

def isFlag (c : Char) : Bool := c = '-' || c = '+' || c = ' ' || c = '#' || c = '0'

def digitsValue (cs : List Char) : Nat := cs.foldl (fun n c => n * 10 + (c.toNat - 48)) 0

def limit (cs : List Char) : Option Nat × List Char :=
  match cs with
  | '.' :: rest => (some (digitsValue (rest.takeWhile Char.isDigit)), rest.dropWhile Char.isDigit)
  | _ => (none, cs)

def field (cs : List Char) : Option (LogPiece × List Char) := do
  let f ← LogField.names.lookup (String.ofList (cs.takeWhile (· ≠ ')')))
  let rest := (cs.dropWhile (· ≠ ')')).drop 1
  let flags := rest.takeWhile isFlag
  let sized := rest.dropWhile isFlag
  let width := digitsValue (sized.takeWhile Char.isDigit)
  let (limit, rest) := limit (sized.dropWhile Char.isDigit)
  match rest with
  | 's' :: after => some (.field f { width, limit, leftAligned := flags.contains '-' }, after)
  | _ => none

def piece (cs : List Char) : Option (LogPiece × List Char) :=
  match cs with
  | '%' :: after => some (.text "%", after)
  | '(' :: rest => field rest
  | _ => none

/-- The pieces of a template, read in at most so many steps; none if one of them is malformed. -/
def piecesIn : (steps : Nat) → List Char → Option (List LogPiece)
  | 0, _ => some []
  | steps + 1, cs =>
    match cs with
    | [] => some []
    | '%' :: rest => do
      let (p, after) ← piece rest
      return p :: (← piecesIn steps after)
    | c :: rest => do
      return .text (String.singleton c) :: (← piecesIn steps rest)

def pieces (template : String) : Option (List LogPiece) :=
  piecesIn template.length template.toList

end LogTemplate

/-- How the log is written. Without pieces no line can be written. -/
structure LogSetup where
  threshold : Level
  pieces : Option (List LogPiece)
  deriving Repr

namespace LogSetup

def tagged (tag : String) : String :=
  "[" ++ tag ++ " %(asctime)s %(levelname)8s] %(message)s"

def standardTemplate : String := "%(levelname)s:%(name)s:%(message)s"

def standard : LogSetup := ⟨.warning, LogTemplate.pieces standardTemplate⟩

/-- Sets up the log for the level that `word` chooses. A word that chooses none is complained about,
and with that the standard log stays. -/
def choose (tag : String) (word : Option String) : LogSetup × List LogRecord :=
  match word.bind Level.ofSetting? with
  | some level => (⟨level, LogTemplate.pieces (tagged tag)⟩, [])
  | none =>
    let chosen := word.getD "None"
    let text := s!"Unknown log level {chosen}, setting info"
    (standard, [{ level := .warning, text, logger := rootLogger }])

def causeLine (f : Fault) : String :=
  match f.kind with
  | .init k => s!"<{k.label}: {f.text}>"
  | _ => s!"<{f.text}>"

def line? (setup : LogSetup) (r : LogRecord) : Option String := do
  guard (setup.threshold.severity ≤ r.level.severity)
  let pieces ← setup.pieces
  let body := String.join (pieces.map (·.render r))
  let cause := (r.cause.map fun f => "\n" ++ causeLine f).getD ""
  return body ++ cause ++ "\n"

def write (setup : LogSetup) (records : List LogRecord) : String :=
  String.join (records.filterMap setup.line?)

end LogSetup

def Event.record? : Event → Option LogRecord
  | .log r => some r
  | _ => none

def Event.printed? : Event → Option String
  | .printed line => some line
  | _ => none

end ReplicaBootstrap
