import ReplicaBootstrap.Text.Digit

/-! # The command line

One mode, and options before or after it. An option may be cut short as long as one option alone
starts like that, and has its value behind an equals sign or as the next argument.
-/

namespace ReplicaBootstrap

inductive Mode where
  | initReplica
  | nodeStatus
  deriving DecidableEq, Repr

structure Command where
  mode : Mode
  config : String := "config.yaml"
  logLevel : Option String := none
  deriving DecidableEq, Repr

inductive UsageExit where
  | help
  | misuse
  deriving DecidableEq, Repr

def UsageExit.code : UsageExit → Nat
  | help => 0
  | misuse => 2

namespace CommandLine

def modes : List (String × Mode) :=
  [("init_replica", .initReplica), ("node_status", .nodeStatus)]

inductive OptionName where
  | help
  | config
  | logLevel
  deriving DecidableEq, Repr

def spellings : List (String × OptionName) :=
  [("-h", .help), ("--help", .help), ("--config", .config), ("--log_level", .logLevel)]

inductive Attached where
  | nothing
  | value (text : String)
  /-- further letters behind a hyphen and a letter -/
  | letters (rest : List Char)
  deriving DecidableEq, Repr

structure Use where
  option : OptionName
  attached : Attached := .nothing
  deriving DecidableEq, Repr

inductive Argument where
  | plain (text : String)
  | known (use : Use)
  | unknown
  /-- two hyphens: all arguments after them are plain -/
  | separator
  deriving DecidableEq, Repr

def splitEquals (s : String) : Option (String × String) :=
  let cs := s.toList
  match cs.dropWhile (· ≠ '=') with
  | [] => none
  | _ :: rest => some (String.ofList (cs.takeWhile (· ≠ '=')), String.ofList rest)

/-- A hyphen and digits, perhaps with a point among them. -/
def looksNegative (s : String) : Bool :=
  match s.toList with
  | '-' :: body =>
    let whole := body.takeWhile Text.isDigit
    match body.dropWhile Text.isDigit with
    | [] => !whole.isEmpty
    | '.' :: fraction => !fraction.isEmpty && fraction.all Text.isDigit
    | _ => false
  | _ => false

/-- The options that an argument may be short for. A single hyphen and a letter may also have
something attached. -/
def candidates (s : String) : List Use :=
  match s.toList with
  | '-' :: '-' :: _ =>
    let (start, attached) :=
      match splitEquals s with
      | some (start, value) => (start, Attached.value value)
      | none => (s, .nothing)
    spellings.filterMap fun (spelling, option) =>
      if start.toList.isPrefixOf spelling.toList then some { option, attached } else none
  | '-' :: c :: rest =>
    let short := String.ofList ['-', c]
    spellings.filterMap fun (spelling, option) =>
      if spelling = short then some { option, attached := .letters rest }
      else if s.toList.isPrefixOf spelling.toList then some { option }
      else none
  | _ => []

def spelledOut? (s : String) : Option Use :=
  match spellings.lookup s with
  | some option => some { option }
  | none => do
    let (spelling, value) ← splitEquals s
    let option ← spellings.lookup spelling
    return { option, attached := .value value }

/-- The kind of an argument before any separator; an ambiguous one is a misuse. -/
def classify (s : String) : Except UsageExit Argument :=
  if s.toList.head? ≠ some '-' || s = "-" then .ok (.plain s)
  else
    match spelledOut? s, candidates s with
    | some use, _ => .ok (.known use)
    | none, [use] => .ok (.known use)
    | none, _ :: _ :: _ => .error .misuse
    | none, [] =>
      if looksNegative s || s.toList.contains ' ' then .ok (.plain s) else .ok .unknown

def classifyAll : List String → Except UsageExit (List Argument)
  | [] => .ok []
  | s :: rest =>
    if s = "--" then .ok (.separator :: rest.map .plain)
    else do
      let a ← classify s
      return a :: (← classifyAll rest)

structure Draft where
  mode : Option Mode := none
  config : Option String := none
  logLevel : Option String := none
  hasLeftovers : Bool := false

def Draft.withOption (d : Draft) (option : OptionName) (value : String) : Draft :=
  match option with
  | .help => d
  | .config => { d with config := some value }
  | .logLevel => { d with logLevel := some value }

def Draft.withMode (d : Draft) (s : String) : Except UsageExit Draft :=
  match modes.lookup s with
  | some mode => .ok { d with mode := some mode }
  | none => .error .misuse

/-- Letters behind the short form of help: each may be the same again, and the first other one is left
over, but a sign is a misuse. -/
def helpLetters : List Char → UsageExit
  | [] => .help
  | c :: rest =>
    if c = 'h' then helpLetters rest else if c = '-' || c = '=' then .misuse else .help

def helpExit : Attached → UsageExit
  | .nothing => .help
  | .value _ => .misuse
  | .letters rest => helpLetters rest

def Draft.finish (d : Draft) : Except UsageExit Command :=
  match d.mode, d.hasLeftovers with
  | some mode, false =>
    .ok { mode, config := d.config.getD "config.yaml", logLevel := d.logLevel }
  | _, _ => .error .misuse

/-- Reads arguments in their order. A separator next to the mode goes with it. -/
def read (d : Draft) : List Argument → Except UsageExit Command
  | [] => d.finish
  | .plain s :: rest =>
    if d.mode.isSome then read { d with hasLeftovers := true } rest
    else
      match d.withMode s with
      | .error e => .error e
      | .ok d =>
        match rest with
        | .separator :: after => read d after
        | more => read d more
  | .separator :: rest =>
    match rest with
    | .plain s :: after =>
      if d.mode.isSome then read { d with hasLeftovers := true } after
      else
        match d.withMode s with
        | .error e => .error e
        | .ok d => read d after
    | more => read { d with hasLeftovers := true } more
  | .unknown :: rest => read { d with hasLeftovers := true } rest
  | .known use :: rest =>
    if use.option = .help then .error (helpExit use.attached)
    else
      match use.attached with
      | .value text => read (d.withOption use.option text) rest
      | .letters _ => .error .misuse
      | .nothing =>
        match rest with
        | .plain text :: after => read (d.withOption use.option text) after
        | _ => .error .misuse

def parse (arguments : List String) : Except UsageExit Command := do
  read {} (← classifyAll arguments)

end CommandLine

end ReplicaBootstrap
