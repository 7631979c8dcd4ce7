import ReplicaBootstrap.CommandLine
import ReplicaBootstrap.Initialiser.AtSite
import ReplicaBootstrap.Log
import ReplicaBootstrap.Text.Lines
import ReplicaBootstrap.Text.Quoted
import ReplicaBootstrap.Yaml

/-! # The program

Reads the settings, sets up the log, and initialises the target or prints the status of both nodes.
-/

namespace ReplicaBootstrap.Program

open Session

def noSuchFile (name : String) : Fault :=
  .host .missingFile s!"[Errno 2] No such file or directory: {Text.quoted name}"

def readFile (name : String) : Action Site String := do
  emit (.openedFile name)
  match (← get).host.files.lookup name with
  | some text => return String.ofList (Text.unifyLineEnds text.toList)
  | none => throw (noSuchFile name)

/-- Loads settings. Before the file is read, there must be a place for temporary files. -/
def loadSettings (file : String) : Action Site Settings := do
  let host := (← get).host
  let temporary ← Action.ofExcept host.temporaryDirectory
  let document ← Action.ofExcept (Yaml.load (← readFile file))
  let (r, s) := (Settings.load temporary host.directories host.environment file document).outcome
    (.fresh temporary)
  Action.ofExcept r
  return s

/-- Takes the settings of a command, whose level for the log comes first if it is given. -/
def settingsOf (c : Command) : Action Site Settings := do
  let s ← loadSettings c.config
  match c.logLevel with
  | none => return s
  | some level =>
    if level.isEmpty then return s
    let (r, s) := (Settings.overrideLogLevel level).outcome s
    Action.ofExcept r
    return s

def logTag (mode : Mode) (s : Settings) : String :=
  match mode with
  | .initReplica => s!"initrepl {s.targetNode.plain}"
  | .nodeStatus => "nodestatus"

/-- The names of the replication sets in settings that have been checked. -/
def setNames (s : Settings) : List String :=
  match s.replicationSets with
  | .list items => items.map Value.plain
  | _ => []

def loadPair (s : Settings) (conn : Nat) : Action Site NodePair := do
  let extension := s.extensionName.plain
  let origin ← Catalog.node conn extension s.originNode
  let target ← Catalog.node conn extension s.targetNode
  return { origin, target, replicationSets := setNames s }

def withLocal {α : Type} (s : Settings) (body : Nat → Action Site α) : Action Site α := do
  let conn ← connect .queries s.localDsn s.initApplicationName
  (body conn).ensuring (closeQuietly conn)

/-- Initialises the target. From here on signals ask to stop. -/
def initReplica (s : Settings) : Action Site Unit := do
  modify fun w => { w with interrupts := .watching }
  withLocal s fun conn => do
    let pair ← loadPair s conn
    Initialiser.runAtSite { pair, settings := s } conn

def statusLine (n : Node) : String :=
  s!"{n.name.plain}|{n.id.plain}|{n.role.name}|{n.status.name}"

def printStatus (s : Settings) : Action Site Unit :=
  withLocal s fun conn => do
    for name in [s.originNode, s.targetNode] do
      let n ← Catalog.node conn s.extensionName.plain name
      emit (.printed (statusLine n))

def verdict (f : Fault) : LogRecord × Nat :=
  match f.kind with
  | .init .unrecoverable =>
    ({ level := .error, text := "node initialization can not be resumed", cause := some f,
       logger := rootLogger }, 2)
  | .init .cancelled =>
    ({ level := .warning, text := "node initialization cancelled, re-run to resume",
       logger := rootLogger }, 130)
  | _ =>
    ({ level := .error, text := "node initialization failed, re-run to resume", cause := some f,
       logger := rootLogger }, 1)

/-- Does the work of a mode. Faults of the initialisation become exit codes. -/
def work (mode : Mode) (s : Settings) : Action Site Nat := do
  let body := match mode with
    | .initReplica => initReplica s
    | .nodeStatus => printStatus s
  match ← Action.attempt body with
  | .ok _ => return 0
  | .error f =>
    if f.isInit then
      let (record, code) := verdict f
      emit (.log record)
      return code
    else throw f

structure Report where
  outcome : Except Fault Nat
  stdout : String
  stderr : String
  site : Site

def run (c : Command) (w : Site) : Report :=
  match (settingsOf c).outcome w with
  | (.error f, w) => ⟨.error f, "", "", w⟩
  | (.ok s, w) =>
    let (setup, complaints) := LogSetup.choose (logTag c.mode s) s.logLevel.text?
    let (outcome, w) := (work c.mode s).outcome w
    let events := w.events.toList
    { outcome
      stdout := String.join ((events.filterMap Event.printed?).map (· ++ "\n"))
      stderr := setup.write (complaints ++ events.filterMap Event.record?)
      site := w }

end ReplicaBootstrap.Program
