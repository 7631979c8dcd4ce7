import ReplicaBootstrap.Action
import ReplicaBootstrap.Event
import ReplicaBootstrap.Path
import ReplicaBootstrap.Text.Blank
import ReplicaBootstrap.Value

/-! # Settings

The settings of a run: which nodes take part, which replication sets are copied, where the schema
tools are and how much is logged. They are taken from a document whose values may be of any kind, and
are checked before they are used.
-/

namespace ReplicaBootstrap

structure ToolSettings where
  directory : Value
  archive : Value
  deriving Repr, Inhabited

namespace ToolSettings

def defaultArchive (temporary : String) : String := Path.join temporary "pglogical.dump"

/-- An archive that is not given is the default one, among the temporary files. These are under `/tmp`
if nothing else is said of the host. -/
def of (directory archive : Value) (temporary : String := "/tmp") : ToolSettings :=
  ⟨directory, if archive.isGiven then archive else .text (defaultArchive temporary)⟩

end ToolSettings

structure Settings where
  localDsn : Value := ""
  originNode : Value := ""
  targetNode : Value := ""
  replicationSets : Value := .list ["default"]
  extensionName : Value := "pglogical"
  outputPlugin : Value := "pglogical_output"
  applicationName : Value := "pglogical"
  tools : ToolSettings := .of "" ""
  settingsFile : Value := ""
  logLevel : Value := "info"
  /-- whether debugging output is prepared -/
  debugs : Bool := false
  deriving Repr, Inhabited

namespace Settings

/-- Settings that have not been loaded. -/
def fresh (temporary : String) : Settings := { tools := .of "" "" temporary }

def localDsnVariable : String := "PGLOGICAL_INIT_LOCAL_DSN"

def initApplicationName (s : Settings) : String := s.applicationName.plain ++ "_init"

def snapshotApplicationName (s : Settings) : String := s.applicationName.plain ++ "_snapshot"

def invalid (message : String) : Fault := .host .badValue message

def requireText (name : String) (v : Value) : Except Fault Unit :=
  match v with
  | .text s => if s.isEmpty then .error (invalid s!"{name} is required") else .ok ()
  | v => .error (invalid s!"{name} should be string and not {v.typeName}")

def requireSets (v : Value) : Except Fault Unit :=
  match v with
  | .list [] => .error (invalid "at least one replication set should be selected")
  | .list items =>
    match items.find? fun v => v.text?.isNone with
    | some v =>
      .error (invalid s!"replication set name should be string and not {v.typeName}")
    | none => .ok ()
  | v => .error (invalid s!"replication_sets should be list and not {v.typeName}")

def requireName (name : String) (v : Value) : Except Fault Unit :=
  match v with
  | .text s =>
    if s.isEmpty then .error (invalid s!"{name} should be non-empty string") else .ok ()
  | _ => .error (invalid s!"{name} should be non-empty string")

def anyText (name : String) (v : Value) : Except Fault String :=
  match v with
  | .text s => .ok s
  | v => .error (invalid s!"{name} should be string and not {v.typeName}")

def requireTools (directories : List String) (t : ToolSettings) : Except Fault Unit := do
  let directory ← anyText "pg_bin_dir" t.directory
  let _ ← anyText "archive_path" t.archive
  if !directory.isEmpty && !directories.contains directory then
    throw (invalid s!"pg_bin_dir {directory} is not a directory")

def level? (s : Settings) : Option Level := s.logLevel.text?.bind Level.ofSetting?

/-- Checks the level of the log and switches debugging on for the most talkative one. -/
def validateLogLevel (s : Settings) : Except Fault Settings :=
  match s.level? with
  | none => .error (invalid s!"wrong log level {s.logLevel.plain}")
  | some .debug => .ok { s with debugs := true }
  | some _ => .ok s

def requireDifferent (origin target : Value) : Except Fault Unit :=
  if origin.plain = target.plain then
    .error (invalid "origin_node and target_node should be different nodes")
  else .ok ()

/-- Checks every setting, in this order. -/
def validate (directories : List String) (s : Settings) : Except Fault Settings := do
  requireText "local_dsn" s.localDsn
  requireText "origin_node" s.originNode
  requireText "target_node" s.targetNode
  requireDifferent s.originNode s.targetNode
  requireSets s.replicationSets
  requireName "extension_name" s.extensionName
  requireName "output_plugin" s.outputPlugin
  requireName "application_name" s.applicationName
  requireTools directories s.tools
  s.validateLogLevel

def optionNames : List String := [
    "local_dsn", "origin_node", "target_node", "replication_sets", "extension_name",
    "output_plugin", "application_name", "log_level", "pg_bin_dir", "archive_path"]

def option? (entries : List (Value × Value)) (name : String) : Option Value :=
  (entries.find? fun (k, _) => k.text? == some name).map (·.2)

def option (entries : List (Value × Value)) (name : String) (fallback : Value) : Value :=
  (option? entries name).getD fallback

/-- A text of replication sets stands for the list of its pieces between commas. -/
def normalizeSets : Value → Value
  | .text s =>
    .list <| ((Text.split ',' s).map Text.trim).filterMap fun name =>
      if name.isEmpty then none else some (.text name)
  | v => v

/-- The settings of a document; those it does not set get their defaults. Whether debugging output
is prepared is left as it was. -/
def withEntries (s : Settings) (temporary file : String) (environment : List (String × String))
    (entries : List (Value × Value)) : Settings :=
  let unset := fresh temporary
  let dsn := option entries "local_dsn" unset.localDsn
  { localDsn := ((environment.lookup localDsnVariable).map Value.text).getD dsn
    originNode := option entries "origin_node" unset.originNode
    targetNode := option entries "target_node" unset.targetNode
    replicationSets := normalizeSets (option entries "replication_sets" unset.replicationSets)
    extensionName := option entries "extension_name" unset.extensionName
    outputPlugin := option entries "output_plugin" unset.outputPlugin
    applicationName := option entries "application_name" unset.applicationName
    logLevel := option entries "log_level" unset.logLevel
    tools := .of (option entries "pg_bin_dir" "") (option entries "archive_path" "") temporary
    settingsFile := .text file
    debugs := s.debugs }

def foreignKeys (entries : List (Value × Value)) : List Value :=
  (entries.map (·.1)).filter fun k =>
    match k.text? with
    | some name => !optionNames.contains name
    | none => true

def unsupported (keys : List Value) : Fault :=
  .host .unsupportedOption s!"Unsupported config options: {(Value.list keys).quoted}"

/-- The entries of a document. One that is not given has none; one that is no map is refused. -/
def entriesOf (document : Value) : Except Fault (List (Value × Value)) :=
  if !document.isGiven then .ok []
  else
    match document with
    | .map entries => .ok entries
    | .list _ => .error (.host .wrongType "pop expected at most 1 argument, got 2")
    | .set _ => .error (.host .wrongType "set.pop() takes no arguments (2 given)")
    | v =>
      .error (.host .missingMember s!"'{v.qualifiedTypeName}' object has no attribute 'pop'")

/-- Takes the settings from a document read from `file`. What was taken stays when a check fails. -/
def load (temporary : String) (directories : List String) (environment : List (String × String))
    (file : String) (document : Value) : Action Settings Unit := do
  let entries ← Action.ofExcept (entriesOf document)
  modify fun s => s.withEntries temporary file environment entries
  if !(foreignKeys entries).isEmpty then throw (unsupported (foreignKeys entries))
  set (← Action.ofExcept ((← get).validate directories))

def overrideLogLevel (level : String) : Action Settings Unit := do
  modify fun s => { s with logLevel := .text level }
  set (← Action.ofExcept (← get).validateLogLevel)

end Settings

end ReplicaBootstrap
