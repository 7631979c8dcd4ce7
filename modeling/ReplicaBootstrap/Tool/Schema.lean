import ReplicaBootstrap.Conninfo
import ReplicaBootstrap.Site
import ReplicaBootstrap.Text.Lines
import ReplicaBootstrap.Path
import ReplicaBootstrap.Tool.Version

/-! # Schema tools

Finding the dump and restore tools, checking their version against the server's, and running them. A
tool that was found right once is not checked again.
-/

namespace ReplicaBootstrap

/-- Which tools to use: those of a directory, or of the search path when that is empty. -/
structure SchemaTool where
  serverVersion : Int
  directory : String := ""
  deriving DecidableEq, Repr, Inhabited

namespace SchemaTool

def dumpName : String := "pg_dump"

def restoreName : String := "pg_restore"

def sections : List String := ["pre-data", "post-data"]

def runCommand (command : List String) : Action Site Reply := do
  let (reply, commands) := (← get).commands.answer (" ".intercalate command)
  modify fun w => { w.record (.exchange (.run command) reply) with commands }
  resolve reply

def onSystemFault {α : Type} (x : Action Site α) (explain : Fault → Fault) : Action Site α := do
  match ← Action.attempt x with
  | .ok a => pure a
  | .error f => throw (if f.isSystem then explain f else f)

def findDirectory (tool : SchemaTool) : Action Site String := do
  if tool.directory.isEmpty then
    let host := (← get).host
    match host.dumpOnPath with
    | none =>
      throw (.init .toolMissing "could not find pg_dump on PATH, set pg_bin_dir")
    | some path => return Path.directory ((host.links.lookup path).getD path)
  else return tool.directory

def probe (path : String) : Action Site (List Int) := do
  let reply ← onSystemFault (runCommand [path, "-V"]) fun f =>
    .init .toolMissing s!"could not execute {path}: {f.text}"
  let version ←
    if reply.exitCode = 0 then
      Action.ofExcept <| (Version.parseTool reply.stdout).mapError fun (e, s) =>
        .host .badValue (e.message 10 s)
    else pure none
  match version with
  | some version => return version
  | none =>
    throw (.init .toolVersion
      s!"could not get version of {path}, output: {Text.quoted (Text.trim reply.stdout)}")

def find (tool : SchemaTool) (name : String) : Action Site String := do
  match (← get).verifiedTools.lookup name with
  | some path => return path
  | none =>
    let path := Path.join (← findDirectory tool) name
    if ((← get).host.tools.lookup path) ≠ some true then
      throw (.init .toolMissing s!"node init failed to find {name} in {Path.directory path}")
    let version ← probe path
    let expected := Version.ofServer tool.serverVersion
    if !Version.agrees version expected then
      throw (.init .toolVersion <|
        s!"node init found {name} with wrong major version {Version.text version}, " ++
          s!"expected {Version.text expected}")
    log .debug s!"using {path} version {Version.text version}"
    modify fun w => { w with verifiedTools := w.verifiedTools ++ [(name, path)] }
    return path

def checkVersion (tool : SchemaTool) : Action Site Unit := do
  let _ ← tool.find dumpName
  let _ ← tool.find restoreName

def complaint (stderr : String) : String :=
  let ls := Text.lines (Text.trim stderr)
  "\n".intercalate (ls.drop (ls.length - 20))

/-- Runs a tool; the connection string `dsn` among its arguments is masked in messages. -/
def run (command : List String) (dsn : Value) : Action Site Unit := do
  let shown ← Action.ofExcept <| command.mapM fun argument =>
    if dsn.text? = some argument then Conninfo.mask argument else .ok argument
  let printable := " ".intercalate shown
  log .info s!"running {printable}"
  let reply ← onSystemFault (runCommand command) fun f =>
    .init .toolFailed s!"could not execute command \"{printable}\": {f.text}"
  if reply.exitCode ≠ 0 then
    throw (.init .toolFailed <|
      s!"command \"{printable}\" failed with exit code {reply.exitCode}: " ++
        complaint reply.stderr)

def dump (tool : SchemaTool) (snapshot : Value) (archive : String) (source : Value) :
    Action Site Unit := do
  let path ← tool.find dumpName
  match source with
  | .text dsn =>
    run [path, s!"--snapshot={snapshot.plain}", "-F", "c", "-f", archive, dsn] source
  | v => throw (Conninfo.notEncodable v)

def restore (tool : SchemaTool) (part archive : String) (target : Value) : Action Site Unit := do
  if !sections.contains part then
    throw (.host .badValue s!"unknown restore section {part}")
  let path ← tool.find restoreName
  match target with
  | .text dsn =>
    run [path, s!"--section={part}", "--exit-on-error", "-1", "-d", dsn, archive] target
  | v => throw (Conninfo.notEncodable v)

end SchemaTool

end ReplicaBootstrap
