import ReplicaBootstrap.Program

/-! # The command

Rehearses a run: the settings file and the environment are real, while the servers and the tools are
silent. What the run writes is written, and its exit code is that of the command.
-/

namespace ReplicaBootstrap.Command

def usage : String :=
  "usage: replica_bootstrap [-h] [--config CONFIG] [--log_level LOG_LEVEL] " ++
    "\x7binit_replica,node_status\x7d\n"

def toolDirectory (text : String) : Option String :=
  match Yaml.load text with
  | .ok (.map entries) => (Settings.option? entries "pg_bin_dir").bind Value.text?
  | _ => none

def readable (name : String) : IO (Option String) := do
  try
    return some (← IO.FS.readFile name)
  catch _ => return none

def isDirectory (name : String) : IO Bool := do
  try
    let _ ← IO.FS.realPath (name ++ "/.")
    return true
  catch _ => return false

/-- Whether a file can be made in a directory. -/
def isWritable (directory : String) : IO Bool := do
  let name := Path.join directory s!"replica_bootstrap_{← IO.monoNanosNow}"
  try
    let _ ← IO.FS.Handle.mk name .writeNew
    IO.FS.removeFile name
    return true
  catch _ => return false

def environment : IO (List (String × String)) :=
  (Settings.localDsnVariable :: Host.temporaryVariables).filterMapM fun name => do
    return (← IO.getEnv name).map (name, ·)

/-- The host of a command: its settings file, the directory that this names, the environment, and the
directories that can hold temporary files. -/
def host (c : Command) : IO Host := do
  let bare : Host := {
    environment := ← environment
    workingDirectory := (← IO.currentDir).toString }
  let writable ← (bare.temporaryCandidates.map bare.absolute).filterM isWritable
  let some text ← readable c.config | return { bare with writable }
  let directories ← (toolDirectory text).toList.filterM isDirectory
  return { bare with writable, files := [(c.config, text)], directories }

def rehearse (c : Command) : IO UInt32 := do
  let report := Program.run c { host := ← host c }
  IO.print report.stdout
  IO.eprint report.stderr
  match report.outcome with
  | .ok code => return UInt32.ofNat code
  | .error f =>
    IO.eprintln f.text
    return 1

end ReplicaBootstrap.Command

open ReplicaBootstrap in
def main (arguments : List String) : IO UInt32 := do
  match CommandLine.parse arguments with
  | .ok c => Command.rehearse c
  | .error e =>
    if e = .help then IO.print Command.usage else IO.eprint Command.usage
    return UInt32.ofNat e.code
