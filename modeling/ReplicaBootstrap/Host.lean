import ReplicaBootstrap.Fault
import ReplicaBootstrap.Path
import ReplicaBootstrap.Value

/-! # The host

What the program finds on the machine that it runs on, and where it may keep temporary files there.
-/

namespace ReplicaBootstrap

/-- The part of a site that never changes. -/
structure Host where
  files : List (String × String) := []
  directories : List String := []
  environment : List (String × String) := []
  /-- directories, in their normal form, in which files can be made -/
  writable : List String := ["/tmp"]
  workingDirectory : String := "/"
  /-- files in place of tools, with whether they can be run -/
  tools : List (String × Bool) := []
  dumpOnPath : Option String := none
  links : List (String × String) := []
  deriving Repr, Inhabited

namespace Host

def temporaryVariables : List String := ["TMPDIR", "TEMP", "TMP"]

def temporaryCandidates (h : Host) : List String :=
  (temporaryVariables.filterMap fun name => h.environment.lookup name).filter (!·.isEmpty) ++
    ["/tmp", "/var/tmp", "/usr/tmp", h.workingDirectory]

def absolute (h : Host) (path : String) : String := Path.absolute h.workingDirectory path

def noTemporaryDirectory (candidates : List String) : Fault :=
  .host .missingFile
    s!"[Errno 2] No usable temporary directory found in {(Value.list (candidates.map .text)).quoted}"

/-- The first candidate in which a file can be made. The working directory keeps its short name. -/
def temporaryDirectory (h : Host) : Except Fault String :=
  match h.temporaryCandidates.find? fun path => h.writable.contains (h.absolute path) with
  | some path => .ok (if path = "." then path else h.absolute path)
  | none => .error (noTemporaryDirectory h.temporaryCandidates)

end Host

end ReplicaBootstrap
