import ReplicaBootstrap.Conninfo.Basic
import ReplicaBootstrap.Fault

/-! # Purposes of connections

What a connection is opened for, and how its closing may go wrong.
-/

namespace ReplicaBootstrap.Session

inductive Purpose where
  | queries
  | replication
  deriving DecidableEq, Repr

def Purpose.params (purpose : Purpose) (application : String) : Conninfo.Params :=
  match purpose with
  | .queries => [("fallback_application_name", application)]
  | .replication =>
    [("replication", "database"), ("fallback_application_name", application)]

def Purpose.suffix : Purpose → String
  | .queries => ""
  | .replication => " in replication mode"

def closingNote (f : Fault) : String := s!"error closing connection: {f.text}"

end ReplicaBootstrap.Session
