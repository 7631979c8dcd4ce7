import ReplicaBootstrap.Node.Role
import ReplicaBootstrap.Node.Status

/-! # Nodes

A node of the replication setup as the catalog gives it. The catalog's cells are kept as they were
read, so a name or a connection string need not be a text.
-/

namespace ReplicaBootstrap

structure Node where
  id : Value
  name : Value
  dsn : Value := ""
  role : NodeRole := .subscriber
  status : NodeStatus := .init
  deriving Repr, Inhabited

structure NodePair where
  origin : Node
  target : Node
  replicationSets : List String
  deriving Repr, Inhabited

inductive Side where
  | origin
  | target
  deriving DecidableEq, Repr

/-- A table by its schema and its name, as the server gave them. -/
structure Table where
  schema : Value
  name : Value
  deriving Repr, Inhabited

def Table.text (t : Table) : String := t.schema.plain ++ "." ++ t.name.plain

structure Slot where
  name : Value
  lsn : String
  snapshot : Value
  outputPlugin : Value := ""
  deriving Repr, Inhabited

end ReplicaBootstrap
