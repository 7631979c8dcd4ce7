import ReplicaBootstrap.Node
import ReplicaBootstrap.Session

/-! # Tables to copy -/

namespace ReplicaBootstrap.Copy

open Session

def tableOfRow (row : List Value) : Except Fault Table := do
  let schema ← column row 0
  let name ← column row 1
  return { schema, name }

def listQuery (extension : String) : String :=
  "SELECT nspname, relname FROM " ++ extension ++ ".tables WHERE set_name = ANY(%s::text[])"

/-- The tables of the given replication sets in the order of the origin's answer. All set names go
to the server as one array. -/
def tables (conn : Nat) (sets : List String) (extension : String) : Action Site (List Table) := do
  let name ← Action.ofExcept (Sql.identifier [.text extension])
  let names := Value.list (sets.map .text)
  let reply ← (execute conn (listQuery name) (some [names])).onDriverFault fun f =>
    .init .tableList s!"could not get table list for replication sets {names.quoted}: {f.text}"
  Action.ofExcept (reply.rows.mapM tableOfRow)

end ReplicaBootstrap.Copy
