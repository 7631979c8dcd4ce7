import ReplicaBootstrap.Copy.Relay
import ReplicaBootstrap.Copy.TableList
import ReplicaBootstrap.Copy.Transaction

/-! # Copying the data of a node

All tables of the chosen replication sets are copied while the origin's transaction reads the
exported snapshot; the target's transaction is committed once every table is there.
-/

namespace ReplicaBootstrap.Copy

open Session

def eachTable (origin target : Nat) : List Table → (bytes : Nat) → Action Site Nat
  | [], bytes => pure bytes
  | t :: rest, bytes => do
    let stats ← table origin target t
    checkInterrupts
    eachTable origin target rest (bytes + stats.bytes)

/-- What has to be there before the first table is copied: the list of tables, read in the origin's
transaction, and the connection to the target. -/
def prepare (origin : Nat) (pair : NodePair) (snapshot : Value) (extension application : String) :
    Action Site (List Table × Nat) := do
  beginOrigin origin snapshot
  let ts ← tables origin pair.replicationSets extension
  let sets := Value.list (pair.replicationSets.map .text)
  log .info s!"{ts.length} tables to copy for replication sets {sets.quoted}"
  let target ← connect .queries pair.target.dsn application
  return (ts, target)

def transfer (origin target : Nat) (ts : List Table) : Action Site Unit := do
  beginTarget target
  let bytes ← eachTable origin target ts 0
  finishOrigin origin
  finishTarget target
  log .info s!"copied {ts.length} tables, {bytes} bytes"

/-- Copies the data of the tables in the replication sets and answers with these tables. Each
connection that was opened is closed in the end, the origin's first. -/
def nodeData (pair : NodePair) (snapshot : Value) (extension application : String) :
    Action Site (List Table) := do
  let origin ← connect .queries pair.origin.dsn application
  match ← Action.attempt (prepare origin pair snapshot extension application) with
  | .error f =>
    closeQuietly origin
    throw f
  | .ok (ts, target) =>
    (transfer origin target ts).ensuring do
      closeQuietly origin
      closeQuietly target
    return ts

end ReplicaBootstrap.Copy
