import ReplicaBootstrap.Node
import ReplicaBootstrap.Number.Radix
import ReplicaBootstrap.Session

/-! # The node catalog

The table of nodes that the extension keeps in a database: reading nodes, and reading and setting
their status, each change in a transaction of its own.
-/

namespace ReplicaBootstrap.Catalog

open Session

def nodeTable (extension : String) : Action Site String :=
  Action.ofExcept (Sql.identifier [.text extension, "node"])

def missingNode (node : Value) : Fault := .init .nodeMissing s!"node {node.plain} not found"

/-- Explains a fault of the driver as one that a later run may resume from. -/
def explained (what : String) (f : Fault) : Fault := .init .fatal s!"{what}: {f.text}"

def nodeOfRow : List Value → Except Fault Node
  | [id, name, dsn, role, status] => do
    let role ← NodeRole.ofValue role
    return { id, name, dsn, role, status := .ofValue status }
  | row =>
    if row.length < 5 then
      .error (.host .badValue s!"not enough values to unpack (expected 5, got {row.length})")
    else .error (.host .badValue "too many values to unpack (expected 5)")

def node (conn : Nat) (extension : String) (name : Value) : Action Site Node := do
  let table ← nodeTable extension
  let query := "SELECT node_id, node_name, node_dsn, node_role, node_status FROM " ++ table ++
    " WHERE node_name = %s"
  let reply ← (execute conn query (some [name])).onDriverFault
    (explained s!"could not read node {name.plain}")
  match reply.rows with
  | [] => throw (missingNode name)
  | row :: _ => Action.ofExcept (nodeOfRow row)

def nodeStatus (conn : Nat) (extension : String) (id : Value) : Action Site NodeStatus := do
  let table ← nodeTable extension
  let query := "SELECT node_status FROM " ++ table ++ " WHERE node_id = %s"
  let reply ← (execute conn query (some [id])).onDriverFault
    (explained s!"could not read status of node {id.plain}")
  match reply.rows with
  | [] => throw (missingNode id)
  | row :: _ => return .ofValue (← Action.ofExcept (column row 0))

/-- Changes exactly one row in a transaction, else fails with `missing`. -/
def updateOne (conn : Nat) (query : String) (params : List Value) (missing : Fault) :
    Action Site Unit :=
  transaction conn do
    let reply ← execute conn query (some params)
    if reply.rowCount ≠ 1 then throw missing

def setNodeStatus (conn : Nat) (extension : String) (id : Value) (status : NodeStatus) :
    Action Site Unit := do
  let table ← nodeTable extension
  let query := "UPDATE " ++ table ++ " SET node_status = %s WHERE node_id = %s"
  (updateOne conn query [.text status.code, id] (missingNode id)).onDriverFault
    (explained s!"could not set status of node {id.plain}")

def setRemoteNodeStatus (conn : Nat) (extension : String) (name : Value) (status : NodeStatus) :
    Action Site Unit := do
  let table ← nodeTable extension
  let query := "UPDATE " ++ table ++ " SET node_status = %s WHERE node_name = %s"
  let missing := Fault.init .nodeMissing s!"node {name.plain} not found on remote node"
  (updateOne conn query [.text status.code, name] missing).onDriverFault
    (explained s!"could not set remote status of node {name.plain}")

def ask (conn : Nat) (query what : String) : Action Site Value := do
  let reply ← (execute conn query).onDriverFault (explained what)
  let row ← firstRow reply
  Action.ofExcept (column row 0)

def databaseName (conn : Nat) : Action Site Value :=
  ask conn "SELECT current_database()" "could not get local database name"

def wholeNumber : Value → Except Fault Int
  | .int n => .ok n
  | .bool b => .ok (if b then 1 else 0)
  | .real x =>
    if x.isNaN then .error (.host .badValue "cannot convert float NaN to integer")
    else if !x.isFinite then .error (.host .overflow "cannot convert float infinity to integer")
    else .ok x.truncate
  | .text s => (Number.readInt 10 s).mapError fun e => .host .badValue (e.message 10 s)
  | v =>
    .error (.host .wrongType <| "int() argument must be a string, a bytes-like object or a real " ++
      s!"number, not '{v.typeName}'")

def serverVersion (conn : Nat) : Action Site Int := do
  let cell ← ask conn "SHOW server_version_num" "could not get server version"
  Action.ofExcept (wholeNumber cell)

end ReplicaBootstrap.Catalog
