import ReplicaBootstrap.Lsn
import ReplicaBootstrap.Node
import ReplicaBootstrap.Session

/-! # Provisioning slots and origins

A replication slot is created on the origin, which exports a snapshot with it. The matching
replication origin is got or created in the local database and advanced to the start of the slot.
-/

namespace ReplicaBootstrap.SlotProvision

open Session

/-- Reads the cell of a log position and writes it in its one canonical form. What is neither text nor
bytes has no halves to be told apart. -/
def canonicalLsn (cell : Value) : Except Fault (Option String) :=
  match cell with
  | .text s =>
    match Lsn.parse s with
    | .ok v => .ok (some (Lsn.format v))
    | .error _ => .ok none
  | .bytes _ => .error (.host .wrongType "a bytes-like object is required, not 'str'")
  | _ => .ok none

/-- The answer to the creation of a slot. The plugin is the one asked for unless the row names one. -/
def slotOfRow (query plugin : String) (row : List Value) : Except Fault Slot := do
  let position ← column row 1
  match ← canonicalLsn position with
  | none =>
    .error (.init .slotCreation
      s!"replication command \"{query}\" returned invalid LSN {position.quoted}")
  | some lsn => do
    let name ← column row 0
    let snapshot ← column row 2
    return { name, lsn, snapshot, outputPlugin := (row[3]?).getD (.text plugin) }

/-- Creates a logical slot. Its snapshot stays valid while the connection is open and idle. -/
def createSlot (conn : Nat) (plugin name : String) : Action Site Slot := do
  let query := s!"CREATE_REPLICATION_SLOT \"{name}\" LOGICAL {plugin}"
  let reply ← (execute conn query).onDriverFault fun f =>
    .init .slotCreation s!"could not send replication command \"{query}\": {f.text}"
  match reply.rows with
  | [] => throw (.init .slotCreation s!"replication command \"{query}\" returned no rows")
  | row :: _ =>
    let slot ← Action.ofExcept (slotOfRow query plugin row)
    log .info
      s!"created slot {slot.name.plain} at {slot.lsn} with snapshot {slot.snapshot.plain}"
    return slot

def originId? (reply : Reply) : Option Value :=
  match reply.rows with
  | (id :: _) :: _ =>
    match id with
    | .null => none
    | id => some id
  | _ => none

def lookUpOrCreate (conn : Nat) (name : Value) : Action Site Value := do
  let found ← execute conn "SELECT pg_replication_origin_oid(%s)" (some [name])
  match originId? found with
  | some id =>
    log .info s!"reusing replication origin {name.plain} ({id.plain})"
    return id
  | none =>
    let created ← execute conn "SELECT pg_replication_origin_create(%s)" (some [name])
    let row ← firstRow created
    let id ← Action.ofExcept (column row 0)
    log .info s!"created replication origin {name.plain} ({id.plain})"
    return id

def ensureOrigin (conn : Nat) (name : Value) : Action Site Value :=
  (lookUpOrCreate conn name).onDriverFault fun f =>
    .init .replicationOrigin
      s!"could not get or create replication origin {name.plain}: {f.text}"

def advanceOrigin (conn : Nat) (name : Value) (lsn : String) : Action Site Unit := do
  let query := "SELECT pg_replication_origin_advance(%s, %s::pg_lsn)"
  let _ ← (execute conn query (some [name, .text lsn])).onDriverFault fun f =>
    .init .replicationOrigin
      s!"could not advance replication origin {name.plain} to {lsn}: {f.text}"
  log .info s!"replication origin {name.plain} advanced to {lsn}"

def provisionOrigin (conn : Nat) (slot : Slot) : Action Site Value :=
  transaction conn do
    let id ← ensureOrigin conn slot.name
    advanceOrigin conn slot.name slot.lsn
    return id

/-- No node but the origin publishes to the target, so there is nothing to create. -/
def noOtherSlots (target : Value) : String :=
  s!"no other publishing nodes for {target.plain}, multi-origin is not supported"

def makeOtherSlots (target : Value) : Action Site Nat := do
  log .info (noOtherSlots target)
  return 0

end ReplicaBootstrap.SlotProvision
