import ReplicaBootstrap.Initialiser.Services
import ReplicaBootstrap.Settings
import ReplicaBootstrap.Slot.Name

/-! # Initialisation

Brings a target node from its first status to readiness. Every stage begins at the status that the
catalog keeps and keeps the next one before the following stage begins, so that a run can be cut off
anywhere and started again: the stage that was cut off is redone from its start.
-/

namespace ReplicaBootstrap

structure Initialiser where
  pair : NodePair
  settings : Settings
  deriving Repr, Inhabited

namespace Initialiser

variable {σ tool : Type}

def node (i : Initialiser) : Side → Node
  | .origin => i.pair.origin
  | .target => i.pair.target

/-- Whether `status` may be kept after `current`: a status that is not kept counts as the first. -/
def checkMove (name : String) (current status : NodeStatus) : Except Fault Unit :=
  if status.rank ≤ current.rank then
    .error (.init .transition
      s!"node {name} can not move back from {current.name} to {status.name}")
  else
    match (if current.isPersisted then current else NodeStatus.init).next? with
    | none =>
      .error (.init .transition s!"node {name} is already {NodeStatus.ready.name}")
    | some next =>
      if status = next then .ok ()
      else
        .error (.init .transition
          (s!"node {name} can not move from {current.name} to {status.name}, " ++
            s!"next status is {next.name}"))

theorem kind_of_checkMove {name : String} {current status : NodeStatus} {f : Fault}
    (h : checkMove name current status = .error f) : f.kind = .init .transition := by
  unfold checkMove at h
  split at h
  · cases h
    rfl
  · split at h
    · cases h
      rfl
    · split at h <;> cases h
      rfl

/-- Keeps the next status of a node in the catalog and then takes it on in memory. -/
def advance (i : Initialiser) (sv : Services σ tool) (side : Side) (status : NodeStatus) :
    Step σ Unit := do
  let node := i.node side
  let current := (← get).status side
  Action.ofExcept (checkMove node.name.plain current status)
  sv.setNodeStatus node.id status
  modify (·.withStatus side status)
  sv.log .info
    s!"STATUS CHANGE: {current.name} -> {status.name}, node={node.name.plain}"

def enterPhase (i : Initialiser) (sv : Services σ tool) (side : Side) (status : NodeStatus) :
    Step σ Unit := do
  let current := (← get).status side
  let name := (i.node side).name.plain
  sv.log .info
    s!"STATUS CHANGE: {current.name} -> {status.name} (not persisted), node={name}"
  modify (·.withStatus side status)

def unsupportedRole (target : Node) : Fault :=
  .init .nodeRole <|
    "only subscriber node can be replication target, " ++
      s!"node {target.name.plain} is {target.role.name}"

def checkTargetRole (i : Initialiser) : Step σ Unit :=
  if i.pair.target.role = .subscriber then pure () else throw (unsupportedRole i.pair.target)

def closeQuietly (sv : Services σ tool) (conn : Nat) : Step σ Unit :=
  (sv.close conn).tolerating fun f => sv.log .debug (Session.closingNote f)

def logDetail (i : Initialiser) (sv : Services σ tool) (text : String) : Step σ Unit :=
  if i.settings.debugs then sv.log .debug text else pure ()

/-- The work on the snapshot that a new slot exports, while its connection is open: both schemas are
made alike, and the data is copied between the two parts of the schema. -/
def transfer (i : Initialiser) (sv : Services σ tool) (schemaTool : tool) (conn : Nat)
    (slotName : String) : Step σ Slot := do
  let { origin, target, .. } := i.pair
  let archive := i.settings.tools.archive.plain
  let slot ← sv.createSlot conn slotName
  sv.provisionOrigin slot
  i.enterPhase sv .target .syncSchema
  sv.log .info "synchronizing schemas"
  i.logDetail sv s!"dumping with snapshot {slot.snapshot.plain} into {archive}"
  sv.dump schemaTool slot.snapshot archive origin.dsn
  sv.restore schemaTool "pre-data" archive target.dsn
  sv.checkInterrupts
  sv.log .info "copying data"
  sv.copyNodeData slot.snapshot
  sv.restore schemaTool "post-data" archive target.dsn
  return slot

/-- The first stage: fills the target from a snapshot of the origin. -/
def initNode (i : Initialiser) (sv : Services σ tool) : Step σ Slot := do
  let { origin, target, .. } := i.pair
  sv.log .info s!"initializing node {target.name.plain} from {origin.name.plain}"
  let schemaTool ← sv.schemaTool
  sv.checkVersion schemaTool
  let database ← sv.databaseName
  let slotName ← Action.ofExcept (SlotName.generate database origin target)
  let conn ← sv.connect .replication origin.dsn i.settings.snapshotApplicationName
  (i.transfer sv schemaTool conn slotName).ensuring (closeQuietly sv conn)

/-- The last stage: tells the origin that the target is ready. -/
def connectBack (i : Initialiser) (sv : Services σ tool) : Step σ Unit := do
  let { origin, target, .. } := i.pair
  let conn ← sv.connect .queries origin.dsn i.settings.initApplicationName
  (sv.setRemoteNodeStatus conn target.name .ready).ensuring (closeQuietly sv conn)
  sv.log .info s!"origin {origin.name.plain} knows {target.name.plain} is ready"

def unrecoverable (target : Node) (status : NodeStatus) : Fault :=
  .init .unrecoverable <|
    s!"node {target.name.plain} initialization failed during nonrecoverable step " ++
      s!"(status {status.name}), please try the setup again"

def checkRecoverable (i : Initialiser) (status : NodeStatus) : Step σ Unit :=
  if status.isRecoverable then pure () else throw (unrecoverable i.pair.target status)

/-- A stage is done if the target's status in memory is the one that it starts from. -/
def stage (start : NodeStatus) (work : Step σ Unit) : Step σ Unit := do
  if (← get).target = start then work

def fill (i : Initialiser) (sv : Services σ tool) : Step σ Unit := do
  let _ ← i.initNode sv
  i.advance sv .target .slots

def makeSlots (i : Initialiser) (sv : Services σ tool) : Step σ Unit := do
  sv.makeOtherSlots i.pair.target.name
  i.advance sv .target .catchup

/-- A subscriber has no other nodes to catch up with. -/
def catchUp (i : Initialiser) (sv : Services σ tool) : Step σ Unit := do
  i.checkTargetRole
  i.advance sv .target .connectBack

def complete (i : Initialiser) (sv : Services σ tool) : Step σ Unit := do
  i.checkTargetRole
  i.advance sv .target .ready
  i.connectBack sv
  sv.log .info "finished init_replica, ready to enter normal replication"

def begin (i : Initialiser) (sv : Services σ tool) : Step σ Unit := do
  let target := i.pair.target
  let status ← sv.nodeStatus target.id
  modify (·.withStatus .target status)
  sv.log .info s!"node {target.name.plain} status is {status.name}"
  i.checkRecoverable status

/-- Does all stages that are left, from the status that the catalog keeps. -/
def run (i : Initialiser) (sv : Services σ tool) : Step σ Unit := do
  i.begin sv
  stage .init (i.fill sv)
  stage .slots (i.makeSlots sv)
  stage .catchup (i.catchUp sv)
  stage .connectBack (i.complete sv)

end Initialiser

end ReplicaBootstrap
