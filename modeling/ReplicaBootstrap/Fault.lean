/-! # Faults

What stops an action: its kind decides who handles it, its text is what an operator reads. Three
families matter to the program: faults of the database driver, faults of the initialisation, and
faults of the operating system.
-/

namespace ReplicaBootstrap

inductive DriverFault where
  | operational
  | programming
  | interface
  | undefinedTable
  | queryCanceled
  | data
  deriving DecidableEq, Repr

/-- Faults of the initialisation itself. All but the first, `unrecoverable` and `cancelled` end the
run in a way that a later run resumes from. -/
inductive InitFault where
  | unspecified
  | fatal
  | connection
  | transactionSetup
  | tableList
  | copy
  | slotCreation
  | replicationOrigin
  | toolMissing
  | toolVersion
  | toolFailed
  | nodeRole
  | transition
  | nodeMissing
  | unrecoverable
  | cancelled
  deriving DecidableEq, Repr

inductive HostFault where
  | system
  | missingFile
  | interrupt
  | runtime
  | badValue
  | badEncoding
  | wrongType
  | missingMember
  | missingItem
  | missingKey
  | overflow
  | unsupportedOption
  | document
  | abstractOperation
  /-- a loop that only standing replies feed, so it has no end -/
  | endless
  deriving DecidableEq, Repr

inductive FaultKind where
  | driver (kind : DriverFault)
  | init (kind : InitFault)
  | host (kind : HostFault)
  deriving DecidableEq, Repr

structure Fault where
  kind : FaultKind
  text : String
  deriving DecidableEq, Repr

def InitFault.label : InitFault → String
  | .unspecified => "InitReplicaError"
  | .fatal => "FatalInitError"
  | .connection => "ConnectionFailed"
  | .transactionSetup => "TransactionSetupFailed"
  | .tableList => "TableListFailed"
  | .copy => "CopyFailed"
  | .slotCreation => "SlotCreationFailed"
  | .replicationOrigin => "ReplicationOriginFailed"
  | .toolMissing => "ToolNotFound"
  | .toolVersion => "ToolVersionMismatch"
  | .toolFailed => "ToolFailed"
  | .nodeRole => "UnsupportedNodeRole"
  | .transition => "InvalidStatusTransition"
  | .nodeMissing => "NodeNotFound"
  | .unrecoverable => "UnrecoverableNodeStatus"
  | .cancelled => "InitReplicaCancelled"

namespace Fault

def driver (kind : DriverFault) (text : String) : Fault := ⟨.driver kind, text⟩

def init (kind : InitFault) (text : String) : Fault := ⟨.init kind, text⟩

def host (kind : HostFault) (text : String) : Fault := ⟨.host kind, text⟩

def isDriver (f : Fault) : Bool :=
  match f.kind with
  | .driver _ => true
  | _ => false

def isInit (f : Fault) : Bool :=
  match f.kind with
  | .init _ => true
  | _ => false

/-- A missing file is a refusal of the operating system too. -/
def isSystem (f : Fault) : Bool :=
  match f.kind with
  | .host .system | .host .missingFile => true
  | _ => false

@[simp] theorem isDriver_driver (k : DriverFault) (t : String) : (driver k t).isDriver = true := rfl

@[simp] theorem isDriver_init (k : InitFault) (t : String) : (init k t).isDriver = false := rfl

@[simp] theorem isDriver_host (k : HostFault) (t : String) : (host k t).isDriver = false := rfl

@[simp] theorem isInit_init (k : InitFault) (t : String) : (init k t).isInit = true := rfl

@[simp] theorem isInit_driver (k : DriverFault) (t : String) : (driver k t).isInit = false := rfl

@[simp] theorem isInit_host (k : HostFault) (t : String) : (host k t).isInit = false := rfl

end Fault

end ReplicaBootstrap
