import ReplicaBootstrap.Initialiser
import ReplicaBootstrap.Interrupts

/-! # A bench for initialisations

Services that do their work in memory: what the local catalog and the origin know, which slots and
replication origins there are. Before it does its work, every call may be disturbed by a signal and
by a fault, as a plan tells.
-/

namespace ReplicaBootstrap

inductive Call where
  | getStatus (id : Value)
  | setStatus (id : Value) (status : NodeStatus)
  | setRemoteStatus (name : Value) (status : NodeStatus)
  | databaseName
  | checkVersion
  | dump (snapshot : Value) (archive : String) (dsn : Value)
  | restore (part archive : String) (dsn : Value)
  | createSlot (name : String)
  | provisionOrigin (name : Value) (lsn : String)
  | makeOtherSlots (target : Value)
  | copy (snapshot : Value)
  | connect (purpose : Session.Purpose) (dsn : Value) (application : String)
  | close
  deriving Repr

structure Disturbance where
  signal : Option Int := none
  fault : Option Fault := none
  deriving DecidableEq, Repr, Inhabited

/-- What happens at a bench, each call with the status of the target in memory. -/
inductive BenchEvent where
  | call (c : Call) (memory : NodeStatus)
  | signal (number : Int)
  | log (record : LogRecord)
  deriving Repr

structure Bench where
  stored : List (Value × NodeStatus) := []
  remote : List (Value × NodeStatus) := []
  slots : List String := []
  origins : List (Value × String) := []
  interrupts : Interrupts := .watching
  database : Value := "subscriber_db"
  lsn : String := "0/16B3748"
  snapshot : Value := "00000003-0000001B-1"
  /-- what disturbs the calls, by their number and by what they are -/
  plan : Nat → Call → Disturbance := fun _ _ => {}
  calls : Nat := 0
  events : Array BenchEvent := #[]

namespace Bench

def put {α : Type} (key : Value) (a : α) : List (Value × α) → List (Value × α)
  | [] => [(key, a)]
  | (k, b) :: rest => if k.sameKey key then (k, a) :: rest else (k, b) :: put key a rest

def get? {α : Type} (key : Value) (table : List (Value × α)) : Option α :=
  (table.find? fun (k, _) => k.sameKey key).map (·.2)

def record (b : Bench) (e : BenchEvent) : Bench := { b with events := b.events.push e }

def emit (e : BenchEvent) : Action Bench Unit := modify (·.record e)

def log (level : Level) (text : String) : Action Bench Unit := emit (.log { level, text })

def deliver (number : Int) : Action Bench Unit := do
  emit (.signal number)
  let i := (← get).interrupts
  if i.reacts number then
    log .warning (Interrupts.notice number)
    modify fun b => { b with interrupts := i.receive number }

def enter (c : Call) (memory : NodeStatus) : Action Bench Unit := do
  emit (.call c memory)
  let b ← get
  set { b with calls := b.calls + 1 }
  let { signal, fault } := b.plan b.calls c
  if let some number := signal then deliver number
  if let some f := fault then throw f

def call {α : Type} (c : Call) (work : Action Bench α) : Step Bench α := do
  let memory := (← get).target
  .outside do
    enter c memory
    work

def alreadyThere (name : String) : Fault :=
  .init .slotCreation s!"replication slot \"{name}\" already exists"

def createSlot (name : String) : Action Bench Slot := do
  let b ← get
  if b.slots.contains name then throw (alreadyThere name)
  set { b with slots := b.slots ++ [name] }
  return { name, lsn := b.lsn, snapshot := b.snapshot }

def services : Services Bench Unit where
  nodeStatus id := call (.getStatus id) do return ((get? id (← get).stored).getD .unknown)
  setNodeStatus id status :=
    call (.setStatus id status) (modify fun b => { b with stored := put id status b.stored })
  setRemoteNodeStatus _ name status :=
    call (.setRemoteStatus name status)
      (modify fun b => { b with remote := put name status b.remote })
  databaseName := call .databaseName do return (← get).database
  schemaTool := pure ()
  checkVersion _ := call .checkVersion (pure ())
  dump _ snapshot archive dsn := call (.dump snapshot archive dsn) (pure ())
  restore _ part archive dsn := call (.restore part archive dsn) (pure ())
  createSlot _ name := call (.createSlot name) (createSlot name)
  provisionOrigin slot :=
    call (.provisionOrigin slot.name slot.lsn)
      (modify fun b => { b with origins := put slot.name slot.lsn b.origins })
  makeOtherSlots target := call (.makeOtherSlots target) (pure ())
  copyNodeData snapshot := call (.copy snapshot) (pure ())
  connect purpose dsn application := call (.connect purpose dsn application) (pure 0)
  close _ := call .close (pure ())
  checkInterrupts := .outside do Action.ofExcept (← get).interrupts.check
  log level text := .outside (log level text)

def ofPair (pair : NodePair) : Bench :=
  { stored := put pair.target.id pair.target.status [(pair.origin.id, pair.origin.status)] }

end Bench

end ReplicaBootstrap
