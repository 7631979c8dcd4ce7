import ReplicaBootstrap.Catalog
import ReplicaBootstrap.Initialiser.Bench

/-! # Rehearsals

Services of which nothing is known: a call may be disturbed by a signal and by a fault, and what it
answers is free and may depend on all that was done before. Only the two catalogs are bound, which
keep what was set, and the look at the wish to stop. Every call is recorded with its outcome.
-/

namespace ReplicaBootstrap

inductive Request (tool : Type) where
  | nodeStatus (id : Value)
  | setNodeStatus (id : Value) (status : NodeStatus)
  | setRemoteNodeStatus (conn : Nat) (name : Value) (status : NodeStatus)
  | databaseName
  | schemaTool
  | checkVersion (t : tool)
  | dump (t : tool) (snapshot : Value) (archive : String) (dsn : Value)
  | restore (t : tool) (part archive : String) (dsn : Value)
  | createSlot (conn : Nat) (name : String)
  | provisionOrigin (slot : Slot)
  | makeOtherSlots (target : Value)
  | copyNodeData (snapshot : Value)
  | connect (purpose : Session.Purpose) (dsn : Value) (application : String)
  | close (conn : Nat)
  | checkInterrupts

def Request.isForeign {tool : Type} : Request tool → Bool
  | .nodeStatus _ | .setNodeStatus _ _ => false
  | _ => true

abbrev Request.Answer {tool : Type} : Request tool → Type
  | .nodeStatus _ => NodeStatus
  | .databaseName => String
  | .schemaTool => tool
  | .createSlot _ _ => Slot
  | .connect _ _ _ => Nat
  | _ => Unit

abbrev Statuses := List (Value × NodeStatus)

structure Deed (tool : Type) where
  request : Request tool
  outcome : Except Fault request.Answer
  /-- the status of the target in memory at the call -/
  memory : NodeStatus
  /-- what the local catalog kept at the call -/
  kept : Statuses

namespace Deed

variable {tool : Type}

def written? : Deed tool → Option NodeStatus
  | ⟨.setNodeStatus _ status, .ok _, _, _⟩ => some status
  | _ => none

def isRefused : Deed tool → Bool
  | ⟨.setNodeStatus _ _, .error _, _, _⟩ => true
  | _ => false

end Deed

/-- What outlives a run: the statuses that the local catalog keeps, by id, and those that the origin
knows, by name. -/
structure Catalogs where
  stored : Statuses
  remote : Statuses

structure Circumstances (tool : Type) where
  interrupts : Interrupts := .watching
  /-- the schema tools, if the run need not ask for them -/
  tool? : Option tool
  /-- what disturbs a call, by what was done before -/
  disturb : List (Deed tool) → Request tool → Disturbance
  answer : List (Deed tool) → (q : Request tool) → q.Answer

structure Rehearsal (tool : Type) extends Catalogs, Circumstances tool where
  deeds : List (Deed tool) := []

namespace Rehearsal

variable {tool : Type}

def receive (r : Rehearsal tool) (d : Disturbance) : Rehearsal tool :=
  match d.signal with
  | some number => { r with interrupts := r.interrupts.receive number }
  | none => r

def respond (r : Rehearsal tool) : (q : Request tool) → Except Fault q.Answer × Rehearsal tool
  | .nodeStatus id =>
    match Bench.get? id r.stored with
    | some status => (.ok status, r)
    | none => (.error (Catalog.missingNode id), r)
  | .setNodeStatus id status => (.ok (), { r with stored := Bench.put id status r.stored })
  | .setRemoteNodeStatus _ name status =>
    (.ok (), { r with remote := Bench.put name status r.remote })
  | .checkInterrupts => (r.interrupts.check, r)
  | q => (.ok (r.answer r.deeds q), r)

def meet (r : Rehearsal tool) (q : Request tool) (d : Disturbance) :
    Except Fault q.Answer × Rehearsal tool :=
  match d.fault with
  | some f => (.error f, r.receive d)
  | none => (r.receive d).respond q

def ask (q : Request tool) : Step (Rehearsal tool) q.Answer := fun p =>
  let r := p.outside
  let (outcome, r') := r.meet q (r.disturb r.deeds q)
  (outcome, { p with outside :=
    { r' with deeds := r.deeds ++ [⟨q, outcome, p.target, r.stored⟩] } })

def services (tool : Type) : Services (Rehearsal tool) tool where
  nodeStatus id := ask (.nodeStatus id)
  setNodeStatus id status := ask (.setNodeStatus id status)
  setRemoteNodeStatus conn name status := ask (.setRemoteNodeStatus conn name status)
  databaseName := do return .text (← ask .databaseName)
  schemaTool := do
    match (← get).outside.tool? with
    | some t => return t
    | none => ask .schemaTool
  checkVersion t := ask (.checkVersion t)
  dump t snapshot archive dsn := ask (.dump t snapshot archive dsn)
  restore t part archive dsn := ask (.restore t part archive dsn)
  createSlot conn name := ask (.createSlot conn name)
  provisionOrigin slot := ask (.provisionOrigin slot)
  makeOtherSlots target := ask (.makeOtherSlots target)
  copyNodeData snapshot := ask (.copyNodeData snapshot)
  connect purpose dsn application := ask (.connect purpose dsn application)
  close conn := ask (.close conn)
  checkInterrupts := ask .checkInterrupts
  log _ _ := pure ()

end Rehearsal

structure Attempt (tool : Type) where
  initialiser : Initialiser
  origin : NodeStatus
  target : NodeStatus
  circumstances : Circumstances tool

namespace Attempt

variable {tool : Type}

def start (a : Attempt tool) (c : Catalogs) : Progress (Rehearsal tool) :=
  ⟨a.origin, a.target, { toCatalogs := c, toCircumstances := a.circumstances }⟩

def run (a : Attempt tool) (c : Catalogs) : Except Fault Unit × Progress (Rehearsal tool) :=
  (a.initialiser.run (Rehearsal.services tool)).outcome (a.start c)

def leave (a : Attempt tool) (c : Catalogs) : Catalogs := (a.run c).2.outside.toCatalogs

def deeds (a : Attempt tool) (c : Catalogs) : List (Deed tool) := (a.run c).2.outside.deeds

/-- Attempts made one after the other, each with the catalogs that it finds. -/
def history : List (Attempt tool) → Catalogs → List (Attempt tool × Catalogs)
  | [], _ => []
  | a :: rest, c => (a, c) :: history rest (a.leave c)

def leaveAll (attempts : List (Attempt tool)) (c : Catalogs) : Catalogs :=
  attempts.foldl (fun c a => a.leave c) c

def allDeeds (attempts : List (Attempt tool)) (c : Catalogs) : List (Deed tool) :=
  (history attempts c).flatMap fun (a, c) => a.deeds c

end Attempt

/-! ## Plain attempts -/

def Request.plainAnswer : (q : Request Unit) → q.Answer
  | .nodeStatus _ => .unknown
  | .databaseName => "postgres"
  | .createSlot _ name => { name, lsn := "0/16B3748", snapshot := "00000003-0000001B-1" }
  | .connect _ _ _ => 0
  | .setNodeStatus _ _ | .setRemoteNodeStatus _ _ _ | .schemaTool | .checkVersion _
  | .dump _ _ _ _ | .restore _ _ _ _ | .provisionOrigin _ | .makeOtherSlots _ | .copyNodeData _
  | .close _ | .checkInterrupts => ()

def Catalogs.plain : Catalogs where
  stored := [(.int 2, .init)]
  remote := []

/-- An attempt at a subscriber, in which the connection is lost at the calls that `loses` tells. -/
def Attempt.plain (loses : Request Unit → Bool) : Attempt Unit where
  initialiser :=
    { pair :=
        { origin := { id := .int 1, name := "provider", role := .provider }
          target := { id := .int 2, name := "subscriber" }
          replicationSets := ["default"] }
      settings := {} }
  origin := .ready
  target := .init
  circumstances :=
    { tool? := some ()
      disturb _ q := if loses q then { fault := some (.driver .operational "connection lost") } else {}
      answer _ := Request.plainAnswer }

end ReplicaBootstrap
