import ReplicaBootstrap.Action
import ReplicaBootstrap.Event
import ReplicaBootstrap.Node
import ReplicaBootstrap.Session.Purpose

/-! # What an initialisation works with

An initialisation keeps the statuses of its two nodes in memory and leaves everything else to
services: the catalog, the schema tools, the slots, the copying, connections, the log.
-/

namespace ReplicaBootstrap

/-- The statuses in memory, and the world outside in the state `σ`. -/
structure Progress (σ : Type) where
  origin : NodeStatus
  target : NodeStatus
  outside : σ
  deriving Repr

namespace Progress

variable {σ : Type}

def status (p : Progress σ) : Side → NodeStatus
  | .origin => p.origin
  | .target => p.target

def withStatus (p : Progress σ) (side : Side) (s : NodeStatus) : Progress σ :=
  match side with
  | .origin => { p with origin := s }
  | .target => { p with target := s }

@[simp] theorem status_withStatus (p : Progress σ) (a b : Side) (s : NodeStatus) :
    (p.withStatus a s).status b = if b = a then s else p.status b := by
  cases a <;> cases b <;> rfl

@[simp] theorem outside_withStatus (p : Progress σ) (side : Side) (s : NodeStatus) :
    (p.withStatus side s).outside = p.outside := by
  cases side <;> rfl

end Progress

abbrev Step (σ : Type) := Action (Progress σ)

def Step.outside {σ α : Type} (x : Action σ α) : Step σ α :=
  Action.within Progress.outside (fun p w => { p with outside := w }) x

/-- The services; `tool` is what it takes to run the schema tools. -/
structure Services (σ tool : Type) where
  nodeStatus : (id : Value) → Step σ NodeStatus
  setNodeStatus : (id : Value) → NodeStatus → Step σ Unit
  /-- sets the status of a node, given by its name, in the catalog behind a connection -/
  setRemoteNodeStatus : (conn : Nat) → (name : Value) → NodeStatus → Step σ Unit
  databaseName : Step σ Value
  schemaTool : Step σ tool
  checkVersion : tool → Step σ Unit
  dump : tool → (snapshot : Value) → (archive : String) → (dsn : Value) → Step σ Unit
  restore : tool → (part archive : String) → (dsn : Value) → Step σ Unit
  createSlot : (conn : Nat) → (name : String) → Step σ Slot
  provisionOrigin : Slot → Step σ Unit
  makeOtherSlots : (target : Value) → Step σ Unit
  copyNodeData : (snapshot : Value) → Step σ Unit
  connect : Session.Purpose → (dsn : Value) → (application : String) → Step σ Nat
  close : (conn : Nat) → Step σ Unit
  checkInterrupts : Step σ Unit
  log : Level → String → Step σ Unit

end ReplicaBootstrap
