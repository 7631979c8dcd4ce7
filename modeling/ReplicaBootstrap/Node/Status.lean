import ReplicaBootstrap.Text.LowerCase
import ReplicaBootstrap.Value

/-! # Status of a node

The stages of an initialisation in their order, the character that the catalog keeps for each, and
which of them are ever kept.
-/

namespace ReplicaBootstrap

inductive NodeStatus where
  | init
  | syncSchema
  | slots
  | catchup
  | connectBack
  | ready
  | unknown
  deriving DecidableEq, Repr, Inhabited

namespace NodeStatus

def all : List NodeStatus := [init, syncSchema, slots, catchup, connectBack, ready, unknown]

def name : NodeStatus → String
  | init => "INIT"
  | syncSchema => "SYNC_SCHEMA"
  | slots => "SLOTS"
  | catchup => "CATCHUP"
  | connectBack => "CONNECT_BACK"
  | ready => "READY"
  | unknown => "UNKNOWN"

def code : NodeStatus → String
  | init => "i"
  | syncSchema => "s"
  | slots => "o"
  | catchup => "c"
  | connectBack => "b"
  | ready => "r"
  | unknown => "?"

/-- The place in the forward order; an unknown status comes before all. -/
def rank : NodeStatus → Int
  | init => 0
  | syncSchema => 1
  | slots => 2
  | catchup => 3
  | connectBack => 4
  | ready => 5
  | unknown => -1

/-- Synchronising the schema is a stage in memory only. -/
def isPersisted : NodeStatus → Bool
  | syncSchema | unknown => false
  | _ => true

def isRecoverable : NodeStatus → Bool
  | init | slots | catchup | connectBack => true
  | _ => false

/-- The next status that is kept after a kept one. -/
def next? : NodeStatus → Option NodeStatus
  | init => some slots
  | slots => some catchup
  | catchup => some connectBack
  | connectBack => some ready
  | _ => none

/-- Whether `v` names the status, by its character or by its name in any case. -/
def matchesValue (v : Value) (s : NodeStatus) : Bool :=
  v.text? == some s.code || Text.lowerCase s.name == Text.lowerCase v.plain

/-- Reads a cell of the catalog; what is no status is `unknown`. -/
def ofValue (v : Value) : NodeStatus :=
  (all.find? (matchesValue v)).getD unknown

theorem isPersisted_of_next?_eq {s t : NodeStatus} (h : s.next? = some t) :
    s.isPersisted = true ∧ t.isPersisted = true := by
  cases s <;> simp [next?] at h <;> subst h <;> decide

theorem isPersisted_of_isRecoverable {s : NodeStatus} (h : s.isRecoverable = true) :
    s.isPersisted = true := by
  cases s <;> first | rfl | cases h

end NodeStatus

end ReplicaBootstrap
