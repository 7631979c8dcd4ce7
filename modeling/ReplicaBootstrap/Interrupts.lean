import ReplicaBootstrap.Action
import ReplicaBootstrap.Event

/-! # Interrupts

The two signals that ask the program to stop are turned into a request, which long running work
looks at between its steps.
-/

namespace ReplicaBootstrap

structure Interrupts where
  /-- whether the program has asked to be told of the signals -/
  watched : Bool := false
  requested : Bool := false
  deriving DecidableEq, Repr, Inhabited

namespace Interrupts

def watching : Interrupts := ⟨true, false⟩

def stops (number : Int) : Bool := number = 2 || number = 15

/-- Whether a signal reaches the program. -/
def reacts (i : Interrupts) (number : Int) : Bool := i.watched && stops number

def receive (i : Interrupts) (number : Int) : Interrupts :=
  if i.reacts number then { i with requested := true } else i

def notice (number : Int) : String := s!"received signal {number}, cancelling initialization"

def cancelled : Fault := .init .cancelled "node initialization cancelled by user request"

def check (i : Interrupts) : Except Fault Unit :=
  if i.requested then .error cancelled else .ok ()

@[simp] theorem check_watching : check watching = .ok () := rfl

theorem reacts_iff {i : Interrupts} {number : Int} :
    i.reacts number = true ↔ i.watched = true ∧ (number = 2 ∨ number = 15) := by
  simp [reacts, stops]

theorem requested_receive {i : Interrupts} {number : Int} (h : i.requested = true) :
    (i.receive number).requested = true := by
  unfold receive
  split <;> simp [h]

end Interrupts

end ReplicaBootstrap
