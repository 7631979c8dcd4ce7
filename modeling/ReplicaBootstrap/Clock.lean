import ReplicaBootstrap.Number.Binary64

/-! # The clock

Readings of the clock, whole or not, one after the other; the last one stays.
-/

namespace ReplicaBootstrap

inductive Reading where
  | whole (n : Int)
  | real (x : Binary64)
  deriving DecidableEq, Repr

namespace Reading

def toReal : Reading → Binary64
  | whole n => .ofInt n
  | real x => x

def since (later earlier : Reading) : Binary64 :=
  match later, earlier with
  | whole m, whole n => .ofInt (m - n)
  | _, _ => .ofFloat (later.toReal.toFloat - earlier.toReal.toFloat)

end Reading

structure Clock where
  next : List Reading := []
  last : Reading := .real (.ofInt 0)
  deriving Repr, Inhabited

def Clock.tick (c : Clock) : Reading × Clock :=
  match c.next with
  | [] => (c.last, c)
  | r :: rest => (r, ⟨rest, r⟩)

end ReplicaBootstrap
