import ReplicaBootstrap.Event
import ReplicaBootstrap.Script

/-! # The journal

What happens at a site is kept in order: a request together with its reply, a look at the wish to
stop together with what it saw.
-/

namespace ReplicaBootstrap

inductive Entry where
  | event (e : Event)
  | exchange (request : Event) (reply : Reply)
  /-- a look at whether the work is to stop -/
  | check (requested : Bool)
  deriving Repr

def Entry.event? : Entry → Option Event
  | .event e | .exchange e _ => some e
  | .check _ => none

end ReplicaBootstrap
