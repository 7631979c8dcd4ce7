import ReplicaBootstrap.Fault
import ReplicaBootstrap.Text.LowerCase
import ReplicaBootstrap.Value

/-! # Role of a node -/

namespace ReplicaBootstrap

inductive NodeRole where
  | provider
  | subscriber
  | forwarder
  deriving DecidableEq, Repr, Inhabited

namespace NodeRole

def all : List NodeRole := [provider, subscriber, forwarder]

def name : NodeRole → String
  | provider => "PROVIDER"
  | subscriber => "SUBSCRIBER"
  | forwarder => "FORWARDER"

def code : NodeRole → String
  | provider => "p"
  | subscriber => "s"
  | forwarder => "f"

/-- Whether `v` names the role, by its character or by its name in any case. -/
def matchesValue (v : Value) (r : NodeRole) : Bool :=
  v.text? == some r.code || Text.lowerCase r.name == Text.lowerCase v.plain

def unknownRole (v : Value) : Fault :=
  .host .badValue s!"unknown node role {v.quoted}"

def ofValue (v : Value) : Except Fault NodeRole :=
  match all.find? (matchesValue v) with
  | some r => .ok r
  | none => .error (unknownRole v)

end NodeRole

end ReplicaBootstrap
