import ReplicaBootstrap.Conninfo
import ReplicaBootstrap.Session.Purpose
import ReplicaBootstrap.Site
import ReplicaBootstrap.Sql

/-! # Sessions

Work on one connection: opening it, running statements, transactions, closing it.
-/

namespace ReplicaBootstrap.Session

def connectTo (conninfo : String) : Action Site Nat := do
  let conn ← modifyGet fun w => (w.connections, { w with connections := w.connections + 1 })
  let _ ← request conn (.connect conn conninfo true) "<connect>"
  return conn

/-- Opens a connection. When the server refuses it, the failure is logged and told without the
password. -/
def connect (purpose : Purpose) (dsn : Value) (application : String) : Action Site Nat := do
  let conninfo ← Action.ofExcept (Conninfo.extend dsn (purpose.params application))
  match ← Action.attempt (connectTo conninfo) with
  | .ok conn => return conn
  | .error f =>
    if f.isDriver then
      let sentence := s!"could not connect to the postgresql server{purpose.suffix}: {f.text}"
      log .error sentence
      let masked ← Action.ofExcept (Conninfo.mask conninfo)
      throw (.init .connection s!"{sentence} (dsn was: {masked})")
    else throw f

def execute (conn : Nat) (query : String) (params : Option (List Value) := none) :
    Action Site Reply :=
  request conn (.execute conn query params) query

/-- Runs `body` in a transaction: it is committed when `body` succeeds, else rolled back. -/
def transaction {α : Type} (conn : Nat) (body : Action Site α) : Action Site α := do
  let _ ← request conn (.beginTransaction conn) "<begin>"
  match ← Action.attempt body with
  | .ok a =>
    let _ ← request conn (.commit conn) "<commit>"
    return a
  | .error f =>
    emit (.rollback conn)
    throw f

def close (conn : Nat) : Action Site Unit := do
  let _ ← request conn (.close conn) "<close>"

def closeQuietly (conn : Nat) : Action Site Unit :=
  (close conn).tolerating fun f => log .debug (closingNote f)

/-- The first row of a reply has to be there. -/
def firstRow (reply : Reply) : Action Site (List Value) :=
  match reply.rows with
  | row :: _ => pure row
  | [] => throw (.host .wrongType "'NoneType' object is not subscriptable")

def column (row : List Value) (i : Nat) : Except Fault Value :=
  match row[i]? with
  | some v => .ok v
  | none => .error (.host .missingItem "tuple index out of range")

end ReplicaBootstrap.Session
