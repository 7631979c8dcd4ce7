import ReplicaBootstrap.Node
import ReplicaBootstrap.Session

/-! # Copy streams

One COPY at a time on a connection: opening it for reading or for writing, moving chunks, and ending
it, either well or because of a fault.
-/

namespace ReplicaBootstrap.Copy

open Session

inductive Direction where
  | fromServer
  | toServer
  deriving DecidableEq, Repr

def Direction.clause : Direction → String
  | .fromServer => " TO STDOUT"
  | .toServer => " FROM STDIN"

def statement (direction : Direction) (t : Table) : Except Fault String := do
  let name ← Sql.identifier [t.schema, t.name]
  return "COPY " ++ name ++ direction.clause

def description (direction : Direction) (t : Table) : String :=
  "COPY " ++ t.text ++ direction.clause

def setDescribed (conn : Nat) (text : String) : Action Site Unit :=
  modify fun w => w.setServer conn { w.server conn with described := some text }

def setCopying (conn : Nat) (query : Option String) : Action Site Unit :=
  modify fun w => w.setServer conn { w.server conn with copying := query }

def openFailed (text : String) (f : Fault) : Fault :=
  .init .copy s!"table copy failed, query '{text}': {f.text}"

/-- Opens a cursor and starts the copy on it. When the driver refuses the copy, the cursor is closed
again. -/
def start (conn : Nat) (direction : Direction) (t : Table) : Action Site Unit := do
  let query ← Action.ofExcept (statement direction t)
  let text := description direction t
  setDescribed conn text
  let _ ← (request conn (.openCursor conn) "<cursor>").onDriverFault (openFailed text)
  match ← Action.attempt (request conn (.startCopy conn query) query) with
  | .ok _ => setCopying conn (some query)
  | .error f =>
    if f.isDriver then
      emit (.closeCursor conn)
      throw (openFailed text f)
    else throw f

def notOpen (operation : String) : Fault :=
  .host .missingMember s!"'NoneType' object has no attribute '{operation}'"

/-- The next chunk; an empty one when the source is exhausted. -/
def nextChunk (conn : Nat) : Action Site (List UInt8) := do
  match ((← get).server conn).copying with
  | none => throw (notOpen "read")
  | some query =>
    let reply ← (request conn (.read conn) ("<read> " ++ query)).onDriverFault fun f =>
      .init .copy s!"reading from origin table failed: {f.text}"
    return reply.data

def writeChunk (conn : Nat) (data : List UInt8) : Action Site Unit := do
  match ((← get).server conn).copying with
  | none => throw (notOpen "write")
  | some query =>
    let _ ← (request conn (.write conn data) ("<write> " ++ query)).onDriverFault fun f =>
      .init .copy s!"writing to target table failed: {f.text}"

def describedText (s : Server) : String := s.described.getD "None"

def finish (conn : Nat) : Action Site Unit := do
  let s := (← get).server conn
  match s.copying with
  | none => return
  | some query =>
    setCopying conn none
    let ended ← Action.attempt (request conn (.endCopy conn) ("<end> " ++ query))
    emit (.closeCursor conn)
    match ended with
    | .ok _ => return
    | .error f =>
      if f.isDriver then
        throw (.init .copy s!"finishing copy of {describedText s} failed: {f.text}")
      else throw f

/-- Gives up the copy in progress, if any, because of `cause`; a complaint of the driver is only
logged. -/
def abort (conn : Nat) (cause : Fault) : Action Site Unit := do
  let s := (← get).server conn
  match s.copying with
  | none => return
  | some query =>
    setCopying conn none
    let ended ← Action.attempt (request conn (.abortCopy conn cause.kind) ("<abort> " ++ query))
    emit (.closeCursor conn)
    Action.tolerating (do let _ ← Action.ofExcept ended) fun f =>
      log .debug s!"error aborting copy {describedText s}: {f.text}"

end ReplicaBootstrap.Copy
