import ReplicaBootstrap.Clock
import ReplicaBootstrap.Host
import ReplicaBootstrap.Interrupts
import ReplicaBootstrap.Journal

/-! # The site

All that the program works with: servers and commands that answer from scripts, files, the clock and
the signals. What happens is recorded in order.
-/

namespace ReplicaBootstrap

structure Server where
  script : Script := []
  /-- the statement of the copy in progress -/
  copying : Option String := none
  /-- how the latest copy is named in messages -/
  described : Option String := none
  deriving Repr, Inhabited

structure Site where
  host : Host := {}
  servers : List Server := []
  connections : Nat := 0
  commands : Script := []
  clock : Clock := {}
  interrupts : Interrupts := {}
  /-- tools whose version has been found right, with their paths -/
  verifiedTools : List (String × String) := []
  journal : Array Entry := #[]
  deriving Repr, Inhabited

namespace Site

/-- The server at a place of a list; beyond its end stand servers with empty scripts. -/
def serverAt (servers : List Server) (i : Nat) : Server := (servers[i]?).getD {}

def setServerAt : List Server → Nat → Server → List Server
  | servers, 0, s => s :: servers.tail
  | servers, i + 1, s => (servers.head?.getD {}) :: setServerAt servers.tail i s

@[simp] theorem serverAt_setServerAt (servers : List Server) (i j : Nat) (s : Server) :
    serverAt (setServerAt servers i s) j = if j = i then s else serverAt servers j := by
  induction i generalizing servers j with
  | zero =>
    cases j with
    | zero => simp [setServerAt, serverAt]
    | succ j => cases servers <;> simp [setServerAt, serverAt]
  | succ i ih =>
    cases j with
    | zero => cases servers <;> simp [setServerAt, serverAt]
    | succ j =>
      have := ih servers.tail j
      cases servers <;> simp_all [setServerAt, serverAt]

def server (w : Site) (i : Nat) : Server := serverAt w.servers i

def setServer (w : Site) (i : Nat) (s : Server) : Site :=
  { w with servers := setServerAt w.servers i s }

@[simp] theorem server_setServer (w : Site) (i j : Nat) (s : Server) :
    (w.setServer i s).server j = if j = i then s else w.server j :=
  serverAt_setServerAt w.servers i j s

def record (w : Site) (x : Entry) : Site := { w with journal := w.journal.push x }

def events (w : Site) : Array Event := w.journal.filterMap Entry.event?

@[simp] theorem journal_record (w : Site) (x : Entry) :
    (w.record x).journal.toList = w.journal.toList ++ [x] := by
  simp [record]

@[simp] theorem server_record (w : Site) (x : Entry) (i : Nat) :
    (w.record x).server i = w.server i := rfl

def pending (w : Site) : Nat := w.servers.foldl (fun n s => n + s.script.pending) 0

end Site

def emit (e : Event) : Action Site Unit := modify (·.record (.event e))

def log (level : Level) (text : String) : Action Site Unit := emit (.log { level, text })

/-- A signal arrives; if the program watches for it, it notes the wish to stop. -/
def deliver (number : Int) : Action Site Unit := do
  emit (.signal number)
  let i := (← get).interrupts
  if i.reacts number then
    log .warning (Interrupts.notice number)
    modify fun w => { w with interrupts := i.receive number }

/-- What a reply does before it is used: its signal arrives, then its fault stops the action. -/
def resolve (reply : Reply) : Action Site Reply := do
  if let some number := reply.signal then deliver number
  match reply.fault with
  | some f => throw f
  | none => return reply

def request (conn : Nat) (e : Event) (text : String) : Action Site Reply := do
  let s := (← get).server conn
  let (reply, script) := s.script.answer text
  modify fun w => (w.record (.exchange e reply)).setServer conn { s with script }
  resolve reply

def checkInterrupts : Action Site Unit := do
  let i := (← get).interrupts
  modify (·.record (.check i.requested))
  Action.ofExcept i.check

def readClock : Action Site Reading :=
  modifyGet fun w => let (r, clock) := w.clock.tick; (r, { w with clock })

end ReplicaBootstrap
