import Mathlib.Data.Finset.Insert
import ReplicaBootstrap.Catalog
import ReplicaBootstrap.Copy.NodeData
import ReplicaBootstrap.Proofs.Site
import ReplicaBootstrap.Slot.Provision
import ReplicaBootstrap.Tool.Schema

/-! # Work on open connections

What sessions, the catalog, slots, tools and streams do while some connections are held: they use
these and no other one, and neither open nor close any.
-/

namespace ReplicaBootstrap

open ReplicaBootstrap.Action

/-- The connection that an event is about. -/
def Event.conn? : Event → Option Nat
  | .connect conn _ _ | .execute conn _ _ | .beginTransaction conn | .commit conn | .rollback conn
  | .openCursor conn | .closeCursor conn | .startCopy conn _ | .endCopy conn | .abortCopy conn _
  | .read conn | .write conn _ | .close conn => some conn
  | .openedFile _ | .run _ | .signal _ | .log _ | .printed _ => none

/-- Whether an event neither opens nor closes a connection. -/
def Event.isUse : Event → Bool
  | .connect _ _ _ | .close _ => false
  | _ => true

/-- An event about a connection is the use of one that is held. -/
def Event.Fits (held : Finset Nat) (e : Event) : Prop :=
  ∀ conn, e.conn? = some conn → conn ∈ held ∧ e.isUse = true

def Entry.Fits (held : Finset Nat) (x : Entry) : Prop := ∀ e, x.event? = some e → e.Fits held

variable {α : Type} {held : Finset Nat} {P : Site → Prop} {conn : Nat}

theorem Event.fits_of_mem {e : Event} (h : conn ∈ held) (hConn : e.conn? = some conn)
    (hUse : e.isUse = true) : e.Fits held := by
  intro c hc
  rw [hConn] at hc
  cases hc
  exact ⟨h, hUse⟩

theorem Event.fits_of_none {e : Event} (h : e.conn? = none) : e.Fits held := by
  intro c hc
  rw [h] at hc
  cases hc

/-- What stays true while only held connections are used. -/
structure Lasting (held : Finset Nat) (P : Site → Prop) : Prop where
  record : ∀ w x, x.Fits held → P w → P (w.record x)
  silent : ∀ w w', w'.journal = w.journal → w'.connections = w.connections → P w → P w'

theorem Lasting.and {Q : Site → Prop} (hP : Lasting held P) (hQ : Lasting held Q) :
    Lasting held fun w => P w ∧ Q w where
  record w x hx h := ⟨hP.record w x hx h.1, hQ.record w x hx h.2⟩
  silent w w' hJournal hConnections h :=
    ⟨hP.silent w w' hJournal hConnections h.1, hQ.silent w w' hJournal hConnections h.2⟩

theorem Lasting.given {p : Prop} (hP : Lasting held P) : Lasting held fun w => p → P w where
  record w x hx h hp := hP.record w x hx (h hp)
  silent w w' hJournal hConnections h hp := hP.silent w w' hJournal hConnections (h hp)

namespace Site

/-! ## Single steps -/

section

variable (hP : Lasting held P) {bad : Fault → Site → Prop}

include hP

theorem uses_emit {e : Event} (h : e.Fits held) : Meets P (emit e) (fun _ => P) bad := by
  apply meets_modify
  intro w hw
  apply hP.record w _ _ hw
  rintro _ ⟨⟩
  exact h

theorem uses_log (level : Level) (text : String) : Meets P (log level text) (fun _ => P) bad :=
  uses_emit hP (Event.fits_of_none rfl)

theorem uses_modify {f : Site → Site} (hJournal : ∀ w, (f w).journal = w.journal)
    (hConnections : ∀ w, (f w).connections = w.connections) :
    Meets P (modify f : Action Site PUnit) (fun _ => P) bad :=
  meets_modify fun w => hP.silent w (f w) (hJournal w) (hConnections w)

theorem uses_deliver (number : Int) : Meets P (deliver number) (fun _ => P) bad := by
  refine Undisturbed.deliver ⟨fun w e he h => ?_, fun w i h => hP.silent w _ rfl rfl h⟩ number
  apply hP.record w _ _ h
  rintro _ ⟨⟩
  rcases he with ⟨number, rfl⟩ | ⟨x, rfl⟩ <;> exact Event.fits_of_none rfl

theorem uses_checkInterrupts : Keeps P checkInterrupts := by
  unfold checkInterrupts
  apply keeps_bind keeps_get
  intro w
  apply keeps_bind
  · exact keeps_modify fun w hw => hP.record w _ (fun _ h => by cases h) hw
  · exact fun _ => keeps_ofExcept

end

/-! ## Requests -/

theorem uses_request (hP : Lasting held P) (server : Nat) {e : Event} (text : String)
    (h : e.Fits held) : Keeps P (request server e text) := by
  have hFits (r : Reply) : (Entry.exchange e r).Fits held := by
    rintro _ ⟨⟩
    exact h
  have hRequest := meets_request (P := P) (Q := fun _ => P) server e text
    (fun r s w hw => hP.silent (w.record (.exchange e r)) _ rfl rfl (hP.record w _ (hFits r) hw))
    (fun _ number => uses_deliver hP number)
  exact hRequest.weaken (fun _ h => h) (fun _ _ h => h.2) (fun _ _ ⟨_, h⟩ => h.2)

end Site

open Site

/-! ## Sessions -/

namespace Session

section

variable (hP : Lasting held P) (hConn : conn ∈ held)

include hP hConn

theorem uses_execute (query : String) (params : Option (List Value)) :
    Keeps P (execute conn query params) :=
  uses_request hP conn query (Event.fits_of_mem hConn rfl rfl)

theorem uses_transaction {body : Action Site α} (hBody : Keeps P body) :
    Keeps P (transaction conn body) := by
  unfold transaction
  apply keeps_bind (uses_request hP conn _ (Event.fits_of_mem hConn rfl rfl))
  intro _
  apply keeps_attempt_bind hBody
  rintro (f | a)
  · apply keeps_bind (uses_emit hP (Event.fits_of_mem hConn rfl rfl))
    exact fun _ => keeps_throw
  · apply keeps_bind (uses_request hP conn _ (Event.fits_of_mem hConn rfl rfl))
    exact fun _ => keeps_pure

end

theorem keeps_firstRow (reply : Reply) : Keeps P (firstRow reply) := by
  unfold firstRow
  split
  · exact keeps_pure
  · exact keeps_throw

end Session

open Session

/-! ## The catalog -/

namespace Catalog

variable (hP : Lasting held P) (hConn : conn ∈ held)

include hP hConn

theorem uses_node (extension : String) (name : Value) : Keeps P (node conn extension name) := by
  unfold node nodeTable
  apply keeps_bind keeps_ofExcept
  intro table
  apply keeps_bind (keeps_onDriverFault (uses_execute hP hConn _ _))
  intro reply
  split
  · exact keeps_throw
  · exact keeps_ofExcept

theorem uses_nodeStatus (extension : String) (id : Value) :
    Keeps P (nodeStatus conn extension id) := by
  unfold nodeStatus nodeTable
  apply keeps_bind keeps_ofExcept
  intro table
  apply keeps_bind (keeps_onDriverFault (uses_execute hP hConn _ _))
  intro reply
  split
  · exact keeps_throw
  · exact keeps_bind keeps_ofExcept fun _ => keeps_pure

theorem uses_updateOne (query : String) (params : List Value) (missing : Fault) :
    Keeps P (updateOne conn query params missing) := by
  apply uses_transaction hP hConn
  apply keeps_bind (uses_execute hP hConn _ _)
  intro reply
  split
  · exact keeps_throw
  · exact keeps_pure

theorem uses_setNodeStatus (extension : String) (id : Value) (status : NodeStatus) :
    Keeps P (setNodeStatus conn extension id status) := by
  apply keeps_bind keeps_ofExcept
  exact fun _ => keeps_onDriverFault (uses_updateOne hP hConn _ _ _)

theorem uses_setRemoteNodeStatus (extension : String) (name : Value) (status : NodeStatus) :
    Keeps P (setRemoteNodeStatus conn extension name status) := by
  apply keeps_bind keeps_ofExcept
  exact fun _ => keeps_onDriverFault (uses_updateOne hP hConn _ _ _)

theorem uses_ask (query what : String) : Keeps P (ask conn query what) := by
  unfold ask
  apply keeps_bind (keeps_onDriverFault (uses_execute hP hConn _ _))
  intro reply
  exact keeps_bind (keeps_firstRow reply) fun _ => keeps_ofExcept

theorem uses_databaseName : Keeps P (databaseName conn) := uses_ask hP hConn _ _

theorem uses_serverVersion : Keeps P (serverVersion conn) :=
  keeps_bind (uses_ask hP hConn _ _) fun _ => keeps_ofExcept

end Catalog

/-! ## Slots and origins -/

namespace SlotProvision

variable (hP : Lasting held P)

include hP

theorem uses_createSlot (hConn : conn ∈ held) (plugin name : String) :
    Keeps P (createSlot conn plugin name) := by
  unfold createSlot
  apply keeps_bind (keeps_onDriverFault (uses_execute hP hConn _ _))
  intro reply
  split
  · exact keeps_throw
  · apply keeps_bind keeps_ofExcept
    intro slot
    exact keeps_bind (uses_log hP _ _) fun _ => keeps_pure

theorem uses_lookUpOrCreate (hConn : conn ∈ held) (name : Value) :
    Keeps P (lookUpOrCreate conn name) := by
  unfold lookUpOrCreate
  apply keeps_bind (uses_execute hP hConn _ _)
  intro found
  split
  · exact keeps_bind (uses_log hP _ _) fun _ => keeps_pure
  · apply keeps_bind (uses_execute hP hConn _ _)
    intro created
    apply keeps_bind (keeps_firstRow created)
    intro row
    apply keeps_bind keeps_ofExcept
    intro id
    exact keeps_bind (uses_log hP _ _) fun _ => keeps_pure

theorem uses_advanceOrigin (hConn : conn ∈ held) (name : Value) (lsn : String) :
    Keeps P (advanceOrigin conn name lsn) := by
  apply keeps_bind (keeps_onDriverFault (uses_execute hP hConn _ _))
  exact fun _ => uses_log hP _ _

theorem uses_provisionOrigin (hConn : conn ∈ held) (slot : Slot) :
    Keeps P (provisionOrigin conn slot) := by
  apply uses_transaction hP hConn
  apply keeps_bind (keeps_onDriverFault (uses_lookUpOrCreate hP hConn _))
  intro id
  exact keeps_bind (uses_advanceOrigin hP hConn _ _) fun _ => keeps_pure

theorem uses_makeOtherSlots (target : Value) : Keeps P (makeOtherSlots target) :=
  keeps_bind (uses_log hP _ _) fun _ => keeps_pure

end SlotProvision

/-! ## Schema tools -/

namespace SchemaTool

theorem keeps_findDirectory (tool : SchemaTool) : Keeps P tool.findDirectory := by
  unfold findDirectory
  split
  · apply keeps_bind keeps_get
    intro w
    dsimp only
    split
    · exact keeps_throw
    · exact keeps_pure
  · exact keeps_pure

variable (hP : Lasting held P)

include hP

theorem uses_runCommand (command : List String) : Keeps P (runCommand command) := by
  unfold runCommand
  apply keeps_bind keeps_get
  intro q
  dsimp only
  generalize q.commands.answer (" ".intercalate command) = answer
  obtain ⟨reply, commands⟩ := answer
  have hFits : (Entry.exchange (.run command) reply).Fits held := by
    rintro _ ⟨⟩
    exact Event.fits_of_none rfl
  apply keeps_bind
  · apply keeps_modify
    exact fun w hw => hP.silent (w.record (.exchange (.run command) reply)) _ rfl rfl
      (hP.record w _ hFits hw)
  intro _
  apply (meets_resolve (fun _ _ h => h) fun number _ => uses_deliver hP number).weaken (fun _ h => h)
  · exact fun _ _ h => h.2.2
  · exact fun _ _ h => h.2

theorem uses_explainedCommand (command : List String) (explain : Fault → Fault) :
    Keeps P (onSystemFault (runCommand command) explain) := by
  apply keeps_attempt_bind (uses_runCommand hP command)
  rintro (f | a)
  · exact keeps_throw
  · exact keeps_pure

theorem uses_probe (path : String) : Keeps P (probe path) := by
  unfold probe
  apply keeps_bind (uses_explainedCommand hP _ _)
  intro reply
  dsimp only
  -- the answer is read the same way whether the exit code let it be parsed or not
  split
  · apply keeps_bind keeps_ofExcept
    rintro (_ | version)
    · exact keeps_throw
    · exact keeps_pure
  · apply keeps_bind keeps_pure
    rintro (_ | version)
    · exact keeps_throw
    · exact keeps_pure

theorem uses_find (tool : SchemaTool) (name : String) : Keeps P (tool.find name) := by
  unfold find
  apply keeps_bind keeps_get
  intro w
  split
  · exact keeps_pure
  apply keeps_bind (keeps_findDirectory tool)
  intro directory
  apply keeps_bind keeps_get
  intro w'
  dsimp only
  split
  · exact keeps_throw
  apply keeps_bind (uses_probe hP _)
  intro version
  split
  · exact keeps_throw
  apply keeps_bind (uses_log hP _ _)
  intro _
  apply keeps_bind
  · exact uses_modify hP (fun _ => rfl) (fun _ => rfl)
  · exact fun _ => keeps_pure

theorem uses_checkVersion (tool : SchemaTool) : Keeps P tool.checkVersion := by
  apply keeps_bind (uses_find hP tool _)
  intro _
  exact keeps_bind (uses_find hP tool _) fun _ => keeps_pure

theorem uses_run (command : List String) (dsn : Value) : Keeps P (run command dsn) := by
  unfold run
  apply keeps_bind keeps_ofExcept
  intro shown
  apply keeps_bind (uses_log hP _ _)
  intro _
  apply keeps_bind (uses_explainedCommand hP _ _)
  intro reply
  split
  · exact keeps_throw
  · exact keeps_pure

theorem uses_dump (tool : SchemaTool) (snapshot : Value) (archive : String) (source : Value) :
    Keeps P (tool.dump snapshot archive source) := by
  unfold dump
  apply keeps_bind (uses_find hP tool _)
  intro path
  split
  · exact uses_run hP _ _
  · exact keeps_throw

theorem uses_restore (tool : SchemaTool) (part archive : String) (target : Value) :
    Keeps P (tool.restore part archive target) := by
  unfold restore
  dsimp only
  split
  · exact keeps_throw
  apply keeps_bind (uses_find hP tool _)
  intro path
  split
  · exact uses_run hP _ _
  · exact keeps_throw

end SchemaTool

/-! ## Copies -/

/-- Whether a request neither starts nor ends a copy. -/
def Event.isPlain : Event → Bool
  | .startCopy _ _ | .endCopy _ | .abortCopy _ _ => false
  | _ => true

namespace Copy

/-- What stays true while copies are made over held connections. Once a copy has ended, or the driver
has refused to start it, the closing of its cursor is owed. -/
structure Streaming (held : Finset Nat) (P : Site → Prop) (owing : Nat → Site → Prop) : Prop where
  silent : ∀ w w', w'.journal = w.journal → w'.connections = w.connections →
    w'.interrupts = w.interrupts → P w → P w'
  log : ∀ level text, Keeps P (log level text)
  check : Keeps P checkInterrupts
  plain : ∀ conn ∈ held, ∀ e text, e.conn? = some conn → e.isUse = true → e.isPlain = true →
    Keeps P (request conn e text)
  start : ∀ conn ∈ held, ∀ query, Meets P (request conn (.startCopy conn query) query)
    (fun _ => P) (fun f => if f.isDriver then owing conn else P)
  finish : ∀ conn ∈ held, ∀ text, Meets P (request conn (.endCopy conn) text)
    (fun _ => owing conn) (fun _ => owing conn)
  abort : ∀ conn ∈ held, ∀ cause text, Meets P (request conn (.abortCopy conn cause) text)
    (fun _ => owing conn) (fun _ => owing conn)
  close : ∀ conn ∈ held,
    Meets (owing conn) (emit (.closeCursor conn)) (fun _ => P) (fun _ => P)

end Copy

theorem Lasting.streaming (hP : Lasting held P) : Copy.Streaming held P fun _ => P where
  silent w w' hJournal hConnections _ := hP.silent w w' hJournal hConnections
  log level text := uses_log hP level text
  check := uses_checkInterrupts hP
  plain conn hConn e text hServer hUse _ :=
    uses_request hP conn text (Event.fits_of_mem hConn hServer hUse)
  start conn hConn query := by
    simp only [ite_self]
    exact uses_request hP conn query (Event.fits_of_mem hConn rfl rfl)
  finish conn hConn text := uses_request hP conn text (Event.fits_of_mem hConn rfl rfl)
  abort conn hConn cause text := uses_request hP conn text (Event.fits_of_mem hConn rfl rfl)
  close conn hConn := uses_emit hP (Event.fits_of_mem hConn rfl rfl)

namespace Copy

variable {origin target : Nat} {owing : Nat → Site → Prop} (hP : Streaming held P owing)

include hP

theorem uses_clock : Keeps P readClock := fun w => hP.silent w _ rfl rfl rfl

theorem uses_setServer {f : Site → Server} :
    Keeps P (modify fun w => w.setServer conn (f w) : Action Site PUnit) :=
  keeps_modify fun w => hP.silent w _ rfl rfl rfl

section

variable (hConn : conn ∈ held)

include hConn

theorem uses_beginOrigin (snapshot : Value) : Keeps P (beginOrigin conn snapshot) := by
  unfold beginOrigin
  apply keeps_bind
  · apply keeps_onDriverFault
    exact keeps_bind keeps_ofExcept fun _ => hP.plain conn hConn _ _ rfl rfl rfl
  · exact fun _ => hP.log _ _

theorem uses_beginTarget : Keeps P (beginTarget conn) := by
  apply keeps_bind (keeps_onDriverFault (hP.plain conn hConn _ _ rfl rfl rfl))
  exact fun _ => hP.log _ _

theorem uses_finishOrigin : Keeps P (finishOrigin conn) := by
  apply keeps_tolerating
  · exact keeps_bind (hP.plain conn hConn _ _ rfl rfl rfl) fun _ => keeps_pure
  · exact fun _ => hP.log _ _

theorem uses_finishTarget : Keeps P (finishTarget conn) := by
  apply keeps_bind (keeps_onDriverFault (hP.plain conn hConn _ _ rfl rfl rfl))
  exact fun _ => keeps_pure

theorem uses_tables (sets : List String) (extension : String) :
    Keeps P (tables conn sets extension) := by
  unfold tables
  apply keeps_bind keeps_ofExcept
  intro name
  dsimp only
  apply keeps_bind (keeps_onDriverFault (hP.plain conn hConn _ _ rfl rfl rfl))
  exact fun _ => keeps_ofExcept

theorem uses_closing {k : Unit → Action Site α} (hk : Keeps P (k ())) :
    Meets (owing conn) (emit (.closeCursor conn) >>= k) (fun _ => P) (fun _ => P) := by
  apply meets_bind (m := fun _ => P) (hP.close conn hConn)
  exact fun _ => hk

theorem uses_start (direction : Direction) (t : Table) : Keeps P (start conn direction t) := by
  unfold start
  apply keeps_bind keeps_ofExcept
  intro query
  dsimp only
  apply keeps_bind (uses_setServer hP)
  intro _
  apply keeps_bind (keeps_onDriverFault (hP.plain conn hConn _ _ rfl rfl rfl))
  intro _
  apply meets_attempt_bind (hP.start conn hConn query)
  · exact fun _ => uses_setServer hP
  · intro f
    dsimp only
    split
    · exact uses_closing hP hConn keeps_throw
    · exact keeps_throw

theorem uses_nextChunk : Keeps P (nextChunk conn) := by
  unfold nextChunk
  apply keeps_bind keeps_get
  intro w
  split
  · exact keeps_throw
  · apply keeps_bind
    · exact keeps_onDriverFault (hP.plain conn hConn _ _ rfl rfl rfl)
    · exact fun _ => keeps_pure

theorem uses_writeChunk (data : List UInt8) : Keeps P (writeChunk conn data) := by
  unfold writeChunk
  apply keeps_bind keeps_get
  intro w
  split
  · exact keeps_throw
  · apply keeps_bind
    · exact keeps_onDriverFault (hP.plain conn hConn _ _ rfl rfl rfl)
    · exact fun _ => keeps_pure

theorem uses_finish : Keeps P (finish conn) := by
  unfold finish
  apply keeps_bind keeps_get
  intro w
  dsimp only
  split
  · exact keeps_pure
  apply keeps_bind (uses_setServer hP)
  intro _
  apply meets_attempt_bind (hP.finish conn hConn _)
  · exact fun _ => uses_closing hP hConn keeps_pure
  · intro f
    apply uses_closing hP hConn
    dsimp only
    split
    · exact keeps_throw
    · exact keeps_throw

theorem uses_abort (cause : Fault) : Keeps P (abort conn cause) := by
  unfold abort
  apply keeps_bind keeps_get
  intro w
  dsimp only
  split
  · exact keeps_pure
  apply keeps_bind (uses_setServer hP)
  intro _
  have hNote (ended : Except Fault Reply) (note : Fault → Action Site Unit)
      (hNote : ∀ f, Keeps P (note f)) :
      Keeps P (Action.tolerating (do let _ ← Action.ofExcept ended) note) :=
    keeps_tolerating (keeps_bind keeps_ofExcept fun _ => keeps_pure) hNote
  apply meets_attempt_bind (hP.abort conn hConn _ _)
  · exact fun _ => uses_closing hP hConn (hNote _ _ fun _ => hP.log _ _)
  · exact fun _ => uses_closing hP hConn (hNote _ _ fun _ => hP.log _ _)

end

variable (hOrigin : origin ∈ held) (hTarget : target ∈ held)

include hOrigin hTarget

theorem uses_relayFor (rounds : Nat) (stats : Stats) :
    Keeps P (relayFor origin target rounds stats) := by
  induction rounds generalizing stats with
  | zero => exact keeps_throw
  | succ rounds ih =>
    unfold relayFor
    apply keeps_bind (uses_nextChunk hP hOrigin)
    intro data
    split
    · exact keeps_pure
    apply keeps_bind (uses_writeChunk hP hTarget data)
    intro _
    exact keeps_bind hP.check fun _ => ih _

theorem uses_relay : Keeps P (relay origin target) := by
  unfold relay
  apply keeps_bind keeps_get
  intro w
  dsimp only
  apply keeps_bind (uses_relayFor hP hOrigin hTarget _ _)
  intro stats
  exact keeps_bind (uses_finish hP hOrigin) fun _ => keeps_pure

theorem uses_openBoth (t : Table) : Keeps P (openBoth origin target t) := by
  unfold openBoth
  apply keeps_bind (uses_start hP hOrigin _ _)
  intro _
  apply keeps_attempt_bind (uses_start hP hTarget _ _)
  rintro (f | a)
  · exact keeps_bind (uses_abort hP hOrigin _) fun _ => keeps_throw
  · exact keeps_pure

theorem uses_table (t : Table) : Keeps P (table origin target t) := by
  unfold table
  apply keeps_bind (hP.log _ _)
  intro _
  apply keeps_bind (uses_clock hP)
  intro begun
  apply keeps_bind (uses_openBoth hP hOrigin hTarget t)
  intro _
  apply keeps_attempt_bind (uses_relay hP hOrigin hTarget)
  rintro (f | stats)
  · apply keeps_bind (uses_abort hP hOrigin _)
    intro _
    exact keeps_bind (uses_abort hP hTarget _) fun _ => keeps_throw
  · apply keeps_bind (uses_finish hP hTarget)
    intro _
    apply keeps_bind (uses_clock hP)
    intro ended
    exact keeps_bind (hP.log _ _) fun _ => keeps_pure

theorem uses_eachTable (ts : List Table) (bytes : Nat) :
    Keeps P (eachTable origin target ts bytes) := by
  induction ts generalizing bytes with
  | nil => exact keeps_pure
  | cons t rest ih =>
    unfold eachTable
    apply keeps_bind (uses_table hP hOrigin hTarget t)
    intro stats
    exact keeps_bind hP.check fun _ => ih _

theorem uses_transfer (ts : List Table) : Keeps P (transfer origin target ts) := by
  unfold transfer
  apply keeps_bind (uses_beginTarget hP hTarget)
  intro _
  apply keeps_bind (uses_eachTable hP hOrigin hTarget ts 0)
  intro bytes
  apply keeps_bind (uses_finishOrigin hP hOrigin)
  intro _
  apply keeps_bind (uses_finishTarget hP hTarget)
  exact fun _ => hP.log _ _

end Copy

end ReplicaBootstrap
