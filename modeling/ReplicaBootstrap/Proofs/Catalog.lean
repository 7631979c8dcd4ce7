import ReplicaBootstrap.Initialiser.AtSite
import ReplicaBootstrap.Proofs.Session.Transaction

/-! # Statuses that are kept

The status of a node is changed in a transaction of its own, which is committed just if it changes one
row. In memory a status is taken on after that commit only.
-/

namespace ReplicaBootstrap

open ReplicaBootstrap.Action Site

namespace Catalog

variable {conn : Nat} {query missing what : String} {params : List Value} {explain : Fault → Fault}
  {w : Site}

/-! ## One row in a transaction -/

/-- What the fault of a request is told as: one of the driver is fatal for the run and says `what` went
wrong, and any other stays as it is. -/
inductive Fatal (what : String) (f : Fault) : Fault → Prop
  | driver {kind : DriverFault} (hKind : f.kind = .driver kind) :
      Fatal what f ⟨.init .fatal, what ++ ": " ++ f.text⟩
  | other (hKind : ∀ kind, f.kind ≠ .driver kind) : Fatal what f f

theorem fatal_explained (what : String) (f : Fault) :
    Fatal what f (if f.isDriver then explained what f else f) := by
  obtain ⟨kind, text⟩ := f
  cases kind with
  | driver kind => exact .driver rfl
  | init kind => exact .other nofun
  | host kind => exact .other nofun

/-- How changing one row ends, by the replies to what is asked for it. -/
inductive Updated (conn : Nat) (query : String) (params : List Value) (missing what : String) :
    Except Fault Unit → List Entry → Prop
  | unbegun {r : Reply} {f g : Fault} (hBegin : r.fault = some f) (hTold : Fatal what f g) :
      Updated conn query params missing what (.error g) [.exchange (.beginTransaction conn) r]
  | failed {r r' : Reply} {f g : Fault} (hBegin : r.fault = none) (hUpdate : r'.fault = some f)
      (hTold : Fatal what f g) :
      Updated conn query params missing what (.error g)
        [.exchange (.beginTransaction conn) r, .exchange (.execute conn query (some params)) r',
          .event (.rollback conn)]
  | miscounted {r r' : Reply} (hBegin : r.fault = none) (hUpdate : r'.fault = none)
      (hCount : r'.rowCount ≠ 1) :
      Updated conn query params missing what (.error ⟨.init .nodeMissing, missing⟩)
        [.exchange (.beginTransaction conn) r, .exchange (.execute conn query (some params)) r',
          .event (.rollback conn)]
  | uncommitted {r r' r'' : Reply} {f g : Fault} (hBegin : r.fault = none)
      (hUpdate : r'.fault = none) (hCount : r'.rowCount = 1) (hCommit : r''.fault = some f)
      (hTold : Fatal what f g) :
      Updated conn query params missing what (.error g)
        [.exchange (.beginTransaction conn) r, .exchange (.execute conn query (some params)) r',
          .exchange (.commit conn) r'']
  | committed {r r' r'' : Reply} (hBegin : r.fault = none) (hUpdate : r'.fault = none)
      (hCount : r'.rowCount = 1) (hCommit : r''.fault = none) :
      Updated conn query params missing what (.ok ())
        [.exchange (.beginTransaction conn) r, .exchange (.execute conn query (some params)) r',
          .exchange (.commit conn) r'']

inductive Counted (conn : Nat) (query : String) (params : List Value) (missing : Fault) :
    Except Fault Unit → List Entry → Prop
  | failed {r : Reply} {f : Fault} (hUpdate : r.fault = some f) :
      Counted conn query params missing (.error f) [.exchange (.execute conn query (some params)) r]
  | miscounted {r : Reply} (hUpdate : r.fault = none) (hCount : r.rowCount ≠ 1) :
      Counted conn query params missing (.error missing)
        [.exchange (.execute conn query (some params)) r]
  | one {r : Reply} (hUpdate : r.fault = none) (hCount : r.rowCount = 1) :
      Counted conn query params missing (.ok ()) [.exchange (.execute conn query (some params)) r]

theorem does_counted (conn : Nat) (query : String) (params : List Value) (missing : Fault) :
    Does
      (do
        let reply ← Session.execute conn query (some params)
        if reply.rowCount ≠ 1 then throw missing)
      w (Counted conn query params missing) := by
  apply does_bind (does_answered conn _ _)
  · rintro reply _ v ⟨hUpdate⟩
    by_cases hCount : reply.rowCount = 1
    · rw [if_neg (not_not.mpr hCount)]
      exact does_pure (.one hUpdate hCount)
    · rw [if_pos hCount]
      exact does_throw (.miscounted hUpdate hCount)
  · rintro f _ (_ | ⟨hUpdate⟩)
    exact .failed hUpdate

theorem Counted.updated {result : Except Fault Unit} {did : List Entry}
    (hExplain : ∀ f, Fatal what f (if f.isDriver then explain f else f))
    (h : Session.Transacted conn (Counted conn query params (.init .nodeMissing missing)) result did) :
    Updated conn query params missing what
      (result.mapError fun f => if f.isDriver then explain f else f) did := by
  cases h with
  | refused hBegin => exact .unbegun hBegin (hExplain _)
  | rolledBack hBegin hBody =>
    cases hBody with
    | failed hUpdate => exact .failed hBegin hUpdate (hExplain _)
    | miscounted hUpdate hCount => exact .miscounted hBegin hUpdate hCount
  | uncommitted hBegin hBody hCommit =>
    cases hBody with
    | one hUpdate hCount => exact .uncommitted hBegin hUpdate hCount hCommit (hExplain _)
  | committed hBegin hBody hCommit =>
    cases hBody with
    | one hUpdate hCount => exact .committed hBegin hUpdate hCount hCommit

theorem does_updateOne :
    Does ((updateOne conn query params (.init .nodeMissing missing)).onDriverFault (explained what)) w
      (Updated conn query params missing what) := by
  apply does_onDriverFault
  apply (Session.does_transaction fun v => does_counted conn query params _).weaken
  exact fun _ _ => Counted.updated (fatal_explained what)

theorem Updated.ok_iff {result : Except Fault Unit} {did : List Entry}
    (h : Updated conn query params missing what result did) :
    result = .ok () ↔ ∃ r, r.fault = none ∧ .exchange (.commit conn) r ∈ did := by
  cases h with
  | committed _ _ _ hCommit => simp [hCommit]
  | uncommitted _ _ _ hCommit => simp [hCommit]
  | _ => simp

/-! ## Other servers -/

variable {other : Nat} {server : Server} {fault : Fault}

theorem undisturbed_server (other : Nat) (server : Server) :
    Undisturbed fun w => w.server other = server where
  said _ _ _ h := h
  heard _ _ h := h

theorem keeps_server_request (h : other ≠ conn) (e : Event) (text : String) :
    Keeps (fun w => w.server other = server) (request conn e text) := by
  have hRequest := meets_request (P := fun w => w.server other = server)
    (Q := fun _ w => w.server other = server) conn e text
    (fun r script w hw => by rwa [server_setServer, if_neg h])
    fun r number => (undisturbed_server other server).deliver number
  exact hRequest.weaken (fun _ h => h) (fun _ _ h => h.2) fun _ _ ⟨_, _, h⟩ => h

theorem keeps_server_updateOne (h : other ≠ conn) :
    Keeps (fun w => w.server other = server) (updateOne conn query params fault) := by
  unfold updateOne Session.transaction
  apply keeps_bind (keeps_server_request h _ _)
  intro _
  apply keeps_attempt_bind
  · apply keeps_bind (keeps_server_request h _ _)
    intro reply
    split
    · exact keeps_throw
    · exact keeps_pure
  · rintro (f | a)
    · have hEmit : Keeps (fun w => w.server other = server) (emit (.rollback conn)) :=
        keeps_modify fun _ h => h
      exact keeps_bind hEmit fun _ => keeps_throw
    · apply keeps_bind (keeps_server_request h _ _)
      intro _
      exact keeps_pure

/-! ## Statuses of nodes -/

def tableOf (extension : String) : String :=
  Sql.quotedName extension ++ "." ++ Sql.quotedName "node"

theorem nodeTable_eq (extension : String) :
    nodeTable extension = Action.ofExcept (.ok (tableOf extension)) := rfl

/-- The character that stands for a status. -/
inductive Marked : NodeStatus → String → Prop
  | init : Marked .init "i"
  | syncSchema : Marked .syncSchema "s"
  | slots : Marked .slots "o"
  | catchup : Marked .catchup "c"
  | connectBack : Marked .connectBack "b"
  | ready : Marked .ready "r"
  | unknown : Marked .unknown "?"

theorem marked_code (status : NodeStatus) : Marked status status.code := by
  cases status <;> constructor

inductive Kept (conn : Nat) (extension : String) (id : Value) (status : NodeStatus)
    (result : Except Fault Unit) (did : List Entry) : Prop
  | mk {mark : String} (hMark : Marked status mark)
      (hUpdated : Updated conn
        ("UPDATE " ++ tableOf extension ++ " SET node_status = %s WHERE node_id = %s")
        [.text mark, id] ("node " ++ id.plain ++ " not found")
        ("could not set status of node " ++ id.plain) result did)

/-- How telling the status of a node to another database ends. -/
inductive Told (conn : Nat) (extension : String) (name : Value) (status : NodeStatus)
    (result : Except Fault Unit) (did : List Entry) : Prop
  | mk {mark : String} (hMark : Marked status mark)
      (hUpdated : Updated conn
        ("UPDATE " ++ tableOf extension ++ " SET node_status = %s WHERE node_name = %s")
        [.text mark, name] ("node " ++ name.plain ++ " not found on remote node")
        ("could not set remote status of node " ++ name.plain) result did)

section

variable {extension : String} {subject : Value} {status : NodeStatus} {result : Except Fault Unit}
  {did : List Entry}

theorem Kept.ok_iff (h : Kept conn extension subject status result did) :
    result = .ok () ↔ ∃ r, r.fault = none ∧ .exchange (.commit conn) r ∈ did := by
  obtain ⟨-, hUpdated⟩ := h
  exact hUpdated.ok_iff

theorem Told.ok_iff (h : Told conn extension subject status result did) :
    result = .ok () ↔ ∃ r, r.fault = none ∧ .exchange (.commit conn) r ∈ did := by
  obtain ⟨-, hUpdated⟩ := h
  exact hUpdated.ok_iff

end

theorem does_setNodeStatus (conn : Nat) (extension : String) (id : Value) (status : NodeStatus) :
    Does (setNodeStatus conn extension id status) w (Kept conn extension id status) := by
  unfold setNodeStatus
  rw [nodeTable_eq]
  exact does_updateOne.weaken fun _ _ => .mk (marked_code status)

theorem does_setRemoteNodeStatus (conn : Nat) (extension : String) (name : Value)
    (status : NodeStatus) :
    Does (setRemoteNodeStatus conn extension name status) w (Told conn extension name status) := by
  unfold setRemoteNodeStatus
  rw [nodeTable_eq]
  exact does_updateOne.weaken fun _ _ => .mk (marked_code status)

theorem server_setRemoteNodeStatus {conn other : Nat} (h : other ≠ conn) (extension : String)
    (name : Value) (status : NodeStatus) (w : Site) :
    (outcome (setRemoteNodeStatus conn extension name status) w).2.server other = w.server other := by
  have hKeeps : Keeps (fun v => v.server other = w.server other)
      (setRemoteNodeStatus conn extension name status) := by
    unfold setRemoteNodeStatus
    rw [nodeTable_eq]
    exact keeps_onDriverFault (keeps_server_updateOne h)
  exact hKeeps.reaches rfl

end Catalog

namespace Initialiser

open Catalog

theorem outcome_advance (i : Initialiser) (conn : Nat) (side : Side) (status : NodeStatus)
    (p : Progress Site) :
    outcome (i.advance (i.atSite conn) side status) p =
      match checkMove (i.node side).name.plain (p.status side) status with
      | .error f => (.error f, p)
      | .ok _ =>
        match outcome (setNodeStatus conn i.settings.extensionName.plain (i.node side).id status)
            p.outside with
        | (.error f, w) => (.error f, { p with outside := w })
        | (.ok _, w) =>
          let text :=
            s!"STATUS CHANGE: {(p.status side).name} -> {status.name}, node={(i.node side).name.plain}"
          (.ok (), { p.withStatus side status with
            outside := w.record (.event (.log { level := .info, text })) }) := by
  unfold advance
  rw [outcome_bind, outcome_get]
  dsimp only
  rw [outcome_bind, outcome_ofExcept]
  cases checkMove (i.node side).name.plain (p.status side) status with
  | error f => rfl
  | ok _ =>
    have hKept : outcome ((i.atSite conn).setNodeStatus (i.node side).id status) p =
        (let kept := outcome (setNodeStatus conn i.settings.extensionName.plain (i.node side).id status)
          p.outside
        (kept.1, { p with outside := kept.2 })) := rfl
    dsimp only
    rw [outcome_bind, hKept]
    rcases outcome (setNodeStatus conn i.settings.extensionName.plain (i.node side).id status) p.outside
      with ⟨r, w⟩
    cases r with
    | error f => rfl
    | ok _ => cases side <;> rfl

/-- A move that is not refused changes the row of the node, and then the status in memory. -/
theorem advance_of_move {i : Initialiser} (conn : Nat) {side : Side} {status : NodeStatus}
    {p : Progress Site}
    (hMove : checkMove (i.node side).name.plain (p.status side) status = .ok ()) :
    let advanced := outcome (i.advance (i.atSite conn) side status) p
    ∃ did, advanced.2.outside.acts = p.outside.acts ++ did ∧
      Kept conn i.settings.extensionName.plain (i.node side).id status advanced.1 did ∧
      (advanced.1 = .ok () → advanced.2.status = Function.update p.status side status) ∧
      ∀ f, advanced.1 = .error f → advanced.2.status = p.status := by
  intro advanced
  obtain ⟨did, hActs, hKept⟩ := does_setNodeStatus (w := p.outside) conn
    i.settings.extensionName.plain (i.node side).id status
  have hAdvance : advanced = _ := outcome_advance i conn side status p
  rw [hMove] at hAdvance
  rcases hOutcome : outcome (setNodeStatus conn i.settings.extensionName.plain (i.node side).id status)
    p.outside with ⟨r, w⟩
  rw [hOutcome] at hAdvance hActs hKept
  cases r with
  | error f =>
    obtain ⟨result, p'⟩ := advanced
    cases hAdvance
    exact ⟨did, hActs, hKept, (fun h => by cases h), fun _ _ => rfl⟩
  | ok _ =>
    obtain ⟨result, p'⟩ := advanced
    cases hAdvance
    refine ⟨did, ?_, hKept, fun _ => ?_, fun _ h => by cases h⟩
    · exact (acts_record w _).trans ((List.append_nil _).trans hActs)
    · funext s
      cases side <;> cases s <;> rfl

/-! ## Which moves are made -/

/-- The status that may be kept next, by the one in memory: one that is never kept counts as the
first. -/
inductive Follows : NodeStatus → NodeStatus → Prop
  | unknown : Follows .unknown .slots
  | init : Follows .init .slots
  | syncSchema : Follows .syncSchema .slots
  | slots : Follows .slots .catchup
  | catchup : Follows .catchup .connectBack
  | connectBack : Follows .connectBack .ready

theorem checkMove_eq_ok_iff {name : String} {current status : NodeStatus} :
    checkMove name current status = .ok () ↔ Follows current status := by
  constructor
  · intro h
    cases current <;> cases status <;> first | constructor | cases h
  · intro h
    cases h <;> rfl

/-- A status is kept first and taken on in memory after, down to the requests. A move that is refused
changes nothing. One that is not changes the row of the node in one transaction, and the status in
memory just if that is committed. The status at another database is set by the same law behind the
connection to it, with no effect on the servers behind others. -/
theorem advance_keeps_first (i : Initialiser) (conn remote : Nat) (side : Side) (status : NodeStatus)
    (name : Value) (p : Progress Site) :
    let extension := i.settings.extensionName.plain
    let advanced := outcome (i.advance (i.atSite conn) side status) p
    let told := outcome ((i.atSite conn).setRemoteNodeStatus remote name status) p
    (¬ Follows (p.status side) status →
        ∃ f, advanced = (.error f, p) ∧ f.kind = .init .transition) ∧
      (Follows (p.status side) status → ∃ did, advanced.2.outside.acts = p.outside.acts ++ did ∧
        Kept conn extension (i.node side).id status advanced.1 did ∧
        (advanced.1 = .ok () ↔ ∃ r, r.fault = none ∧ .exchange (.commit conn) r ∈ did) ∧
        (advanced.1 = .ok () → advanced.2.status = Function.update p.status side status) ∧
        ∀ f, advanced.1 = .error f → advanced.2.status = p.status) ∧
      ∃ did, told.2.outside.acts = p.outside.acts ++ did ∧
        Told remote extension name status told.1 did ∧
        (told.1 = .ok () ↔ ∃ r, r.fault = none ∧ .exchange (.commit remote) r ∈ did) ∧
        told.2.status = p.status ∧
        ∀ other ≠ remote, told.2.outside.server other = p.outside.server other := by
  intro extension advanced told
  refine ⟨?_, ?_, ?_⟩
  · intro hRefused
    cases hMove : checkMove (i.node side).name.plain (p.status side) status with
    | ok _ => exact absurd (checkMove_eq_ok_iff.mp hMove) hRefused
    | error f =>
      have hAdvance : advanced = _ := outcome_advance i conn side status p
      rw [hMove] at hAdvance
      exact ⟨f, hAdvance, kind_of_checkMove hMove⟩
  · intro hFollows
    obtain ⟨did, hActs, hKept, hOk, hError⟩ :=
      advance_of_move conn (checkMove_eq_ok_iff.mpr hFollows)
    exact ⟨did, hActs, hKept, hKept.ok_iff, hOk, hError⟩
  · obtain ⟨did, hActs, hTold⟩ := does_setRemoteNodeStatus (w := p.outside) remote extension name status
    exact ⟨did, hActs, hTold, hTold.ok_iff, rfl, fun other h =>
      server_setRemoteNodeStatus h extension name status p.outside⟩

end Initialiser

end ReplicaBootstrap
