import ReplicaBootstrap.Proofs.Rehearsal

/-! # What the steps of a run lead to

One rule for each step of a run in a rehearsal. A rule asks only what the calls of the step lead to,
so that nothing that is proved of whole runs depends on how a step is written.
-/

namespace ReplicaBootstrap

/-- Whether a call leads up to the copying, before the run looks at the wish to stop. -/
def Request.prepares {tool : Type} : Request tool → Bool
  | .databaseName | .schemaTool | .checkVersion _ | .dump _ _ _ _ | .createSlot _ _
  | .provisionOrigin _ => true
  | .restore _ part _ _ => part == "pre-data"
  | _ => false

namespace Initialiser

open ReplicaBootstrap.Action Rehearsal

variable {tool : Type} {P Q : Progress (Rehearsal tool) → Prop}
  {bad : Fault → Progress (Rehearsal tool) → Prop}

theorem meets_logDetail (i : Initialiser) (text : String) (h : ∀ p, P p → Q p) :
    Meets P (i.logDetail (services tool) text) (fun _ => Q) bad := by
  unfold logDetail
  split
  · exact meets_log h
  · exact meets_pure h

theorem meets_checkTargetRole {i : Initialiser}
    (hSubscriber : i.pair.target.role = .subscriber → ∀ p, P p → Q p)
    (hOther : i.pair.target.role ≠ .subscriber →
      ∀ p, P p → bad (unsupportedRole i.pair.target) p) :
    Meets P i.checkTargetRole (fun _ => Q) bad := by
  unfold checkTargetRole
  by_cases hRole : i.pair.target.role = .subscriber
  · rw [if_pos hRole]
    exact meets_pure (hSubscriber hRole)
  · rw [if_neg hRole]
    exact meets_throw (hOther hRole)

theorem meets_schemaTool {good : tool → Progress (Rehearsal tool) → Prop}
    (hHave : ∀ t p, p.outside.tool? = some t → P p → good t p)
    (hAsk : Meets (fun p => p.outside.tool? = none ∧ P p) (ask .schemaTool) good bad) :
    Meets P (services tool).schemaTool good bad := by
  apply meets_bind (m := fun q p => q = p ∧ P p)
  · exact meets_get fun _ h => ⟨rfl, h⟩
  intro q
  cases hTool : q.outside.tool? with
  | some t =>
    apply meets_pure
    rintro p ⟨rfl, h⟩
    exact hHave t q hTool h
  | none =>
    apply hAsk.imp_pre
    rintro p ⟨rfl, h⟩
    exact ⟨hTool, h⟩

theorem meets_closeQuietly {conn : Nat} {e : Fault → Progress (Rehearsal tool) → Prop}
    (hClose : Meets P (ask (.close conn)) (fun _ => Q) e)
    (hDriver : ∀ f, f.isDriver = true → ∀ p, e f p → Q p)
    (hOther : ∀ f, f.isDriver = false → ∀ p, e f p → bad f p) :
    Meets P (closeQuietly (services tool) conn) (fun _ => Q) bad := by
  apply meets_tolerating hClose
  · intro f hf
    exact meets_log (hDriver f hf)
  · exact hOther

theorem meets_enterPhase (i : Initialiser) {status : NodeStatus}
    (h : ∀ p, P p → Q (p.withStatus .target status)) :
    Meets P (i.enterPhase (services tool) .target status) (fun _ => Q) bad := by
  unfold enterPhase
  apply meets_bind (m := fun _ => P)
  · exact meets_get fun _ h => h
  intro _
  apply meets_bind (silent_log _ _)
  intro _
  exact meets_modify h

/-- A status is set if it may follow the one in memory, and memory takes it on if that goes well. -/
theorem meets_advance (i : Initialiser) {status : NodeStatus}
    (hCheck : ∀ f p, checkMove i.pair.target.name.plain p.target status = .error f → P p → bad f p)
    (hSet : Meets
      (fun p => checkMove i.pair.target.name.plain p.target status = .ok () ∧ P p)
      (ask (.setNodeStatus i.pair.target.id status))
      (fun _ p => Q (p.withStatus .target status)) bad) :
    Meets P (i.advance (services tool) .target status) (fun _ => Q) bad := by
  unfold advance
  apply meets_bind (m := fun q p => q = p ∧ P p)
  · exact meets_get fun _ h => ⟨rfl, h⟩
  intro q
  apply meets_bind (m := fun _ p =>
    checkMove i.pair.target.name.plain p.target status = .ok () ∧ P p)
  · apply meets_ofExcept
    · rintro _ hOk p ⟨rfl, h⟩
      exact ⟨hOk, h⟩
    · rintro f hError p ⟨rfl, h⟩
      exact hCheck f q hError h
  intro _
  apply meets_bind hSet
  intro _
  apply meets_bind (m := fun _ => Q)
  · exact meets_modify fun _ h => h
  intro _
  exact silent_log _ _

theorem meets_begin (i : Initialiser) {m : NodeStatus → Progress (Rehearsal tool) → Prop}
    (hAsk : Meets P (ask (.nodeStatus i.pair.target.id)) m bad)
    (hGo : ∀ s p, s.isRecoverable = true → m s p → Q (p.withStatus .target s))
    (hStop : ∀ s p, s.isRecoverable = false → m s p →
      bad (unrecoverable i.pair.target s) (p.withStatus .target s)) :
    Meets P (i.begin (services tool)) (fun _ => Q) bad := by
  unfold begin
  apply meets_bind hAsk
  intro s
  apply meets_bind (m := fun _ p => ∃ q, p = q.withStatus .target s ∧ m s q)
  · exact meets_modify fun p h => ⟨p, rfl, h⟩
  intro _
  apply meets_bind (silent_log _ _)
  intro _
  unfold checkRecoverable
  split
  · rename_i hRecoverable
    apply meets_pure
    rintro _ ⟨p, rfl, h⟩
    exact hGo s p hRecoverable h
  · rename_i hNot
    apply meets_throw
    rintro _ ⟨p, rfl, h⟩
    exact hStop s p (Bool.eq_false_iff.mpr hNot) h

theorem meets_stage {start : NodeStatus} {work : Step (Rehearsal tool) Unit}
    (hWork : Meets (fun p => p.target = start ∧ P p) work (fun _ => Q) bad)
    (hSkip : ∀ p, p.target ≠ start → P p → Q p) :
    Meets P (stage start work) (fun _ => Q) bad := by
  apply meets_bind (m := fun q p => q = p ∧ P p)
  · exact meets_get fun _ h => ⟨rfl, h⟩
  intro q
  by_cases hq : q.target = start
  · rw [if_pos hq]
    apply hWork.imp_pre
    rintro p ⟨rfl, h⟩
    exact ⟨hq, h⟩
  · rw [if_neg hq]
    apply meets_pure
    rintro p ⟨rfl, h⟩
    exact hSkip q hq h

/-! ## The parts of the first and the last stage -/

theorem meets_transfer_parts (i : Initialiser) (t : tool) (conn : Nat) (name : String)
    {R S : Progress (Rehearsal tool) → Prop}
    (hP : ∀ q : Request tool, q.prepares = true → Meets P (ask q) (fun _ => P) bad)
    (hEnter : ∀ p, P p → Q (p.withStatus .target .syncSchema))
    (hQ : ∀ q : Request tool, q.prepares = true → Meets Q (ask q) (fun _ => Q) bad)
    (hLook : Meets Q (ask .checkInterrupts) (fun _ => R) bad)
    (hCopy : ∀ snapshot, Meets R (ask (.copyNodeData snapshot)) (fun _ => R) bad)
    (hFinish : ∀ archive dsn,
      Meets R (ask (.restore t "post-data" archive dsn)) (fun _ => S) bad) :
    Meets P (i.transfer (services tool) t conn name) (fun _ => S) bad := by
  unfold transfer
  apply meets_bind (hP _ rfl)
  intro slot
  apply meets_bind (hP _ rfl)
  intro _
  apply meets_bind (meets_enterPhase i hEnter)
  intro _
  apply meets_bind (silent_log _ _)
  intro _
  apply meets_bind (meets_logDetail i _ fun _ h => h)
  intro _
  apply meets_bind (hQ _ rfl)
  intro _
  apply meets_bind (hQ _ rfl)
  intro _
  apply meets_bind hLook
  intro _
  apply meets_bind (silent_log _ _)
  intro _
  apply meets_bind (hCopy _)
  intro _
  apply meets_bind (hFinish _ _)
  intro _
  exact meets_pure fun _ h => h

/-- The work on the snapshot ends badly in its own way, with the connection still to be closed. -/
theorem meets_initNode_parts (i : Initialiser) {O G : Nat → Progress (Rehearsal tool) → Prop}
    {C : Nat → Fault → Progress (Rehearsal tool) → Prop}
    (hP : ∀ q : Request tool, q.prepares = true → Meets P (ask q) (fun _ => P) bad)
    (hName : ∀ database f, SlotName.generate (.text database) i.pair.origin i.pair.target =
      .error f → ∀ p, P p → bad f p)
    (hConnect : Meets P (ask (.connect .replication i.pair.origin.dsn
      i.settings.snapshotApplicationName)) O bad)
    (hTransfer : ∀ t conn name, Meets (O conn) (i.transfer (services tool) t conn name)
      (fun _ => G conn) (C conn))
    (hClose : ∀ conn, Meets (G conn) (closeQuietly (services tool) conn) (fun _ => Q) bad)
    (hCloseCut : ∀ conn f,
      Meets (C conn f) (closeQuietly (services tool) conn) (fun _ => bad f) bad) :
    Meets P (i.initNode (services tool)) (fun _ => Q) bad := by
  unfold initNode
  apply meets_bind (silent_log _ _)
  intro _
  apply meets_bind (meets_schemaTool (fun _ _ _ h => h)
    ((hP _ rfl).imp_pre (fun _ h => h.2)))
  intro t
  apply meets_bind (hP _ rfl)
  intro _
  apply meets_bind (m := fun database p => (∃ s, database = .text s) ∧ P p)
  · apply meets_bind (hP _ rfl)
    intro database
    exact meets_pure fun _ h => ⟨⟨database, rfl⟩, h⟩
  intro _
  apply meets_known
  rintro _ ⟨⟨database, rfl⟩, h⟩
  refine ⟨_, h, ?_⟩
  apply meets_bind (meets_ofExcept (fun _ _ _ h => h) fun f hError => hName database f hError)
  intro name
  apply meets_bind hConnect
  intro conn
  exact meets_ensuring (hTransfer t conn name) (fun _ => hClose conn) (hCloseCut conn)

theorem meets_connectBack_parts (i : Initialiser) {O G : Nat → Progress (Rehearsal tool) → Prop}
    {C : Nat → Fault → Progress (Rehearsal tool) → Prop}
    (hConnect : Meets P (ask (.connect .queries i.pair.origin.dsn i.settings.initApplicationName))
      O bad)
    (hTell : ∀ conn, Meets (O conn) (ask (.setRemoteNodeStatus conn i.pair.target.name .ready))
      (fun _ => G conn) (C conn))
    (hClose : ∀ conn, Meets (G conn) (closeQuietly (services tool) conn) (fun _ => Q) bad)
    (hCloseCut : ∀ conn f,
      Meets (C conn f) (closeQuietly (services tool) conn) (fun _ => bad f) bad) :
    Meets P (i.connectBack (services tool)) (fun _ => Q) bad := by
  unfold connectBack
  apply meets_bind hConnect
  intro conn
  apply meets_bind (m := fun _ => Q)
  · exact meets_ensuring (hTell conn) (fun _ => hClose conn) (hCloseCut conn)
  intro _
  exact silent_log _ _

/-! ## Work that spares the local catalog -/

/-- Calls that have nothing to do with the local catalog lead from `P` back to it, or to `E`. -/
def Spared (P E : Progress (Rehearsal tool) → Prop) : Prop :=
  ∀ q : Request tool, q.isForeign = true → Meets P (ask q) (fun _ => P) (fun _ => E)

variable {E : Progress (Rehearsal tool) → Prop}

theorem Spared.of_prepares (h : Spared P E) (q : Request tool) (hq : q.prepares = true) :
    Meets P (ask q) (fun _ => P) (fun _ => E) := by
  apply h
  cases q <;> first | rfl | cases hq

theorem meets_transfer (i : Initialiser) (t : tool) (conn : Nat) (name : String)
    (hP : Spared P E) (hQ : Spared Q E) (hEnter : ∀ p, P p → Q (p.withStatus .target .syncSchema)) :
    Meets P (i.transfer (services tool) t conn name) (fun _ => Q) (fun _ => E) :=
  meets_transfer_parts i t conn name hP.of_prepares hEnter hQ.of_prepares (hQ _ rfl)
    (fun _ => hQ _ rfl) (fun _ _ => hQ _ rfl)

theorem meets_initNode (i : Initialiser) (hP : Spared P E) (hQ : Spared Q E) (hE : Spared E E)
    (hEnter : ∀ p, P p → Q (p.withStatus .target .syncSchema)) (hBack : ∀ p, E p → Q p)
    (hName : ∀ database f, SlotName.generate (.text database) i.pair.origin i.pair.target =
      .error f → ∀ p, P p → E p) :
    Meets P (i.initNode (services tool)) (fun _ => Q) (fun _ => E) := by
  apply meets_initNode_parts (O := fun _ => P) i hP.of_prepares hName (hP _ rfl)
  · intro t conn name
    exact meets_transfer i t conn name hP hQ hEnter
  · intro conn
    exact meets_closeQuietly (hQ _ rfl) (fun _ _ => hBack) (fun _ _ _ h => h)
  · intro conn _
    exact meets_closeQuietly (hE _ rfl) (fun _ _ _ h => h) (fun _ _ _ h => h)

theorem meets_connectBack (i : Initialiser)
    (hConnect : ∀ dsn application,
      Meets P (ask (.connect .queries dsn application)) (fun _ => P) (fun _ => E))
    (hTell : ∀ conn, Meets P (ask (.setRemoteNodeStatus conn i.pair.target.name .ready))
      (fun _ => Q) (fun _ => E))
    (hClose : ∀ conn, Meets Q (ask (.close conn)) (fun _ => Q) (fun _ => E))
    (hCloseFailed : ∀ conn, Keeps E (ask (.close conn))) (hBack : ∀ p, E p → Q p) :
    Meets P (i.connectBack (services tool)) (fun _ => Q) (fun _ => E) := by
  apply meets_connectBack_parts i (hConnect _ _) hTell
  · intro conn
    exact meets_closeQuietly (hClose conn) (fun _ _ => hBack) (fun _ _ _ h => h)
  · intro conn _
    exact meets_closeQuietly (hCloseFailed conn) (fun _ _ _ h => h) (fun _ _ _ h => h)

/-! ## What every call keeps -/

section

variable (hAsk : ∀ q : Request tool, Keeps P (ask q))
  (hStatus : ∀ s p, P p → P (p.withStatus .target s))

include hAsk hStatus in
theorem keeps_advance (i : Initialiser) (status : NodeStatus) :
    Keeps P (i.advance (services tool) .target status) := by
  apply meets_advance i (fun _ _ _ h => h)
  apply (hAsk _).weaken (fun _ h => h.2) _ (fun _ _ h => h)
  intro _ p h
  exact hStatus status p h

include hAsk hStatus in
/-- What every call keeps, a run keeps: it touches the world by nothing but calls. -/
theorem keeps_run (i : Initialiser) : Keeps P (i.run (services tool)) := by
  have hRole : Keeps P (i.checkTargetRole : Step (Rehearsal tool) Unit) :=
    meets_checkTargetRole (fun _ _ h => h) (fun _ _ h => h)
  have hStage {start : NodeStatus} {work : Step (Rehearsal tool) Unit} (h : Keeps P work) :
      Keeps P (stage start work) := meets_stage (h.imp_pre fun _ h => h.2) (fun _ _ h => h)
  unfold run
  apply keeps_bind (meets_begin i (hAsk _) (fun s p _ => hStatus s p) (fun s p _ => hStatus s p))
  intro _
  apply keeps_bind
  · apply hStage
    apply keeps_bind (meets_initNode i (fun q _ => hAsk q) (fun q _ => hAsk q) (fun q _ => hAsk q)
      (hStatus _) (fun _ h => h) (fun _ _ _ _ h => h))
    exact fun _ => keeps_advance hAsk hStatus i .slots
  intro _
  apply keeps_bind (hStage (keeps_bind (hAsk _) fun _ => keeps_advance hAsk hStatus i .catchup))
  intro _
  apply keeps_bind (hStage (keeps_bind hRole fun _ => keeps_advance hAsk hStatus i .connectBack))
  intro _
  apply hStage
  apply keeps_bind hRole
  intro _
  apply keeps_bind (keeps_advance hAsk hStatus i .ready)
  intro _
  apply keeps_bind (meets_connectBack i (fun _ _ => hAsk _) (fun _ => hAsk _) (fun _ => hAsk _)
    (fun _ => hAsk _) (fun _ h => h))
  exact fun _ => silent_log _ _

end

end Initialiser

end ReplicaBootstrap
