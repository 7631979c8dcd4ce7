import ReplicaBootstrap.Initialiser.AtSite
import ReplicaBootstrap.Program
import ReplicaBootstrap.Proofs.Connections.Ledger

/-! # The connections of a run

However the program ends, every connection that it has opened was closed once, and nothing was said on
it afterwards.
-/

namespace ReplicaBootstrap

open ReplicaBootstrap.Action Site Connections

variable {α : Type} {held : Finset Nat} {P : Site → Prop} {base : List Entry} {floor conn : Nat}

/-! ## The outside of a run -/

def Outside (P : Site → Prop) (p : Progress Site) : Prop := P p.outside

theorem meets_outside {good : α → Site → Prop} {bad : Fault → Site → Prop} {x : Action Site α}
    (h : Meets P x good bad) :
    Meets (Outside P) (Step.outside x) (fun a => Outside (good a)) (fun f => Outside (bad f)) :=
  meets_iff.mpr fun p hp =>
    ⟨fun _ ha => h.of_ok (s := p.outside) hp ha, fun _ hf => h.of_error (s := p.outside) hp hf⟩

theorem keeps_withStatus (side : Side) (status : NodeStatus) :
    Keeps (Outside P) (modify (·.withStatus side status)) := by
  apply keeps_modify
  intro p hp
  rw [Outside, Progress.outside_withStatus]
  exact hp

namespace Initialiser

variable {i : Initialiser}

theorem outside_checkTargetRole : Keeps (Outside P) (i.checkTargetRole : Step Site Unit) := by
  unfold checkTargetRole
  split
  · exact keeps_pure
  · exact keeps_throw

theorem outside_stage {start : NodeStatus} {work : Step Site Unit} (h : Keeps (Outside P) work) :
    Keeps (Outside P) (stage start work) := by
  apply keeps_bind keeps_get
  intro p
  split
  · exact h
  · exact keeps_pure

section

variable (hP : Lasting held P)

include hP

theorem uses_logOutside (level : Level) (text : String) :
    Keeps (Outside P) ((i.atSite conn).log level text) := meets_outside (uses_log hP level text)

theorem uses_enterPhase (status : NodeStatus) :
    Keeps (Outside P) (i.enterPhase (i.atSite conn) .target status) := by
  apply keeps_bind keeps_get
  intro p
  apply keeps_bind (uses_logOutside hP _ _)
  exact fun _ => keeps_withStatus .target status

theorem uses_logDetail (text : String) : Keeps (Outside P) (i.logDetail (i.atSite conn) text) := by
  unfold logDetail
  split
  · exact uses_logOutside hP _ _
  · exact keeps_pure

variable (hConn : conn ∈ held)

include hConn

theorem uses_advance (status : NodeStatus) :
    Keeps (Outside P) (i.advance (i.atSite conn) .target status) := by
  apply keeps_bind keeps_get
  intro p
  apply keeps_bind keeps_ofExcept
  intro _
  apply keeps_bind (meets_outside (Catalog.uses_setNodeStatus hP hConn _ _ _))
  intro _
  apply keeps_bind (keeps_withStatus .target status)
  exact fun _ => uses_logOutside hP _ _

theorem uses_begin : Keeps (Outside P) (i.begin (i.atSite conn)) := by
  apply keeps_bind (meets_outside (Catalog.uses_nodeStatus hP hConn _ _))
  intro status
  apply keeps_bind (keeps_withStatus .target status)
  intro _
  apply keeps_bind (uses_logOutside hP _ _)
  intro _
  unfold checkRecoverable
  split
  · exact keeps_pure
  · exact keeps_throw

theorem uses_schemaTool : Keeps (Outside P) (i.atSite conn).schemaTool := by
  apply meets_outside
  exact keeps_bind (Catalog.uses_serverVersion hP hConn) fun _ => keeps_pure

end

/-! ## The connections to the origin -/

theorem holding_closeOutside {remote : Nat} (hNew : remote ∉ held) :
    Meets (Outside (Holding base floor (insert remote held)))
      (closeQuietly (i.atSite conn) remote) (fun _ => Outside (Holding base floor held))
      (fun _ => Outside (Holding base floor held)) := by
  apply meets_tolerating (meets_outside (holding_close hNew))
  · exact fun f _ => (uses_logOutside lasting_holding _ _).imp_pre fun _ h => h.1
  · exact fun f _ p h => h.1

theorem holding_transfer {remote : Nat} (hConn : conn ∈ held) (hRemote : remote ∈ held)
    (tool : SchemaTool) (name : String) :
    Keeps (Outside (Holding base floor held)) (i.transfer (i.atSite conn) tool remote name) := by
  have hP : Lasting held (Holding base floor held) := lasting_holding
  unfold transfer
  apply keeps_bind (meets_outside (SlotProvision.uses_createSlot hP hRemote _ _))
  intro slot
  apply keeps_bind
  · apply meets_outside
    exact keeps_bind (SlotProvision.uses_provisionOrigin hP hConn slot) fun _ => keeps_pure
  intro _
  apply keeps_bind (uses_enterPhase hP _)
  intro _
  apply keeps_bind (uses_logOutside hP _ _)
  intro _
  apply keeps_bind (uses_logDetail hP _)
  intro _
  apply keeps_bind (meets_outside (SchemaTool.uses_dump hP tool _ _ _))
  intro _
  apply keeps_bind (meets_outside (SchemaTool.uses_restore hP tool _ _ _))
  intro _
  apply keeps_bind (meets_outside (uses_checkInterrupts hP))
  intro _
  apply keeps_bind (uses_logOutside hP _ _)
  intro _
  apply keeps_bind
  · apply meets_outside
    exact keeps_bind (holding_nodeData _ _ _ _) fun _ => keeps_pure
  intro _
  apply keeps_bind (meets_outside (SchemaTool.uses_restore hP tool _ _ _))
  exact fun _ => keeps_pure

theorem holding_initNode (hConn : conn ∈ held) :
    Keeps (Outside (Holding base floor held)) (i.initNode (i.atSite conn)) := by
  have hP : Lasting held (Holding base floor held) := lasting_holding
  unfold initNode
  apply keeps_bind (uses_logOutside hP _ _)
  intro _
  apply keeps_bind (uses_schemaTool hP hConn)
  intro tool
  apply keeps_bind (meets_outside (SchemaTool.uses_checkVersion hP tool))
  intro _
  apply keeps_bind (meets_outside (Catalog.uses_databaseName hP hConn))
  intro database
  apply keeps_bind keeps_ofExcept
  intro slotName
  apply meets_bind_given (meets_outside (holding_connect _ _ _))
  intro remote hNew
  exact meets_ensuring (holding_transfer (Finset.mem_insert_of_mem hConn)
    (Finset.mem_insert_self remote held) tool slotName) (fun _ => holding_closeOutside hNew)
    (fun _ => holding_closeOutside hNew)

theorem holding_connectBack :
    Keeps (Outside (Holding base floor held)) (i.connectBack (i.atSite conn)) := by
  unfold connectBack
  apply meets_bind_given (meets_outside (holding_connect _ _ _))
  intro remote hNew
  have hTell : Keeps (Outside (Holding base floor (insert remote held)))
      ((i.atSite conn).setRemoteNodeStatus remote i.pair.target.name .ready) :=
    meets_outside (Catalog.uses_setRemoteNodeStatus lasting_holding
      (Finset.mem_insert_self remote held) _ _ _)
  apply meets_bind (m := fun _ => Outside (Holding base floor held))
  · exact meets_ensuring hTell (fun _ => holding_closeOutside hNew)
      (fun _ => holding_closeOutside hNew)
  · exact fun _ => uses_logOutside lasting_holding _ _

/-! ## The whole initialisation -/

theorem holding_run (hConn : conn ∈ held) :
    Keeps (Outside (Holding base floor held)) (i.run (i.atSite conn)) := by
  have hP : Lasting held (Holding base floor held) := lasting_holding
  unfold run
  apply keeps_bind (uses_begin hP hConn)
  intro _
  apply keeps_bind
  · apply outside_stage
    exact keeps_bind (holding_initNode hConn) fun _ => uses_advance hP hConn .slots
  intro _
  apply keeps_bind
  · apply outside_stage
    apply keeps_bind
    · apply meets_outside
      exact keeps_bind (SlotProvision.uses_makeOtherSlots hP _) fun _ => keeps_pure
    · exact fun _ => uses_advance hP hConn .catchup
  intro _
  apply keeps_bind
  · apply outside_stage
    exact keeps_bind outside_checkTargetRole fun _ => uses_advance hP hConn .connectBack
  intro _
  apply outside_stage
  apply keeps_bind outside_checkTargetRole
  intro _
  apply keeps_bind (uses_advance hP hConn .ready)
  intro _
  apply keeps_bind holding_connectBack
  exact fun _ => uses_logOutside hP _ _

theorem holding_runAtSite (hConn : conn ∈ held) :
    Keeps (Holding base floor held) (i.runAtSite conn) :=
  keeps_of_reaches fun w h => (holding_run (i := i) hConn).reaches
    (s := ⟨i.pair.origin.status, i.pair.target.status, w⟩) h

end Initialiser

namespace Program

theorem uses_loadSettings (hP : Lasting held P) (file : String) : Keeps P (loadSettings file) := by
  unfold loadSettings
  apply keeps_bind keeps_get
  intro w
  apply keeps_bind keeps_ofExcept
  intro temporary
  apply keeps_bind
  · unfold readFile
    apply keeps_bind (uses_emit hP (Event.fits_of_none rfl))
    intro _
    apply keeps_bind keeps_get
    intro w
    split
    · exact keeps_pure
    · exact keeps_throw
  intro text
  apply keeps_bind keeps_ofExcept
  intro document
  dsimp only
  exact keeps_bind keeps_ofExcept fun _ => keeps_pure

theorem uses_settingsOf (hP : Lasting held P) (c : Command) : Keeps P (settingsOf c) := by
  unfold settingsOf
  apply keeps_bind (uses_loadSettings hP c.config)
  intro s
  split
  · exact keeps_pure
  · split
    · exact keeps_pure
    · dsimp only
      exact keeps_bind keeps_ofExcept fun _ => keeps_pure

theorem uses_loadPair (hP : Lasting held P) (hConn : conn ∈ held) (s : Settings) :
    Keeps P (loadPair s conn) := by
  apply keeps_bind (Catalog.uses_node hP hConn _ _)
  intro origin
  apply keeps_bind (Catalog.uses_node hP hConn _ _)
  exact fun target => keeps_pure

theorem holding_withLocal (s : Settings) {body : Nat → Action Site α}
    (hBody : ∀ conn held, conn ∈ held → Keeps (Holding base floor held) (body conn)) :
    Keeps (Holding base floor held) (withLocal s body) := by
  apply meets_bind_given (holding_connect _ _ _)
  intro conn hNew
  have hClose : Meets (Holding base floor (insert conn held)) (Session.closeQuietly conn)
      (fun _ => Holding base floor held) (fun _ => Holding base floor held) :=
    (holding_closeQuietly hNew).imp_bad fun _ _ h => h.1
  exact meets_ensuring (hBody conn _ (Finset.mem_insert_self conn held)) (fun _ => hClose)
    (fun _ => hClose)

theorem holding_initReplica (s : Settings) :
    Keeps (Holding base floor held) (initReplica s) := by
  apply keeps_bind
  · exact uses_modify lasting_holding (fun _ => rfl) (fun _ => rfl)
  intro _
  apply holding_withLocal
  intro conn held hConn
  apply keeps_bind (uses_loadPair lasting_holding hConn s)
  exact fun pair => Initialiser.holding_runAtSite hConn

theorem holding_printStatus (s : Settings) :
    Keeps (Holding base floor held) (printStatus s) := by
  apply holding_withLocal
  intro conn held hConn
  have hLine (name : Value) (line : PUnit) : Keeps (Holding base floor held) (do
      let n ← Catalog.node conn s.extensionName.plain name
      emit (.printed (statusLine n))
      pure (ForInStep.yield line)) := by
    apply keeps_bind (Catalog.uses_node lasting_holding hConn _ _)
    intro n
    apply keeps_bind (uses_emit lasting_holding (Event.fits_of_none rfl))
    exact fun _ => keeps_pure
  exact keeps_bind (keeps_forIn hLine) fun _ => keeps_pure

theorem holding_work (mode : Mode) (s : Settings) :
    Keeps (Holding base floor held) (work mode s) := by
  unfold work
  dsimp only
  apply keeps_attempt_bind
  · cases mode with
    | initReplica => exact holding_initReplica s
    | nodeStatus => exact holding_printStatus s
  rintro (f | _)
  · dsimp only
    split
    · apply keeps_bind (uses_emit lasting_holding (Event.fits_of_none rfl))
      exact fun _ => keeps_pure
    · exact keeps_throw
  · exact keeps_pure

/-- Whatever the servers, the tools and the signals do, as long as closing a connection fails with no
other fault than one of the driver: in either mode a connection is never asked for, refused and left
alone, or opened, used, closed once and then left alone. -/
theorem work_settles (mode : Mode) (s : Settings) (w : Site) :
    ∃ talk, ((work mode s).outcome w).2.journal.toList = w.journal.toList ++ talk ∧
      (Civil talk → ∀ conn, on conn talk = [] ∨ Over conn (on conn talk)) :=
  ((holding_work mode s).reaches (holding_start w)).settled

def nodeSettings : Settings where
  localDsn := "host=b"
  originNode := "provider"
  targetNode := "subscriber"

/-- A site at which the user interrupts the program while it tells the origin that the target is
ready; closing that connection then fails, too. -/
def interrupted : Site where
  servers := [
    { script := [
        { pattern := "WHERE node_name"
          replies := .inTurn [{ rows := [[.int 1, "provider", "host=a", "p", "r"]] },
            { rows := [[.int 2, "subscriber", "host=b", "s", "b"]] }] },
        { pattern := "SELECT node_status", replies := .standing { rows := [["b"]] } }] },
    { script := [
        { pattern := "UPDATE", replies := .standing { fault := some (.host .interrupt "") } },
        { pattern := "<close>"
          replies := .standing { fault := some (.driver .operational "gone") } }] }]

theorem work_settles_interrupted :
    ((work .initReplica nodeSettings).outcome interrupted).1 = .error (.host .interrupt "") ∧
      ((work .initReplica nodeSettings).outcome interrupted).2.connections = 2 ∧
      ∀ conn,
        on conn ((work .initReplica nodeSettings).outcome interrupted).2.journal.toList = [] ∨
          Over conn
            (on conn ((work .initReplica nodeSettings).outcome interrupted).2.journal.toList) := by
  obtain ⟨talk, hTalk, hSettles⟩ := work_settles .initReplica nodeSettings interrupted
  have hRun : ((work .initReplica nodeSettings).outcome interrupted).1 =
        .error (.host .interrupt "") ∧
      ((work .initReplica nodeSettings).outcome interrupted).2.connections = 2 ∧
      ∀ x ∈ ((work .initReplica nodeSettings).outcome interrupted).2.journal.toList,
        x.isCivil = true := by decide +kernel
  have hFresh : interrupted.journal.toList = [] := rfl
  rw [hFresh, List.nil_append] at hTalk
  rw [hTalk] at hRun ⊢
  exact ⟨hRun.1, hRun.2.1, hSettles hRun.2.2⟩

/-- Reading the settings opens no connection, so the same is true of the whole command. -/
theorem run_settles (c : Command) (w : Site) :
    ∃ talk, (run c w).site.journal.toList = w.journal.toList ++ talk ∧
      (Civil talk → ∀ conn, on conn talk = [] ∨ Over conn (on conn talk)) := by
  have hSettings := (uses_settingsOf lasting_holding c).reaches (holding_start w)
  unfold run
  rcases hLoaded : (settingsOf c).outcome w with ⟨r, w'⟩
  rw [hLoaded] at hSettings
  cases r with
  | error f => exact Holding.settled hSettings
  | ok s => exact ((holding_work c.mode s).reaches hSettings).settled

end Program

end ReplicaBootstrap
