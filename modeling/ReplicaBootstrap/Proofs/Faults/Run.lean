import ReplicaBootstrap.Initialiser.AtSite
import ReplicaBootstrap.Program
import ReplicaBootstrap.Proofs.Faults.Copy

/-! # Faults that leave a run

Between orderly partners a run fails with a fault of the initialisation, for which the program has an
exit code, or with one of the few that nothing takes care of: that of the transaction around a new
origin, of a version that cannot be read, or of a connection string with a value that is no text.
-/

namespace ReplicaBootstrap

open ReplicaBootstrap.Action Site

/-! ## The outside of a run -/

section

variable {σ α : Type} {T : Terms σ} {before : List Entry} {P : Prop} {allowed : Fault → Prop}

def Action.Terms.outside (T : Terms σ) : Terms (Progress σ) where
  said p := T.said p.outside
  holds p := T.holds p.outside
  orderly := T.orderly
  lets := T.lets

theorem tells_outside {good : α → List Entry → Prop} {x : Action σ α}
    (h : Tells T before P x good allowed) : Tells T.outside before P (Step.outside x) good allowed :=
  fun p hp => h p.outside hp

theorem accounts_outside {good : α → Prop} {x : Action σ α} (h : Accounts T P x good allowed) :
    Accounts T.outside P (Step.outside x) good allowed := tells_outside h

theorem accounts_withStatus (side : Side) (status : NodeStatus) :
    Accounts T.outside P (modify (·.withStatus side status)) (fun _ => True) allowed := by
  apply accounts_modify
  · intro p
    exact congrArg T.said (Progress.outside_withStatus p side status)
  · intro p (hp : T.holds p.outside)
    show T.holds (p.withStatus side status).outside
    rwa [Progress.outside_withStatus]

end

namespace Program

theorem verdict_code (f : Fault) : (verdict f).2 ∈ [1, 2, 130] := by
  unfold verdict
  split <;> simp

/-- The program ends with an exit code when its work fails with `f`. -/
def Settles (f : Fault) : Prop :=
  ∀ (s : Settings) (w : Site), ((initReplica s).outcome w).1 = .error f →
    ∃ code ∈ [1, 2, 130], ((work .initReplica s).outcome w).1 = .ok code

theorem settles_of_isInit {f : Fault} (hInit : f.isInit = true) : Settles f := by
  intro s w hFault
  refine ⟨_, verdict_code f, ?_⟩
  unfold work
  rw [outcome_bind, outcome_attempt]
  dsimp only
  rw [hFault]
  dsimp only
  rw [if_pos hInit, outcome_bind]
  rfl

end Program

namespace Initialiser

/-- The pair was read whole from the catalog: names and connection strings are texts, and the strings
can be read. The name of the application can be part of a connection string. -/
structure Readable (i : Initialiser) (source sink : String) : Prop where
  originName : ∃ name, i.pair.origin.name = .text name
  targetName : ∃ name, i.pair.target.name = .text name
  originDsn : i.pair.origin.dsn = .text source
  targetDsn : i.pair.target.dsn = .text sink
  originEntries : ∃ es, Conninfo.entries source = .ok es
  targetEntries : ∃ es, Conninfo.entries sink = .ok es
  application : '\x00' ∉ i.settings.applicationName.plain.toList

variable {i : Initialiser} {source sink : String} {conn floor : Nat} {before : List Entry}
  {P : Prop}

theorem accounts_logOutside (level : Level) (text : String) :
    Accounts (terms conn floor).outside P ((i.atSite conn).log level text) (fun _ => True)
      (Allowed [source, sink]) :=
  accounts_outside (accounts_log level text)

theorem accounts_closeOutside (remote : Nat) :
    Accounts (terms conn floor).outside P (closeQuietly (i.atSite conn) remote) (fun _ => True)
      (Allowed [source, sink]) := by
  apply accounts_tolerating
  · exact (accounts_outside (Session.accounts_close remote)).imp_allowed fun _ => .inl
  · exact fun f => accounts_logOutside _ _

theorem accounts_advance (i : Initialiser) (status : NodeStatus) :
    Accounts (terms conn floor).outside P (i.advance (i.atSite conn) .target status)
      (fun _ => True) (Allowed [source, sink]) := by
  unfold advance
  apply accounts_bind accounts_get
  intro p
  apply accounts_bind (m := fun _ => True)
  · apply accounts_ofExcept
    · exact fun _ _ _ => trivial
    · intro f hf _
      have hKind : f.kind = .init .transition := kind_of_checkMove hf
      exact .init (by rw [Fault.isInit, hKind])
  intro _
  apply accounts_bind (accounts_outside (Catalog.accounts_setNodeStatus conn _ _ status))
  intro _
  apply accounts_bind (accounts_withStatus .target status)
  exact fun _ => accounts_logOutside _ _

theorem accounts_enterPhase (i : Initialiser) (status : NodeStatus) :
    Accounts (terms conn floor).outside P (i.enterPhase (i.atSite conn) .target status)
      (fun _ => True) (Allowed [source, sink]) := by
  unfold enterPhase
  apply accounts_bind accounts_get
  intro p
  apply accounts_bind (accounts_logOutside _ _)
  exact fun _ => accounts_withStatus .target status

theorem accounts_checkTargetRole (i : Initialiser) :
    Accounts (terms conn floor).outside P (i.checkTargetRole : Step Site Unit) (fun _ => True)
      (Allowed [source, sink]) := by
  unfold checkTargetRole
  split
  · exact accounts_pure fun _ => trivial
  · exact accounts_throw fun _ => .init rfl

theorem sound_application {suffix : String} (h : i.Readable source sink)
    (hSuffix : '\x00' ∉ suffix.toList) :
    '\x00' ∉ (i.settings.applicationName.plain ++ suffix).toList := by
  rw [String.toList_append, List.mem_append, not_or]
  exact ⟨h.application, hSuffix⟩

/-! ## The stages -/

section

variable (h : i.Readable source sink)

include h

theorem accounts_dumpOutside (tool : SchemaTool) (snapshot : Value) (archive : String) :
    Accounts (terms conn floor).outside P
      ((i.atSite conn).dump tool snapshot archive i.pair.origin.dsn) (fun _ => True)
      (Allowed [source, sink]) := by
  rw [h.originDsn]
  exact accounts_outside (SchemaTool.accounts_dump tool snapshot archive List.mem_cons_self)

theorem accounts_restoreOutside (tool : SchemaTool) {part : String} (archive : String)
    (hPart : SchemaTool.sections.contains part = true) :
    Accounts (terms conn floor).outside P
      ((i.atSite conn).restore tool part archive i.pair.target.dsn) (fun _ => True)
      (Allowed [source, sink]) := by
  have hSink : sink ∈ [source, sink] := List.mem_cons_of_mem _ List.mem_cons_self
  rw [h.targetDsn]
  exact accounts_outside (SchemaTool.accounts_restore tool archive hPart hSink)

theorem accounts_copyOutside (snapshot : Value) :
    Accounts (terms conn floor).outside P ((i.atSite conn).copyNodeData snapshot) (fun _ => True)
      (Allowed [source, sink]) := by
  obtain ⟨es, hSource⟩ := h.originEntries
  obtain ⟨es', hSink⟩ := h.targetEntries
  apply accounts_outside
  apply accounts_bind (Copy.accounts_nodeData snapshot _ h.originDsn List.mem_cons_self hSource
    h.targetDsn (List.mem_cons_of_mem _ List.mem_cons_self) hSink
    (sound_application h (by decide)))
  exact fun _ => accounts_pure fun _ => trivial

theorem accounts_connectOutside (purpose : Session.Purpose) {application : String}
    (hApplication : '\x00' ∉ application.toList) :
    Accounts (terms conn floor).outside P
      ((i.atSite conn).connect purpose i.pair.origin.dsn application) (fun _ => True)
      (Allowed [source, sink]) := by
  obtain ⟨es, hSource⟩ := h.originEntries
  rw [h.originDsn]
  apply accounts_outside
  exact (Session.accounts_connect purpose List.mem_cons_self hSource hApplication).imp_good
    fun _ _ => trivial

theorem accounts_transfer (tool : SchemaTool) (remote : Nat) (name : String) :
    Accounts (terms conn floor).outside P (i.transfer (i.atSite conn) tool remote name)
      (fun _ => True) (Allowed [source, sink]) := by
  unfold transfer
  apply tells_bind (tells_outside (SlotProvision.tells_createSlot remote _ name))
  intro slot said
  apply tells_bind (m := fun _ _ => True)
  · apply tells_outside
    apply tells_bind (m := fun _ _ => True)
    · apply (SlotProvision.tells_provisionOrigin slot).weaken
      · rintro ⟨hP, query, params, r, hSlot, hSaid⟩
        exact ⟨hP, _, _, _, _, _, hSlot, hSaid⟩
      · exact fun _ _ _ h => h
      · exact fun _ _ h => h
    · exact fun _ _ => tells_pure fun _ => trivial
  intro _ said'
  apply Accounts.tells
  apply accounts_bind (accounts_enterPhase i _)
  intro _
  apply accounts_bind (accounts_logOutside _ _)
  intro _
  apply accounts_bind (m := fun _ => True)
  · unfold logDetail
    split
    · exact accounts_logOutside _ _
    · exact accounts_pure fun _ => trivial
  intro _
  apply accounts_bind (accounts_dumpOutside h tool _ _)
  intro _
  apply accounts_bind (accounts_restoreOutside h tool _ (by decide))
  intro _
  apply accounts_bind (accounts_outside accounts_checkInterrupts)
  intro _
  apply accounts_bind (accounts_logOutside _ _)
  intro _
  apply accounts_bind (accounts_copyOutside h _)
  intro _
  apply accounts_bind (accounts_restoreOutside h tool _ (by decide))
  exact fun _ => accounts_pure fun _ => trivial

theorem accounts_initNode :
    Accounts (terms conn floor).outside P (i.initNode (i.atSite conn)) (fun _ => True)
      (Allowed [source, sink]) := by
  unfold initNode
  apply accounts_bind (accounts_logOutside _ _)
  intro _
  apply accounts_bind (m := fun _ => True)
  · apply accounts_outside
    apply accounts_bind (Catalog.accounts_serverVersion conn)
    exact fun _ => accounts_pure fun _ => trivial
  intro tool
  apply accounts_bind (accounts_outside tool.accounts_checkVersion)
  intro _
  apply accounts_bind (accounts_outside (Catalog.accounts_databaseName conn))
  intro database
  apply accounts_bind (m := fun _ => True)
  · apply accounts_ofExcept
    · exact fun _ _ _ => trivial
    · rintro f hf ⟨-, name, rfl⟩
      obtain ⟨o, hOrigin⟩ := h.originName
      obtain ⟨t, hTarget⟩ := h.targetName
      rw [SlotName.generate_text hOrigin hTarget] at hf
      cases hf
  intro slotName
  apply accounts_bind (accounts_connectOutside h .replication (sound_application h (by decide)))
  intro remote
  exact accounts_ensuring (accounts_transfer h tool remote slotName) (accounts_closeOutside remote)

theorem accounts_connectBack :
    Accounts (terms conn floor).outside P (i.connectBack (i.atSite conn)) (fun _ => True)
      (Allowed [source, sink]) := by
  unfold connectBack
  apply accounts_bind (accounts_connectOutside h .queries (sound_application h (by decide)))
  intro remote
  apply accounts_bind (m := fun _ => True)
  · apply accounts_ensuring
    · exact accounts_outside (Catalog.accounts_setRemoteNodeStatus remote _ _ _)
    · exact accounts_closeOutside remote
  · exact fun _ => accounts_logOutside _ _

end

theorem accounts_stage {start : NodeStatus} {work : Step Site Unit}
    (hWork : ∀ P, Accounts (terms conn floor).outside P work (fun _ => True)
      (Allowed [source, sink])) :
    Accounts (terms conn floor).outside P (stage start work) (fun _ => True)
      (Allowed [source, sink]) := by
  unfold stage
  apply accounts_bind accounts_get
  intro p
  split
  · exact hWork _
  · exact accounts_pure fun _ => trivial

theorem accounts_run (h : i.Readable source sink) :
    Accounts (terms conn floor).outside P (i.run (i.atSite conn)) (fun _ => True)
      (Allowed [source, sink]) := by
  unfold run
  apply accounts_bind (m := fun _ => True)
  · unfold begin
    apply accounts_bind (accounts_outside (Catalog.accounts_nodeStatus conn _ _))
    intro status
    apply accounts_bind (accounts_withStatus .target status)
    intro _
    apply accounts_bind (accounts_logOutside _ _)
    intro _
    unfold checkRecoverable
    split
    · exact accounts_pure fun _ => trivial
    · exact accounts_throw fun _ => .init rfl
  intro _
  apply accounts_bind
  · apply accounts_stage
    intro P
    apply accounts_bind (accounts_initNode h)
    exact fun _ => accounts_advance i _
  intro _
  apply accounts_bind
  · apply accounts_stage
    intro P
    apply accounts_bind (m := fun _ => True)
    · apply accounts_outside
      apply accounts_bind (SlotProvision.accounts_makeOtherSlots _)
      exact fun _ => accounts_pure fun _ => trivial
    · exact fun _ => accounts_advance i _
  intro _
  apply accounts_bind
  · apply accounts_stage
    intro P
    apply accounts_bind (accounts_checkTargetRole i)
    exact fun _ => accounts_advance i _
  intro _
  apply accounts_stage
  intro P
  apply accounts_bind (accounts_checkTargetRole i)
  intro _
  apply accounts_bind (accounts_advance i _)
  intro _
  apply accounts_bind (accounts_connectBack h)
  exact fun _ => accounts_logOutside _ _

/-- How a fault leaves a run: as one of the initialisation, for which the program has an exit code, or
in spite of that. A copy without an end never comes to its fault. -/
inductive Leaves (source sink : String) (conn : Nat) (talk : List Entry) (f : Fault) : Prop
  | settled (hInit : f.isInit = true) (hSettles : Program.Settles f)
  | endless (hEndless : f = Copy.endless)
  | notText {dsn : String} {e : Text.Utf8Error} (hDsn : dsn = source ∨ dsn = sink)
      (hParse : Conninfo.parse dsn = .error (.notText e)) (hText : f = (Conninfo.Error.notText e).fault)
  | letThrough {piece : List Entry} (hPiece : piece <:+: talk) (hLet : LetThrough conn f piece)

theorem leaves_of_orderly (h : i.Readable source sink) (conn : Nat) (w : Site) :
    ∃ talk, ((i.runAtSite conn).outcome w).2.talk = w.talk ++ talk ∧
      ((∀ y ∈ talk, y.isOrderly = true) → ∀ f, ((i.runAtSite conn).outcome w).1 = .error f →
        Leaves source sink conn talk f) := by
  have hRun : Accounts (terms conn 0).outside True (i.run (i.atSite conn)) (fun _ => True)
      (Allowed [source, sink]) := accounts_run h
  obtain ⟨talk, hTalk, -, hEnd⟩ :=
    hRun ⟨i.pair.origin.status, i.pair.target.status, w⟩ (Nat.zero_le _)
  refine ⟨talk, hTalk, fun hOrderly f hFault => ?_⟩
  have hEnd := hEnd trivial hOrderly
  have hFault : ((i.run (i.atSite conn)).outcome
      ⟨i.pair.origin.status, i.pair.target.status, w⟩).1 = .error f := hFault
  rw [hFault] at hEnd
  rcases hEnd with hAllowed | ⟨piece, hPiece, hLet⟩
  · cases hAllowed with
    | init hInit => exact .settled hInit (Program.settles_of_isInit hInit)
    | endless hEndless => exact .endless hEndless
    | notText hDsn hParse hText =>
      have hDsn := (List.mem_cons.mp hDsn).imp_right List.mem_singleton.mp
      exact .notText hDsn hParse hText
  · exact .letThrough hPiece hLet

/-- Two nodes, and tools in a directory of their own. -/
def twoNodes : Initialiser where
  pair :=
    { origin := { id := .int 1, name := "provider", dsn := "host=a", role := .provider }
      target := { id := .int 2, name := "subscriber", dsn := "host=b" }
      replicationSets := ["default"] }
  settings := { tools := .of "/bin" "" }

theorem twoNodes_readable : twoNodes.Readable "host=a" "host=b" where
  originName := ⟨_, rfl⟩
  targetName := ⟨_, rfl⟩
  originDsn := rfl
  targetDsn := rfl
  originEntries := ⟨[("host", .ok "a")], by decide +kernel⟩
  targetEntries := ⟨[("host", .ok "b")], by decide +kernel⟩
  application := by decide

/-- A site whose local server fails on requests with `pattern` in them. -/
def failingOn (pattern : String) : Site where
  host := { tools := [("/bin/pg_dump", true), ("/bin/pg_restore", true)] }
  servers := [
    { script := [
        { pattern, replies := .standing { fault := some (.driver .operational "gone") } },
        { pattern := "SELECT node_status", replies := .standing { rows := [["i"]] } },
        { pattern := "server_version_num", replies := .standing { rows := [["160004"]] } },
        { pattern := "current_database", replies := .standing { rows := [["subscriber_db"]] } }] },
    { script := [
        { pattern := "CREATE_REPLICATION_SLOT"
          replies := .standing { rows := [["slot", "0/16B3748", "00000003-0000001B-1"]] } }] }]
  connections := 1
  commands :=
    [{ pattern := "-V", replies := .standing { stdout := "pg_dump (PostgreSQL) 16.2\n" } }]

theorem leaves_failing_version :
    ((twoNodes.runAtSite 0).outcome (failingOn "server_version")).1 =
        .error (.init .fatal "could not get server version: gone") ∧
      Leaves "host=a" "host=b" 0 ((twoNodes.runAtSite 0).outcome (failingOn "server_version")).2.talk
        (.init .fatal "could not get server version: gone") := by
  obtain ⟨talk, hTalk, hLeaves⟩ := leaves_of_orderly twoNodes_readable 0 (failingOn "server_version")
  have hRun : (∀ y ∈ ((twoNodes.runAtSite 0).outcome (failingOn "server_version")).2.talk,
        y.isOrderly = true) ∧
      ((twoNodes.runAtSite 0).outcome (failingOn "server_version")).1 =
        .error (.init .fatal "could not get server version: gone") := by decide +kernel
  have hFresh : (failingOn "server_version").talk = [] := rfl
  rw [hFresh, List.nil_append] at hTalk
  rw [hTalk] at hRun ⊢
  exact ⟨hRun.2, hLeaves hRun.1 _ hRun.2⟩

theorem failing_begin_escapes :
    twoNodes.Readable "host=a" "host=b" ∧
      (∀ y ∈ ((twoNodes.runAtSite 0).outcome (failingOn "<begin>")).2.talk, y.isOrderly = true) ∧
      ((twoNodes.runAtSite 0).outcome (failingOn "<begin>")).1 =
        .error (.driver .operational "gone") :=
  ⟨twoNodes_readable, by decide +kernel⟩

end Initialiser

end ReplicaBootstrap
