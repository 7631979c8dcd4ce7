import ReplicaBootstrap.Proofs.StatusOrder

/-! # The pipeline of the first stage

A target that is new is filled by a fixed row of calls. A run goes along this row until a call fails;
if one fails while the connection of the snapshot is open, only the connection is closed after it.
-/

namespace ReplicaBootstrap

open ReplicaBootstrap.Action Rehearsal

variable {tool : Type}

structure Exchange (tool : Type) where
  request : Request tool
  outcome : Except Fault request.Answer

def Deed.exchange (d : Deed tool) : Exchange tool := ⟨d.request, d.outcome⟩

def Request.snapshot? : Request tool → Option Value
  | .dump _ snapshot _ _ | .copyNodeData snapshot => some snapshot
  | _ => none

/-- The row of calls that fills a new target. -/
def Initialiser.pipeline (i : Initialiser) (t : tool) (name : String) (conn : Nat) (slot : Slot) :
    List (Request tool) :=
  [.checkVersion t,
    .databaseName,
    .connect .replication i.pair.origin.dsn i.settings.snapshotApplicationName,
    .createSlot conn name,
    .provisionOrigin slot,
    .dump t slot.snapshot i.settings.tools.archive.plain i.pair.origin.dsn,
    .restore t "pre-data" i.settings.tools.archive.plain i.pair.target.dsn,
    .checkInterrupts,
    .copyNodeData slot.snapshot,
    .restore t "post-data" i.settings.tools.archive.plain i.pair.target.dsn,
    .close conn,
    .setNodeStatus i.pair.target.id .slots]

namespace Pipeline

def opening (i : Initialiser) (t : tool) (database : String) (conn : Nat) : List (Exchange tool) :=
  [⟨.checkVersion t, .ok ()⟩,
    ⟨.databaseName, .ok database⟩,
    ⟨.connect .replication i.pair.origin.dsn i.settings.snapshotApplicationName, .ok conn⟩]

def work (i : Initialiser) (t : tool) (name : String) (conn : Nat) (slot : Slot) :
    List (Exchange tool) :=
  [⟨.createSlot conn name, .ok slot⟩,
    ⟨.provisionOrigin slot, .ok ()⟩,
    ⟨.dump t slot.snapshot i.settings.tools.archive.plain i.pair.origin.dsn, .ok ()⟩,
    ⟨.restore t "pre-data" i.settings.tools.archive.plain i.pair.target.dsn, .ok ()⟩,
    ⟨.checkInterrupts, .ok ()⟩,
    ⟨.copyNodeData slot.snapshot, .ok ()⟩,
    ⟨.restore t "post-data" i.settings.tools.archive.plain i.pair.target.dsn, .ok ()⟩]

/-- The calls that fill a target, in which only closing may have gone wrong. -/
def filling (i : Initialiser) (t : tool) (database name : String) (conn : Nat) (slot : Slot)
    (closing : Except Fault Unit) : List (Exchange tool) :=
  opening i t database conn ++ (work i t name conn slot ++ [⟨.close conn, closing⟩])

/-- A row of calls as far as the first one that fails. -/
def CutAt (row made : List (Exchange tool)) : Prop :=
  ∃ k q o f, row[k]? = some ⟨q, o⟩ ∧ made = row.take k ++ [⟨q, .error f⟩]

/-- What is left of the filling when it ends before its end. -/
inductive Broken (i : Initialiser) (t : tool) : List (Exchange tool) → Prop
  | opening {database conn made} (h : CutAt (opening i t database conn) made) : Broken i t made
  /-- the slot has no name, since the names of the nodes are no texts -/
  | unnamed {database f}
      (h : SlotName.generate (.text database) i.pair.origin i.pair.target = .error f) :
      Broken i t [⟨.checkVersion t, .ok ()⟩, ⟨.databaseName, .ok database⟩]
  | work {database name conn slot made} (closing : Except Fault Unit)
      (hName : SlotName.generate (.text database) i.pair.origin i.pair.target = .ok name)
      (h : CutAt (work i t name conn slot) made) :
      Broken i t (Pipeline.opening i t database conn ++ (made ++ [⟨.close conn, closing⟩]))
  /-- closing has failed with what is no fault of the driver -/
  | closing {database name conn slot f} (hFault : f.isDriver = false)
      (hName : SlotName.generate (.text database) i.pair.origin i.pair.target = .ok name) :
      Broken i t (filling i t database name conn slot (.error f))

/-- The calls of a run that has found a new target, all but the first one. -/
inductive Course (i : Initialiser) (t : tool) : List (Exchange tool) → Prop
  | broken {calls} (h : Broken i t calls) : Course i t calls
  | refused {database name conn slot closing} (f : Fault)
      (hName : SlotName.generate (.text database) i.pair.origin i.pair.target = .ok name)
      (hClosing : ∀ f, closing = .error f → f.isDriver = true) :
      Course i t (filling i t database name conn slot closing ++
        [⟨.setNodeStatus i.pair.target.id .slots, .error f⟩])
  | filled {database name conn slot closing} (later : List (Exchange tool))
      (hName : SlotName.generate (.text database) i.pair.origin i.pair.target = .ok name)
      (hClosing : ∀ f, closing = .error f → f.isDriver = true)
      (hLater : ∀ x ∈ later, x.request.snapshot? = none) :
      Course i t (filling i t database name conn slot closing ++
        ⟨.setNodeStatus i.pair.target.id .slots, .ok ()⟩ :: later)

/-! ## The calls of the first stage -/

/-- What a run has called so far, which has its schema tools. -/
structure Called (t : tool) (memory : NodeStatus) (made : List (Exchange tool))
    (p : Progress (Rehearsal tool)) : Prop where
  made : p.outside.deeds.map Deed.exchange = made
  tool? : p.outside.tool? = some t
  memory : p.target = memory

variable {i : Initialiser} {t : tool} {memory : NodeStatus} {made : List (Exchange tool)}

theorem Called.snoc {p p' : Progress (Rehearsal tool)} {q : Request tool}
    {outcome : Except Fault q.Answer} (h : Called t memory made p) (hMade : Made q outcome p p') :
    Called t memory (made ++ [⟨q, outcome⟩]) p' where
  made := by
    rw [hMade.deeds, List.map_append, h.made]
    rfl
  tool? := hMade.tool?.trans h.tool?
  memory := hMade.target.trans h.memory

theorem called_ask (q : Request tool) :
    Meets (Called t memory made) (ask q) (fun a => Called t memory (made ++ [⟨q, .ok a⟩]))
      (fun f => Called t memory (made ++ [⟨q, .error f⟩])) :=
  meets_ask (fun _ _ _ h hMade => h.snoc hMade) (fun _ _ _ h hMade => h.snoc hMade)

def CutOff (t : tool) (made row : List (Exchange tool)) (p : Progress (Rehearsal tool)) : Prop :=
  ∃ memory cut, CutAt row cut ∧ Called t memory (made ++ cut) p

/-- The next call of a row is made, of which the row may depend from there on. -/
theorem called_answer {q : Request tool} {r : q.Answer → List (Exchange tool)} {k : Nat}
    (a : q.Answer) (hq : ∀ b, (r b)[k]? = some ⟨q, .ok b⟩)
    (hTake : ∀ b, (r b).take k = (r a).take k) :
    Meets (Called t memory (made ++ (r a).take k)) (ask q)
      (fun b => Called t memory (made ++ (r b).take (k + 1))) (fun _ => CutOff t made (r a)) := by
  apply (called_ask q).weaken (fun _ h => h)
  · intro b p h
    rw [List.append_assoc, ← hTake b] at h
    rw [List.take_add_one, hq b]
    exact h
  · intro f p h
    rw [List.append_assoc] at h
    exact ⟨memory, _, ⟨k, q, _, f, hq a, rfl⟩, h⟩

theorem called_row {row : List (Exchange tool)} {k : Nat} {q : Request tool} {a : q.Answer}
    (hq : row[k]? = some ⟨q, .ok a⟩) (ha : ∀ b : q.Answer, b = a) :
    Meets (Called t memory (made ++ row.take k)) (ask q)
      (fun _ => Called t memory (made ++ row.take (k + 1))) (fun _ => CutOff t made row) :=
  called_answer (r := fun _ => row) a (fun b => ha b ▸ hq) fun _ => rfl

theorem Called.take_zero {row : List (Exchange tool)} {p : Progress (Rehearsal tool)}
    (h : Called t memory made p) : Called t memory (made ++ row.take 0) p := by
  rw [List.take_zero, List.append_nil]
  exact h

theorem Called.withStatus {p : Progress (Rehearsal tool)} {status : NodeStatus}
    (h : Called t memory made p) : Called t status made (p.withStatus .target status) :=
  ⟨h.made, h.tool?, rfl⟩

theorem called_schemaTool {bad : Fault → Progress (Rehearsal tool) → Prop} :
    Meets (Called t memory made) (services tool).schemaTool
      (fun u p => u = t ∧ Called t memory made p) bad := by
  apply Initialiser.meets_schemaTool
  · intro u p hHave h
    rw [h.tool?] at hHave
    exact ⟨(Option.some.inj hHave).symm, h⟩
  · rintro p ⟨hNone, h⟩
    rw [h.tool?] at hNone
    cases hNone

theorem called_closeQuietly (conn : Nat) :
    Meets (Called t memory made) (Initialiser.closeQuietly (services tool) conn)
      (fun _ p => ∃ closing, (∀ f, closing = .error f → f.isDriver = true) ∧
        Called t memory (made ++ [⟨.close conn, closing⟩]) p)
      (fun f p => f.isDriver = false ∧ Called t memory (made ++ [⟨.close conn, .error f⟩]) p) := by
  apply Initialiser.meets_closeQuietly
    (e := fun f => Called t memory (made ++ [⟨.close conn, .error f⟩]))
  · apply (called_ask (.close conn)).imp_good
    intro a p h
    exact ⟨.ok a, nofun, h⟩
  · intro f hf p h
    refine ⟨.error f, ?_, h⟩
    intro g hg
    cases hg
    exact hf
  · intro f hf p h
    exact ⟨hf, h⟩

theorem called_transfer {conn : Nat} {name : String} :
    Meets (Called t memory made) (i.transfer (services tool) t conn name)
      (fun slot => Called t .syncSchema (made ++ work i t name conn slot))
      (fun _ p => ∃ slot, CutOff t made (work i t name conn slot) p) := by
  unfold Initialiser.transfer
  apply meets_bind (m := fun slot => Called t memory (made ++ (work i t name conn slot).take 1))
  · have hCall : Meets (Called t memory (made ++ (work i t name conn default).take 0))
        (ask (.createSlot conn name)) _ _ :=
      called_answer (r := work i t name conn) (k := 0) default (fun _ => rfl) fun _ => rfl
    apply hCall.weaken (fun _ h => h.take_zero) (fun _ _ h => h)
    intro f p h
    exact ⟨default, h⟩
  intro slot
  have hCut (f : Fault) (p : Progress (Rehearsal tool))
      (h : CutOff t made (work i t name conn slot) p) :
      ∃ slot, CutOff t made (work i t name conn slot) p := ⟨slot, h⟩
  refine Meets.weaken ?_ (fun _ h => h) (fun _ _ h => h) hCut
  apply meets_bind (called_row (k := 1) rfl fun _ => rfl)
  intro _
  apply meets_bind (i.meets_enterPhase fun _ h => h.withStatus)
  intro _
  apply meets_bind (silent_log _ _)
  intro _
  apply meets_bind (i.meets_logDetail _ fun _ h => h)
  intro _
  apply meets_bind (called_row (k := 2) rfl fun _ => rfl)
  intro _
  apply meets_bind (called_row (k := 3) rfl fun _ => rfl)
  intro _
  apply meets_bind (called_row (k := 4) rfl fun _ => rfl)
  intro _
  apply meets_bind (silent_log _ _)
  intro _
  apply meets_bind (called_row (k := 5) rfl fun _ => rfl)
  intro _
  apply meets_bind (called_row (k := 6) rfl fun _ => rfl)
  intro _
  exact meets_pure fun _ h => h

def FillingBroken (i : Initialiser) (t : tool) (made : List (Exchange tool))
    (p : Progress (Rehearsal tool)) : Prop :=
  ∃ memory calls, Broken i t calls ∧ Called t memory (made ++ calls) p

def FillingDone (i : Initialiser) (t : tool) (made : List (Exchange tool))
    (p : Progress (Rehearsal tool)) : Prop :=
  ∃ database name conn slot closing,
    SlotName.generate (.text database) i.pair.origin i.pair.target = .ok name ∧
      (∀ f, closing = .error f → f.isDriver = true) ∧
      Called t .syncSchema (made ++ filling i t database name conn slot closing) p

theorem called_initNode :
    Meets (Called t memory made) (i.initNode (services tool)) (fun _ => FillingDone i t made)
      (fun _ => FillingBroken i t made) := by
  unfold Initialiser.initNode
  apply meets_bind (silent_log _ _)
  intro _
  apply meets_bind called_schemaTool
  intro u
  apply meets_known
  rintro _ ⟨rfl, h⟩
  refine ⟨_, h, ?_⟩
  have hOpening {database : String} {conn : Nat} (f : Fault) (p : Progress (Rehearsal tool))
      (h : CutOff u made (opening i u database conn) p) : FillingBroken i u made p := by
    obtain ⟨m, cut, hCut, hCalled⟩ := h
    exact ⟨m, cut, .opening hCut, hCalled⟩
  apply meets_bind (m := fun _ => Called u memory (made ++ (opening i u "" 0).take 1))
  · exact (called_row (k := 0) rfl fun _ => rfl).weaken (fun _ h => h.take_zero) (fun _ _ h => h)
      hOpening
  intro _
  apply meets_bind (m := fun v p => ∃ database, v = .text database ∧
    Called u memory (made ++ (opening i u database 0).take 2) p)
  · apply meets_bind (m := fun database =>
      Called u memory (made ++ (opening i u database 0).take 2))
    · exact (called_answer (r := fun database => opening i u database 0) (k := 1) ""
        (fun _ => rfl) fun _ => rfl).weaken (fun _ h => h) (fun _ _ h => h) hOpening
    intro database
    exact meets_pure fun _ h => ⟨database, rfl, h⟩
  intro _
  apply meets_known
  rintro _ ⟨database, rfl, h⟩
  refine ⟨_, h, ?_⟩
  apply meets_bind (m := fun name p =>
    SlotName.generate (.text database) i.pair.origin i.pair.target = .ok name ∧
      Called u memory (made ++ (opening i u database 0).take 2) p)
  · apply meets_ofExcept
    · intro name hName p h
      exact ⟨hName, h⟩
    · intro f hName p h
      exact ⟨memory, _, .unnamed hName, h⟩
  intro name
  apply meets_known
  rintro _ ⟨hName, h⟩
  refine ⟨_, h, ?_⟩
  apply meets_bind (m := fun conn => Called u memory (made ++ opening i u database conn))
  · exact (called_answer (r := opening i u database) (k := 2) 0 (fun _ => rfl)
      fun _ => rfl).weaken (fun _ h => h) (fun _ _ h => h) hOpening
  intro conn
  apply meets_ensuring called_transfer
  · intro slot
    apply (called_closeQuietly conn).weaken (fun _ h => h)
    · rintro _ p ⟨closing, hClosing, h⟩
      rw [List.append_assoc, List.append_assoc] at h
      exact ⟨database, name, conn, slot, closing, hName, hClosing, h⟩
    · rintro f p ⟨hFault, h⟩
      rw [List.append_assoc, List.append_assoc] at h
      exact ⟨_, _, .closing hFault hName, h⟩
  · intro f
    apply meets_known
    rintro _ ⟨slot, m, cut, hCut, h⟩
    refine ⟨_, h, ?_⟩
    have hBroken {closing : Except Fault Unit} {p : Progress (Rehearsal tool)}
        (h : Called u m (made ++ opening i u database conn ++ cut ++ [⟨.close conn, closing⟩]) p) :
        FillingBroken i u made p := by
      rw [List.append_assoc, List.append_assoc] at h
      exact ⟨m, _, .work closing hName hCut, h⟩
    apply (called_closeQuietly conn).weaken (fun _ h => h)
    · rintro _ p ⟨closing, -, h⟩
      exact hBroken h
    · rintro g p ⟨-, h⟩
      exact hBroken h

theorem called_advance {status kept : NodeStatus} (hMemory : memory.Mirrors kept)
    (hNext : kept.next? = some status) :
    Meets (Called t memory made) (i.advance (services tool) .target status)
      (fun _ => Called t status (made ++ [⟨.setNodeStatus i.pair.target.id status, .ok ()⟩]))
      (fun f => Called t memory (made ++ [⟨.setNodeStatus i.pair.target.id status, .error f⟩])) := by
  apply i.meets_advance
  · intro f p hError h
    rw [h.memory, Initialiser.checkMove_of_next? hMemory hNext] at hError
    cases hError
  · apply (called_ask _).weaken (fun _ h => h.2) _ (fun _ _ h => h)
    intro _ p h
    exact h.withStatus

inductive Filled (i : Initialiser) (t : tool) : List (Exchange tool) → Prop
  | filled {database name conn slot closing}
      (hName : SlotName.generate (.text database) i.pair.origin i.pair.target = .ok name)
      (hClosing : ∀ f, closing = .error f → f.isDriver = true) :
      Filled i t (filling i t database name conn slot closing ++
        [⟨.setNodeStatus i.pair.target.id .slots, .ok ()⟩])

theorem called_fill :
    Meets (Called t memory made) (i.fill (services tool))
      (fun _ p => ∃ calls, Filled i t calls ∧ Called t .slots (made ++ calls) p)
      (fun _ p => ∃ memory calls, Course i t calls ∧ Called t memory (made ++ calls) p) := by
  apply meets_bind (m := fun _ => FillingDone i t made)
  · apply called_initNode.imp_bad
    rintro f p ⟨m, calls, hBroken, h⟩
    exact ⟨m, calls, .broken hBroken, h⟩
  intro _
  apply meets_known
  rintro _ ⟨database, name, conn, slot, closing, hName, hClosing, h⟩
  refine ⟨_, h, ?_⟩
  apply (called_advance (.inr ⟨rfl, rfl⟩) rfl).weaken (fun _ h => h)
  · intro _ p h
    rw [List.append_assoc] at h
    exact ⟨_, .filled hName hClosing, h⟩
  · intro f p h
    rw [List.append_assoc] at h
    exact ⟨_, _, .refused f hName hClosing, h⟩

/-! ## The calls of a run -/

/-- After the first stage, or without it, nothing more is called that works on a snapshot. -/
def Past (i : Initialiser) (t : tool) (p : Progress (Rehearsal tool)) : Prop :=
  ∃ status calls later,
    p.outside.deeds.map Deed.exchange =
      ⟨.nodeStatus i.pair.target.id, .ok status⟩ :: (calls ++ later) ∧
    (status = .init ∧ Filled i t calls ∨ status ≠ .init ∧ calls = []) ∧
    ∀ x ∈ later, x.request.snapshot? = none

/-- The calls of a run, if it has found a new target, and what is called in any case. -/
def Gone (i : Initialiser) (t : tool) (p : Progress (Rehearsal tool)) : Prop :=
  ∃ outcome calls,
    p.outside.deeds.map Deed.exchange = ⟨.nodeStatus i.pair.target.id, outcome⟩ :: calls ∧
    (outcome = .ok .init → Course i t calls) ∧
    (outcome ≠ .ok .init → ∀ x ∈ calls, x.request.snapshot? = none)

theorem Filled.course {calls later : List (Exchange tool)} (h : Filled i t calls)
    (hLater : ∀ x ∈ later, x.request.snapshot? = none) : Course i t (calls ++ later) := by
  obtain ⟨hName, hClosing⟩ := h
  rw [List.append_assoc]
  exact .filled later hName hClosing hLater

theorem Past.gone {p : Progress (Rehearsal tool)} (h : Past i t p) : Gone i t p := by
  obtain ⟨status, calls, later, hCalls, hFirst, hLater⟩ := h
  refine ⟨.ok status, calls ++ later, hCalls, ?_, ?_⟩
  · intro hInit
    cases hInit
    rcases hFirst with ⟨-, hFilled⟩ | ⟨hNot, -⟩
    · exact hFilled.course hLater
    · exact absurd rfl hNot
  · intro hNot
    rcases hFirst with ⟨rfl, -⟩ | ⟨-, rfl⟩
    · exact absurd rfl hNot
    · exact hLater

theorem Past.snoc {p p' : Progress (Rehearsal tool)} {q : Request tool}
    {outcome : Except Fault q.Answer} (h : Past i t p) (hq : q.snapshot? = none)
    (hMade : Made q outcome p p') : Past i t p' := by
  obtain ⟨status, calls, later, hCalls, hFirst, hLater⟩ := h
  refine ⟨status, calls, later ++ [⟨q, outcome⟩], ?_, hFirst, ?_⟩
  · rw [hMade.deeds, List.map_append, hCalls, List.cons_append, List.append_assoc]
    rfl
  · intro x hx
    rcases List.mem_append.mp hx with hx | hx
    · exact hLater x hx
    · rw [List.mem_singleton.mp hx]
      exact hq

theorem past_ask {q : Request tool} (hq : q.snapshot? = none) : Keeps (Past i t) (ask q) :=
  meets_ask (fun _ _ _ h hMade => h.snoc hq hMade) (fun _ _ _ h hMade => h.snoc hq hMade)

theorem Past.withStatus {p : Progress (Rehearsal tool)} {status : NodeStatus} (h : Past i t p) :
    Past i t (p.withStatus .target status) := h

theorem past_advance {status : NodeStatus} :
    Keeps (Past i t) (i.advance (services tool) .target status) := by
  apply i.meets_advance
  · intro _ _ _ h
    exact h
  · exact (past_ask rfl).weaken (fun _ h => h.2) (fun _ _ h => h.withStatus) (fun _ _ h => h)

theorem past_connectBack : Keeps (Past i t) (i.connectBack (services tool)) :=
  i.meets_connectBack (fun _ _ => past_ask rfl) (fun _ => past_ask rfl) (fun _ => past_ask rfl)
    (fun _ => past_ask rfl) (fun _ h => h)

theorem past_checkTargetRole :
    Keeps (Past i t) (i.checkTargetRole : Step (Rehearsal tool) Unit) :=
  Initialiser.meets_checkTargetRole (fun _ _ h => h) (fun _ _ h => h)

theorem past_stage {start : NodeStatus} {work : Step (Rehearsal tool) Unit}
    (h : Keeps (Past i t) work) : Keeps (Past i t) (Initialiser.stage start work) :=
  Initialiser.meets_stage (h.imp_pre (fun _ h => h.2))
    (fun _ _ h => h)

theorem past_makeSlots : Keeps (Past i t) (i.makeSlots (services tool)) :=
  keeps_bind (past_ask rfl) fun _ => past_advance

theorem past_catchUp : Keeps (Past i t) (i.catchUp (services tool)) :=
  keeps_bind past_checkTargetRole fun _ => past_advance

theorem past_complete : Keeps (Past i t) (i.complete (services tool)) := by
  apply keeps_bind past_checkTargetRole
  intro _
  apply keeps_bind past_advance
  intro _
  apply keeps_bind past_connectBack
  intro _
  exact silent_log _ _

def Begun (i : Initialiser) (t : tool) (p : Progress (Rehearsal tool)) : Prop :=
  ∃ status, Called t status [⟨.nodeStatus i.pair.target.id, .ok status⟩] p

theorem called_begin :
    Meets (Called t memory []) (i.begin (services tool)) (fun _ => Begun i t)
      (fun _ => Gone i t) := by
  apply i.meets_begin (m := fun status =>
    Called t memory [⟨.nodeStatus i.pair.target.id, .ok status⟩])
  · apply (called_ask (.nodeStatus i.pair.target.id)).imp_bad
    intro f p h
    exact ⟨.error f, [], h.made, nofun, fun _ _ hx => by cases hx⟩
  · intro status p _ h
    exact ⟨status, h.withStatus⟩
  · intro status p hNot h
    refine ⟨.ok status, [], h.made, ?_, fun _ _ hx => by cases hx⟩
    intro hInit
    cases hInit
    cases hNot

theorem past_firstStage :
    Meets (Begun i t) (Initialiser.stage .init (i.fill (services tool))) (fun _ => Past i t)
      (fun _ => Gone i t) := by
  apply Initialiser.meets_stage
  · have hFill : Meets (Called t .init [⟨.nodeStatus i.pair.target.id, .ok .init⟩])
        (i.fill (services tool)) _ _ := called_fill
    apply hFill.weaken
    · rintro p ⟨hInit, status, h⟩
      cases h.memory.symm.trans hInit
      exact h
    · rintro _ p ⟨calls, hFilled, h⟩
      refine ⟨.init, calls, [], ?_, .inl ⟨rfl, hFilled⟩, fun _ hx => by cases hx⟩
      rw [List.append_nil]
      exact h.made
    · rintro f p ⟨m, calls, hCourse, h⟩
      exact ⟨.ok .init, calls, h.made, fun _ => hCourse, fun hNot => absurd rfl hNot⟩
  · rintro p hInit ⟨status, h⟩
    exact ⟨status, [], [], h.made, .inr ⟨h.memory ▸ hInit, rfl⟩, fun _ hx => by cases hx⟩

theorem gone_run :
    Meets (Called t memory []) (i.run (services tool)) (fun _ => Gone i t)
      (fun _ => Gone i t) := by
  have hGone {x : Step (Rehearsal tool) Unit} (h : Keeps (Past i t) x) :
      Meets (Past i t) x (fun _ => Past i t) (fun _ => Gone i t) :=
    h.imp_bad (fun _ _ h => h.gone)
  unfold Initialiser.run
  apply meets_bind called_begin
  intro _
  apply meets_bind past_firstStage
  intro _
  apply meets_bind (hGone (past_stage past_makeSlots))
  intro _
  apply meets_bind (hGone (past_stage past_catchUp))
  intro _
  exact (hGone (past_stage past_complete)).imp_good (fun _ _ h => h.gone)

/-! ## What the courses have in common -/

/-- Calls as in a row, each after those that went as the row has them. -/
def Along (row made : List (Exchange tool)) : Prop :=
  ∀ n x, made[n]? = some x →
    (∃ y, row[n]? = some y ∧ x.request = y.request) ∧ made.take n = row.take n

theorem Along.refl (row : List (Exchange tool)) : Along row row :=
  fun _ x hx => ⟨⟨x, hx, rfl⟩, rfl⟩

theorem CutAt.along {row made : List (Exchange tool)} (h : CutAt row made) : Along row made := by
  obtain ⟨k, q, o, f, hq, rfl⟩ := h
  have hk : k < row.length := (List.getElem?_eq_some_iff.mp hq).1
  have hLength : (row.take k).length = k := List.length_take_of_le hk.le
  intro n x hx
  rcases Nat.lt_trichotomy n k with hn | rfl | hn
  · rw [List.getElem?_append_left (by omega), List.getElem?_take_of_lt hn] at hx
    refine ⟨⟨x, hx, rfl⟩, ?_⟩
    rw [List.take_append_of_le_length (by omega), List.take_take, Nat.min_eq_left hn.le]
  · rw [List.getElem?_append_right (by omega), hLength, Nat.sub_self] at hx
    cases hx
    refine ⟨⟨_, hq, rfl⟩, ?_⟩
    rw [List.take_append_of_le_length (by omega), List.take_take, Nat.min_self]
  · rw [List.getElem?_eq_none (by simp; omega)] at hx
    cases hx

def requests (row : List (Exchange tool)) : List (Request tool) := row.map Exchange.request

theorem Along.requests_prefix {row made : List (Exchange tool)} (h : Along row made) :
    requests made <+: requests row := by
  rw [List.prefix_iff_getElem?]
  intro n hn
  rw [requests, List.length_map] at hn
  obtain ⟨⟨y, hy, hxy⟩, -⟩ := h n made[n] (List.getElem?_eq_getElem hn)
  simp only [requests, List.getElem_map, List.getElem?_map, hy, hxy, Option.map_some]

theorem CutAt.length {row made : List (Exchange tool)} (h : CutAt row made) :
    0 < made.length ∧ made.length ≤ row.length := by
  obtain ⟨k, q, o, f, hq, rfl⟩ := h
  have hk : k < row.length := (List.getElem?_eq_some_iff.mp hq).1
  rw [List.length_append, List.length_take_of_le hk.le, List.length_singleton]
  omega

theorem pipeline_eq (i : Initialiser) (t : tool) (database name : String) (conn : Nat)
    (slot : Slot) :
    i.pipeline t name conn slot =
      requests (opening i t database conn) ++ (requests (work i t name conn slot) ++
        [.close conn, .setNodeStatus i.pair.target.id .slots]) := rfl

/-- The calls go along the pipeline; cut off while the connection of the snapshot was open, they end
with closing it. -/
def Follows (i : Initialiser) (t : tool) (calls : List (Exchange tool)) : Prop :=
  ∃ name conn slot,
    (∃ front later, calls = front ++ later ∧ requests front <+: i.pipeline t name conn slot ∧
      (later ≠ [] → requests front = i.pipeline t name conn slot)) ∨
    ∃ n, 3 < n ∧ n ≤ 10 ∧
      requests calls = (i.pipeline t name conn slot).take n ++ [.close conn]

theorem follows_of_prefix {calls : List (Exchange tool)} (name : String) (conn : Nat) (slot : Slot)
    (h : requests calls <+: i.pipeline t name conn slot) : Follows i t calls :=
  ⟨name, conn, slot, .inl ⟨calls, [], (List.append_nil _).symm, h, fun hNot => absurd rfl hNot⟩⟩

theorem requests_filling (i : Initialiser) (t : tool) (database name : String) (conn : Nat)
    (slot : Slot) (closing written : Except Fault Unit) :
    requests (filling i t database name conn slot closing ++
      [⟨.setNodeStatus i.pair.target.id .slots, written⟩]) = i.pipeline t name conn slot := rfl

theorem Broken.follows {calls : List (Exchange tool)} (h : Broken i t calls) :
    Follows i t calls := by
  cases h with
  | @opening database conn _ h =>
    apply follows_of_prefix "" conn default
    rw [pipeline_eq i t database]
    exact h.along.requests_prefix.trans (List.prefix_append _ _)
  | unnamed h => exact follows_of_prefix "" 0 default ⟨_, rfl⟩
  | @work database name conn slot made closing hName h =>
    obtain ⟨hPos, hLe⟩ := h.length
    refine ⟨name, conn, slot, .inr ⟨3 + made.length, by omega, ?_, ?_⟩⟩
    · exact Nat.add_le_add_left hLe 3
    · have hMade := List.prefix_iff_eq_take.mp h.along.requests_prefix
      have hLength : (requests made).length = made.length := List.length_map _
      rw [hLength] at hMade
      have hFits : made.length ≤ (requests (Pipeline.work i t name conn slot)).length := hLe
      have hOpening : (requests (Pipeline.opening i t database conn)).length = 3 := rfl
      rw [pipeline_eq i t database, ← hOpening, List.take_length_add_append,
        List.take_append_of_le_length hFits, ← hMade]
      simp only [requests, List.map_append, List.append_assoc, List.map_cons, List.map_nil]
  | @closing database name conn slot f hFault hName =>
    exact follows_of_prefix name conn slot ⟨[.setNodeStatus i.pair.target.id .slots], rfl⟩

theorem Course.follows {calls : List (Exchange tool)} (h : Course i t calls) :
    Follows i t calls := by
  cases h with
  | broken h => exact h.follows
  | @refused database name conn slot closing f hName hClosing =>
    have hRequests := requests_filling i t database name conn slot closing (.error f)
    exact follows_of_prefix name conn slot (hRequests ▸ List.prefix_rfl)
  | @filled database name conn slot closing later hName hClosing hLater =>
    have hRequests := requests_filling i t database name conn slot closing (.ok ())
    refine ⟨name, conn, slot, .inl ⟨_, later, List.append_cons _ _ _, ?_, fun _ => hRequests⟩⟩
    exact hRequests ▸ List.prefix_rfl

/-- What works on a snapshot works on that of a slot made before, whose connection is not closed. -/
def Sheltered (calls : List (Exchange tool)) : Prop :=
  ∀ n x snapshot, calls[n]? = some x → x.request.snapshot? = some snapshot →
    ∃ name conn slot, ⟨.createSlot conn name, .ok slot⟩ ∈ calls.take n ∧ slot.snapshot = snapshot ∧
      ∀ y ∈ calls.take n, y.request ≠ .close conn

theorem sheltered_of_forall {calls : List (Exchange tool)}
    (h : ∀ x ∈ calls, x.request.snapshot? = none) : Sheltered calls := by
  intro n x snapshot hx hSnapshot
  rw [h x (List.mem_of_getElem? hx)] at hSnapshot
  cases hSnapshot

theorem snapshot?_of_mem_opening {database : String} {conn : Nat} {x : Exchange tool}
    (hx : x ∈ opening i t database conn) : x.request.snapshot? = none := by
  simp only [opening, List.mem_cons, List.not_mem_nil, or_false] at hx
  rcases hx with rfl | rfl | rfl <;> rfl

theorem snapshot?_work {name : String} {conn n : Nat} {slot : Slot} {x : Exchange tool}
    {snapshot : Value} (hx : (work i t name conn slot)[n]? = some x)
    (hSnapshot : x.request.snapshot? = some snapshot) : 0 < n ∧ slot.snapshot = snapshot := by
  rcases n with _ | _ | _ | _ | _ | _ | _ | n <;> cases hx <;> cases hSnapshot <;>
    exact ⟨Nat.succ_pos _, rfl⟩

theorem not_close_of_mem {database name : String} {conn : Nat} {slot : Slot} {x : Exchange tool}
    (hx : x ∈ opening i t database conn ∨ x ∈ work i t name conn slot) :
    x.request ≠ .close conn := by
  simp only [opening, work, List.mem_cons, List.not_mem_nil, or_false] at hx
  rcases hx with (rfl | rfl | rfl) | rfl | rfl | rfl | rfl | rfl | rfl | rfl <;> nofun

theorem sheltered_of_along {database name : String} {conn : Nat} {slot : Slot}
    {worked tail : List (Exchange tool)} (h : Along (work i t name conn slot) worked)
    (hTail : ∀ x ∈ tail, x.request.snapshot? = none) :
    Sheltered (opening i t database conn ++ (worked ++ tail)) := by
  intro n x snapshot hx hSnapshot
  have hOpening : (opening i t database conn).length = 3 := rfl
  rcases Nat.lt_or_ge n 3 with hn | hn
  · rw [List.getElem?_append_left hn] at hx
    rw [snapshot?_of_mem_opening (List.mem_of_getElem? hx)] at hSnapshot
    cases hSnapshot
  obtain ⟨m, rfl⟩ := Nat.exists_eq_add_of_le hn
  rw [List.getElem?_append_right hn, hOpening, Nat.add_sub_cancel_left] at hx
  rcases Nat.lt_or_ge m worked.length with hm | hm
  · rw [List.getElem?_append_left hm] at hx
    obtain ⟨⟨y, hy, hxy⟩, hTake⟩ := h m x hx
    rw [hxy] at hSnapshot
    obtain ⟨hPos, hSlot⟩ := snapshot?_work hy hSnapshot
    refine ⟨name, conn, slot, ?_, hSlot, ?_⟩ <;>
      rw [← hOpening, List.take_length_add_append, List.take_append_of_le_length hm.le, hTake]
    · obtain ⟨k, rfl⟩ := Nat.exists_eq_add_of_lt hPos
      rw [Nat.zero_add]
      exact List.mem_append_right _ (List.mem_cons_self ..)
    · intro z hz
      have hMem : z ∈ opening i t database conn ∨ z ∈ work i t name conn slot :=
        (List.mem_append.mp hz).imp_right List.mem_of_mem_take
      exact not_close_of_mem hMem
  · rw [List.getElem?_append_right hm] at hx
    rw [hTail x (List.mem_of_getElem? hx)] at hSnapshot
    cases hSnapshot

theorem Broken.sheltered {calls : List (Exchange tool)} (h : Broken i t calls) :
    Sheltered calls := by
  cases h with
  | opening h =>
    apply sheltered_of_forall
    intro x hx
    obtain ⟨n, hn⟩ := List.mem_iff_getElem?.mp hx
    obtain ⟨⟨y, hy, hxy⟩, -⟩ := h.along n x hn
    rw [hxy]
    exact snapshot?_of_mem_opening (List.mem_of_getElem? hy)
  | unnamed =>
    apply sheltered_of_forall
    intro x hx
    rcases List.mem_pair.mp hx with rfl | rfl <;> rfl
  | work closing hName h =>
    apply sheltered_of_along h.along
    intro x hx
    rw [List.mem_singleton.mp hx]
    rfl
  | closing hFault hName =>
    apply sheltered_of_along (Along.refl _)
    intro x hx
    rw [List.mem_singleton.mp hx]
    rfl

theorem sheltered_filling {database name : String} {conn : Nat} {slot : Slot}
    {closing : Except Fault Unit} {tail : List (Exchange tool)}
    (hTail : ∀ x ∈ tail, x.request.snapshot? = none) :
    Sheltered (filling i t database name conn slot closing ++ tail) := by
  unfold filling
  rw [List.append_assoc, List.append_assoc]
  apply sheltered_of_along (Along.refl _)
  intro x hx
  rcases List.mem_cons.mp hx with rfl | hx
  · rfl
  · exact hTail x hx

theorem Course.sheltered {calls : List (Exchange tool)} (h : Course i t calls) :
    Sheltered calls := by
  cases h with
  | broken h => exact h.sheltered
  | refused f =>
    apply sheltered_filling
    intro x hx
    rw [List.mem_singleton.mp hx]
    rfl
  | filled later hName hClosing hLater =>
    apply sheltered_filling
    intro x hx
    rcases List.mem_cons.mp hx with rfl | hx
    · rfl
    · exact hLater x hx

end Pipeline

namespace Attempt

def exchanges (a : Attempt tool) (c : Catalogs) : List (Exchange tool) :=
  (a.deeds c).map Deed.exchange

/-- A run that finds a new target and has its schema tools goes along the pipeline; whatever a run
finds, it works on the snapshot of a slot that it has made, while the connection is open. -/
theorem along_pipeline (a : Attempt tool) (c : Catalogs) (t : tool)
    (hTool : a.circumstances.tool? = some t) :
    ∃ outcome calls,
      a.exchanges c = ⟨.nodeStatus a.initialiser.pair.target.id, outcome⟩ :: calls ∧
      (outcome = .ok .init →
        Pipeline.Course a.initialiser t calls ∧ Pipeline.Follows a.initialiser t calls) ∧
      Pipeline.Sheltered calls := by
  obtain ⟨outcome, calls, hCalls, hNew, hOld⟩ :=
    Pipeline.gone_run.reaches (s := a.start c) ⟨rfl, hTool, rfl⟩
  refine ⟨outcome, calls, hCalls, ?_, ?_⟩
  · intro hInit
    exact ⟨hNew hInit, (hNew hInit).follows⟩
  · by_cases hInit : outcome = .ok .init
    · exact (hNew hInit).sheltered
    · exact Pipeline.sheltered_of_forall (hOld hInit)

def copies : Request Unit → Bool
  | .copyNodeData _ => true
  | _ => false

theorem along_pipeline_copies :
    (plain copies).circumstances.tool? = some () ∧
      ((plain copies).exchanges .plain).filterMap (fun x => x.request.snapshot?) =
        ["00000003-0000001B-1", "00000003-0000001B-1"] ∧
      ∃ outcome calls,
        (plain copies).exchanges .plain = ⟨.nodeStatus (.int 2), outcome⟩ :: calls ∧
        (outcome = .ok .init → Pipeline.Course (plain copies).initialiser () calls ∧
          Pipeline.Follows (plain copies).initialiser () calls) ∧
        Pipeline.Sheltered calls :=
  ⟨rfl, rfl, along_pipeline (plain copies) .plain () rfl⟩

end Attempt

end ReplicaBootstrap
