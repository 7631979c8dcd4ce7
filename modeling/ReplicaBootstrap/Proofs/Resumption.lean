import ReplicaBootstrap.Proofs.StatusOrder

/-! # Taking up an initialisation again

A run that nothing disturbs ends well from every kept status but readiness. Readiness is kept before
the origin learns of it, so what is cut off in between can not be taken up again.
-/

namespace ReplicaBootstrap

open ReplicaBootstrap.Action Rehearsal

variable {tool : Type}

/-- Nothing disturbs a call, and nobody wants to stop. -/
structure Circumstances.Calm (x : Circumstances tool) : Prop where
  disturb : ∀ ds q, x.disturb ds q = {}
  interrupts : x.interrupts.requested = false

namespace Rehearsal

theorem respond_of_isForeign {r : Rehearsal tool} (h : r.interrupts.requested = false)
    {q : Request tool} (hq : q.isForeign = true) : ∃ a, (r.respond q).1 = .ok a := by
  cases q with
  | nodeStatus | setNodeStatus => cases hq
  | checkInterrupts =>
    refine ⟨(), ?_⟩
    simp only [respond, Interrupts.check, h, Bool.false_eq_true, if_false]
  | _ => exact ⟨_, rfl⟩

theorem meet_of_calm {r : Rehearsal tool} (h : r.toCircumstances.Calm) (q : Request tool) :
    r.meet q (r.disturb r.deeds q) = r.respond q := by
  rw [h.disturb]
  rfl

theorem meets_ask_of_calm {q : Request tool} {pre : Progress (Rehearsal tool) → Prop}
    {good : q.Answer → Progress (Rehearsal tool) → Prop}
    {bad : Fault → Progress (Rehearsal tool) → Prop}
    (hCalm : ∀ p, pre p → p.outside.toCircumstances.Calm)
    (hAnswer : ∀ p, pre p → ∃ a, (p.outside.respond q).1 = .ok a)
    (hok : ∀ a p p', pre p → (p.outside.respond q).1 = .ok a → Made q (.ok a) p p' →
      p'.outside.toCircumstances = p.outside.toCircumstances → good a p') :
    Meets pre (ask q) good bad := by
  rw [meets_iff]
  intro p hp
  have hOutcome : (outcome (ask q) p).1 = (p.outside.respond q).1 :=
    congrArg Prod.fst (meet_of_calm (hCalm p hp) q)
  have hSame : (outcome (ask q) p).2.outside.toCircumstances = p.outside.toCircumstances := by
    have := congrArg (fun x => x.2.toCircumstances) (meet_of_calm (hCalm p hp) q)
    exact this.trans (toCircumstances_respond _ _)
  constructor
  · intro a ha
    exact hok a p _ hp (hOutcome.symm.trans ha) (ha ▸ made_ask q p) hSame
  · intro f hf
    obtain ⟨a, ha⟩ := hAnswer p hp
    cases hf.symm.trans (hOutcome.trans ha)

end Rehearsal

theorem NodeStatus.mem_of_isRecoverable {s : NodeStatus} (h : s.isRecoverable = true) :
    s ∈ [.init, .slots, .catchup, .connectBack] := by
  cases s <;> first | decide | cases h

/-! ## The steps of a run that nothing disturbs -/

/-- A run that nothing disturbs, with what holds of the catalogs and the status in memory. -/
structure Calmly (P : Catalogs → Prop) (memory : NodeStatus) (p : Progress (Rehearsal tool)) :
    Prop where
  calm : p.outside.toCircumstances.Calm
  catalogs : P p.outside.toCatalogs
  memory : p.target = memory

def Catalogs.Holds (id : Value) (s : NodeStatus) (c : Catalogs) : Prop :=
  Bench.get? id c.stored = some s

/-- Both catalogs tell that a node is ready. -/
def Catalogs.Settled (target : Node) (c : Catalogs) : Prop :=
  Bench.get? target.id c.stored = some .ready ∧ Bench.get? target.name c.remote = some .ready

abbrev Succeeds {σ α : Type} (pre : σ → Prop) (x : Action σ α) (good : α → σ → Prop) : Prop :=
  Meets pre x good fun _ _ => False

variable {P Q : Catalogs → Prop} {id : Value} {s t memory : NodeStatus}

theorem succeeds_foreign {q : Request tool} (hq : q.isForeign = true)
    (h : ∀ c, P c → Q (c.updated q)) :
    Succeeds (Calmly P memory) (ask q) (fun _ => Calmly Q memory) := by
  apply meets_ask_of_calm (fun _ h => h.calm)
  · intro p hp
    exact respond_of_isForeign hp.calm.interrupts hq
  · intro a p p' hp _ hMade hSame
    constructor
    case calm => exact hSame ▸ hp.calm
    case catalogs =>
      rw [hMade.catalogs]
      exact h _ hp.catalogs
    case memory => exact hMade.target.trans hp.memory

namespace Initialiser

theorem succeeds_advance (i : Initialiser) {status : NodeStatus} (hMemory : memory.Mirrors t)
    (hNext : t.next? = some status) :
    Succeeds (Calmly (Catalogs.Holds i.pair.target.id t) memory)
      (i.advance (services tool) .target status)
      (fun _ => Calmly (Catalogs.Holds i.pair.target.id status) status) := by
  apply meets_advance
  · intro f p hError h
    rw [h.memory, checkMove_of_next? hMemory hNext] at hError
    cases hError
  · apply meets_ask_of_calm (fun _ h => h.2.calm) (fun _ _ => ⟨(), rfl⟩)
    rintro _ p p' ⟨-, h⟩ _ hMade hSame
    constructor
    case calm => exact hSame ▸ h.calm
    case catalogs =>
      have hCatalogs : Catalogs.Holds i.pair.target.id status p'.outside.toCatalogs := by
        rw [hMade.catalogs]
        exact Bench.get?_put_of_isSome status (Option.isSome_of_eq_some h.catalogs)
      exact hCatalogs
    case memory => rfl

theorem spared_calmly {id : Value} :
    Spared (Calmly (Catalogs.Holds id t) memory) (fun _ : Progress (Rehearsal tool) => False) := by
  intro q hq
  apply succeeds_foreign hq
  intro c h
  cases q <;> first | exact h | cases hq

theorem succeeds_initNode (i : Initialiser) {origin target : String}
    (hOrigin : i.pair.origin.name = .text origin) (hTarget : i.pair.target.name = .text target) :
    Succeeds (Calmly (Catalogs.Holds id t) memory) (i.initNode (services tool))
      (fun _ => Calmly (Catalogs.Holds id t) .syncSchema) := by
  apply meets_initNode i spared_calmly spared_calmly
  · intro _ _ _ h
    exact h.elim
  · intro _ h
    exact ⟨h.calm, h.catalogs, rfl⟩
  · intro _ h
    exact h.elim
  · intro database f hName
    rw [SlotName.generate_text hOrigin hTarget] at hName
    cases hName

theorem succeeds_connectBack (i : Initialiser) {target : String}
    (hTarget : i.pair.target.name = .text target) :
    Succeeds (Calmly (Catalogs.Holds i.pair.target.id .ready) memory)
      (i.connectBack (services tool)) (fun _ => Calmly (Catalogs.Settled i.pair.target) memory) := by
  apply meets_connectBack i (fun _ _ => spared_calmly _ rfl)
  · intro _
    apply succeeds_foreign rfl
    intro c h
    refine ⟨h, Bench.get?_put NodeStatus.ready ?_⟩
    rw [hTarget]
    exact beq_self_eq_true target
  · intro _
    exact succeeds_foreign rfl fun _ h => h
  · intro _ _ h
    exact h.elim
  · intro _ h
    exact h.elim

theorem succeeds_checkTargetRole {i : Initialiser} (hRole : i.pair.target.role = .subscriber) :
    Succeeds (Calmly P memory) (i.checkTargetRole : Step (Rehearsal tool) Unit)
      (fun _ => Calmly P memory) :=
  meets_checkTargetRole (fun _ _ h => h) (fun hOther => absurd hRole hOther)

theorem succeeds_bind {α β : Type} {x : Step (Rehearsal tool) α}
    {k : α → Step (Rehearsal tool) β} {good : β → Progress (Rehearsal tool) → Prop}
    (hx : Succeeds (Calmly P memory) x (fun _ => Calmly P memory))
    (hk : ∀ a, Succeeds (Calmly P memory) (k a) good) :
    Succeeds (Calmly P memory) (x >>= k) good := meets_bind hx hk

/-! ## The stages -/

/-- The local catalog keeps one of these statuses, and the run has taken it on. -/
def Awaits (id : Value) (ts : List NodeStatus) (p : Progress (Rehearsal tool)) : Prop :=
  ∃ t ∈ ts, Calmly (Catalogs.Holds id t) t p

theorem succeeds_stage {start : NodeStatus} {later : List NodeStatus}
    {work : Step (Rehearsal tool) Unit} {good : Progress (Rehearsal tool) → Prop}
    (hStart : start ∉ later)
    (hWork : Succeeds (Calmly (Catalogs.Holds id start) start) work (fun _ => good))
    (hSkip : ∀ t ∈ later, ∀ p, Calmly (Catalogs.Holds id t) t p → good p) :
    Succeeds (Awaits id (start :: later)) (stage start work) (fun _ => good) := by
  apply meets_stage
  · apply hWork.imp_pre
    rintro p ⟨hTarget, t, -, h⟩
    have ht : t = start := h.memory.symm.trans hTarget
    rwa [ht] at h
  · rintro p hTarget ⟨t, ht, h⟩
    rcases List.mem_cons.mp ht with rfl | ht
    · exact absurd h.memory hTarget
    · exact hSkip t ht p h

theorem succeeds_next (i : Initialiser) {status : NodeStatus} (later : List NodeStatus)
    (hMemory : memory.Mirrors t) (hNext : t.next? = some status) :
    Succeeds (Calmly (Catalogs.Holds i.pair.target.id t) memory)
      (i.advance (services tool) .target status)
      (fun _ => Awaits i.pair.target.id (status :: later)) := by
  apply (succeeds_advance i hMemory hNext).imp_good
  intro _ p h
  exact ⟨status, List.mem_cons_self .., h⟩

theorem meets_begin_of_calm (i : Initialiser)
    (hHolds : ∀ c, P c → Catalogs.Holds i.pair.target.id t c) :
    Meets (Calmly P memory) (i.begin (services tool))
      (fun _ p => t.isRecoverable = true ∧ Calmly P t p)
      (fun f p => t.isRecoverable = false ∧ f = unrecoverable i.pair.target t ∧
        P p.outside.toCatalogs) := by
  apply meets_begin (m := fun status p => status = t ∧ Calmly P memory p)
  · have hAnswer (p : Progress (Rehearsal tool)) (h : Calmly P memory p) :
        (p.outside.respond (.nodeStatus i.pair.target.id)).1 = .ok t := by
      have hKept : Bench.get? i.pair.target.id p.outside.stored = some t := hHolds _ h.catalogs
      simp only [respond]
      rw [hKept]
    apply meets_ask_of_calm (fun _ h => h.calm) (fun p h => ⟨t, hAnswer p h⟩)
    intro a p p' h ha hMade hSame
    refine ⟨Except.ok.inj (ha.symm.trans (hAnswer p h)), ?_, ?_, hMade.target.trans h.memory⟩
    · exact hSame ▸ h.calm
    · rw [hMade.catalogs]
      exact h.catalogs
  · rintro _ p hRecoverable ⟨rfl, h⟩
    exact ⟨hRecoverable, h.calm, h.catalogs, rfl⟩
  · rintro _ p hNot ⟨rfl, h⟩
    exact ⟨hNot, rfl, h.catalogs⟩

section

variable {i : Initialiser} {origin target : String} (hOrigin : i.pair.origin.name = .text origin)
  (hTarget : i.pair.target.name = .text target) (hRole : i.pair.target.role = .subscriber)

include hOrigin hTarget in
theorem succeeds_fill (later : List NodeStatus) :
    Succeeds (Calmly (Catalogs.Holds i.pair.target.id .init) .init) (i.fill (services tool))
      (fun _ => Awaits i.pair.target.id (.slots :: later)) := by
  apply meets_bind (succeeds_initNode i hOrigin hTarget)
  intro _
  exact succeeds_next i later (.inr ⟨rfl, rfl⟩) rfl

theorem succeeds_makeSlots (i : Initialiser) (later : List NodeStatus) :
    Succeeds (Calmly (Catalogs.Holds i.pair.target.id .slots) .slots) (i.makeSlots (services tool))
      (fun _ => Awaits i.pair.target.id (.catchup :: later)) := by
  apply succeeds_bind (succeeds_foreign rfl fun _ h => h)
  intro _
  exact succeeds_next i later (.inl rfl) rfl

include hRole in
theorem succeeds_catchUp (later : List NodeStatus) :
    Succeeds (Calmly (Catalogs.Holds i.pair.target.id .catchup) .catchup)
      (i.catchUp (services tool))
      (fun _ => Awaits i.pair.target.id (.connectBack :: later)) := by
  apply succeeds_bind (succeeds_checkTargetRole hRole)
  intro _
  exact succeeds_next i later (.inl rfl) rfl

include hTarget hRole in
theorem succeeds_complete :
    Succeeds (Calmly (Catalogs.Holds i.pair.target.id .connectBack) .connectBack)
      (i.complete (services tool)) (fun _ => Calmly (Catalogs.Settled i.pair.target) .ready) := by
  apply succeeds_bind (succeeds_checkTargetRole hRole)
  intro _
  apply meets_bind (succeeds_advance i (.inl rfl) rfl)
  intro _
  apply meets_bind (succeeds_connectBack i hTarget)
  intro _
  exact meets_log fun _ h => h

include hOrigin hTarget hRole in
/-- From every status from which a run can go on, it brings both sides to readiness. -/
theorem succeeds_run (hRecoverable : t.isRecoverable = true) :
    Succeeds (Calmly (Catalogs.Holds i.pair.target.id t) memory) (i.run (services tool))
      (fun _ => Calmly (Catalogs.Settled i.pair.target) .ready) := by
  have hBegin : Succeeds (Calmly (Catalogs.Holds i.pair.target.id t) memory)
      (i.begin (services tool))
      (fun _ => Awaits i.pair.target.id [.init, .slots, .catchup, .connectBack]) := by
    apply (meets_begin_of_calm i fun _ h => h).weaken (fun _ h => h)
    · rintro _ p ⟨-, h⟩
      exact ⟨t, NodeStatus.mem_of_isRecoverable hRecoverable, h⟩
    · rintro f p ⟨hNot, -⟩
      rw [hRecoverable] at hNot
      cases hNot
  apply meets_bind hBegin
  intro _
  apply meets_bind
  · exact succeeds_stage (by decide) (succeeds_fill hOrigin hTarget _) fun t ht p h => ⟨t, ht, h⟩
  intro _
  apply meets_bind
  · exact succeeds_stage (by decide) (succeeds_makeSlots i _) fun t ht p h => ⟨t, ht, h⟩
  intro _
  apply meets_bind
  · exact succeeds_stage (by decide) (succeeds_catchUp hRole _) fun t ht p h => ⟨t, ht, h⟩
  intro _
  apply succeeds_stage List.not_mem_nil (succeeds_complete hTarget hRole)
  intro t ht
  cases ht

end

/-- A run that finds a ready target fails and changes nothing. -/
theorem fails_run_of_ready (i : Initialiser)
    (hHolds : ∀ c, P c → Catalogs.Holds i.pair.target.id .ready c) :
    Meets (Calmly P memory) (i.run (services tool)) (fun _ _ => False)
      (fun f p => f = unrecoverable i.pair.target .ready ∧ P p.outside.toCatalogs) := by
  apply meets_bind (m := fun _ _ => False)
  · apply (meets_begin_of_calm i hHolds).weaken (fun _ h => h)
    · rintro _ p ⟨hNot, -⟩
      cases hNot
    · rintro f p ⟨-, h⟩
      exact h
  intro _ _ h
  exact h.elim

end Initialiser

/-! ## After any number of runs -/

theorem getLast?_of_ready_mem {l : List NodeStatus}
    (hChain : List.IsChain NodeStatus.Precedes (s :: l)) (hReady : .ready ∈ s :: l) :
    (s :: l).getLast? = some .ready := by
  induction l generalizing s with
  | nil =>
    rw [List.mem_singleton.mp hReady]
    rfl
  | cons u rest ih =>
    obtain ⟨hNext, hRest⟩ := List.isChain_cons_cons.mp hChain
    rw [List.getLast?_cons_cons]
    rcases List.mem_cons.mp hReady with rfl | hReady
    · cases hNext
    · exact ih hRest hReady

theorem ready_or_recoverable {l : List NodeStatus}
    (hChain : List.IsChain NodeStatus.Precedes (.init :: l))
    (hLast : (NodeStatus.init :: l).getLast? = some t) :
    .ready ∈ l ∧ t = .ready ∨ .ready ∉ l ∧ t.isRecoverable = true := by
  by_cases hReady : .ready ∈ l
  · have hEnd := getLast?_of_ready_mem hChain (List.mem_cons_of_mem _ hReady)
    rw [hLast] at hEnd
    exact .inl ⟨hReady, Option.some.inj hEnd⟩
  · refine .inr ⟨hReady, ?_⟩
    rcases List.mem_cons.mp (List.mem_of_getLast? hLast) with rfl | ht
    · rfl
    · have hPersisted := isPersisted_of_isChain hChain ht
      have hNotReady : t ≠ .ready := fun h => hReady (h ▸ ht)
      cases t <;> first | rfl | exact absurd rfl hNotReady | cases hPersisted

namespace Attempt

/-- The attempt ends well, and then both catalogs tell that the target is ready. -/
def Completes (a : Attempt tool) (c : Catalogs) : Prop :=
  (a.run c).1 = .ok () ∧ Catalogs.Settled a.initialiser.pair.target (a.leave c)

/-- The attempt finds a ready target: it fails and changes nothing. -/
def Despairs (a : Attempt tool) (c : Catalogs) : Prop :=
  (a.run c).1 = .error (Initialiser.unrecoverable a.initialiser.pair.target .ready) ∧
    a.leave c = c

theorem Despairs.not_completes {a : Attempt tool} {c : Catalogs} (h : a.Despairs c) :
    ¬ a.Completes c := by
  rintro ⟨hOk, -⟩
  rw [h.1] at hOk
  cases hOk

theorem completes_of_isRecoverable {a : Attempt tool} {c : Catalogs} {origin target : String}
    (hCalm : a.circumstances.Calm) (hOrigin : a.initialiser.pair.origin.name = .text origin)
    (hTarget : a.initialiser.pair.target.name = .text target)
    (hRole : a.initialiser.pair.target.role = .subscriber)
    (hStored : Bench.get? a.initialiser.pair.target.id c.stored = some t)
    (hRecoverable : t.isRecoverable = true) : a.Completes c := by
  have hRun : Succeeds (Calmly (Catalogs.Holds a.initialiser.pair.target.id t) a.target)
      (a.initialiser.run (services tool))
      (fun _ => Calmly (Catalogs.Settled a.initialiser.pair.target) .ready) :=
    Initialiser.succeeds_run hOrigin hTarget hRole hRecoverable
  have hStart : Calmly (Catalogs.Holds a.initialiser.pair.target.id t) a.target (a.start c) :=
    ⟨hCalm, hStored, rfl⟩
  cases hx : (a.run c).1 with
  | ok _ => exact ⟨hx, (hRun.of_ok hStart hx).catalogs⟩
  | error f => exact (hRun.of_error hStart hx).elim

theorem despairs_of_ready {a : Attempt tool} {c : Catalogs} (hCalm : a.circumstances.Calm)
    (hStored : Bench.get? a.initialiser.pair.target.id c.stored = some .ready) :
    a.Despairs c := by
  have hRun : Meets (Calmly (fun d => d = c) a.target) (a.initialiser.run (services tool))
      (fun _ _ => False) _ :=
    Initialiser.fails_run_of_ready a.initialiser fun d hd => hd ▸ hStored
  have hStart : Calmly (fun d => d = c) a.target (a.start c) := ⟨hCalm, rfl, rfl⟩
  cases hx : (a.run c).1 with
  | ok _ => exact (hRun.of_ok hStart hx).elim
  | error f =>
    obtain ⟨rfl, hLeft⟩ := hRun.of_error hStart hx
    exact ⟨hx, hLeft⟩

/-- An undisturbed attempt brings both sides to readiness just as long as no earlier one has kept
readiness; after that it can only fail, whatever the origin knows. -/
theorem completes_iff_ready_unwritten (earlier : List (Attempt tool)) (last : Attempt tool)
    (c : Catalogs) (origin target : String) (hCalm : last.circumstances.Calm)
    (hOrigin : last.initialiser.pair.origin.name = .text origin)
    (hTarget : last.initialiser.pair.target.name = .text target)
    (hRole : last.initialiser.pair.target.role = .subscriber)
    (hSame : ∀ a ∈ earlier, a.initialiser.pair.target.id = last.initialiser.pair.target.id)
    (hStored : Bench.get? last.initialiser.pair.target.id c.stored = some .init) :
    (last.Completes (leaveAll earlier c) ↔ .ready ∉ writtenBy (allDeeds earlier c)) ∧
      (last.Despairs (leaveAll earlier c) ↔ .ready ∈ writtenBy (allDeeds earlier c)) := by
  obtain ⟨t, hLeft, hChain, hLast⟩ := written_allDeeds hStored hSame
  rcases ready_or_recoverable hChain hLast with ⟨hReady, rfl⟩ | ⟨hReady, hRecoverable⟩
  · have hDespairs := despairs_of_ready hCalm hLeft
    constructor
    · exact iff_of_false hDespairs.not_completes (not_not_intro hReady)
    · exact iff_of_true hDespairs hReady
  · have hCompletes := completes_of_isRecoverable hCalm hOrigin hTarget hRole hLeft hRecoverable
    constructor
    · exact iff_of_true hCompletes hReady
    · exact iff_of_false (fun h => h.not_completes hCompletes) hReady

def tells : Request Unit → Bool
  | .setRemoteNodeStatus _ _ _ => true
  | _ => false

theorem completes_after_cutAtCatchup :
    (plain fun _ => false).circumstances.Calm ∧
      ((plain (sets .catchup)).run .plain).1 ≠ .ok () ∧
      (plain fun _ => false).Completes (leaveAll [plain (sets .catchup)] .plain) := by
  have hCalm : (plain fun _ => false).circumstances.Calm := ⟨fun _ _ => rfl, rfl⟩
  refine ⟨hCalm, by nofun, ?_⟩
  have hSame : ∀ a ∈ [plain (sets .catchup)],
      a.initialiser.pair.target.id = (plain fun _ => false).initialiser.pair.target.id := by
    intro a ha
    rw [List.mem_singleton.mp ha]
    rfl
  have hWritten : writtenBy (allDeeds [plain (sets .catchup)] .plain) = [.slots] := rfl
  apply (completes_iff_ready_unwritten [plain (sets .catchup)] (plain fun _ => false) .plain
    "provider" "subscriber" hCalm rfl rfl rfl hSame rfl).1.mpr
  rw [hWritten]
  decide

/-- Cut off while the origin is told, the first run leaves a target that the second one can not make
ready: the origin never learns of it. -/
theorem despairs_after_lost_news :
    (plain fun _ => false).circumstances.Calm ∧
      (plain fun _ => false).initialiser.pair.target.role = .subscriber ∧
      Bench.get? (.int 2) Catalogs.plain.stored = some .init ∧
      ((plain tells).run .plain).1 = .error (.driver .operational "connection lost") ∧
      (plain fun _ => false).Despairs ((plain tells).leave .plain) ∧
      Bench.get? "subscriber" ((plain fun _ => false).leave ((plain tells).leave .plain)).remote =
        none ∧
      ¬ (plain fun _ => false).Completes ((plain tells).leave .plain) := by
  have hDespairs : (plain fun _ => false).Despairs ((plain tells).leave .plain) := ⟨rfl, rfl⟩
  refine ⟨⟨fun _ _ => rfl, rfl⟩, rfl, rfl, rfl, hDespairs, rfl, ?_⟩
  exact hDespairs.not_completes

end Attempt

end ReplicaBootstrap
