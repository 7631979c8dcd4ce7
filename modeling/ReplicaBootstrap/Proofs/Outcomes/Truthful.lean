import ReplicaBootstrap.Proofs.Outcomes.Fates

/-! # What the outcome of a run tells

How a run ends tells what was done in it and what the catalogs keep: that both sides know of the
target's readiness, that a cancelled run has left all as it was, that a target which no run can take
up was only looked at.
-/

namespace ReplicaBootstrap

open ReplicaBootstrap.Action Rehearsal

variable {tool : Type}

/-- No fault from outside tells that a target can not be taken up, and only that of a copying may
tell that the run was cancelled. -/
structure Circumstances.Mild (x : Circumstances tool) : Prop where
  cancelled : ∀ ds q f, (x.disturb ds q).fault = some f → f.kind = .init .cancelled →
    ∃ snapshot, q = .copyNodeData snapshot
  recoverable : ∀ ds q f, (x.disturb ds q).fault = some f → f.kind ≠ .init .unrecoverable

variable {x : Circumstances tool} {before : List (Deed tool)} {q : Request tool} {f : Fault}

theorem Blames.heeds (h : Blames (x.disturb before q) q f) (hMild : x.Mild)
    (hCancelled : f.kind = .init .cancelled) : q.heeds = true := by
  cases h with
  | disturbed h =>
    obtain ⟨snapshot, rfl⟩ := hMild.cancelled _ _ _ h hCancelled
    rfl
  | missing id => cases hCancelled
  | cancelled => rfl

theorem Blames.recoverable (h : Blames (x.disturb before q) q f) (hMild : x.Mild) :
    f.kind ≠ .init .unrecoverable := by
  cases h with
  | disturbed h => exact hMild.recoverable _ _ _ h
  | missing id => nofun
  | cancelled => nofun

theorem SlotName.isInit_of_partText {v : Value} (h : partText v = .error f) :
    f.isInit = false := by
  cases v <;> simp only [partText] at h <;> (try split at h) <;> cases h <;> rfl

theorem SlotName.isInit_of_generate {database : Value} {origin target : Node}
    (h : generate database origin target = .error f) : f.isInit = false := by
  unfold generate at h
  rcases error_of_bind h with h | ⟨_, -, h⟩
  · exact isInit_of_partText h
  rcases error_of_bind h with h | ⟨_, -, h⟩
  · exact isInit_of_partText h
  rcases error_of_bind h with h | ⟨_, -, h⟩
  · exact isInit_of_partText h
  · cases h

theorem SlotName.kind_of_generate {database : Value} {origin target : Node}
    (h : generate database origin target = .error f) (k : InitFault) : f.kind ≠ .init k := by
  intro hKind
  have hInit := isInit_of_generate h
  rw [Fault.isInit, hKind] at hInit
  cases hInit

namespace Attempt

/-- What a run may fail with that was asked to stop in time. -/
def Excused (a : Attempt tool) (c : Catalogs) (f : Fault) : Prop :=
  f = .init .cancelled "node initialization cancelled by user request" ∨
    (∃ e ∈ a.exchanges c, e.outcome = .error f ∧ (e.request = .checkInterrupts →
      ∃ before, (a.circumstances.disturb before e.request).fault = some f)) ∨
    ∃ database, SlotName.generate (.text database) a.initialiser.pair.origin
      a.initialiser.pair.target = .error f

/-- How an attempt ends is true of the run and of what the catalogs keep after it. -/
structure Truthful (a : Attempt tool) (c : Catalogs) (s : NodeStatus) : Prop where
  /-- after an answer the target is ready and the origin has been told -/
  ready : (a.run c).1 = .ok () →
    Bench.get? a.initialiser.pair.target.id (a.leave c).stored = some .ready ∧
      Outcomes.Told a.initialiser (a.exchanges c)
  /-- a cancelled run has found a new target, has set nothing and has closed its connection -/
  cancelled : ∀ text, (a.run c).1 = .error (.init .cancelled text) →
    s = .init ∧ a.leave c = c ∧ Outcomes.Quiet (a.exchanges c) ∧
      Outcomes.Closed a.initialiser (a.exchanges c)
  unrecoverable : (∃ text, (a.run c).1 = .error (.init .unrecoverable text)) ↔
    ⟨.nodeStatus a.initialiser.pair.target.id, .ok s⟩ ∈ a.exchanges c ∧
      s ∉ [.init, .slots, .catchup, .connectBack]
  /-- a target that can not be taken up is only looked at -/
  untouched : (∃ text, (a.run c).1 = .error (.init .unrecoverable text)) →
    a.exchanges c = [⟨.nodeStatus a.initialiser.pair.target.id, .ok s⟩]
  /-- asked to stop in time, the run copies nothing; it fails as cancelled if nothing else fails -/
  heeded : s = .init → a.circumstances.Warned (a.deeds c) →
    Outcomes.Uncopied (a.exchanges c) ∧ ∃ f, (a.run c).1 = .error f ∧ a.Excused c f

variable {a : Attempt tool} {c : Catalogs} {s : NodeStatus}

theorem recorded_run (a : Attempt tool) (c : Catalogs) : Recorded a.circumstances c (a.run c).2 :=
  (Initialiser.keeps_run keeps_recorded (fun _ _ h => ⟨h.disturb, h.chronicle⟩)
    a.initialiser).reaches ⟨rfl, .nil⟩

theorem blames_of_mem {e : Exchange tool} (he : e ∈ a.exchanges c) (hf : e.outcome = .error f) :
    ∃ before, Blames (a.circumstances.disturb before e.request) e.request f := by
  obtain ⟨d, hd, rfl⟩ := List.mem_map.mp he
  exact (recorded_run a c).chronicle.blames hd hf

section

variable (hStored : Bench.get? a.initialiser.pair.target.id c.stored = some s)

include hStored

theorem ready_of_ok (h : (a.run c).1 = .ok ()) : Outcomes.Ready a.initialiser s (a.run c).2 :=
  Outcomes.ends_run.of_ok ⟨rfl, hStored⟩ h

theorem fate_of_error (h : (a.run c).1 = .error f) :
    Outcomes.Fate a.initialiser s f (a.exchanges c) :=
  Outcomes.ends_run.of_error ⟨rfl, hStored⟩ h

theorem stored_of_ready (h : Outcomes.Ready a.initialiser s (a.run c).2)
    (hOk : (a.run c).1 = .ok ()) :
    Bench.get? a.initialiser.pair.target.id (a.leave c).stored = some .ready := by
  obtain ⟨t, hStanding⟩ :=
    (Initialiser.meets_run a.initialiser).of_ok (s := a.start c) ⟨rfl, hStored⟩ hOk
  rcases hStanding.memory with hMemory | ⟨hMemory, -⟩
  · have hReady : t = .ready := hMemory.symm.trans h.target
    exact hReady ▸ hStanding.stored
  · cases hMemory.symm.trans h.target

theorem cut_of_cancelled (hMild : a.circumstances.Mild) (h : (a.run c).1 = .error f)
    (hKind : f.kind = .init .cancelled) :
    s = .init ∧ Outcomes.Quiet (a.exchanges c) ∧
      Outcomes.Closed a.initialiser (a.exchanges c) := by
  cases fate_of_error hStored h with
  | failed hCall hFault _ hCut =>
    obtain ⟨before, hBlames⟩ := blames_of_mem hCall hFault
    exact hCut (hBlames.heeds hMild hKind)
  | refused _ _ hFault =>
    rw [hFault] at hKind
    cases hKind
  | unnamed _ hName => exact absurd hKind (SlotName.kind_of_generate hName _)
  | barred _ hOther => rcases hOther with hOther | hOther <;> cases hKind.symm.trans hOther

theorem alone_of_unrecoverable (hMild : a.circumstances.Mild) (h : (a.run c).1 = .error f)
    (hKind : f.kind = .init .unrecoverable) :
    a.exchanges c = [⟨.nodeStatus a.initialiser.pair.target.id, .ok s⟩] ∧
      s.isRecoverable = false := by
  cases fate_of_error hStored h with
  | failed hCall hFault =>
    obtain ⟨before, hBlames⟩ := blames_of_mem hCall hFault
    exact absurd hKind (hBlames.recoverable hMild)
  | refused hCalls hNot => exact ⟨hCalls, hNot⟩
  | unnamed _ hName => exact absurd hKind (SlotName.kind_of_generate hName _)
  | barred _ hOther => rcases hOther with hOther | hOther <;> cases hKind.symm.trans hOther

theorem unrecoverable_of_found
    (hFound : ⟨.nodeStatus a.initialiser.pair.target.id, .ok s⟩ ∈ a.exchanges c)
    (hNot : s.isRecoverable = false) :
    (a.run c).1 = .error (Initialiser.unrecoverable a.initialiser.pair.target s) := by
  cases h : (a.run c).1 with
  | ok _ => exact ((Outcomes.refuses_run hNot).of_ok (s := a.start c) ⟨rfl, hStored⟩ h).elim
  | error f =>
    have hAlone := (Outcomes.refuses_run hNot).of_error (s := a.start c) ⟨rfl, hStored⟩ h
    rw [hAlone.unrecoverable hFound]

end

theorem not_passed_of_warned (hWarned : a.circumstances.Warned (a.deeds c)) :
    ¬ Outcomes.Passed (a.exchanges c) := by
  intro hPassed
  obtain ⟨d, hd, hLook⟩ := List.mem_map.mp hPassed
  obtain ⟨-, hUnseen⟩ := (recorded_run a c).chronicle.heeds hWarned
  have hPasses : d.passes = true := by
    obtain ⟨q, outcome, memory, kept⟩ := d
    cases hLook
    rfl
  cases (hUnseen d hd).symm.trans hPasses

theorem excused_of_mem {e : Exchange tool} (he : e ∈ a.exchanges c) (hf : e.outcome = .error f) :
    a.Excused c f := by
  obtain ⟨before, hBlames⟩ := blames_of_mem he hf
  obtain ⟨q, outcome⟩ := e
  cases hBlames with
  | disturbed h => exact .inr (.inl ⟨_, he, hf, fun _ => ⟨before, h⟩⟩)
  | missing id => exact .inr (.inl ⟨_, he, hf, nofun⟩)
  | cancelled => exact .inl rfl

theorem excused_of_warned (hStored : Bench.get? a.initialiser.pair.target.id c.stored = some .init)
    (hWarned : a.circumstances.Warned (a.deeds c)) :
    Outcomes.Uncopied (a.exchanges c) ∧ ∃ f, (a.run c).1 = .error f ∧ a.Excused c f := by
  have hNot : ¬ Outcomes.Passed (a.exchanges c) := not_passed_of_warned hWarned
  have hNotPast : ¬ Outcomes.Past .init (a.exchanges c) := by
    rintro (hPassed | ⟨hOther, -⟩)
    · exact hNot hPassed
    · exact hOther rfl
  cases h : (a.run c).1 with
  | ok _ => exact absurd (ready_of_ok hStored h).past hNotPast
  | error f =>
    have hFate := fate_of_error hStored h
    refine ⟨hFate.vetted.resolve_right hNot, f, rfl, ?_⟩
    cases hFate with
    | failed hCall hFault => exact excused_of_mem hCall hFault
    | refused _ hRecoverable => cases hRecoverable
    | unnamed _ hName => exact .inr (.inr ⟨_, hName⟩)
    | barred hPast => exact absurd hPast hNotPast

/-- Whatever value the catalog holds for the target, whatever disturbs the calls and whenever
signals come: how a run ends is true. -/
theorem ends_truthfully (a : Attempt tool) (c : Catalogs) (v : Value)
    (hMild : a.circumstances.Mild)
    (hStored : Bench.get? a.initialiser.pair.target.id c.stored = some (.ofValue v)) :
    a.Truthful c (.ofValue v) := by
  have hRecoverable (s : NodeStatus) :
      s.isRecoverable = false ↔ s ∉ [.init, .slots, .catchup, .connectBack] := by
    cases s <;> decide
  constructor
  case ready =>
    intro hOk
    have hReady := ready_of_ok hStored hOk
    exact ⟨stored_of_ready hStored hReady hOk, hReady.told⟩
  case cancelled =>
    intro text hError
    obtain ⟨hInit, hQuiet, hClosed⟩ := cut_of_cancelled hStored hMild hError rfl
    refine ⟨hInit, ?_, hQuiet, hClosed⟩
    apply (recorded_run a c).chronicle.catalogs_eq
    intro d hd
    exact hQuiet d.exchange (List.mem_map_of_mem hd)
  case unrecoverable =>
    constructor
    · rintro ⟨text, hError⟩
      obtain ⟨hCalls, hNot⟩ := alone_of_unrecoverable hStored hMild hError rfl
      exact ⟨hCalls ▸ List.mem_singleton_self _, (hRecoverable _).mp hNot⟩
    · rintro ⟨hFound, hNot⟩
      exact ⟨_, unrecoverable_of_found hStored hFound ((hRecoverable _).mpr hNot)⟩
  case untouched =>
    rintro ⟨text, hError⟩
    exact (alone_of_unrecoverable hStored hMild hError rfl).1
  case heeded =>
    intro hInit hWarned
    rw [hInit] at hStored
    exact excused_of_warned hStored hWarned

/-- A plain attempt that is asked to stop while the schema is dumped. -/
def stoppedAtDump : Attempt Unit :=
  let plain := Attempt.plain fun _ => false
  { plain with
    circumstances := { plain.circumstances with
      disturb := fun _ q =>
        match q with
        | .dump _ _ _ _ => { signal := some 15 }
        | _ => {} } }

theorem ends_truthfully_stoppedAtDump :
    stoppedAtDump.circumstances.Mild ∧
      Bench.get? (.int 2) Catalogs.plain.stored = some (.ofValue "i") ∧
      stoppedAtDump.circumstances.Warned (stoppedAtDump.deeds .plain) ∧
      (stoppedAtDump.run .plain).1 =
        .error (.init .cancelled "node initialization cancelled by user request") ∧
      stoppedAtDump.Truthful .plain (.ofValue "i") := by
  have hNoFault (ds : List (Deed Unit)) (q : Request Unit) :
      (stoppedAtDump.circumstances.disturb ds q).fault = none := by
    cases q <;> rfl
  have hMild : stoppedAtDump.circumstances.Mild := by
    constructor <;> intro ds q f h <;> cases (hNoFault ds q).symm.trans h
  have hStored : Bench.get? (.int 2) Catalogs.plain.stored = some (.ofValue "i") := rfl
  have hWarned : stoppedAtDump.circumstances.Warned (stoppedAtDump.deeds .plain) := by
    have hBefore : ((stoppedAtDump.deeds .plain).take 6).map (fun d => d.request.heeds) =
        List.replicate 6 false := rfl
    refine .inr ⟨rfl, (stoppedAtDump.deeds .plain).take 6, _, _, 15, rfl, rfl, .inr rfl, ?_⟩
    intro e he hLook
    have hHeeds := List.mem_map_of_mem (f := fun d => d.request.heeds) he
    rw [hBefore, hLook] at hHeeds
    cases List.eq_of_mem_replicate hHeeds
  exact ⟨hMild, hStored, hWarned, rfl, ends_truthfully stoppedAtDump .plain "i" hMild hStored⟩

end Attempt

end ReplicaBootstrap
