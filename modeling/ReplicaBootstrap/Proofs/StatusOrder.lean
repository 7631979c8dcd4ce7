import ReplicaBootstrap.Proofs.Initialiser
import ReplicaBootstrap.Proofs.Trail

/-! # The order of the kept statuses

However often a run is made and wherever it is cut off, the local catalog gets the statuses one after
the other, and the status in memory follows the kept one.
-/

namespace ReplicaBootstrap

open ReplicaBootstrap.Action Rehearsal

variable {tool : Type} {id : Value} {s t : NodeStatus}

/-! ## The invariant of a run -/

/-- A run that goes on: it has read the kept status `s`, and now the catalog keeps `t`. -/
structure Standing (id : Value) (s t : NodeStatus) (p : Progress (Rehearsal tool)) : Prop where
  deeds : ∃ first rest, p.outside.deeds = first :: rest ∧ first.request = .nodeStatus id ∧
    Trail id s rest t ∧ ∀ d ∈ rest, d.isRefused = false
  stored : Bench.get? id p.outside.stored = some t
  memory : p.target.Mirrors t
  persisted : t.isPersisted = true

/-- A run that is over, well or not. -/
structure Stopped (id : Value) (s : NodeStatus) (p : Progress (Rehearsal tool)) : Prop where
  deeds : ∃ first rest t, p.outside.deeds = first :: rest ∧ first.request = .nodeStatus id ∧
    Trail id s rest t ∧ Bench.get? id p.outside.stored = some t ∧
    ∀ d ∈ rest, d.isRefused = true → rest.getLast? = some d ∧ p.target = d.memory

theorem Standing.stopped {p : Progress (Rehearsal tool)} (h : Standing id s t p) :
    Stopped id s p where
  deeds := by
    obtain ⟨first, rest, hDeeds, hFirst, hTrail, hAccepted⟩ := h.deeds
    refine ⟨first, rest, t, hDeeds, hFirst, hTrail, h.stored, ?_⟩
    intro d hd hRefused
    rw [hAccepted d hd] at hRefused
    cases hRefused

theorem Standing.step {p p' : Progress (Rehearsal tool)} {u : NodeStatus} {d : Deed tool}
    (h : Standing id s t p) (hDeeds : p'.outside.deeds = p.outside.deeds ++ [d])
    (hMoves : Moves id t d u) (hAccepted : d.isRefused = false)
    (hStored : Bench.get? id p'.outside.stored = some u) (hMemory : p'.target.Mirrors u)
    (hPersisted : u.isPersisted = true) : Standing id s u p' where
  deeds := by
    obtain ⟨first, rest, hBefore, hFirst, hTrail, hRest⟩ := h.deeds
    refine ⟨first, rest ++ [d], ?_, hFirst, hTrail.snoc hMoves, ?_⟩
    · rw [hDeeds, hBefore, List.cons_append]
    · intro e he
      rcases List.mem_append.mp he with he | he
      · exact hRest e he
      · rw [List.mem_singleton.mp he]
        exact hAccepted
  stored := hStored
  memory := hMemory
  persisted := hPersisted

theorem Standing.foreign {p p' : Progress (Rehearsal tool)} {q : Request tool}
    {outcome : Except Fault q.Answer} (h : Standing id s t p) (hq : q.isForeign = true)
    (hMade : Made q outcome p p') : Standing id s t p' := by
  have hStored : p'.outside.stored = p.outside.stored := by
    have := congrArg Catalogs.stored hMade.catalogs
    cases outcome with
    | error f => exact this
    | ok a => cases q <;> first | exact this | cases hq
  refine h.step hMade.deeds (.foreign hq h.stored h.memory) ?_ ?_ ?_ h.persisted
  · unfold Deed.isRefused
    split
    · rename_i hDeed
      cases hDeed
      cases hq
    · rfl
  · rw [hStored]
    exact h.stored
  · rw [hMade.target]
    exact h.memory

theorem keeps_foreign {q : Request tool} (hq : q.isForeign = true) :
    Keeps (Standing id s t) (ask q) :=
  meets_ask (fun _ _ _ h hMade => h.foreign hq hMade) (fun _ _ _ h hMade => h.foreign hq hMade)

theorem Standing.enterPhase {p : Progress (Rehearsal tool)} (h : Standing id s .init p) :
    Standing id s .init (p.withStatus .target .syncSchema) :=
  ⟨h.deeds, h.stored, .inr ⟨rfl, rfl⟩, h.persisted⟩

/-! ## The steps of a run -/

namespace Initialiser

/-- What may be taken on after a status in memory comes right after the kept one. -/
theorem next?_of_checkMove {name : String} {memory kept status : NodeStatus}
    (hMemory : memory.Mirrors kept) (hPersisted : kept.isPersisted = true)
    (h : checkMove name memory status = .ok ()) : kept.next? = some status := by
  have hBase : (if memory.isPersisted then memory else NodeStatus.init) = kept := by
    rcases hMemory with rfl | ⟨rfl, rfl⟩
    · rw [if_pos hPersisted]
    · rfl
  unfold checkMove at h
  split at h
  · cases h
  · rw [hBase] at h
    split at h
    · cases h
    · rename_i next hNext
      split at h
      · rename_i hStatus
        rw [hNext, hStatus]
      · cases h

theorem checkMove_of_next? {name : String} {memory kept status : NodeStatus}
    (hMemory : memory.Mirrors kept) (hNext : kept.next? = some status) :
    checkMove name memory status = .ok () := by
  rcases hMemory with rfl | ⟨rfl, rfl⟩
  · cases memory <;> cases hNext <;> rfl
  · cases hNext
    rfl

theorem standing_of_set {p p' : Progress (Rehearsal tool)} {status : NodeStatus}
    (h : Standing id s t p) (hNext : t.next? = some status)
    (hMade : Made (.setNodeStatus id status) (.ok ()) p p') :
    Standing id s status (p'.withStatus .target status) := by
  have hStored : p'.outside.stored = Bench.put id status p.outside.stored :=
    congrArg Catalogs.stored hMade.catalogs
  refine h.step hMade.deeds (.written h.stored h.memory hNext) rfl ?_ (.inl rfl)
    (NodeStatus.isPersisted_of_next?_eq hNext).2
  change Bench.get? id p'.outside.stored = some status
  rw [hStored]
  exact Bench.get?_put_of_isSome status (by rw [h.stored]; rfl)

theorem stopped_of_refused {p p' : Progress (Rehearsal tool)} {status : NodeStatus} {f : Fault}
    (h : Standing id s t p) (hNext : t.next? = some status)
    (hMade : Made (.setNodeStatus id status) (.error f) p p') : Stopped id s p' where
  deeds := by
    obtain ⟨first, rest, hDeeds, hFirst, hTrail, hAccepted⟩ := h.deeds
    have hMoves : Moves id t
        (⟨.setNodeStatus id status, .error f, p.target, p.outside.stored⟩ : Deed tool) t :=
      .refused h.stored h.memory hNext
    refine ⟨first, rest ++ [_], t, ?_, hFirst, hTrail.snoc hMoves, ?_, ?_⟩
    · rw [hMade.deeds, hDeeds, List.cons_append]
    · rw [show p'.outside.stored = p.outside.stored from congrArg Catalogs.stored hMade.catalogs]
      exact h.stored
    · intro d hd hRefused
      rcases List.mem_append.mp hd with hd | hd
      · rw [hAccepted d hd] at hRefused
        cases hRefused
      · rw [List.mem_singleton.mp hd]
        exact ⟨List.getLast?_concat, hMade.target⟩

theorem advances (i : Initialiser) (status : NodeStatus) :
    Meets (Standing i.pair.target.id s t) (i.advance (services tool) .target status)
      (fun _ => Standing i.pair.target.id s status) (fun _ => Stopped i.pair.target.id s) := by
  apply meets_advance
  · intro _ p _ h
    exact h.stopped
  · apply meets_ask
    · rintro _ p p' ⟨hCheck, h⟩ hMade
      exact standing_of_set h (next?_of_checkMove h.memory h.persisted hCheck) hMade
    · rintro _ p p' ⟨hCheck, h⟩ hMade
      exact stopped_of_refused h (next?_of_checkMove h.memory h.persisted hCheck) hMade

theorem keeps_initNode (i : Initialiser) :
    Keeps (Standing id s .init) (i.initNode (services tool)) :=
  meets_initNode i (fun _ => keeps_foreign) (fun _ => keeps_foreign) (fun _ => keeps_foreign)
    (fun _ h => h.enterPhase) (fun _ h => h) (fun _ _ _ _ h => h)

theorem keeps_connectBack (i : Initialiser) :
    Keeps (Standing id s t) (i.connectBack (services tool)) :=
  meets_connectBack i (fun _ _ => keeps_foreign rfl) (fun _ => keeps_foreign rfl)
    (fun _ => keeps_foreign rfl) (fun _ => keeps_foreign rfl) (fun _ h => h)

theorem keeps_checkTargetRole (i : Initialiser) :
    Keeps (Standing id s t) (i.checkTargetRole : Step (Rehearsal tool) Unit) :=
  meets_checkTargetRole (fun _ _ h => h) (fun _ _ h => h)

def Running (id : Value) (s : NodeStatus) (p : Progress (Rehearsal tool)) : Prop :=
  ∃ t, Standing id s t p

/-- What a run does from the status `t`: it goes on, or it is over. -/
abbrev Proceeds (id : Value) (s t : NodeStatus) (x : Step (Rehearsal tool) Unit) : Prop :=
  Meets (Standing id s t) x (fun _ => Running id s) (fun _ => Stopped id s)

theorem proceeds_advance (i : Initialiser) (status : NodeStatus) :
    Proceeds i.pair.target.id s t (i.advance (services tool) .target status) :=
  (advances i status).imp_good (fun _ _ h => ⟨status, h⟩)

theorem proceeds_bind {α : Type} {x : Step (Rehearsal tool) α}
    {k : α → Step (Rehearsal tool) Unit} (hx : Keeps (Standing id s t) x)
    (hk : ∀ a, Proceeds id s t (k a)) : Proceeds id s t (x >>= k) :=
  meets_bind (hx.imp_bad (fun _ _ h => h.stopped)) hk

theorem proceeds_fill (i : Initialiser) :
    Proceeds i.pair.target.id s .init (i.fill (services tool)) :=
  proceeds_bind (keeps_initNode i) fun _ => proceeds_advance i .slots

theorem proceeds_makeSlots (i : Initialiser) :
    Proceeds i.pair.target.id s .slots (i.makeSlots (services tool)) :=
  proceeds_bind (keeps_foreign rfl) fun _ => proceeds_advance i .catchup

theorem proceeds_catchUp (i : Initialiser) :
    Proceeds i.pair.target.id s .catchup (i.catchUp (services tool)) :=
  proceeds_bind (keeps_checkTargetRole i) fun _ => proceeds_advance i .connectBack

theorem proceeds_complete (i : Initialiser) :
    Proceeds i.pair.target.id s .connectBack (i.complete (services tool)) := by
  apply proceeds_bind (keeps_checkTargetRole i)
  intro _
  apply meets_bind (advances i .ready)
  intro _
  apply proceeds_bind (keeps_connectBack i)
  intro _
  exact meets_pure fun _ h => ⟨.ready, h⟩

/-- A stage is done only while the catalog keeps the status that it starts from. -/
theorem proceeds_stage {start : NodeStatus} {work : Step (Rehearsal tool) Unit}
    (hStart : start ≠ .syncSchema) (hWork : Proceeds id s start work) :
    Meets (Running id s) (stage start work) (fun _ => Running id s) (fun _ => Stopped id s) := by
  apply meets_stage
  · apply hWork.imp_pre
    rintro p ⟨hTarget, t, h⟩
    rcases h.memory with hMemory | ⟨hMemory, -⟩
    · rw [← hTarget, hMemory]
      exact h
    · exact absurd (hTarget.symm.trans hMemory) hStart
  · intro _ _ h
    exact h

structure Fresh (id : Value) (s : NodeStatus) (p : Progress (Rehearsal tool)) : Prop where
  deeds : p.outside.deeds = []
  stored : Bench.get? id p.outside.stored = some s

structure Begun (id : Value) (s : NodeStatus) (p : Progress (Rehearsal tool)) : Prop where
  deeds : ∃ first, p.outside.deeds = [first] ∧ first.request = .nodeStatus id
  stored : Bench.get? id p.outside.stored = some s

theorem Fresh.begun {p p' : Progress (Rehearsal tool)} {outcome : Except Fault NodeStatus}
    (h : Fresh id s p) (hMade : Made (.nodeStatus id) outcome p p') : Begun id s p' where
  deeds := by
    have hDeeds := hMade.deeds
    rw [h.deeds, List.nil_append] at hDeeds
    exact ⟨_, hDeeds, rfl⟩
  stored := by
    have hStored : p'.outside.stored = p.outside.stored := by
      have := congrArg Catalogs.stored hMade.catalogs
      cases outcome <;> exact this
    rw [hStored]
    exact h.stored

theorem Begun.withStatus {p : Progress (Rehearsal tool)} {status : NodeStatus}
    (h : Begun id s p) : Begun id s (p.withStatus .target status) := ⟨h.deeds, h.stored⟩

theorem Begun.stopped {p : Progress (Rehearsal tool)} (h : Begun id s p) : Stopped id s p where
  deeds := by
    obtain ⟨first, hDeeds, hFirst⟩ := h.deeds
    refine ⟨first, [], s, hDeeds, hFirst, rfl, h.stored, ?_⟩
    intro d hd
    cases hd

theorem Begun.standing {p : Progress (Rehearsal tool)} (h : Begun id s p)
    (hMemory : p.target = s) (hRecoverable : s.isRecoverable = true) : Standing id s s p where
  deeds := by
    obtain ⟨first, hDeeds, hFirst⟩ := h.deeds
    refine ⟨first, [], hDeeds, hFirst, rfl, ?_⟩
    intro d hd
    cases hd
  stored := h.stored
  memory := .inl hMemory
  persisted := NodeStatus.isPersisted_of_isRecoverable hRecoverable

theorem proceeds_begin (i : Initialiser) :
    Meets (Fresh i.pair.target.id s) (i.begin (services tool))
      (fun _ => Running i.pair.target.id s) (fun _ => Stopped i.pair.target.id s) := by
  apply meets_begin (m := fun status p => status = s ∧ Begun i.pair.target.id s p)
  · apply meets_nodeStatus (fun _ h => h.stored)
    · intro p p' h hMade
      exact ⟨rfl, h.begun hMade⟩
    · intro _ p p' h hMade
      exact (h.begun hMade).stopped
  · rintro _ p hRecoverable ⟨rfl, h⟩
    exact ⟨_, h.withStatus.standing rfl hRecoverable⟩
  · rintro _ p - ⟨rfl, h⟩
    exact h.withStatus.stopped

theorem meets_run (i : Initialiser) :
    Meets (Fresh i.pair.target.id s) (i.run (services tool))
      (fun _ => Running i.pair.target.id s) (fun _ => Stopped i.pair.target.id s) := by
  unfold run
  apply meets_bind (proceeds_begin i)
  intro _
  apply meets_bind (proceeds_stage (by decide) (proceeds_fill i))
  intro _
  apply meets_bind (proceeds_stage (by decide) (proceeds_makeSlots i))
  intro _
  apply meets_bind (proceeds_stage (by decide) (proceeds_catchUp i))
  intro _
  exact proceeds_stage (by decide) (proceeds_complete i)

theorem stops_run (i : Initialiser) :
    Meets (Fresh i.pair.target.id s) (i.run (services tool))
      (fun _ => Stopped i.pair.target.id s) (fun _ => Stopped i.pair.target.id s) := by
  apply (meets_run i).imp_good
  rintro _ p ⟨t, h⟩
  exact h.stopped

end Initialiser

/-! ## Any number of runs -/

theorem isChain_precedes_append {u : NodeStatus} {l m : List NodeStatus}
    (hl : List.IsChain NodeStatus.Precedes (s :: l)) (hLast : (s :: l).getLast? = some t)
    (hm : List.IsChain NodeStatus.Precedes (t :: m)) (hEnd : (t :: m).getLast? = some u) :
    List.IsChain NodeStatus.Precedes (s :: (l ++ m)) ∧ (s :: (l ++ m)).getLast? = some u := by
  induction l generalizing s with
  | nil =>
    cases hLast
    exact ⟨hm, hEnd⟩
  | cons v rest ih =>
    obtain ⟨hNext, hRest⟩ := List.isChain_cons_cons.mp hl
    rw [List.getLast?_cons_cons] at hLast
    obtain ⟨hChain, hEnd⟩ := ih hRest hLast
    refine ⟨List.isChain_cons_cons.mpr ⟨hNext, hChain⟩, ?_⟩
    rw [List.cons_append, List.getLast?_cons_cons]
    exact hEnd

theorem writtenBy_append (ds es : List (Deed tool)) :
    writtenBy (ds ++ es) = writtenBy ds ++ writtenBy es := List.filterMap_append

theorem Stopped.written {p : Progress (Rehearsal tool)} (h : Stopped id s p) :
    ∃ t, Bench.get? id p.outside.stored = some t ∧
      List.IsChain NodeStatus.Precedes (s :: writtenBy p.outside.deeds) ∧
      (s :: writtenBy p.outside.deeds).getLast? = some t := by
  obtain ⟨first, rest, t, hDeeds, hFirst, hTrail, hStored, -⟩ := h.deeds
  have hList : writtenBy p.outside.deeds = writtenBy rest := by
    rw [hDeeds]
    apply List.filterMap_cons_none
    obtain ⟨q, outcome, memory, kept⟩ := first
    cases hFirst
    rfl
  rw [hList]
  exact ⟨t, hStored, hTrail.isChain_writtenBy⟩

theorem Stopped.precedes_of_set {p : Progress (Rehearsal tool)} (h : Stopped id s p) {d : Deed tool}
    (hd : d ∈ p.outside.deeds) {key : Value} (hSet : d.request = .setNodeStatus key t) :
    key = id ∧ ∃ u, Bench.get? id d.kept = some u ∧ u.Precedes t := by
  obtain ⟨first, rest, u, hDeeds, hFirst, hTrail, -⟩ := h.deeds
  rw [hDeeds] at hd
  rcases List.mem_cons.mp hd with rfl | hd
  · rw [hFirst] at hSet
    cases hSet
  · obtain ⟨v, w, hMoves⟩ := hTrail.moves_of_mem hd
    obtain ⟨hKey, hNext⟩ := hMoves.next?_of_set hSet
    exact ⟨hKey, v, hMoves.kept_eq, NodeStatus.next?_eq_some_iff.mp hNext⟩

namespace Attempt

variable {attempts : List (Attempt tool)} {c : Catalogs}

theorem stopped_run {a : Attempt tool} (hTarget : a.initialiser.pair.target.id = id)
    (hStored : Bench.get? id c.stored = some s) : Stopped id s (a.run c).2 := by
  subst hTarget
  exact (Initialiser.stops_run a.initialiser).reaches ⟨rfl, hStored⟩

theorem allDeeds_cons (a : Attempt tool) (rest : List (Attempt tool)) (c : Catalogs) :
    allDeeds (a :: rest) c = a.deeds c ++ allDeeds rest (a.leave c) := rfl

/-- Every run of a history finds a status for the target, and ends well or not. -/
theorem stopped_of_mem_history (hStored : Bench.get? id c.stored = some s)
    (hTarget : ∀ a ∈ attempts, a.initialiser.pair.target.id = id) {a : Attempt tool}
    {found : Catalogs} (h : (a, found) ∈ history attempts c) :
    ∃ t, Stopped id t (a.run found).2 := by
  induction attempts generalizing s c with
  | nil => cases h
  | cons b rest ih =>
    have hStopped := stopped_run (hTarget b (List.mem_cons_self ..)) hStored
    rcases List.mem_cons.mp h with h | h
    · cases h
      exact ⟨s, hStopped⟩
    · obtain ⟨t, hLeft, -⟩ := hStopped.written
      exact ih hLeft (fun e he => hTarget e (List.mem_cons_of_mem _ he)) h

theorem written_allDeeds (hStored : Bench.get? id c.stored = some s)
    (hTarget : ∀ a ∈ attempts, a.initialiser.pair.target.id = id) :
    ∃ t, Bench.get? id (leaveAll attempts c).stored = some t ∧
      List.IsChain NodeStatus.Precedes (s :: writtenBy (allDeeds attempts c)) ∧
      (s :: writtenBy (allDeeds attempts c)).getLast? = some t := by
  induction attempts generalizing s c with
  | nil => exact ⟨s, hStored, List.isChain_singleton _, rfl⟩
  | cons a rest ih =>
    have hStopped := stopped_run (hTarget a (List.mem_cons_self ..)) hStored
    obtain ⟨t, hLeft, hChain, hLast⟩ := hStopped.written
    obtain ⟨u, hEnd, hRest, hRestLast⟩ := ih hLeft fun e he => hTarget e (List.mem_cons_of_mem _ he)
    rw [allDeeds_cons, writtenBy_append]
    exact ⟨u, hEnd, isChain_precedes_append hChain hLast hRest hRestLast⟩

/-- What is kept for a node over any number of runs, of which the first finds the status `s`. -/
structure KeptInOrder (id : Value) (s : NodeStatus) (attempts : List (Attempt tool))
    (c : Catalogs) : Prop where
  /-- whatever is set is the status of the node, and the next one after the kept status -/
  set : ∀ d ∈ allDeeds attempts c, ∀ key t, d.request = .setNodeStatus key t →
    key = id ∧ ∃ u, Bench.get? id d.kept = some u ∧ u.Precedes t
  /-- all that was kept, one right after the other -/
  chain : List.IsChain NodeStatus.Precedes (s :: writtenBy (allDeeds attempts c))
  /-- the last of it is what the catalog keeps in the end -/
  final : Bench.get? id (leaveAll attempts c).stored =
    (s :: writtenBy (allDeeds attempts c)).getLast?
  few : (writtenBy (allDeeds attempts c)).length ≤ 4
  persisted : .syncSchema ∉ writtenBy (allDeeds attempts c) ∧
    .unknown ∉ writtenBy (allDeeds attempts c)
  /-- a run asks for the kept status first; at every later call the status in memory mirrors it,
  and a status that is refused is the end of the run and leaves the one in memory -/
  memory : ∀ a found, (a, found) ∈ history attempts c →
    ∃ first rest, a.deeds found = first :: rest ∧ first.request = .nodeStatus id ∧
      ∀ d ∈ rest, (∃ u, Bench.get? id d.kept = some u ∧ d.memory.Mirrors u) ∧
        (d.isRefused = true → rest.getLast? = some d ∧ (a.run found).2.target = d.memory)

theorem kept_in_order (attempts : List (Attempt tool)) (c : Catalogs) (id : Value) (s : NodeStatus)
    (hStored : Bench.get? id c.stored = some s)
    (hTarget : ∀ a ∈ attempts, a.initialiser.pair.target.id = id) :
    KeptInOrder id s attempts c := by
  obtain ⟨t, hEnd, hChain, hLast⟩ := written_allDeeds hStored hTarget
  constructor
  case set =>
    intro d hd key t hSet
    obtain ⟨⟨a, found⟩, hRun, hd⟩ := List.mem_flatMap.mp hd
    obtain ⟨u, hStopped⟩ := stopped_of_mem_history hStored hTarget hRun
    exact hStopped.precedes_of_set hd hSet
  case chain => exact hChain
  case final => rw [hEnd, hLast]
  case few => exact (length_le_remaining hChain).trans s.remaining_le
  case persisted =>
    constructor <;> intro h <;> cases isPersisted_of_isChain hChain h
  case memory =>
    intro a found hRun
    obtain ⟨u, hStopped⟩ := stopped_of_mem_history hStored hTarget hRun
    obtain ⟨first, rest, v, hDeeds, hFirst, hTrail, -, hRefused⟩ := hStopped.deeds
    refine ⟨first, rest, hDeeds, hFirst, ?_⟩
    intro d hd
    obtain ⟨w, x, hMoves⟩ := hTrail.moves_of_mem hd
    exact ⟨⟨w, hMoves.kept_eq, hMoves.mirrors⟩, hRefused d hd⟩

def sets (status : NodeStatus) : Request Unit → Bool
  | .setNodeStatus _ t => t = status
  | _ => false

def cutAtCatchup : List (Attempt Unit) := [plain (sets .catchup), plain fun _ => false]

theorem kept_in_order_cutAtCatchup :
    Bench.get? (.int 2) Catalogs.plain.stored = some .init ∧
      (∀ a ∈ cutAtCatchup, a.initialiser.pair.target.id = .int 2) ∧
      writtenBy (allDeeds cutAtCatchup .plain) = [.slots, .catchup, .connectBack, .ready] ∧
      KeptInOrder (.int 2) .init cutAtCatchup .plain := by
  have hTarget : ∀ a ∈ cutAtCatchup, a.initialiser.pair.target.id = .int 2 := by
    intro a ha
    rcases List.mem_pair.mp ha with rfl | rfl <;> rfl
  refine ⟨rfl, hTarget, rfl, ?_⟩
  exact kept_in_order cutAtCatchup .plain (.int 2) .init rfl hTarget

end Attempt

end ReplicaBootstrap
