import ReplicaBootstrap.Proofs.Chronicle
import ReplicaBootstrap.Proofs.Pipeline

/-! # What a run has done when it ends

A run that answers has told the origin that the target is ready. The calls of a run that fails tell
how it came to that: which call has failed, and what had been done before.
-/

namespace ReplicaBootstrap

open ReplicaBootstrap.Action Rehearsal

variable {tool : Type}

/-- Whether the wish to stop may cut a call off. -/
def Request.heeds : Request tool → Bool
  | .checkInterrupts | .copyNodeData _ => true
  | _ => false

namespace Request

variable {q : Request tool}

theorem settles_of_prepares (h : q.prepares = true) : q.settles = false := by
  cases q with
  | restore t part archive dsn =>
    have hPart : part = "pre-data" := eq_of_beq h
    rw [hPart]
    rfl
  | _ => first | rfl | cases h

theorem heeds_of_prepares (h : q.prepares = true) : q.heeds = false := by
  cases q <;> first | rfl | cases h

end Request

namespace Outcomes

/-! ## What a row of calls has done -/

def Quiet (xs : List (Exchange tool)) : Prop := ∀ e ∈ xs, e.request.settles = false

def Uncopied (xs : List (Exchange tool)) : Prop :=
  ∀ e ∈ xs, ∀ snapshot, e.request ≠ .copyNodeData snapshot

/-- The run has looked at the wish to stop and found none. -/
def Passed (xs : List (Exchange tool)) : Prop := ⟨.checkInterrupts, .ok ()⟩ ∈ xs

/-- Nothing is copied but after a look at the wish to stop. -/
def Vetted (xs : List (Exchange tool)) : Prop := Uncopied xs ∨ Passed xs

/-- The first stage is over, or the run has begun after it. -/
def Past (s : NodeStatus) (xs : List (Exchange tool)) : Prop :=
  Passed xs ∨ s ≠ .init ∧ Uncopied xs

/-- The connection of the snapshot has been opened. -/
def Opened (i : Initialiser) (conn : Nat) (xs : List (Exchange tool)) : Prop :=
  ⟨.connect .replication i.pair.origin.dsn i.settings.snapshotApplicationName, .ok conn⟩ ∈ xs

/-- The last call closes the connection of the snapshot. -/
def Closed (i : Initialiser) (xs : List (Exchange tool)) : Prop :=
  ∃ before conn closing, xs = before ++ [⟨.close conn, closing⟩] ∧ Opened i conn before

/-- The origin has been told that the target is ready. -/
def Told (i : Initialiser) (xs : List (Exchange tool)) : Prop :=
  ∃ conn, ⟨.connect .queries i.pair.origin.dsn i.settings.initApplicationName, .ok conn⟩ ∈ xs ∧
    ⟨.setRemoteNodeStatus conn i.pair.target.name .ready, .ok ()⟩ ∈ xs

variable {i : Initialiser} {s : NodeStatus} {xs : List (Exchange tool)} {e : Exchange tool}

theorem Quiet.concat (h : Quiet xs) (he : e.request.settles = false) : Quiet (xs ++ [e]) :=
  List.forall_mem_append.mpr ⟨h, List.forall_mem_singleton.mpr he⟩

theorem Uncopied.concat (h : Uncopied xs) (he : ∀ snapshot, e.request ≠ .copyNodeData snapshot) :
    Uncopied (xs ++ [e]) :=
  List.forall_mem_append.mpr ⟨h, List.forall_mem_singleton.mpr he⟩

theorem Uncopied.concat_of_heeds (h : Uncopied xs) (he : e.request.heeds = false) :
    Uncopied (xs ++ [e]) := by
  apply h.concat
  intro snapshot hCopy
  rw [hCopy] at he
  cases he

theorem Passed.concat (h : Passed xs) : Passed (xs ++ [e]) := List.mem_append_left _ h

theorem Vetted.concat (h : Vetted xs) (he : e.request.heeds = false) : Vetted (xs ++ [e]) :=
  h.imp (fun hUncopied => hUncopied.concat_of_heeds he) Passed.concat

theorem Past.concat (h : Past s xs) (he : e.request.heeds = false) : Past s (xs ++ [e]) :=
  h.imp Passed.concat (fun hOther => ⟨hOther.1, hOther.2.concat_of_heeds he⟩)

theorem Past.vetted (h : Past s xs) : Vetted xs := h.elim .inr fun hOther => .inl hOther.2

/-- What a run has done that has found the status `s` and then failed. -/
inductive Fate (i : Initialiser) (s : NodeStatus) (f : Fault) (xs : List (Exchange tool)) : Prop
  /-- a call has failed; if the wish to stop may have cut it off, only the connection is closed -/
  | failed {e : Exchange tool} (hCall : e ∈ xs) (hFault : e.outcome = .error f)
      (hVetted : Vetted xs)
      (hCut : e.request.heeds = true → s = .init ∧ Quiet xs ∧ Closed i xs) : Fate i s f xs
  /-- the target can not be taken up -/
  | refused (hCalls : xs = [⟨.nodeStatus i.pair.target.id, .ok s⟩])
      (hNot : s.isRecoverable = false) (h : f = Initialiser.unrecoverable i.pair.target s) :
      Fate i s f xs
  /-- the slot has no name, since the names of the nodes are no texts -/
  | unnamed {database} (hUncopied : Uncopied xs)
      (h : SlotName.generate (.text database) i.pair.origin i.pair.target = .error f) :
      Fate i s f xs
  /-- the target is no subscriber, or a status can not follow the one in memory -/
  | barred (hPast : Past s xs) (h : f.kind = .init .nodeRole ∨ f.kind = .init .transition) :
      Fate i s f xs

/-- A call has failed that the wish to stop can not cut off. -/
structure Lost (f : Fault) (xs : List (Exchange tool)) : Prop where
  vetted : Vetted xs
  cause : ∃ e ∈ xs, e.outcome = .error f ∧ e.request.heeds = false

variable {f : Fault}

theorem Lost.of_call {q : Request tool} (h : Vetted xs) (hq : q.heeds = false) :
    Lost f (xs ++ [⟨q, .error f⟩]) :=
  ⟨h.concat hq, _, List.mem_concat_self, rfl, hq⟩

theorem Lost.concat (h : Lost f xs) (he : e.request.heeds = false) : Lost f (xs ++ [e]) := by
  obtain ⟨x, hx, hFault, hHeeds⟩ := h.cause
  exact ⟨h.vetted.concat he, x, List.mem_append_left _ hx, hFault, hHeeds⟩

theorem Lost.fate (h : Lost f xs) : Fate i s f xs := by
  obtain ⟨x, hx, hFault, hNot⟩ := h.cause
  apply Fate.failed hx hFault h.vetted
  intro hHeeds
  rw [hNot] at hHeeds
  cases hHeeds

theorem Fate.of_call {q : Request tool} (h : Vetted xs) (hq : q.heeds = false) :
    Fate i s f (xs ++ [⟨q, .error f⟩]) := (Lost.of_call h hq).fate

theorem Fate.vetted (h : Fate i s f xs) : Vetted xs := by
  cases h with
  | failed _ _ hVetted _ => exact hVetted
  | refused hCalls =>
    rw [hCalls]
    exact .inl (List.forall_mem_singleton.mpr nofun)
  | unnamed hUncopied _ => exact .inl hUncopied
  | barred hPast _ => exact hPast.vetted

/-- The run has only asked for the kept status, which was not told or can not be taken up. -/
def Alone (i : Initialiser) (s : NodeStatus) (f : Fault) (xs : List (Exchange tool)) : Prop :=
  ∃ outcome, xs = [⟨.nodeStatus i.pair.target.id, outcome⟩] ∧
    (outcome = .error f ∨
      outcome = .ok s ∧ s.isRecoverable = false ∧ f = Initialiser.unrecoverable i.pair.target s)

theorem Alone.fate (h : Alone i s f xs) : Fate i s f xs := by
  obtain ⟨outcome, rfl, rfl | ⟨rfl, hNot, hFault⟩⟩ := h
  · have hVetted : Vetted ([] : List (Exchange tool)) := .inl (List.forall_mem_nil _)
    exact .of_call hVetted rfl
  · exact .refused rfl hNot hFault

theorem Alone.unrecoverable (h : Alone i s f xs)
    (hFound : ⟨.nodeStatus i.pair.target.id, .ok s⟩ ∈ xs) :
    f = Initialiser.unrecoverable i.pair.target s := by
  obtain ⟨outcome, rfl, hEnd⟩ := h
  cases List.mem_singleton.mp hFound
  rcases hEnd with hFault | ⟨-, -, hFault⟩
  · cases hFault
  · exact hFault

/-! ## The calls of a run so far -/

def made (p : Progress (Rehearsal tool)) : List (Exchange tool) := p.outside.deeds.map Deed.exchange

def Having (P : List (Exchange tool) → Prop) (p : Progress (Rehearsal tool)) : Prop := P (made p)

theorem made_eq {p p' : Progress (Rehearsal tool)} {q : Request tool}
    {outcome : Except Fault q.Answer} (h : Made q outcome p p') :
    made p' = made p ++ [⟨q, outcome⟩] := by
  rw [made, h.deeds, List.map_append]
  rfl

variable {P Q : List (Exchange tool) → Prop} {bad : Fault → List (Exchange tool) → Prop}

theorem having_ask {q : Request tool} {good : q.Answer → List (Exchange tool) → Prop}
    (hok : ∀ a xs, P xs → good a (xs ++ [⟨q, .ok a⟩]))
    (herror : ∀ f xs, P xs → bad f (xs ++ [⟨q, .error f⟩])) :
    Meets (Having P) (ask q) (fun a => Having (good a)) (fun f => Having (bad f)) := by
  apply meets_ask
  · intro a p p' h hMade
    have hGood := hok a (made p) h
    rwa [← made_eq hMade] at hGood
  · intro f p p' h hMade
    have hBad := herror f (made p) h
    rwa [← made_eq hMade] at hBad

theorem having_closeQuietly {conn : Nat}
    (hClosed : ∀ closing xs, P xs → Q (xs ++ [⟨.close conn, closing⟩]))
    (hFailed : ∀ f xs, P xs → bad f (xs ++ [⟨.close conn, .error f⟩])) :
    Meets (Having P) (Initialiser.closeQuietly (services tool) conn) (fun _ => Having Q)
      (fun f => Having (bad f)) := by
  apply Initialiser.meets_closeQuietly
    (e := fun f => Having fun ys => ∃ xs, ys = xs ++ [⟨.close conn, .error f⟩] ∧ P xs)
  · exact having_ask (fun a xs => hClosed (.ok a) xs) (fun f xs h => ⟨xs, rfl, h⟩)
  · rintro f - p ⟨xs, hMade, h⟩
    have hGood := hClosed (.error f) xs h
    rwa [← hMade] at hGood
  · rintro f - p ⟨xs, hMade, h⟩
    have hBad := hFailed f xs h
    rwa [← hMade] at hBad

/-! ## The first stage -/

structure Preparing (xs : List (Exchange tool)) : Prop where
  quiet : Quiet xs
  uncopied : Uncopied xs

/-- The run works on the snapshot and has not looked at the wish to stop. -/
structure Working (i : Initialiser) (conn : Nat) (xs : List (Exchange tool)) : Prop where
  preparing : Preparing xs
  opened : Opened i conn xs

/-- The run works on the snapshot after it has looked at the wish to stop. -/
structure Cleared (i : Initialiser) (conn : Nat) (xs : List (Exchange tool)) : Prop where
  quiet : Quiet xs
  passed : Passed xs
  opened : Opened i conn xs

/-- The work on the snapshot has failed, and the connection is to be closed. -/
structure Severed (i : Initialiser) (conn : Nat) (f : Fault) (xs : List (Exchange tool)) :
    Prop where
  vetted : Vetted xs
  opened : Opened i conn xs
  cause : ∃ e ∈ xs, e.outcome = .error f ∧ (e.request.heeds = true → Quiet xs)

variable {conn : Nat}

theorem Preparing.concat (h : Preparing xs) (he : e.request.prepares = true) :
    Preparing (xs ++ [e]) :=
  ⟨h.quiet.concat (Request.settles_of_prepares he),
    h.uncopied.concat_of_heeds (Request.heeds_of_prepares he)⟩

theorem Severed.of_call {q : Request tool} (hVetted : Vetted (xs ++ [⟨q, .error f⟩]))
    (hOpened : Opened i conn xs) (hCut : q.heeds = true → Quiet (xs ++ [⟨q, .error f⟩])) :
    Severed i conn f (xs ++ [⟨q, .error f⟩]) :=
  ⟨hVetted, List.mem_append_left _ hOpened, _,
    List.mem_concat_self, rfl, hCut⟩

theorem Severed.fate {closing : Except Fault Unit} (h : Severed i conn f xs) :
    Fate i .init f (xs ++ [⟨.close conn, closing⟩]) := by
  obtain ⟨e, he, hFault, hCut⟩ := h.cause
  apply Fate.failed (List.mem_append_left _ he) hFault (h.vetted.concat rfl)
  intro hHeeds
  exact ⟨rfl, (hCut hHeeds).concat rfl, xs, conn, closing, rfl, h.opened⟩

theorem having_transfer (t : tool) (name : String) :
    Meets (Having (Working i conn)) (i.transfer (services tool) t conn name)
      (fun _ => Having Passed) (fun f => Having (Severed i conn f)) := by
  have hPrepare (q : Request tool) (hq : q.prepares = true) : Meets (Having (Working i conn))
      (ask q) (fun _ => Having (Working i conn)) (fun f => Having (Severed i conn f)) := by
    apply having_ask
    · intro a xs h
      exact ⟨h.preparing.concat hq, List.mem_append_left _ h.opened⟩
    · intro f xs h
      have hVetted := Vetted.concat (e := ⟨q, .error f⟩) (.inl h.preparing.uncopied)
        (Request.heeds_of_prepares hq)
      apply Severed.of_call hVetted h.opened
      intro hHeeds
      rw [Request.heeds_of_prepares hq] at hHeeds
      cases hHeeds
  apply Initialiser.meets_transfer_parts i t conn name (R := Having (Cleared i conn)) hPrepare
    (fun _ h => h) hPrepare
  · apply having_ask
    · intro _ xs h
      have hPassed : Passed (xs ++ [⟨.checkInterrupts, .ok ()⟩]) :=
        List.mem_concat_self
      exact ⟨h.preparing.quiet.concat rfl, hPassed, List.mem_append_left _ h.opened⟩
    · intro f xs h
      have hUncopied : Uncopied (xs ++ [⟨.checkInterrupts, .error f⟩]) :=
        h.preparing.uncopied.concat nofun
      exact Severed.of_call (.inl hUncopied) h.opened (fun _ => h.preparing.quiet.concat rfl)
  · intro snapshot
    apply having_ask
    · intro _ xs h
      exact ⟨h.quiet.concat rfl, h.passed.concat, List.mem_append_left _ h.opened⟩
    · intro f xs h
      apply Severed.of_call (.inr h.passed.concat) h.opened
      exact fun _ => h.quiet.concat rfl
  · intro archive dsn
    apply having_ask
    · intro _ xs h
      exact h.passed.concat
    · intro f xs h
      exact Severed.of_call (.inr h.passed.concat) h.opened (fun hHeeds => by cases hHeeds)

theorem having_initNode :
    Meets (Having Preparing) (i.initNode (services tool)) (fun _ => Having Passed)
      (fun f => Having (Fate i .init f)) := by
  apply Initialiser.meets_initNode_parts (O := fun conn => Having (Working i conn)) i
  · intro q hq
    apply having_ask
    · intro a xs h
      exact h.concat hq
    · intro f xs h
      exact .of_call (.inl h.uncopied) (Request.heeds_of_prepares hq)
  · intro database f hName p h
    exact .unnamed h.uncopied hName
  · apply having_ask
    · intro conn xs h
      refine ⟨⟨h.quiet.concat rfl, h.uncopied.concat nofun⟩, ?_⟩
      exact List.mem_concat_self
    · intro f xs h
      exact .of_call (.inl h.uncopied) rfl
  · intro t conn name
    exact having_transfer t name
  · intro conn
    exact having_closeQuietly (fun _ _ h => h.concat) (fun _ _ h => .of_call (.inr h) rfl)
  · intro conn f
    exact having_closeQuietly (fun _ _ h => h.fate) (fun _ _ h => .of_call h.vetted rfl)

/-! ## The stages -/

theorem past_ask {q : Request tool} (hq : q.heeds = false) :
    Meets (Having (Past s)) (ask q) (fun _ => Having (Past s)) (fun f => Having (Fate i s f)) :=
  having_ask (fun _ _ h => h.concat hq) (fun _ _ h => .of_call h.vetted hq)

theorem past_advance (status : NodeStatus) :
    Meets (Having (Past s)) (i.advance (services tool) .target status)
      (fun _ p => p.target = status ∧ Having (Past s) p) (fun f => Having (Fate i s f)) := by
  apply Initialiser.meets_advance
  · intro f p hError h
    exact .barred h (.inr (Initialiser.kind_of_checkMove hError))
  · apply (past_ask rfl).weaken (fun _ h => h.2) _ (fun _ _ h => h)
    intro _ p h
    exact ⟨rfl, h⟩

theorem past_checkTargetRole :
    Meets (Having (Past s)) (i.checkTargetRole : Step (Rehearsal tool) Unit)
      (fun _ => Having (Past s)) (fun f => Having (Fate i s f)) :=
  Initialiser.meets_checkTargetRole (fun _ _ h => h) (fun _ _ h => .barred h (.inl rfl))

theorem past_connectBack :
    Meets (Having (Past s)) (i.connectBack (services tool))
      (fun _ => Having fun xs => Told i xs ∧ Past s xs) (fun f => Having (Fate i s f)) := by
  let connected (conn : Nat) : Exchange tool :=
    ⟨.connect .queries i.pair.origin.dsn i.settings.initApplicationName, .ok conn⟩
  apply Initialiser.meets_connectBack_parts i
    (O := fun conn => Having fun xs => connected conn ∈ xs ∧ Past s xs)
    (G := fun _ => Having fun xs => Told i xs ∧ Past s xs)
    (C := fun _ f => Having (Lost f))
  · apply having_ask
    · intro conn xs h
      exact ⟨List.mem_concat_self, h.concat rfl⟩
    · intro f xs h
      exact .of_call h.vetted rfl
  · intro conn
    apply having_ask
    · rintro _ xs ⟨hConnected, h⟩
      refine ⟨⟨conn, List.mem_append_left _ hConnected, ?_⟩, h.concat rfl⟩
      exact List.mem_concat_self
    · rintro f xs ⟨-, h⟩
      exact .of_call h.vetted rfl
  · intro conn
    apply having_closeQuietly
    · rintro closing xs ⟨⟨conn, hConnected, hTold⟩, h⟩
      refine ⟨⟨conn, ?_, List.mem_append_left _ hTold⟩, h.concat rfl⟩
      exact List.mem_append_left _ hConnected
    · rintro f xs ⟨-, h⟩
      exact .of_call h.vetted rfl
  · intro conn f
    apply having_closeQuietly
    · intro closing xs h
      exact (h.concat rfl).fate
    · intro g xs h
      exact .of_call h.vetted rfl

/-- The run has one of these stages before it. -/
def Awaiting (s : NodeStatus) (ts : List NodeStatus) (p : Progress (Rehearsal tool)) : Prop :=
  p.target ∈ ts ∧ Having (Past s) p

theorem past_stage {start : NodeStatus} {later : List NodeStatus}
    {work : Step (Rehearsal tool) Unit} {good : Progress (Rehearsal tool) → Prop}
    (hWork : Meets (Having (Past s)) work (fun _ => good) (fun f => Having (Fate i s f)))
    (hSkip : ∀ p, Awaiting s later p → good p) :
    Meets (Awaiting s (start :: later)) (Initialiser.stage start work) (fun _ => good)
      (fun f => Having (Fate i s f)) := by
  apply Initialiser.meets_stage (hWork.imp_pre fun _ h => h.2.2)
  rintro p hStart ⟨hTarget, h⟩
  rcases List.mem_cons.mp hTarget with hTarget | hTarget
  · exact absurd hTarget hStart
  · exact hSkip p ⟨hTarget, h⟩

theorem past_advances (status : NodeStatus) (later : List NodeStatus) :
    Meets (Having (Past s)) (i.advance (services tool) .target status)
      (fun _ => Awaiting s (status :: later)) (fun f => Having (Fate i s f)) := by
  apply (past_advance status).imp_good
  rintro _ p ⟨hTarget, h⟩
  exact ⟨hTarget ▸ List.mem_cons_self, h⟩

/-- The run can take up the status `s` that it has found. -/
structure Begun (i : Initialiser) (s : NodeStatus) (p : Progress (Rehearsal tool)) : Prop where
  recoverable : s.isRecoverable = true
  target : p.target = s
  calls : made p = [⟨.nodeStatus i.pair.target.id, .ok s⟩]

theorem begun_or_alone :
    Meets (Initialiser.Fresh i.pair.target.id s) (i.begin (services tool)) (fun _ => Begun i s)
      (fun f => Having (Alone i s f)) := by
  have hMade {p p' : Progress (Rehearsal tool)} {outcome : Except Fault NodeStatus}
      (h : Initialiser.Fresh i.pair.target.id s p)
      (hMade : Made (.nodeStatus i.pair.target.id) outcome p p') :
      made p' = [⟨.nodeStatus i.pair.target.id, outcome⟩] := by
    rw [made_eq hMade, made, h.deeds]
    rfl
  apply Initialiser.meets_begin (m := fun status p => status = s ∧
    made p = [⟨.nodeStatus i.pair.target.id, .ok s⟩])
  · apply meets_nodeStatus (fun _ h => h.stored)
    · intro p p' h hAnswer
      exact ⟨rfl, hMade h hAnswer⟩
    · intro f p p' h hFailed
      exact ⟨.error f, hMade h hFailed, .inl rfl⟩
  · rintro _ p hRecoverable ⟨rfl, h⟩
    exact ⟨hRecoverable, rfl, h⟩
  · rintro _ p hNot ⟨rfl, h⟩
    exact ⟨_, h, .inr ⟨rfl, hNot, rfl⟩⟩

theorem Begun.awaiting {p : Progress (Rehearsal tool)} (h : Begun i s p) (hInit : s ≠ .init) :
    Awaiting s [.slots, .catchup, .connectBack] p := by
  have hTarget : s ∈ [.slots, .catchup, .connectBack] := by
    have hRecoverable := h.recoverable
    cases s <;> first | decide | exact absurd rfl hInit | cases hRecoverable
  refine ⟨h.target ▸ hTarget, .inr ⟨hInit, ?_⟩⟩
  rw [h.calls]
  exact List.forall_mem_singleton.mpr nofun

theorem Begun.preparing {p : Progress (Rehearsal tool)} (h : Begun i s p) :
    Having Preparing p := by
  have hPreparing : Preparing [(⟨.nodeStatus i.pair.target.id, .ok s⟩ : Exchange tool)] :=
    ⟨List.forall_mem_singleton.mpr rfl, List.forall_mem_singleton.mpr nofun⟩
  rwa [← h.calls] at hPreparing

theorem past_fill :
    Meets (Begun i s) (Initialiser.stage .init (i.fill (services tool)))
      (fun _ => Awaiting s [.slots, .catchup, .connectBack]) (fun f => Having (Fate i s f)) := by
  apply Initialiser.meets_stage
  · apply meets_known
    rintro p ⟨hStart, h⟩
    have hInit : s = .init := h.target.symm.trans hStart
    subst hInit
    refine ⟨_, h.preparing, ?_⟩
    apply meets_bind having_initNode
    intro _
    exact (past_advances .slots _).imp_pre (fun _ h => .inl h)
  · intro p hOther h
    exact h.awaiting (h.target ▸ hOther)

/-- The target is ready in memory, and the origin knows it. -/
structure Ready (i : Initialiser) (s : NodeStatus) (p : Progress (Rehearsal tool)) : Prop where
  target : p.target = .ready
  told : Told i (made p)
  past : Past s (made p)

theorem past_makeSlots (later : List NodeStatus) :
    Meets (Having (Past s)) (i.makeSlots (services tool)) (fun _ => Awaiting s (.catchup :: later))
      (fun f => Having (Fate i s f)) :=
  meets_bind (past_ask rfl) fun _ => past_advances .catchup later

theorem past_catchUp (later : List NodeStatus) :
    Meets (Having (Past s)) (i.catchUp (services tool))
      (fun _ => Awaiting s (.connectBack :: later)) (fun f => Having (Fate i s f)) :=
  meets_bind past_checkTargetRole fun _ => past_advances .connectBack later

theorem past_complete :
    Meets (Having (Past s)) (i.complete (services tool)) (fun _ => Ready i s)
      (fun f => Having (Fate i s f)) := by
  have hMemory (q : Request tool) : Keeps (fun p => p.target = .ready) (ask q) :=
    meets_ask (fun _ _ _ h hMade => hMade.target.trans h)
      (fun _ _ _ h hMade => hMade.target.trans h)
  have hConnectBack := meets_and (past_connectBack (i := i) (s := s))
    (i.meets_connectBack (fun _ _ => hMemory _) (fun _ => hMemory _) (fun _ => hMemory _)
      (fun _ => hMemory _) (fun _ h => h))
  apply meets_bind past_checkTargetRole
  intro _
  apply meets_bind (past_advance .ready)
  intro _
  apply meets_bind (m := fun _ => Ready i s)
  · apply hConnectBack.weaken (fun _ h => ⟨h.2, h.1⟩) _ (fun _ _ h => h.1)
    rintro _ p ⟨⟨hTold, hPast⟩, hTarget⟩
    exact ⟨hTarget, hTold, hPast⟩
  intro _
  exact silent_log _ _

theorem ready_or_fate :
    Meets (Begun i s)
      (do
        Initialiser.stage .init (i.fill (services tool))
        Initialiser.stage .slots (i.makeSlots (services tool))
        Initialiser.stage .catchup (i.catchUp (services tool))
        Initialiser.stage .connectBack (i.complete (services tool)))
      (fun _ => Ready i s) (fun f => Having (Fate i s f)) := by
  apply meets_bind past_fill
  intro _
  apply meets_bind (past_stage (past_makeSlots _) fun _ h => h)
  intro _
  apply meets_bind (past_stage (past_catchUp []) fun _ h => h)
  intro _
  apply past_stage past_complete
  rintro p ⟨hNone, -⟩
  cases hNone

/-- How a run ends that finds the status `s`. -/
theorem ends_run :
    Meets (Initialiser.Fresh i.pair.target.id s) (i.run (services tool)) (fun _ => Ready i s)
      (fun f => Having (Fate i s f)) :=
  meets_bind (begun_or_alone.imp_bad fun _ _ h => h.fate) fun _ => ready_or_fate

theorem refuses_run (hNot : s.isRecoverable = false) :
    Meets (Initialiser.Fresh i.pair.target.id s) (i.run (services tool)) (fun _ _ => False)
      (fun f => Having (Alone i s f)) := by
  apply meets_bind begun_or_alone
  intro _ p h
  cases hNot.symm.trans h.recoverable

end Outcomes

end ReplicaBootstrap
