import ReplicaBootstrap.Proofs.Connections.Use

/-! # Looks at the wish to stop

While a node is copied, every look at the wish to stop sees what the signals before it have asked for.
-/

namespace ReplicaBootstrap

open ReplicaBootstrap.Action

/-- What is known of the signals once something more is said. -/
def Interrupts.after (i : Interrupts) : Entry → Interrupts
  | .exchange _ r => r.warned i
  | _ => i

/-- Whether a signal that asks to stop, to interrupt or to terminate, arrives with a reply. -/
def Entry.stops : Entry → Bool
  | .exchange _ r => r.signal = some 2 || r.signal = some 15
  | _ => false

/-- Each look at the wish to stop sees what the signals before it have asked for. -/
def Truthful : Interrupts → List Entry → Prop
  | _, [] => True
  | i, x :: rest => (∀ b, x = .check b → b = i.requested) ∧ Truthful (i.after x) rest

section

variable {i : Interrupts} {x : Entry} {talk talk' : List Entry}

theorem truthful_append :
    Truthful i (talk ++ talk') ↔ Truthful i talk ∧ Truthful (talk.foldl .after i) talk' := by
  induction talk generalizing i with
  | nil => simp [Truthful]
  | cons x talk ih => simp [Truthful, ih, and_assoc]

theorem Truthful.snoc (h : Truthful i talk)
    (hx : ∀ b, x = .check b → b = (talk.foldl .after i).requested) : Truthful i (talk ++ [x]) :=
  truthful_append.mpr ⟨h, hx, trivial⟩

namespace Interrupts

theorem watched_receive (number : Int) : (i.receive number).watched = i.watched := by
  unfold receive
  split <;> rfl

theorem watched_after : (i.after x).watched = i.watched := by
  cases x with
  | event e => rfl
  | check b => rfl
  | exchange e r =>
    rw [after, Reply.warned]
    cases r.signal with
    | none => rfl
    | some number => exact watched_receive number

theorem watched_foldl_after : (talk.foldl after i).watched = i.watched := by
  induction talk generalizing i with
  | nil => rfl
  | cons x talk ih => rw [List.foldl_cons, ih, watched_after]

theorem requested_after (h : i.requested = true) : (i.after x).requested = true := by
  cases x with
  | event e => exact h
  | check b => exact h
  | exchange e r =>
    rw [after, Reply.warned]
    cases r.signal with
    | none => exact h
    | some number => exact requested_receive h

theorem requested_after_of_stops (hWatched : i.watched = true) (hx : x.stops = true) :
    (i.after x).requested = true := by
  cases x with
  | event e => cases hx
  | check b => cases hx
  | exchange e r =>
    obtain ⟨number, hSignal, hStops⟩ :
        ∃ number, r.signal = some number ∧ (number = 2 ∨ number = 15) := by
      simp only [Entry.stops, Bool.or_eq_true, decide_eq_true_eq] at hx
      rcases hx with hSignal | hSignal
      · exact ⟨2, hSignal, .inl rfl⟩
      · exact ⟨15, hSignal, .inr rfl⟩
    have hReacts : i.reacts number = true := reacts_iff.mpr ⟨hWatched, hStops⟩
    rw [after, Reply.warned, hSignal, Option.map_some, Option.getD_some, receive, if_pos hReacts]

end Interrupts

theorem Truthful.not_mem (h : Truthful i talk) (hRequested : i.requested = true) :
    .check false ∉ talk := by
  induction talk generalizing i with
  | nil => exact fun hMem => by cases hMem
  | cons x talk ih =>
    rw [List.mem_cons, not_or]
    constructor
    · intro hx
      have := h.1 false hx.symm
      rw [hRequested] at this
      cases this
    · exact ih h.2 (Interrupts.requested_after hRequested)

/-- After a signal that asks to stop, no look finds that nobody wants to. -/
theorem Truthful.heeds {before after : List Entry} (h : Truthful i (before ++ x :: after))
    (hWatched : i.watched = true) (hx : x.stops = true) : .check false ∉ after := by
  have hAfter := (truthful_append.mp h).2.2
  have hBefore : (before.foldl .after i).watched = true := by
    rw [Interrupts.watched_foldl_after, hWatched]
  exact hAfter.not_mem (Interrupts.requested_after_of_stops hBefore hx)

end

open Site Session

/-- What was said since `base` is truthful, and the program knows of the signals in it. -/
def Aware (base : List Entry) (i : Interrupts) (w : Site) : Prop :=
  ∃ talk, w.talk = base ++ talk ∧ Truthful i talk ∧ w.interrupts = talk.foldl .after i

section

variable {base : List Entry} {i : Interrupts}

theorem aware_self (w : Site) : Aware w.talk w.interrupts w :=
  ⟨[], (List.append_nil _).symm, trivial, rfl⟩

theorem aware_log (level : Level) (text : String) : Keeps (Aware base i) (log level text) := by
  apply keeps_modify
  rintro w ⟨talk, hTalk, hTruthful, hHeard⟩
  refine ⟨talk, ?_, hTruthful, hHeard⟩
  rw [talk_record, hTalk]
  exact List.append_nil _

theorem aware_checkInterrupts : Keeps (Aware base i) checkInterrupts := by
  unfold checkInterrupts
  intro w ⟨talk, hTalk, hTruthful, hHeard⟩
  have hLook : Aware base i (w.record (.check w.interrupts.requested)) := by
    refine ⟨talk ++ [.check w.interrupts.requested], ?_, hTruthful.snoc ?_, ?_⟩
    · rw [talk_record, hTalk, List.append_assoc]
      rfl
    · rintro b ⟨⟩
      rw [hHeard]
    · rw [List.foldl_append]
      exact hHeard
  exact keeps_ofExcept _ hLook

theorem aware_request (conn : Nat) (e : Event) (text : String) :
    Keeps (Aware base i) (request conn e text) := by
  apply meets_known
  rintro w ⟨talk, hTalk, hTruthful, hHeard⟩
  refine ⟨fun v => v.talk = base ++ talk ∧ v.interrupts = talk.foldl .after i, ⟨hTalk, hHeard⟩, ?_⟩
  unfold request
  apply meets_bind (m := fun _ v => v.talk = base ++ talk ∧ v.interrupts = talk.foldl .after i)
  · exact fun _ h => h
  intro q
  dsimp only
  generalize (q.server conn).script.answer text = answer
  obtain ⟨r, script⟩ := answer
  apply meets_bind (m := fun _ v =>
    v.talk = base ++ (talk ++ [.exchange e r]) ∧ v.interrupts = talk.foldl .after i)
  · apply meets_modify
    rintro v ⟨hTalk, hHeard⟩
    refine ⟨?_, hHeard⟩
    rw [← List.append_assoc, ← hTalk]
    exact talk_record v _
  intro _
  have hQuiet : Undisturbed fun v => v.talk = base ++ (talk ++ [.exchange e r]) := by
    refine ⟨fun v x _ h => ?_, fun _ _ h => h⟩
    rw [talk_record, h]
    exact List.append_nil _
  have hAware {v : Site} (h : v.talk = base ++ (talk ++ [.exchange e r]) ∧
      v.interrupts = r.warned (talk.foldl .after i)) : Aware base i v := by
    refine ⟨talk ++ [.exchange e r], h.1, hTruthful.snoc nofun, ?_⟩
    rw [List.foldl_append]
    exact h.2
  apply (meets_resolve_warned hQuiet _ r).weaken (fun _ h => h)
  · exact fun _ v h => hAware h.2.2
  · exact fun _ v h => hAware h.2

theorem aware_closeQuietly (conn : Nat) : Keeps (Aware base i) (closeQuietly conn) := by
  apply keeps_tolerating
  · exact keeps_bind (aware_request _ _ _) fun _ => keeps_pure
  · exact fun _ => aware_log _ _

theorem aware_connect (purpose : Purpose) (dsn : Value) (application : String) :
    Keeps (Aware base i) (connect purpose dsn application) := by
  unfold connect
  apply keeps_bind keeps_ofExcept
  intro conninfo
  apply keeps_attempt_bind
  · unfold connectTo
    apply meets_bind (m := fun _ => Aware base i)
    · exact fun _ h => h
    intro conn
    exact keeps_bind (aware_request _ _ _) fun _ => keeps_pure
  rintro (f | conn)
  · dsimp only
    split
    · apply keeps_bind (aware_log _ _)
      intro _
      exact keeps_bind keeps_ofExcept fun _ => keeps_throw
    · exact keeps_throw
  · exact keeps_pure

namespace Copy

theorem streaming_aware (held : Finset Nat) :
    Streaming held (Aware base i) fun _ => Aware base i where
  silent w w' hJournal _ hInterrupts h := by
    obtain ⟨talk, hTalk, hTruthful, hHeard⟩ := h
    refine ⟨talk, ?_, hTruthful, hInterrupts ▸ hHeard⟩
    rw [Site.talk, hJournal]
    exact hTalk
  log := aware_log
  check := aware_checkInterrupts
  plain conn _ e text _ _ _ := aware_request conn e text
  start conn _ query := by
    simp only [ite_self]
    exact aware_request conn _ query
  finish conn _ text := aware_request conn _ text
  abort conn _ cause text := aware_request conn _ text
  close conn _ := by
    apply keeps_modify
    rintro w ⟨talk, hTalk, hTruthful, hHeard⟩
    refine ⟨talk, ?_, hTruthful, hHeard⟩
    rw [talk_record, hTalk]
    exact List.append_nil _

theorem aware_nodeData (pair : NodePair) (snapshot : Value) (extension application : String) :
    Keeps (Aware base i) (nodeData pair snapshot extension application) := by
  unfold nodeData
  apply keeps_bind (aware_connect _ _ _)
  intro origin
  have hOrigin : origin ∈ ({origin} : Finset Nat) := Finset.mem_singleton_self _
  apply keeps_attempt_bind
  · unfold prepare
    apply keeps_bind (uses_beginOrigin (streaming_aware {origin}) hOrigin _)
    intro _
    apply keeps_bind (uses_tables (streaming_aware {origin}) hOrigin _ _)
    intro ts
    apply keeps_bind (aware_log _ _)
    intro _
    exact keeps_bind (aware_connect _ _ _) fun _ => keeps_pure
  rintro (f | ⟨ts, target⟩)
  · exact keeps_bind (aware_closeQuietly _) fun _ => keeps_throw
  · have hClosing : Keeps (Aware base i) (do
        closeQuietly origin
        closeQuietly target) :=
      keeps_bind (aware_closeQuietly _) fun _ => aware_closeQuietly _
    have hTransfer : Keeps (Aware base i) (transfer origin target ts) :=
      uses_transfer (streaming_aware {origin, target}) (Finset.mem_insert_self ..)
        (Finset.mem_insert_of_mem (Finset.mem_singleton_self _)) ts
    exact keeps_bind (meets_ensuring hTransfer (fun _ => hClosing) fun _ => hClosing)
      fun _ => keeps_pure

/-- What is said while a node is copied is truthful. -/
theorem nodeData_truthful {pair : NodePair} {snapshot : Value} {extension application : String}
    {w : Site} {talk : List Entry}
    (hTalk : ((nodeData pair snapshot extension application).outcome w).2.talk = w.talk ++ talk) :
    Truthful w.interrupts talk := by
  obtain ⟨said, hSaid, hTruthful, -⟩ :=
    (aware_nodeData pair snapshot extension application).reaches (aware_self w)
  rwa [← List.append_cancel_left (hTalk.symm.trans hSaid)] at hTruthful

end Copy

end

end ReplicaBootstrap
