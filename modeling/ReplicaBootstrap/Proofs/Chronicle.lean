import ReplicaBootstrap.Proofs.Rehearsal

/-! # Chronicles

What the calls of a run tell of the world that answered them: whether the wish to stop was known at
a call, why a call failed, and what the catalogs keep in the end.
-/

namespace ReplicaBootstrap

open ReplicaBootstrap.Action Rehearsal

variable {tool : Type}

def Request.settles : Request tool → Bool
  | .setNodeStatus _ _ | .setRemoteNodeStatus _ _ _ => true
  | .restore _ part _ _ => part == "post-data"
  | _ => false

def Deed.passes : Deed tool → Bool
  | ⟨.checkInterrupts, .ok _, _, _⟩ => true
  | _ => false

/-- A signal that asks to stop, to interrupt or to terminate, has come with a call, and the run had not
looked for one before. -/
def Circumstances.Alarmed (x : Circumstances tool) (ds : List (Deed tool)) : Prop :=
  ∃ before d after number, ds = before ++ d :: after ∧
    (x.disturb before d.request).signal = some number ∧ (number = 2 ∨ number = 15) ∧
    ∀ e ∈ before, e.request ≠ .checkInterrupts

/-- The wish to stop is there before the run looks for it. -/
def Circumstances.Warned (x : Circumstances tool) (ds : List (Deed tool)) : Prop :=
  x.interrupts.requested = true ∨ x.interrupts.watched = true ∧ x.Alarmed ds

/-- What a call fails with: the fault that disturbs it, or the one that it finds itself. -/
inductive Blames (x : Disturbance) : Request tool → Fault → Prop
  | disturbed {q f} (h : x.fault = some f) : Blames x q f
  | missing (id) : Blames x (.nodeStatus id) (Catalog.missingNode id)
  | cancelled : Blames x .checkInterrupts Interrupts.cancelled

/-! ## The wish to stop -/

namespace Interrupts

def hear (i : Interrupts) (d : Disturbance) : Interrupts :=
  match d.signal with
  | some number => i.receive number
  | none => i

variable {i : Interrupts} {d : Disturbance}

theorem watched_hear : (i.hear d).watched = i.watched := by
  unfold hear receive
  split
  · split <;> rfl
  · rfl

theorem requested_hear (h : i.requested = true) : (i.hear d).requested = true := by
  unfold hear
  split
  · exact requested_receive h
  · exact h

theorem requested_hear_of_stops {number : Int} (hWatched : i.watched = true)
    (hSignal : d.signal = some number) (hStops : number = 2 ∨ number = 15) :
    (i.hear d).requested = true := by
  have hReacts : i.reacts number = true := reacts_iff.mpr ⟨hWatched, hStops⟩
  rw [hear, hSignal]
  simp only [receive, hReacts, if_true]

end Interrupts

theorem last_or_earlier {α : Type} {l before after : List α} {a b : α}
    (h : l ++ [b] = before ++ a :: after) :
    l = before ∧ b = a ∨ ∃ rest, l = before ++ a :: rest := by
  rcases List.eq_nil_or_concat after with rfl | ⟨rest, last, rfl⟩
  · obtain ⟨hFront, hLast⟩ := List.append_inj' h rfl
    exact .inl ⟨hFront, List.singleton_inj.mp hLast⟩
  · rw [List.concat_eq_append, ← List.cons_append, ← List.append_assoc] at h
    exact .inr ⟨rest, (List.append_inj' h rfl).1⟩

namespace Circumstances

variable {x : Circumstances tool} {ds : List (Deed tool)} {d : Deed tool}

theorem Alarmed.of_concat (h : x.Alarmed (ds ++ [d])) :
    x.Alarmed ds ∨ (∃ number, (x.disturb ds d.request).signal = some number ∧
      (number = 2 ∨ number = 15)) ∧ ∀ e ∈ ds, e.request ≠ .checkInterrupts := by
  obtain ⟨before, e, after, number, hList, hSignal, hStops, hBefore⟩ := h
  rcases last_or_earlier hList with ⟨rfl, rfl⟩ | ⟨rest, rfl⟩
  · exact .inr ⟨⟨number, hSignal, hStops⟩, hBefore⟩
  · exact .inl ⟨before, e, rest, number, rfl, hSignal, hStops, hBefore⟩

end Circumstances

/-! ## Histories that the world allows -/

/-- The calls that have been made in these circumstances, with what they lead to. -/
inductive Chronicle (x : Circumstances tool) (c : Catalogs) :
    List (Deed tool) → Interrupts → Catalogs → Prop
  | nil : Chronicle x c [] x.interrupts c
  | snoc {ds : List (Deed tool)} {i : Interrupts} {c' : Catalogs} {d : Deed tool}
      (h : Chronicle x c ds i c')
      (hFault : ∀ f, d.outcome = .error f → Blames (x.disturb ds d.request) d.request f)
      (hPasses : d.passes = true → (i.hear (x.disturb ds d.request)).requested = false) :
      Chronicle x c (ds ++ [d]) (i.hear (x.disturb ds d.request))
        (c'.settled d.request d.outcome)

namespace Chronicle

variable {x : Circumstances tool} {c c' : Catalogs} {ds : List (Deed tool)} {i : Interrupts}

theorem watched (h : Chronicle x c ds i c') : i.watched = x.interrupts.watched := by
  induction h with
  | nil => rfl
  | snoc _ _ _ ih => rw [Interrupts.watched_hear, ih]

theorem blames (h : Chronicle x c ds i c') {d : Deed tool} (hd : d ∈ ds) {f : Fault}
    (hf : d.outcome = .error f) : ∃ before, Blames (x.disturb before d.request) d.request f := by
  induction h with
  | nil => cases hd
  | @snoc ds i c' e _ hFault _ ih =>
    rcases List.mem_append.mp hd with hd | hd
    · exact ih hd
    · cases List.mem_singleton.mp hd
      exact ⟨ds, hFault f hf⟩

/-- The wish to stop is still known after it was there in time, and no look has missed it. -/
theorem heeds (h : Chronicle x c ds i c') (hWarned : x.Warned ds) :
    i.requested = true ∧ ∀ d ∈ ds, d.passes = false := by
  induction h with
  | nil =>
    rcases hWarned with hRequested | ⟨-, before, d, after, _, hList, -⟩
    · exact ⟨hRequested, fun d hd => by cases hd⟩
    · simp at hList
  | @snoc ds i c' d h _ hPasses ih =>
    have hKnown : (i.hear (x.disturb ds d.request)).requested = true ∧
        ∀ e ∈ ds, e.passes = false := by
      have hLater (hBefore : x.Warned ds) :=
        (ih hBefore).imp_left (Interrupts.requested_hear (d := x.disturb ds d.request))
      rcases hWarned with hRequested | ⟨hWatched, hAlarmed⟩
      · exact hLater (.inl hRequested)
      rcases hAlarmed.of_concat with hAlarmed | ⟨⟨number, hSignal, hStops⟩, hBefore⟩
      · exact hLater (.inr ⟨hWatched, hAlarmed⟩)
      · refine ⟨Interrupts.requested_hear_of_stops (h.watched.trans hWatched) hSignal hStops, ?_⟩
        intro e he
        have hNot := hBefore e he
        unfold Deed.passes
        split
        · exact absurd rfl hNot
        · rfl
    obtain ⟨hRequested, hBefore⟩ := hKnown
    refine ⟨hRequested, ?_⟩
    intro e he
    rcases List.mem_append.mp he with he | he
    · exact hBefore e he
    · cases List.mem_singleton.mp he
      apply Bool.eq_false_iff.mpr
      intro hPass
      rw [hPasses hPass] at hRequested
      cases hRequested

theorem catalogs_eq (h : Chronicle x c ds i c') (hQuiet : ∀ d ∈ ds, d.request.settles = false) :
    c' = c := by
  induction h with
  | nil => rfl
  | @snoc ds i c' d _ _ _ ih =>
    have hBefore : c' = c := ih fun e he => hQuiet e (List.mem_append_left _ he)
    have hLast := hQuiet d (List.mem_append_right _ (List.mem_singleton_self d))
    obtain ⟨q, outcome, memory, kept⟩ := d
    rw [← hBefore]
    cases outcome with
    | error f => rfl
    | ok a => cases q <;> first | rfl | cases hLast

end Chronicle

/-! ## What every call adds -/

namespace Rehearsal

theorem interrupts_meet (r : Rehearsal tool) (q : Request tool) (d : Disturbance) :
    (r.meet q d).2.interrupts = r.interrupts.hear d := by
  have hReceive : (r.receive d).interrupts = r.interrupts.hear d := by
    unfold receive Interrupts.hear
    cases d.signal <;> rfl
  unfold meet
  split
  · exact hReceive
  · exact (congrArg Circumstances.interrupts (toCircumstances_respond _ q)).trans hReceive

theorem disturb_meet (r : Rehearsal tool) (q : Request tool) (d : Disturbance) :
    (r.meet q d).2.disturb = r.disturb := by
  have hReceive : (r.receive d).disturb = r.disturb := by
    unfold receive
    split <;> rfl
  unfold meet
  split
  · exact hReceive
  · exact (congrArg Circumstances.disturb (toCircumstances_respond _ q)).trans hReceive

theorem blames_respond {r : Rehearsal tool} {q : Request tool} {f : Fault}
    (h : (r.respond q).1 = .error f) (d : Disturbance) : Blames d q f := by
  cases q with
  | nodeStatus id =>
    simp only [respond] at h
    split at h
    · cases h
    · cases h
      exact .missing id
  | checkInterrupts =>
    simp only [respond, Interrupts.check] at h
    split at h
    · cases h
      exact .cancelled
    · cases h
  | _ => cases h

theorem blames_meet {r : Rehearsal tool} {q : Request tool} {d : Disturbance} {f : Fault}
    (h : (r.meet q d).1 = .error f) : Blames d q f := by
  unfold meet at h
  split at h
  · rename_i hFault
    cases h
    exact .disturbed hFault
  · exact blames_respond h d

theorem requested_of_passes {r : Rehearsal tool} {q : Request tool} {d : Disturbance}
    {memory : NodeStatus} {kept : Statuses}
    (h : Deed.passes ⟨q, (r.meet q d).1, memory, kept⟩ = true) :
    (r.interrupts.hear d).requested = false := by
  cases q with
  | checkInterrupts =>
    rw [← interrupts_meet r .checkInterrupts d]
    unfold meet at h ⊢
    split at h
    · cases h
    · rename_i hNone
      simp only [respond, Interrupts.check] at h ⊢
      split at h
      · cases h
      · rename_i hNot
        simpa [hNone] using hNot
  | _ => cases h

/-- The calls of a run so far are a history of its circumstances. -/
structure Recorded (x : Circumstances tool) (c : Catalogs) (p : Progress (Rehearsal tool)) :
    Prop where
  disturb : p.outside.disturb = x.disturb
  chronicle : Chronicle x c p.outside.deeds p.outside.interrupts p.outside.toCatalogs

theorem keeps_recorded {x : Circumstances tool} {c : Catalogs} (q : Request tool) :
    Keeps (Recorded x c) (ask q) := by
  apply keeps_of_reaches
  intro p h
  have hMet := h.chronicle.snoc (d := ⟨q, (p.outside.meet q (x.disturb p.outside.deeds q)).1,
    p.target, p.outside.stored⟩) (fun f hf => blames_meet hf) requested_of_passes
  rw [← toCatalogs_meet, ← interrupts_meet, ← h.disturb] at hMet
  exact ⟨(disturb_meet p.outside q _).trans h.disturb, hMet⟩

end Rehearsal

end ReplicaBootstrap
