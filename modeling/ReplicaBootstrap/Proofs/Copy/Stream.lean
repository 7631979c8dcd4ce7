import ReplicaBootstrap.Proofs.Copy.Course

/-! # What is said over streams

What each operation on a stream says, both when it goes well and when it is cut off.
-/

namespace ReplicaBootstrap.Copy

open ReplicaBootstrap.Action Site

variable {base talk : List Entry} {n : Nat} {c : Nat → Option String} {origin target conn : Nat}

/-! ## Operations on a stream -/

theorem meets_setCopying (query : Option String) {bad : Fault → Site → Prop} :
    Meets (Stands base n c talk) (setCopying conn query)
      (fun _ => Stands base n (Function.update c conn query) talk) bad :=
  meets_modify fun w h => h.setServer conn { w.server conn with copying := query }

/-- The copy in progress on a connection is read from the state. -/
theorem meets_copying {α : Type} {query : String} (hCopying : c conn = some query)
    {x : Action Site α} {k : String → Action Site α} {good : α → Site → Prop}
    {bad : Fault → Site → Prop} (hk : Meets (Stands base n c talk) (k query) good bad) :
    Meets (Stands base n c talk)
      (do
        match ((← get).server conn).copying with
        | none => x
        | some query => k query) good bad := by
  apply meets_bind (m := fun q w => (q.server conn).copying = some query ∧ Stands base n c talk w)
  · exact meets_get fun w h => ⟨(h.copying conn).trans hCopying, h⟩
  intro q
  apply meets_known
  rintro _ ⟨hq, h⟩
  refine ⟨_, h, ?_⟩
  rw [hq]
  exact hk

theorem stands_answered {conn : Nat} (e : Event) (text : String) (explain : Fault → Fault) :
    Meets (Stands base n c talk) ((request conn e text).onDriverFault explain)
      (fun r w => r.fault = none ∧ Stands base n c (talk ++ [.exchange e r]) w)
      (fun f w => ∃ r g, r.fault = some g ∧ f = (if g.isDriver then explain g else g) ∧
        Stands base n c (talk ++ [.exchange e r]) w) := by
  apply meets_onDriverFault
  apply (stands_request conn e text).imp_bad
  rintro g w ⟨r, hFault, h⟩
  exact ⟨r, g, hFault, rfl, h⟩

theorem stands_explained {conn : Nat} (e : Event) (text : String) {explain : Fault → Fault}
    (hExplain : ∀ f, (explain f).isInit = true) :
    Meets (Stands base n c talk) ((request conn e text).onDriverFault explain)
      (fun r w => r.fault = none ∧ Stands base n c (talk ++ [.exchange e r]) w)
      (fun f w => ∃ r, r.fault ≠ none ∧ Answerable r f ∧
        Stands base n c (talk ++ [.exchange e r]) w) := by
  apply (stands_answered e text explain).imp_bad
  rintro _ w ⟨r, g, hFault, rfl, h⟩
  exact ⟨r, by simp [hFault], answerable_explained hFault (hExplain g), h⟩

theorem stands_conveyed {conn : Nat} (e : Event) (text : String) {explain : Fault → Fault}
    (hExplain : ∀ f, ∃ words, explain f = .init .copy (words ++ f.text)) :
    Meets (Stands base n c talk) ((request conn e text).onDriverFault explain)
      (fun r w => r.fault = none ∧ Stands base n c (talk ++ [.exchange e r]) w)
      (fun f w => ∃ r, Conveyed r f ∧ Stands base n c (talk ++ [.exchange e r]) w) := by
  apply (stands_answered e text explain).imp_bad
  rintro _ w ⟨r, g, hFault, rfl, h⟩
  exact ⟨r, conveyed_explained explain hFault (hExplain g), h⟩

theorem stands_start (direction : Direction) (t : Table) :
    Meets (Stands base n c talk) (start conn direction t)
      (fun _ w => ∃ query opening, Opened conn direction t opening ∧
        Stands base n (Function.update c conn (some query)) (talk ++ opening) w)
      (fun f w => ∃ opening, OpeningCut conn opening ∧ Blames t opening f ∧ Caused t opening f ∧
        Stands base n c (talk ++ opening) w) := by
  unfold start
  apply meets_bind (m := fun query w =>
    statement direction t = .ok query ∧ Stands base n c talk w)
  · apply meets_ofExcept
    · intro query hQuery w h
      exact ⟨hQuery, h⟩
    · intro f hUnnamed w h
      refine ⟨[], .unnamed, .unnamed hUnnamed, .unnamed rfl hUnnamed, ?_⟩
      rw [List.append_nil]
      exact h
  intro query
  apply meets_known
  rintro _ ⟨hQuery, h⟩
  refine ⟨_, h, ?_⟩
  apply meets_bind (m := fun _ => Stands base n c talk)
  · exact meets_modify fun _ h => h.setServer_same rfl
  intro _
  apply meets_bind
  · apply (stands_conveyed _ _ fun _ => ⟨_, rfl⟩).imp_bad
    rintro _ w ⟨r, hCursor, h⟩
    exact ⟨_, .cursor hCursor.ne_none, .reply List.mem_cons_self rfl hCursor.answerable,
      hCursor.caused t rfl, h⟩
  intro r
  apply meets_known
  rintro _ ⟨hCursor, h⟩
  refine ⟨_, h, ?_⟩
  apply meets_attempt_bind (stands_request conn _ _)
  · intro r'
    apply meets_known
    rintro _ ⟨hCopy, h⟩
    refine ⟨_, h, ?_⟩
    apply (meets_setCopying (some query)).imp_good
    intro _ w h
    rw [List.append_assoc] at h
    exact ⟨query, _, .mk (statement_eq_ok_iff.mp hQuery) hCursor hCopy, h⟩
  · intro f
    apply meets_known
    rintro _ ⟨r', hFault, h⟩
    refine ⟨_, h, ?_⟩
    have hOpened : Unfailing [.exchange (.openCursor conn) r] := by
      simp [Unfailing, Entry.failure?, hCursor]
    have hCut {g : Fault} (hCopy : Conveyed r' g) (w : Site)
        (h : Stands base n c (talk ++ [.exchange (.openCursor conn) r] ++
          [.exchange (.startCopy conn query) r']) w) :
        ∃ opening, OpeningCut conn opening ∧ Blames t opening g ∧ Caused t opening g ∧
          Stands base n c (talk ++ opening) w := by
      rw [List.append_assoc] at h
      exact ⟨_, .copy hCursor hCopy.ne_none,
        .reply (List.mem_cons_of_mem _ List.mem_cons_self) rfl hCopy.answerable,
        (hCopy.caused t rfl).after hOpened, h⟩
    have hConveyed := conveyed_explained (openFailed (description direction t)) hFault ⟨_, rfl⟩
    dsimp only
    split
    · rename_i hDriver
      rw [if_pos hDriver] at hConveyed
      apply meets_bind (stands_emit _)
      intro _
      exact meets_throw (hCut hConveyed)
    · rename_i hOther
      rw [if_neg hOther] at hConveyed
      exact meets_throw (hCut hConveyed)

theorem stands_nextChunk {query : String} (hCopying : c conn = some query) :
    Meets (Stands base n c talk) (nextChunk conn)
      (fun data w => ∃ r, r.fault = none ∧ data = r.data ∧
        Stands base n c (talk ++ [.exchange (.read conn) r]) w)
      (fun f w => ∃ r, Conveyed r f ∧ Stands base n c (talk ++ [.exchange (.read conn) r]) w) := by
  apply meets_copying hCopying
  apply meets_bind (stands_conveyed _ _ fun _ => ⟨_, rfl⟩)
  intro r
  apply meets_pure
  rintro w ⟨hRead, h⟩
  exact ⟨r, hRead, rfl, h⟩

theorem stands_writeChunk {query : String} (hCopying : c conn = some query) (data : List UInt8) :
    Meets (Stands base n c talk) (writeChunk conn data)
      (fun _ w => ∃ r, r.fault = none ∧
        Stands base n c (talk ++ [.exchange (.write conn data) r]) w)
      (fun f w => ∃ r, Conveyed r f ∧
        Stands base n c (talk ++ [.exchange (.write conn data) r]) w) := by
  apply meets_copying hCopying
  apply meets_bind (stands_conveyed _ _ fun _ => ⟨_, rfl⟩)
  intro r
  apply meets_pure
  rintro w h
  exact ⟨r, h⟩

theorem stands_finish {query : String} (hCopying : c conn = some query) :
    Meets (Stands base n c talk) (finish conn)
      (fun _ w => ∃ r, r.fault = none ∧
        Stands base n (Function.update c conn none) (talk ++ [.exchange (.endCopy conn) r]) w)
      (fun f w => ∃ r, Conveyed r f ∧
        Stands base n (Function.update c conn none) (talk ++ [.exchange (.endCopy conn) r]) w) := by
  unfold finish
  apply meets_bind (m := fun q w => (q.server conn).copying = some query ∧ Stands base n c talk w)
  · exact meets_get fun w h => ⟨(h.copying conn).trans hCopying, h⟩
  intro q
  apply meets_known
  rintro _ ⟨hq, h⟩
  refine ⟨_, h, ?_⟩
  dsimp only
  rw [hq]
  apply meets_bind (meets_setCopying none)
  intro _
  apply meets_attempt_bind (stands_request conn _ _)
  · intro r
    apply meets_known
    rintro _ ⟨hEnd, h⟩
    refine ⟨_, h, ?_⟩
    apply meets_bind (stands_emit _)
    intro _
    exact meets_pure fun _ h => ⟨r, hEnd, h⟩
  · intro f
    apply meets_known
    rintro _ ⟨r, hFault, h⟩
    refine ⟨_, h, ?_⟩
    apply meets_bind (stands_emit _)
    intro _
    have hConveyed := conveyed_explained (fun f => .init .copy
      s!"finishing copy of {describedText (q.server conn)} failed: {f.text}") hFault ⟨_, rfl⟩
    dsimp only
    split
    · rename_i hDriver
      rw [if_pos hDriver] at hConveyed
      exact meets_throw fun _ h => ⟨r, hConveyed, h⟩
    · rename_i hOther
      rw [if_neg hOther] at hConveyed
      exact meets_throw fun _ h => ⟨r, hConveyed, h⟩

/-- A copy that is not open need not be given up. -/
theorem stands_abort_none (hCopying : c conn = none) (cause : Fault) {bad : Fault → Site → Prop} :
    Meets (Stands base n c talk) (abort conn cause) (fun _ => Stands base n c talk) bad := by
  unfold abort
  apply meets_bind (m := fun q w => (q.server conn).copying = none ∧ Stands base n c talk w)
  · exact meets_get fun w h => ⟨(h.copying conn).trans hCopying, h⟩
  intro q
  apply meets_known
  rintro _ ⟨hq, h⟩
  refine ⟨_, h, ?_⟩
  dsimp only
  rw [hq]
  exact meets_pure fun _ h => h

theorem stands_abort {query : String} (hCopying : c conn = some query) (cause : Fault) :
    Meets (Stands base n c talk) (abort conn cause)
      (fun _ w => ∃ r, Tolerable r ∧ Stands base n (Function.update c conn none)
        (talk ++ [.exchange (.abortCopy conn cause.kind) r]) w)
      (fun f w => ∃ r, ¬ Tolerable r ∧ Answerable r f ∧ Stands base n (Function.update c conn none)
        (talk ++ [.exchange (.abortCopy conn cause.kind) r]) w) := by
  unfold abort
  apply meets_bind (m := fun q w => (q.server conn).copying = some query ∧ Stands base n c talk w)
  · exact meets_get fun w h => ⟨(h.copying conn).trans hCopying, h⟩
  intro q
  apply meets_known
  rintro _ ⟨hq, h⟩
  refine ⟨_, h, ?_⟩
  dsimp only
  rw [hq]
  apply meets_bind (meets_setCopying none)
  intro _
  apply meets_attempt_bind (stands_request conn _ _)
  · intro r
    apply meets_known
    rintro _ ⟨hAbort, h⟩
    refine ⟨_, h, ?_⟩
    apply meets_bind (stands_emit _)
    intro _
    exact meets_pure fun _ h => ⟨r, tolerable_of_none hAbort, h⟩
  · intro f
    apply meets_known
    rintro _ ⟨r, hFault, h⟩
    refine ⟨_, h, ?_⟩
    apply meets_bind (stands_emit _)
    intro _
    refine meets_tolerating (e := fun g w => g = f ∧ Stands base n (Function.update c conn none)
      (talk ++ [.exchange (.abortCopy conn cause.kind) r]) w) ?_ ?_ ?_
    · exact meets_throw fun _ h => ⟨rfl, h⟩
    · rintro g hg
      apply meets_known
      rintro _ ⟨rfl, h⟩
      refine ⟨_, h, ?_⟩
      exact (stands_log _ _).imp_good fun _ _ h => ⟨r, tolerable_of_driver hFault hg, h⟩
    · rintro g hg w ⟨rfl, h⟩
      exact ⟨r, not_tolerable_of_other hFault hg, .inr ⟨hFault, hg⟩, h⟩

end ReplicaBootstrap.Copy
