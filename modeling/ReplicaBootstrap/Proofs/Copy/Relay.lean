import Mathlib.Algebra.GroupWithZero.Nat
import ReplicaBootstrap.Proofs.Copy.Stream

/-! # What is said while tables are copied

Moving chunks, and copying tables one after the other, says what the course of a copy tells, as far
as it comes.
-/

namespace ReplicaBootstrap.Copy

open ReplicaBootstrap.Action Site

variable {base talk : List Entry} {n : Nat} {c : Nat → Option String} {origin target : Nat}

/-! ## The chunks of a table -/

theorem foldl_add (stats : Stats) (chunks : List (List UInt8)) :
    chunks.foldl Stats.add stats =
      ⟨stats.chunks + chunks.length, stats.bytes + (chunks.map List.length).sum⟩ := by
  induction chunks generalizing stats with
  | nil => rfl
  | cons data rest ih =>
    rw [List.foldl_cons, ih, List.map_cons, List.sum_cons, List.length_cons, Stats.add]
    simp only [Stats.mk.injEq]
    omega

theorem stands_relayFor {source sink : String} (hSource : c origin = some source)
    (hSink : c target = some sink) (t : Table) (rounds : Nat) (stats : Stats) :
    Meets (Stands base n c talk) (relayFor origin target rounds stats)
      (fun s w => ∃ chunks, Relayed origin target chunks ∧
        s = (moved .toServer target chunks).foldl Stats.add stats ∧
        Stands base n c (talk ++ chunks) w)
      (fun f w => ∃ chunks, RelayCut origin target chunks ∧ Blames t chunks f ∧
        (rounds ≠ 0 → Caused t chunks f) ∧ (rounds = 0 → chunks = [] ∧ f = endless) ∧
        Stands base n c (talk ++ chunks) w) := by
  -- A round that does not end the relay says one chunk more and leaves the streams as they are.
  induction rounds generalizing stats talk with
  | zero =>
    apply meets_throw
    intro w h
    refine ⟨[], .endless, .endless rfl, fun hRounds => absurd rfl hRounds, fun _ => ⟨rfl, rfl⟩, ?_⟩
    rw [List.append_nil]
    exact h
  | succ rounds ih =>
    unfold relayFor
    apply meets_bind
    · apply (stands_nextChunk hSource).imp_bad
      rintro _ w ⟨r, hRead, h⟩
      exact ⟨_, .read hRead.ne_none, .reply List.mem_cons_self rfl hRead.answerable,
        fun _ => hRead.caused t rfl, nofun, h⟩
    intro data
    apply meets_known
    rintro _ ⟨r, hRead, rfl, h⟩
    refine ⟨_, h, ?_⟩
    split
    · rename_i hEmpty
      refine meets_pure fun _ h => ⟨_, .done hRead (List.isEmpty_iff.mp hEmpty), ?_, h⟩
      simp [moved, chunk?]
    · rename_i hNotEmpty
      have hData : r.data ≠ [] := fun h => hNotEmpty (List.isEmpty_iff.mpr h)
      have hUnfailing : Unfailing [.exchange (.read origin) r] := by
        simp [Unfailing, Entry.failure?, hRead]
      apply meets_bind
      · apply (stands_writeChunk hSink r.data).imp_bad
        rintro _ w ⟨r', hWrite, h⟩
        rw [List.append_assoc] at h
        exact ⟨_, .write hRead hData hWrite.ne_none,
          .reply (List.mem_cons_of_mem _ List.mem_cons_self) rfl hWrite.answerable,
          fun _ => (hWrite.caused t rfl).after hUnfailing, nofun, h⟩
      intro _
      apply meets_known
      rintro _ ⟨r', hWrite, h⟩
      refine ⟨_, h, ?_⟩
      have hUnfailing : Unfailing [.exchange (.read origin) r, .exchange (.write target r.data) r'] := by
        simp [Unfailing, Entry.failure?, hRead, hWrite]
      apply meets_bind
      · apply stands_checkInterrupts.imp_bad
        rintro _ w ⟨rfl, h⟩
        rw [List.append_assoc, List.append_assoc] at h
        exact ⟨_, .stopped hRead hData hWrite, .stopped rfl,
          fun _ => (caused_cancelled t).after hUnfailing, nofun, h⟩
      intro _
      apply (ih _).weaken (fun _ h => h)
      · rintro s w ⟨chunks, hChunks, hStats, h⟩
        rw [List.append_assoc, List.append_assoc, List.append_assoc] at h
        refine ⟨_, .chunk hRead hData hWrite hChunks, ?_, h⟩
        rw [hStats, moved_toServer_chunk hWrite]
        rfl
      · rintro f w ⟨chunks, hChunks, hBlames, hCaused, hNoRound, h⟩
        rw [List.append_assoc, List.append_assoc, List.append_assoc] at h
        have hCheck : Unfailing [.check false] := rfl
        have hRound : Caused t ([.exchange (.read origin) r, .exchange (.write target r.data) r'] ++
            ([.check false] ++ chunks)) f := by
          by_cases hRounds : rounds = 0
          · obtain ⟨rfl, hEndless⟩ := hNoRound hRounds
            exact .endless (hUnfailing.append hCheck) hEndless rfl fun _ hx => by cases hx
          · exact ((hCaused hRounds).after hCheck).after hUnfailing
        refine ⟨_, .chunk hRead hData hWrite hChunks, hBlames.mono ?_, fun _ => hRound, nofun, h⟩
        exact fun _ hx => List.mem_cons_of_mem _ (List.mem_cons_of_mem _ (List.mem_cons_of_mem _ hx))

theorem stands_relay {source sink : String} (hSource : c origin = some source)
    (hSink : c target = some sink) (t : Table) :
    Meets (Stands base n c talk) (relay origin target)
      (fun s w => ∃ chunks r, Relayed origin target chunks ∧ r.fault = none ∧
        s = (moved .toServer target chunks).foldl Stats.add {} ∧
        Stands base n (Function.update c origin none)
          (talk ++ (chunks ++ [.exchange (.endCopy origin) r])) w)
      (fun f w => (∃ chunks, RelayCut origin target chunks ∧ Blames t chunks f ∧
          Caused t chunks f ∧ Stands base n c (talk ++ chunks) w) ∨
        ∃ chunks r, Relayed origin target chunks ∧ Conveyed r f ∧
          Stands base n (Function.update c origin none)
            (talk ++ (chunks ++ [.exchange (.endCopy origin) r])) w) := by
  unfold relay
  apply meets_bind (m := fun _ => Stands base n c talk)
  · exact meets_get fun _ h => h
  intro w
  apply meets_bind
  · apply (stands_relayFor hSource hSink t _ _).imp_bad
    rintro f w ⟨chunks, hChunks, hBlames, hCaused, -, h⟩
    exact .inl ⟨chunks, hChunks, hBlames, hCaused (Nat.succ_ne_zero _), h⟩
  intro stats
  apply meets_known
  rintro _ ⟨chunks, hChunks, hStats, h⟩
  refine ⟨_, h, ?_⟩
  apply meets_bind (m := fun _ w => ∃ r, r.fault = none ∧
    Stands base n (Function.update c origin none)
      (talk ++ (chunks ++ [.exchange (.endCopy origin) r])) w)
  · apply (stands_finish hSource).weaken (fun _ h => h)
    · rintro _ w ⟨r, hEnd, h⟩
      rw [List.append_assoc] at h
      exact ⟨r, hEnd, h⟩
    · rintro _ w ⟨r, hEnd, h⟩
      rw [List.append_assoc] at h
      exact .inr ⟨chunks, r, hChunks, hEnd, h⟩
  intro _
  apply meets_pure
  rintro w ⟨r, hEnd, h⟩
  exact ⟨chunks, r, hChunks, hEnd, hStats, h⟩

/-! ## A table -/

/-- The copy of a table that `f` cut off, with the copies in progress before and after it. The fault
is the one that cut it off, and both copies are ended, unless giving up a copy fails in turn. -/
structure CutBy (origin target : Nat) (t : Table) (c c' : Nat → Option String) (copy : List Entry)
    (f : Fault) : Prop where
  cut : CopyCut origin target t copy
  blames : Blames t copy f
  caused : Bearable copy → Caused t copy f
  shut : Bearable copy → c origin = none → c target = none → c' origin = none ∧ c' target = none

theorem stands_openBoth (hConn : origin ≠ target) (t : Table) :
    Meets (Stands base n c talk) (openBoth origin target t)
      (fun _ w => ∃ c' source sink opening opening',
        Opened origin .fromServer t opening ∧ Opened target .toServer t opening' ∧
        c' origin = some source ∧ c' target = some sink ∧
        Stands base n c' (talk ++ (opening ++ opening')) w)
      (fun f w => ∃ c' copy, CutBy origin target t c c' copy f ∧
        Stands base n c' (talk ++ copy) w) := by
  unfold openBoth
  apply meets_bind
  · apply (stands_start .fromServer t).imp_bad
    rintro f w ⟨opening, hOpening, hBlames, hCaused, h⟩
    have hCut : CutBy origin target t c c opening f :=
      ⟨.source hOpening, hBlames, fun _ => hCaused, fun _ hOrigin hTarget => ⟨hOrigin, hTarget⟩⟩
    exact ⟨c, opening, hCut, h⟩
  intro _
  apply meets_known
  rintro _ ⟨source, opening, hOpening, h⟩
  refine ⟨_, h, ?_⟩
  apply meets_attempt_bind (stands_start .toServer t)
  · intro _
    apply meets_pure
    rintro w ⟨sink, opening', hOpening', h⟩
    rw [List.append_assoc] at h
    refine ⟨_, source, sink, opening, opening', hOpening, hOpening', ?_, ?_, h⟩
    · rw [Function.update_of_ne hConn, Function.update_self]
    · rw [Function.update_self]
  · intro f
    apply meets_known
    rintro _ ⟨opening', hOpening', hBlames, hCaused, h⟩
    refine ⟨_, h, ?_⟩
    have hCut {r : Reply} {g : Fault} {w : Site}
        (hBlames : Blames t (opening ++ opening' ++ [.exchange (.abortCopy origin f.kind) r]) g)
        (hFault : Tolerable r → g = f)
        (h : Stands base n (Function.update (Function.update c origin (some source)) origin none)
          (talk ++ opening ++ opening' ++ [.exchange (.abortCopy origin f.kind) r]) w) :
        ∃ c' copy, CutBy origin target t c c' copy g ∧ Stands base n c' (talk ++ copy) w := by
      rw [List.append_assoc, List.append_assoc, ← List.append_assoc opening] at h
      refine ⟨_, _, ⟨.sink hOpening hOpening', hBlames, fun hBearable => ?_, fun _ _ hTarget => ?_⟩, h⟩
      · rw [hFault (hBearable origin f.kind r (by simp))]
        exact (hCaused.after hOpening.unfailing).before (by simp [Entry.isAbort])
      · exact ⟨Function.update_self .., by
          rw [Function.update_of_ne hConn.symm, Function.update_of_ne hConn.symm, hTarget]⟩
    apply meets_bind (m := fun _ w => ∃ c' copy, CutBy origin target t c c' copy f ∧
      Stands base n c' (talk ++ copy) w)
    · apply (stands_abort (Function.update_self origin (some source) c) f).weaken (fun _ h => h)
      · rintro _ w ⟨r, -, h⟩
        refine hCut (hBlames.mono fun _ hx => ?_) (fun _ => rfl) h
        exact List.mem_append_left _ (List.mem_append_right _ hx)
      · rintro _ w ⟨r, hAbort, hAnswer, h⟩
        exact hCut (.reply (List.mem_append_right _ List.mem_cons_self) rfl hAnswer)
          (fun hTolerable => absurd hTolerable hAbort) h
    intro _
    exact meets_throw fun _ h => h

/-- Both copies are given up after chunks that were cut off. The fault stays the one they were cut off
by, unless giving them up fails in turn. -/
theorem stands_abortBoth {source sink : String} (hConn : origin ≠ target)
    (hSource : c origin = some source) (hSink : c target = some sink) (t : Table) (f : Fault)
    {good : Stats → Site → Prop} :
    Meets (Stands base n c talk)
      (do
        abort origin f
        abort target f
        throw f) good
      (fun g w => ∃ c' aborts, GivenUp origin target aborts ∧ (g = f ∨ Blames t aborts g) ∧
        (Bearable aborts → g = f ∧ c' origin = none ∧ c' target = none) ∧
        Stands base n c' (talk ++ aborts) w) := by
  apply meets_bind (m := fun _ w => ∃ r, Tolerable r ∧
    Stands base n (Function.update c origin none)
      (talk ++ [.exchange (.abortCopy origin f.kind) r]) w)
  · apply (stands_abort hSource f).imp_bad
    rintro _ w ⟨r, hAbort, hAnswer, h⟩
    exact ⟨_, _, .origin hAbort, .inr (.reply List.mem_cons_self rfl hAnswer),
      fun hBearable => absurd (hBearable _ _ _ List.mem_cons_self) hAbort, h⟩
  intro _
  apply meets_known
  rintro _ ⟨r, hAbort, h⟩
  refine ⟨_, h, ?_⟩
  have hStillSink : Function.update c origin none target = some sink := by
    rw [Function.update_of_ne hConn.symm]
    exact hSink
  have hGivenUp {r' : Reply} {g : Fault} {w : Site} (hFault : g = f ∨ Answerable r' g)
      (hSame : Tolerable r' → g = f)
      (h : Stands base n (Function.update (Function.update c origin none) target none)
        (talk ++ [.exchange (.abortCopy origin f.kind) r] ++
          [.exchange (.abortCopy target f.kind) r']) w) :
      ∃ c' aborts, GivenUp origin target aborts ∧ (g = f ∨ Blames t aborts g) ∧
        (Bearable aborts → g = f ∧ c' origin = none ∧ c' target = none) ∧
        Stands base n c' (talk ++ aborts) w := by
    rw [List.append_assoc] at h
    refine ⟨_, _, .both hAbort, hFault.imp_right fun hAnswer => ?_, fun hBearable => ?_, h⟩
    · exact .reply (List.mem_cons_of_mem _ List.mem_cons_self) rfl hAnswer
    · refine ⟨hSame (hBearable _ _ _ (List.mem_cons_of_mem _ List.mem_cons_self)), ?_, ?_⟩
      · rw [Function.update_of_ne hConn, Function.update_self]
      · rw [Function.update_self]
  apply meets_bind (m := fun _ w => ∃ c' aborts, GivenUp origin target aborts ∧
    (f = f ∨ Blames t aborts f) ∧ (Bearable aborts → f = f ∧ c' origin = none ∧ c' target = none) ∧
    Stands base n c' (talk ++ aborts) w)
  · apply (stands_abort hStillSink f).weaken (fun _ h => h)
    · rintro _ w ⟨r', -, h⟩
      exact hGivenUp (.inl rfl) (fun _ => rfl) h
    · rintro _ w ⟨r', hAbort', hAnswer, h⟩
      exact hGivenUp (.inr hAnswer) (fun hTolerable => absurd hTolerable hAbort') h
  intro _
  exact meets_throw fun _ h => h

theorem append_ending (talk opening chunks : List Entry) (x y : Entry) :
    talk ++ opening ++ (chunks ++ [x]) ++ [y] = talk ++ (opening ++ chunks ++ [x, y]) := by
  simp only [List.append_assoc, List.cons_append, List.nil_append]

theorem stands_table (hConn : origin ≠ target) (t : Table) :
    Meets (Stands base n c talk) (table origin target t)
      (fun s w => ∃ c' copy, Copied origin target t copy ∧ (c' origin = none ∧ c' target = none) ∧
        s = (moved .toServer target copy).foldl Stats.add {} ∧ Stands base n c' (talk ++ copy) w)
      (fun f w => ∃ c' copy, CutBy origin target t c c' copy f ∧
        Stands base n c' (talk ++ copy) w) := by
  unfold table
  apply meets_bind (stands_log _ _)
  intro _
  apply meets_bind stands_readClock
  intro _
  apply meets_bind (stands_openBoth hConn t)
  intro _
  apply meets_known
  rintro _ ⟨c', source, sink, opening, opening', hOpening, hOpening', hSource, hSink, h⟩
  refine ⟨_, h, ?_⟩
  have hOpened : Unfailing (opening ++ opening') := hOpening.unfailing.append hOpening'.unfailing
  have hStillSink : Function.update c' origin none target = some sink := by
    rw [Function.update_of_ne hConn.symm]
    exact hSink
  have hShut : Function.update (Function.update c' origin none) target none origin = none ∧
      Function.update (Function.update c' origin none) target none target = none := by
    rw [Function.update_of_ne hConn, Function.update_self, Function.update_self]
    exact ⟨rfl, rfl⟩
  apply meets_attempt_bind (stands_relay hSource hSink t)
  · intro stats
    apply meets_known
    rintro _ ⟨chunks, r, hChunks, hEnd, hStats, h⟩
    refine ⟨_, h, ?_⟩
    apply meets_bind
    · apply (stands_finish hStillSink).imp_bad
      rintro f w ⟨r', hEnd', h⟩
      rw [append_ending] at h
      have hBefore : Unfailing [.exchange (.endCopy origin) r] := by
        simp [Unfailing, Entry.failure?, hEnd]
      have hLast : Caused t [.exchange (.endCopy target) r'] f := hEnd'.caused t rfl
      have hCaused := hLast.after ((hOpened.append hChunks.unfailing).append hBefore)
      rw [List.append_assoc (opening ++ opening' ++ chunks)] at hCaused
      exact ⟨_, _, ⟨.sinkEnd hOpening hOpening' hChunks hEnd hEnd'.ne_none, .reply
        (List.mem_append_right _ (List.mem_cons_of_mem _ List.mem_cons_self)) rfl hEnd'.answerable,
        fun _ => hCaused, fun _ _ _ => hShut⟩, h⟩
    intro _
    apply meets_known
    rintro _ ⟨r', hEnd', h⟩
    refine ⟨_, h, ?_⟩
    apply meets_bind stands_readClock
    intro _
    apply meets_bind (stands_log _ _)
    intro _
    apply meets_pure
    intro w h
    rw [append_ending] at h
    refine ⟨_, _, .mk hOpening hOpening' hChunks hEnd hEnd', hShut, ?_, h⟩
    rw [hStats, moved_between hOpening hOpening' rfl]
  · intro f
    dsimp only
    apply meets_or
    · apply meets_known
      rintro _ ⟨chunks, hChunks, hBlames, hCaused, h⟩
      refine ⟨_, h, ?_⟩
      apply (stands_abortBoth hConn hSource hSink t f).imp_bad
      rintro g w ⟨c'', aborts, hAborts, hFault, hSame, h⟩
      have hBearable (hCopy : Bearable (opening ++ opening' ++ chunks ++ aborts)) :
          Bearable aborts := fun conn cause r hr => hCopy conn cause r (List.mem_append_right _ hr)
      refine ⟨c'', opening ++ opening' ++ chunks ++ aborts,
        ⟨.relay hOpening hOpening' hChunks hAborts, ?_, fun hCopy => ?_, fun hCopy _ _ => ?_⟩, ?_⟩
      · rcases hFault with rfl | hAbortsBlamed
        · exact hBlames.mono fun _ hx => List.mem_append_left _ (List.mem_append_right _ hx)
        · exact hAbortsBlamed.mono fun _ hx => List.mem_append_right _ hx
      · rw [(hSame (hBearable hCopy)).1]
        exact (hCaused.after hOpened).before hAborts.isAbort
      · exact (hSame (hBearable hCopy)).2
      · simp only [List.append_assoc] at h ⊢
        exact h
    · apply meets_known
      rintro _ ⟨chunks, r, hChunks, hEnd, h⟩
      refine ⟨_, h, ?_⟩
      apply meets_bind (stands_abort_none (Function.update_self origin none c') f)
      intro _
      have hCut {r' : Reply} {g : Fault} {w : Site} (hFault : Conveyed r g ∨ Answerable r' g)
          (hSame : Tolerable r' → g = f)
          (h : Stands base n (Function.update (Function.update c' origin none) target none)
            (talk ++ (opening ++ opening') ++ (chunks ++ [.exchange (.endCopy origin) r]) ++
              [.exchange (.abortCopy target f.kind) r']) w) :
          ∃ c' copy, CutBy origin target t c c' copy g ∧ Stands base n c' (talk ++ copy) w := by
        rw [append_ending] at h
        refine ⟨_, _, ⟨.sourceEnd hOpening hOpening' hChunks hEnd.ne_none, ?_,
          fun hBearable => ?_, fun _ _ _ => hShut⟩, h⟩
        · rcases hFault with hEnd | hAnswer
          · exact .reply (List.mem_append_right _ List.mem_cons_self) rfl hEnd.answerable
          · exact .reply (List.mem_append_right _ (List.mem_cons_of_mem _ List.mem_cons_self)) rfl
              hAnswer
        · rw [hSame (hBearable target f.kind r' (by simp))]
          have hAbort : ∀ x ∈ [Entry.exchange (.abortCopy target f.kind) r'], x.isAbort = true := by
            simp [Entry.isAbort]
          exact ((hEnd.caused t rfl).before hAbort).after (hOpened.append hChunks.unfailing)
      apply meets_bind (m := fun _ w => ∃ c' copy, CutBy origin target t c c' copy f ∧
        Stands base n c' (talk ++ copy) w)
      · apply (stands_abort hStillSink f).weaken (fun _ h => h)
        · rintro _ w ⟨r', -, h⟩
          exact hCut (.inl hEnd) (fun _ => rfl) h
        · rintro _ w ⟨r', hAbort, hAnswer', h⟩
          exact hCut (.inr hAnswer') (fun hTolerable => absurd hTolerable hAbort) h
      intro _
      exact meets_throw fun _ h => h

/-! ## All tables -/

theorem stands_eachTable (hConn : origin ≠ target) (ts : List Table) (bytes : Nat) :
    Meets (Stands base n c talk) (eachTable origin target ts bytes)
      (fun _ w => ∃ c' copies, CopiedAll origin target ts copies ∧
        Stands base n c' (talk ++ copies) w)
      (fun f w => ∃ c' copies, CopiesCut origin target ts copies f ∧
        Stands base n c' (talk ++ copies) w) := by
  induction ts generalizing bytes talk c with
  | nil =>
    apply meets_pure
    intro w h
    refine ⟨c, [], .nil, ?_⟩
    rw [List.append_nil]
    exact h
  | cons t ts ih =>
    unfold eachTable
    apply meets_bind
    · apply (stands_table hConn t).imp_bad
      rintro f w ⟨c', copy, hCut, h⟩
      exact ⟨c', copy, .table hCut.cut hCut.caused, h⟩
    intro stats
    apply meets_known
    rintro _ ⟨c', copy, hCopy, -, -, h⟩
    refine ⟨_, h, ?_⟩
    apply meets_bind
    · apply stands_checkInterrupts.imp_bad
      rintro _ w ⟨rfl, h⟩
      rw [List.append_assoc] at h
      exact ⟨c', _, .stopped hCopy, h⟩
    intro _
    apply (ih _).weaken (fun _ h => h)
    · rintro _ w ⟨c'', copies, hCopies, h⟩
      rw [List.append_assoc, List.append_assoc] at h
      exact ⟨c'', _, .cons hCopy hCopies, h⟩
    · rintro f w ⟨c'', copies, hCopies, h⟩
      rw [List.append_assoc, List.append_assoc] at h
      exact ⟨c'', _, .later hCopy hCopies, h⟩

end ReplicaBootstrap.Copy
