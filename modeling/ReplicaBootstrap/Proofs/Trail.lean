import Mathlib.Data.List.Chain
import ReplicaBootstrap.Proofs.Rehearsal

/-! # Trails

A trail follows the calls of a run and the status that the local catalog keeps between them. The
statuses that are set on a trail are a chain, in which each comes right after the one before.
-/

namespace ReplicaBootstrap

/-- The status in memory is the kept one, or that of the stage which is never kept. -/
def NodeStatus.Mirrors (memory kept : NodeStatus) : Prop :=
  memory = kept ∨ memory = .syncSchema ∧ kept = .init

/-- A call that fits in while the catalog keeps `s` for a node, with what it keeps afterwards. -/
inductive Moves {tool : Type} (id : Value) (s : NodeStatus) : Deed tool → NodeStatus → Prop
  | foreign {q outcome memory kept} (hq : q.isForeign = true) (hkept : Bench.get? id kept = some s)
      (hmemory : memory.Mirrors s) : Moves id s ⟨q, outcome, memory, kept⟩ s
  | written {t memory kept} (hkept : Bench.get? id kept = some s) (hmemory : memory.Mirrors s)
      (hnext : s.next? = some t) : Moves id s ⟨.setNodeStatus id t, .ok (), memory, kept⟩ t
  | refused {t f memory kept} (hkept : Bench.get? id kept = some s) (hmemory : memory.Mirrors s)
      (hnext : s.next? = some t) : Moves id s ⟨.setNodeStatus id t, .error f, memory, kept⟩ s

/-- Calls that fit in one after the other. -/
def Trail {tool : Type} (id : Value) : NodeStatus → List (Deed tool) → NodeStatus → Prop
  | s, [], t => s = t
  | s, d :: rest, t => ∃ u, Moves id s d u ∧ Trail id u rest t

namespace Trail

variable {tool : Type} {id : Value} {s t u : NodeStatus} {ds : List (Deed tool)}

theorem append {es : List (Deed tool)} (h : Trail id s ds t) (h' : Trail id t es u) :
    Trail id s (ds ++ es) u := by
  induction ds generalizing s with
  | nil =>
    cases h
    exact h'
  | cons d rest ih =>
    obtain ⟨v, hMoves, hRest⟩ := h
    exact ⟨v, hMoves, ih hRest⟩

theorem snoc {d : Deed tool} (h : Trail id s ds t) (hMoves : Moves id t d u) :
    Trail id s (ds ++ [d]) u :=
  h.append ⟨u, hMoves, rfl⟩

theorem moves_of_mem (h : Trail id s ds t) {d : Deed tool} (hd : d ∈ ds) :
    ∃ u v, Moves id u d v := by
  induction ds generalizing s with
  | nil => cases hd
  | cons e rest ih =>
    obtain ⟨v, hMoves, hRest⟩ := h
    rcases List.mem_cons.mp hd with rfl | hd
    · exact ⟨s, v, hMoves⟩
    · exact ih hRest hd

end Trail

namespace Moves

variable {tool : Type} {id : Value} {s t : NodeStatus} {d : Deed tool}

theorem kept_eq (h : Moves id s d t) : Bench.get? id d.kept = some s := by
  cases h <;> assumption

theorem mirrors (h : Moves id s d t) : d.memory.Mirrors s := by
  cases h <;> assumption

theorem next?_of_set (h : Moves id s d t) {key : Value} {status : NodeStatus}
    (hd : d.request = .setNodeStatus key status) : key = id ∧ s.next? = some status := by
  cases h with
  | foreign hq =>
    cases hd
    cases hq
  | written _ _ hnext =>
    cases hd
    exact ⟨rfl, hnext⟩
  | refused _ _ hnext =>
    cases hd
    exact ⟨rfl, hnext⟩

/-- A call either sets the next status, or nothing is set and nothing changes. -/
theorem written?_cases (h : Moves id s d t) :
    d.written? = some t ∧ s.next? = some t ∨ d.written? = none ∧ t = s := by
  cases h with
  | foreign hq =>
    refine .inr ⟨?_, rfl⟩
    unfold Deed.written?
    split
    · rename_i hDeed
      cases hDeed
      cases hq
    · rfl
  | written _ _ hnext => exact .inl ⟨rfl, hnext⟩
  | refused => exact .inr ⟨rfl, rfl⟩

end Moves

/-- One status is kept right after another. -/
inductive NodeStatus.Precedes : NodeStatus → NodeStatus → Prop
  | slots : Precedes .init .slots
  | catchup : Precedes .slots .catchup
  | connectBack : Precedes .catchup .connectBack
  | ready : Precedes .connectBack .ready

theorem NodeStatus.next?_eq_some_iff {s t : NodeStatus} : s.next? = some t ↔ s.Precedes t := by
  constructor
  · intro h
    cases s <;> cases h <;> constructor
  · intro h
    cases h <;> rfl

def writtenBy {tool : Type} (ds : List (Deed tool)) : List NodeStatus := ds.filterMap Deed.written?

theorem Trail.isChain_writtenBy {tool : Type} {id : Value} {s t : NodeStatus}
    {ds : List (Deed tool)} (h : Trail id s ds t) :
    List.IsChain NodeStatus.Precedes (s :: writtenBy ds) ∧
      (s :: writtenBy ds).getLast? = some t := by
  induction ds generalizing s with
  | nil =>
    cases h
    exact ⟨List.isChain_singleton _, rfl⟩
  | cons d rest ih =>
    obtain ⟨u, hMoves, hRest⟩ := h
    obtain ⟨hChain, hLast⟩ := ih hRest
    rcases hMoves.written?_cases with ⟨hSet, hNext⟩ | ⟨hSet, rfl⟩
    · have hList : writtenBy (d :: rest) = u :: writtenBy rest := List.filterMap_cons_some hSet
      rw [hList]
      refine ⟨List.isChain_cons_cons.mpr ⟨NodeStatus.next?_eq_some_iff.mp hNext, hChain⟩, ?_⟩
      rw [List.getLast?_cons_cons]
      exact hLast
    · have hList : writtenBy (d :: rest) = writtenBy rest := List.filterMap_cons_none hSet
      rw [hList]
      exact ⟨hChain, hLast⟩

/-- How many statuses can still be set. -/
def NodeStatus.remaining : NodeStatus → Nat
  | .init => 4
  | .slots => 3
  | .catchup => 2
  | .connectBack => 1
  | _ => 0

theorem NodeStatus.Precedes.remaining_eq {s t : NodeStatus} (h : s.Precedes t) :
    s.remaining = t.remaining + 1 := by
  cases h <;> rfl

theorem NodeStatus.remaining_le (s : NodeStatus) : s.remaining ≤ 4 := by
  cases s <;> decide

theorem length_le_remaining {s : NodeStatus} {l : List NodeStatus}
    (h : List.IsChain NodeStatus.Precedes (s :: l)) : l.length ≤ s.remaining := by
  induction l generalizing s with
  | nil => exact Nat.zero_le _
  | cons t rest ih =>
    obtain ⟨hNext, hRest⟩ := List.isChain_cons_cons.mp h
    rw [hNext.remaining_eq]
    exact Nat.succ_le_succ (ih hRest)

theorem isPersisted_of_isChain {s t : NodeStatus} {l : List NodeStatus}
    (h : List.IsChain NodeStatus.Precedes (s :: l)) (ht : t ∈ l) : t.isPersisted = true := by
  induction l generalizing s with
  | nil => cases ht
  | cons u rest ih =>
    obtain ⟨hNext, hRest⟩ := List.isChain_cons_cons.mp h
    rcases List.mem_cons.mp ht with rfl | ht
    · cases hNext <;> rfl
    · exact ih hRest ht

end ReplicaBootstrap
