import Mathlib.Logic.Function.Basic
import ReplicaBootstrap.Proofs.Action
import ReplicaBootstrap.Session

/-! # What is said at a site

The talk of a site is its journal without the events that nobody has to answer: the requests with
their replies, and the looks at the wish to stop.
-/

namespace ReplicaBootstrap

open ReplicaBootstrap.Action

/-- An entry of a record in two parts stands in one of them. -/
theorem split_append {α : Type} {a b before after : List α} {x : α}
    (h : a ++ b = before ++ x :: after) :
    (∃ m, a = before ++ x :: m ∧ after = m ++ b) ∨ ∃ u, before = a ++ u ∧ b = u ++ x :: after := by
  rcases List.append_eq_append_iff.mp h with ⟨u, hBefore, hb⟩ | ⟨m, ha, hAfter⟩
  · exact .inr ⟨u, hBefore, hb⟩
  · cases m with
    | nil =>
      rw [List.append_nil] at ha
      exact .inr ⟨[], by rw [List.append_nil, ha], hAfter.symm⟩
    | cons y m =>
      obtain ⟨rfl, rfl⟩ := List.cons.inj hAfter
      exact .inl ⟨m, ha, rfl⟩

def Entry.isTalk : Entry → Bool
  | .event _ => false
  | _ => true

namespace Interrupts

theorem receive_of_not_reacts {i : Interrupts} {number : Int} (h : ¬ i.reacts number = true) :
    i.receive number = i := if_neg h

theorem receive_of_not_requested {i : Interrupts} {number : Int}
    (h : (i.receive number).requested = false) : i.receive number = i := by
  apply receive_of_not_reacts
  intro hReacts
  rw [receive, if_pos hReacts] at h
  cases h

end Interrupts

/-- The interrupts after the signal of a reply, if it has one. -/
def Reply.warned (r : Reply) (i : Interrupts) : Interrupts := (r.signal.map i.receive).getD i

theorem Reply.warned_of_not_requested {r : Reply} {i : Interrupts}
    (h : (r.warned i).requested = false) : r.warned i = i := by
  revert h
  unfold warned
  cases r.signal with
  | none =>
    intro _
    rfl
  | some number => exact Interrupts.receive_of_not_requested

namespace Site

def talk (w : Site) : List Entry := w.journal.toList.filter Entry.isTalk

theorem talk_record (w : Site) (x : Entry) :
    (w.record x).talk = w.talk ++ [x].filter Entry.isTalk := by
  rw [talk, journal_record, List.filter_append]
  rfl

/-- Where a site stands: what was said after `base`, how many connections were asked for, and which
copies are in progress. -/
structure Stands (base : List Entry) (n : Nat) (c : Nat → Option String) (talk : List Entry)
    (w : Site) : Prop where
  talk : w.talk = base ++ talk
  connections : w.connections = n
  copying : ∀ conn, (w.server conn).copying = c conn

variable {base talk : List Entry} {n : Nat} {c : Nat → Option String} {w : Site}
  {bad : Fault → Site → Prop}

/-- Where a site stands before anything is said. -/
theorem stands_self (w : Site) :
    Stands w.talk w.connections (fun conn => (w.server conn).copying) [] w :=
  ⟨(List.append_nil _).symm, rfl, fun _ => rfl⟩

theorem Stands.record (h : Stands base n c talk w) (x : Entry) :
    Stands base n c (talk ++ [x].filter Entry.isTalk) (w.record x) where
  talk := by rw [talk_record, h.talk, List.append_assoc]
  connections := h.connections
  copying := h.copying

theorem Stands.setServer (h : Stands base n c talk w) (conn : Nat) (s : Server) :
    Stands base n (Function.update c conn s.copying) talk (w.setServer conn s) where
  talk := h.talk
  connections := h.connections
  copying := by
    intro i
    rw [server_setServer]
    by_cases hi : i = conn
    · rw [if_pos hi, hi, Function.update_self]
    · rw [if_neg hi, Function.update_of_ne hi]
      exact h.copying i

theorem Stands.setServer_same (h : Stands base n c talk w) {conn : Nat} {s : Server}
    (hs : s.copying = (w.server conn).copying) :
    Stands base n c talk (w.setServer conn s) := by
  have := h.setServer conn s
  rwa [hs, h.copying, Function.update_eq_self] at this

/-! ## Events -/

theorem Stands.event (h : Stands base n c talk w) (e : Event) :
    Stands base n c talk (w.record (.event e)) := by
  have := h.record (.event e)
  rwa [List.filter_cons_of_neg Bool.false_ne_true, List.filter_nil, List.append_nil] at this

theorem stands_emit (e : Event) :
    Meets (Stands base n c talk) (emit e) (fun _ => Stands base n c talk) bad :=
  meets_modify fun _ h => h.event e

theorem stands_log (level : Level) (text : String) :
    Meets (Stands base n c talk) (log level text) (fun _ => Stands base n c talk) bad :=
  stands_emit _

/-! ## Signals -/

/-- What the arrival of a signal leaves as it is: a signal is recorded and told of, and noted if the
program watches for it. -/
structure Undisturbed (P : Site → Prop) : Prop where
  said : ∀ w e, (∃ number, e = .signal number) ∨ (∃ x, e = .log x) → P w → P (w.record (.event e))
  heard : ∀ w i, P w → P { w with interrupts := i }

section

variable {P : Site → Prop} (hP : Undisturbed P)

include hP

theorem meets_deliver (i : Interrupts) (number : Int) :
    Meets (fun w => P w ∧ w.interrupts = i) (deliver number)
      (fun _ w => P w ∧ w.interrupts = i.receive number) bad := by
  unfold deliver
  apply meets_bind (m := fun _ w => P w ∧ w.interrupts = i)
  · exact meets_modify fun w h => ⟨hP.said w _ (.inl ⟨number, rfl⟩) h.1, h.2⟩
  intro _
  apply meets_bind (m := fun q w => q.interrupts = i ∧ P w ∧ w.interrupts = i)
  · exact meets_get fun _ h => ⟨h.2, h⟩
  intro q
  apply meets_known
  rintro _ ⟨hq, h⟩
  refine ⟨fun w => P w ∧ w.interrupts = i, h, ?_⟩
  dsimp only
  rw [hq]
  by_cases hReacts : i.reacts number = true
  · rw [if_pos hReacts]
    apply meets_bind (m := fun _ w => P w ∧ w.interrupts = i)
    · exact meets_modify fun w h => ⟨hP.said w _ (.inr ⟨_, rfl⟩) h.1, h.2⟩
    intro _
    exact meets_modify fun w h => ⟨hP.heard w _ h.1, rfl⟩
  · rw [if_neg hReacts, Interrupts.receive_of_not_reacts hReacts]
    exact meets_pure fun _ h => h

theorem Undisturbed.deliver (number : Int) :
    Meets P (deliver number) (fun _ => P) bad := by
  apply meets_known
  intro w h
  refine ⟨fun v => P v ∧ v.interrupts = w.interrupts, ⟨h, rfl⟩, ?_⟩
  exact (meets_deliver hP w.interrupts number).imp_good fun _ _ h => h.1

end

theorem undisturbed_stands : Undisturbed (Stands base n c talk) where
  said _ e _ h := h.event e
  heard _ _ h := ⟨h.talk, h.connections, h.copying⟩

theorem stands_deliver (number : Int) :
    Meets (Stands base n c talk) (deliver number) (fun _ => Stands base n c talk) bad :=
  undisturbed_stands.deliver number

theorem stands_readClock :
    Meets (Stands base n c talk) readClock (fun _ => Stands base n c talk) bad :=
  fun _ h => ⟨h.talk, h.connections, h.copying⟩

/-! ## Requests -/

/-- A reply is used after its signal has arrived, if it has one. -/
theorem meets_resolve {P Q : Site → Prop} {reply : Reply}
    (hSilent : reply.signal = none → ∀ w, P w → Q w)
    (hSignal : ∀ number, reply.signal = some number →
      Meets P (deliver number) (fun _ => Q) (fun _ _ => False)) :
    Meets P (resolve reply) (fun a w => a = reply ∧ reply.fault = none ∧ Q w)
      (fun f w => reply.fault = some f ∧ Q w) := by
  have hAfter (k : Action Site Reply) (good : Reply → Site → Prop) (bad : Fault → Site → Prop)
      (hk : Meets Q k good bad) :
      (reply.signal = none → Meets P k good bad) ∧
        ∀ number, reply.signal = some number →
          Meets P (deliver number >>= fun _ => k) good bad := by
    constructor
    · intro hNone
      exact hk.imp_pre (hSilent hNone)
    · intro number hSome
      exact meets_bind ((hSignal number hSome).imp_bad fun _ _ h => h.elim) fun _ => hk
  unfold resolve
  cases reply.fault with
  | some f =>
      obtain ⟨hNone, hSome⟩ := hAfter (throw f)
        (fun a w => a = reply ∧ (some f : Option Fault) = none ∧ Q w)
        (fun g w => some f = some g ∧ Q w) (meets_throw fun _ h => ⟨rfl, h⟩)
      cases hReply : reply.signal with
      | none => exact hNone hReply
      | some number => exact hSome number hReply
  | none =>
      obtain ⟨hNone, hSome⟩ := hAfter (pure reply)
        (fun a w => a = reply ∧ (none : Option Fault) = none ∧ Q w)
        (fun g w => none = some g ∧ Q w) (meets_pure fun _ h => ⟨rfl, rfl, h⟩)
      cases hReply : reply.signal with
      | none => exact hNone hReply
      | some number => exact hSome number hReply

theorem meets_resolve_warned {P : Site → Prop} (hP : Undisturbed P) (i : Interrupts)
    (reply : Reply) :
    Meets (fun w => P w ∧ w.interrupts = i) (resolve reply)
      (fun a w => a = reply ∧ reply.fault = none ∧ P w ∧ w.interrupts = reply.warned i)
      (fun f w => reply.fault = some f ∧ P w ∧ w.interrupts = reply.warned i) := by
  apply meets_resolve
  · intro hNone w h
    rw [Reply.warned, hNone]
    exact h
  · intro number hSome
    rw [Reply.warned, hSome]
    exact meets_deliver hP i number

theorem stands_resolve (reply : Reply) :
    Meets (Stands base n c talk) (resolve reply)
      (fun a w => a = reply ∧ reply.fault = none ∧ Stands base n c talk w)
      (fun f w => reply.fault = some f ∧ Stands base n c talk w) :=
  meets_resolve (fun _ _ h => h) (fun number _ => stands_deliver number)

/-- A request is said, with the script of its server used up as far as the reply, before the reply is
used. -/
theorem meets_request {P : Site → Prop} {Q : Reply → Site → Prop} (conn : Nat) (e : Event)
    (text : String)
    (hSaid : ∀ r script w, P w →
      Q r ((w.record (.exchange e r)).setServer conn { w.server conn with script }))
    (hSignal : ∀ r number, Meets (Q r) (deliver number) (fun _ => Q r) (fun _ _ => False)) :
    Meets P (request conn e text) (fun r w => r.fault = none ∧ Q r w)
      (fun f w => ∃ r, r.fault = some f ∧ Q r w) := by
  unfold request
  apply meets_bind (m := fun q w => q = w ∧ P w)
  · exact meets_get fun _ h => ⟨rfl, h⟩
  intro q
  dsimp only
  generalize (q.server conn).script.answer text = answer
  obtain ⟨reply, script⟩ := answer
  apply meets_bind (m := fun _ => Q reply)
  · apply meets_modify
    rintro w ⟨rfl, h⟩
    exact hSaid reply script q h
  intro _
  apply (meets_resolve (fun _ _ h => h) fun number _ => hSignal reply number).weaken (fun _ h => h)
  · rintro _ w ⟨rfl, hFault, h⟩
    exact ⟨hFault, h⟩
  · intro f w h
    exact ⟨reply, h⟩

theorem stands_request (conn : Nat) (e : Event) (text : String) :
    Meets (Stands base n c talk) (request conn e text)
      (fun reply w => reply.fault = none ∧ Stands base n c (talk ++ [.exchange e reply]) w)
      (fun f w => ∃ reply, reply.fault = some f ∧
        Stands base n c (talk ++ [.exchange e reply]) w) := by
  apply meets_request
  · intro r script w h
    have hSaid : Stands base n c (talk ++ [.exchange e r]) (w.record (.exchange e r)) :=
      h.record (.exchange e r)
    exact hSaid.setServer_same rfl
  · exact fun r number => stands_deliver number

theorem stands_checkInterrupts :
    Meets (Stands base n c talk) checkInterrupts
      (fun _ => Stands base n c (talk ++ [.check false]))
      (fun f w => f = Interrupts.cancelled ∧ Stands base n c (talk ++ [.check true]) w) := by
  unfold checkInterrupts
  apply meets_bind (m := fun _ => Stands base n c talk)
  · exact meets_get fun _ h => h
  intro q
  apply meets_bind (m := fun _ => Stands base n c (talk ++ [.check q.interrupts.requested]))
  · exact meets_modify fun _ h => h.record (.check _)
  intro _
  apply meets_ofExcept
  · intro _ hCheck w h
    cases hRequested : q.interrupts.requested
    · rwa [hRequested] at h
    · rw [Interrupts.check, hRequested] at hCheck
      cases hCheck
  · intro f hCheck w h
    cases hRequested : q.interrupts.requested
    · rw [Interrupts.check, hRequested] at hCheck
      cases hCheck
    · rw [hRequested] at h
      rw [Interrupts.check, hRequested] at hCheck
      cases hCheck
      exact ⟨rfl, h⟩

end Site

end ReplicaBootstrap
