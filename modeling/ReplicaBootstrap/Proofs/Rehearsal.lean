import ReplicaBootstrap.Initialiser.Rehearsal
import ReplicaBootstrap.Proofs.Action

/-! # What a call does in a rehearsal

A call appends one deed, leaves the memory alone and changes the catalogs only if it sets a status
and goes well.
-/

namespace ReplicaBootstrap

def Catalogs.updated {tool : Type} (c : Catalogs) : Request tool → Catalogs
  | .setNodeStatus id status => { c with stored := Bench.put id status c.stored }
  | .setRemoteNodeStatus _ name status => { c with remote := Bench.put name status c.remote }
  | _ => c

/-- The catalogs after a call that ended like this. -/
def Catalogs.settled {tool : Type} (c : Catalogs) (q : Request tool) :
    Except Fault q.Answer → Catalogs
  | .ok _ => c.updated q
  | .error _ => c

namespace Rehearsal

open ReplicaBootstrap.Action

variable {tool : Type}

/-- The call was made in `p` with this outcome, and led to `p'`. -/
structure Made (q : Request tool) (outcome : Except Fault q.Answer)
    (p p' : Progress (Rehearsal tool)) : Prop where
  deeds : p'.outside.deeds = p.outside.deeds ++ [⟨q, outcome, p.target, p.outside.stored⟩]
  target : p'.target = p.target
  catalogs : p'.outside.toCatalogs = p.outside.toCatalogs.settled q outcome
  tool? : p'.outside.tool? = p.outside.tool?

theorem toCatalogs_receive (r : Rehearsal tool) (d : Disturbance) :
    (r.receive d).toCatalogs = r.toCatalogs := by
  unfold receive
  split <;> rfl

theorem toCatalogs_respond (r : Rehearsal tool) (q : Request tool) :
    (r.respond q).2.toCatalogs = r.toCatalogs.settled q (r.respond q).1 := by
  cases q with
  | nodeStatus id =>
    simp only [respond]
    split <;> rfl
  | checkInterrupts =>
    simp only [respond, Interrupts.check]
    split <;> rfl
  | _ => rfl

theorem toCatalogs_meet (r : Rehearsal tool) (q : Request tool) (d : Disturbance) :
    (r.meet q d).2.toCatalogs = r.toCatalogs.settled q (r.meet q d).1 := by
  unfold meet
  split
  · exact toCatalogs_receive r d
  · rw [toCatalogs_respond, toCatalogs_receive]

theorem tool?_receive (r : Rehearsal tool) (d : Disturbance) : (r.receive d).tool? = r.tool? := by
  unfold receive
  split <;> rfl

theorem toCircumstances_respond (r : Rehearsal tool) (q : Request tool) :
    (r.respond q).2.toCircumstances = r.toCircumstances := by
  cases q with
  | nodeStatus id =>
    simp only [respond]
    split <;> rfl
  | _ => rfl

theorem tool?_meet (r : Rehearsal tool) (q : Request tool) (d : Disturbance) :
    (r.meet q d).2.tool? = r.tool? := by
  unfold meet
  split
  · exact tool?_receive r d
  · exact (congrArg Circumstances.tool? (toCircumstances_respond _ q)).trans (tool?_receive r d)

theorem made_ask (q : Request tool) (p : Progress (Rehearsal tool)) :
    Made q (outcome (ask q) p).1 p (outcome (ask q) p).2 where
  deeds := rfl
  target := rfl
  catalogs := toCatalogs_meet p.outside q _
  tool? := tool?_meet p.outside q _

theorem meets_ask {q : Request tool} {pre : Progress (Rehearsal tool) → Prop}
    {good : q.Answer → Progress (Rehearsal tool) → Prop}
    {bad : Fault → Progress (Rehearsal tool) → Prop}
    (hok : ∀ a p p', pre p → Made q (.ok a) p p' → good a p')
    (herror : ∀ f p p', pre p → Made q (.error f) p p' → bad f p') :
    Meets pre (ask q) good bad := by
  rw [meets_iff]
  intro p hp
  constructor
  · intro a ha
    exact hok a p _ hp (ha ▸ made_ask q p)
  · intro f hf
    exact herror f p _ hp (hf ▸ made_ask q p)

theorem get?_of_nodeStatus_ok {id : Value} {p : Progress (Rehearsal tool)} {s : NodeStatus}
    (h : (outcome (ask (.nodeStatus id)) p).1 = .ok s) :
    Bench.get? id p.outside.stored = some s := by
  have hAnswer : (p.outside.meet (.nodeStatus id)
      (p.outside.disturb p.outside.deeds (.nodeStatus id))).1 = .ok s := h
  unfold meet at hAnswer
  split at hAnswer
  · cases hAnswer
  · simp only [respond] at hAnswer
    split at hAnswer
    · rename_i hStored
      have hKept : (p.outside.receive (p.outside.disturb p.outside.deeds
          (.nodeStatus id))).stored = p.outside.stored :=
        congrArg Catalogs.stored (toCatalogs_receive _ _)
      rw [hKept] at hStored
      rw [hStored]
      exact congrArg some (Except.ok.inj hAnswer)
    · cases hAnswer

theorem meets_nodeStatus {id : Value} {s : NodeStatus} {pre : Progress (Rehearsal tool) → Prop}
    {good : NodeStatus → Progress (Rehearsal tool) → Prop}
    {bad : Fault → Progress (Rehearsal tool) → Prop}
    (hStored : ∀ p, pre p → Bench.get? id p.outside.stored = some s)
    (hok : ∀ p p', pre p → Made (.nodeStatus id) (.ok s) p p' → good s p')
    (herror : ∀ f p p', pre p → Made (.nodeStatus id) (.error f) p p' → bad f p') :
    Meets pre (ask (.nodeStatus id)) good bad := by
  rw [meets_iff]
  intro p hp
  constructor
  · intro a ha
    have hAnswer : some s = some a := (hStored p hp).symm.trans (get?_of_nodeStatus_ok ha)
    cases hAnswer
    exact hok p _ hp (ha ▸ made_ask (.nodeStatus id) p)
  · intro f hf
    exact herror f p _ hp (hf ▸ made_ask (.nodeStatus id) p)

theorem meets_log {pre : Progress (Rehearsal tool) → Prop}
    {good : Unit → Progress (Rehearsal tool) → Prop} {bad : Fault → Progress (Rehearsal tool) → Prop}
    {level : Level} {text : String} (h : ∀ p, pre p → good () p) :
    Meets pre ((services tool).log level text) good bad := meets_pure h

theorem silent_log {P : Progress (Rehearsal tool) → Prop}
    {bad : Fault → Progress (Rehearsal tool) → Prop} (level : Level) (text : String) :
    Meets P ((services tool).log level text) (fun _ => P) bad := meets_log fun _ h => h

end Rehearsal

/-! ## Tables -/

namespace Bench

variable {α : Type} {key : Value} {table : List (Value × α)}

theorem get?_cons (key k : Value) (a : α) (table : List (Value × α)) :
    get? key ((k, a) :: table) = if k.sameKey key then some a else get? key table := by
  simp only [get?, List.find?_cons]
  cases k.sameKey key <;> rfl

theorem get?_put_of_isSome (a : α) (h : (get? key table).isSome = true) :
    get? key (put key a table) = some a := by
  induction table with
  | nil => cases h
  | cons entry rest ih =>
    obtain ⟨k, b⟩ := entry
    rw [get?_cons] at h
    by_cases hk : k.sameKey key = true
    · rw [put, if_pos hk, get?_cons, if_pos hk]
    · rw [if_neg hk] at h
      rw [put, if_neg hk, get?_cons, if_neg hk]
      exact ih h

theorem get?_put (a : α) (hkey : key.sameKey key = true) :
    get? key (put key a table) = some a := by
  induction table with
  | nil => rw [put, get?_cons, if_pos hkey]
  | cons entry rest ih =>
    obtain ⟨k, b⟩ := entry
    by_cases hk : k.sameKey key = true
    · rw [put, if_pos hk, get?_cons, if_pos hk]
    · rw [put, if_neg hk, get?_cons, if_neg hk]
      exact ih

end Bench

end ReplicaBootstrap
