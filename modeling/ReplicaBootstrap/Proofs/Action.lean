import Mathlib.Data.List.Forall2
import ReplicaBootstrap.Action

/-! # What actions lead to

Assertions about the states before and after an action, with one rule for each way in which actions
are put together.
-/

namespace ReplicaBootstrap.Action

/-! ## Results taken apart -/

section

universe u

variable {ε α β : Type u} {f : α → Except ε β}

theorem ok_of_bind {x : Except ε α} {b : β} (h : x >>= f = .ok b) :
    ∃ a, x = .ok a ∧ f a = .ok b := by
  cases x with
  | error e => cases h
  | ok a => exact ⟨a, rfl, h⟩

theorem bind_of_ok {x : Except ε α} {a : α} {r : Except ε β} (hx : x = .ok a) (hf : f a = r) :
    x >>= f = r := by
  rw [hx]
  exact hf

theorem error_of_bind {x : Except ε α} {e : ε} (h : x >>= f = .error e) :
    x = .error e ∨ ∃ a, x = .ok a ∧ f a = .error e := by
  cases x with
  | error e' =>
    cases h
    exact .inl rfl
  | ok a => exact .inr ⟨a, rfl, h⟩

theorem ok_of_isOk {x : Except ε α} (h : x.isOk = true) : ∃ a, x = .ok a := by
  cases x with
  | error e => cases h
  | ok a => exact ⟨a, rfl⟩

theorem mapM_eq_ok_iff {l : List α} {bs : List β} :
    l.mapM f = .ok bs ↔ List.Forall₂ (fun a b => f a = .ok b) l bs := by
  constructor
  · intro h
    induction l generalizing bs with
    | nil =>
      cases h
      exact .nil
    | cons a l ih =>
      rw [List.mapM_cons] at h
      obtain ⟨b, hb, h⟩ := ok_of_bind h
      obtain ⟨rest, hRest, h⟩ := ok_of_bind h
      cases h
      exact .cons hb (ih hRest)
  · intro h
    induction h with
    | nil => rfl
    | cons hb _ ih =>
      rw [List.mapM_cons, hb, ih]
      rfl

theorem ok_of_mapM {l : List α} {bs : List β} (h : l.mapM f = .ok bs) :
    ∀ b ∈ bs, ∃ a ∈ l, f a = .ok b := by
  have hAll := mapM_eq_ok_iff.mp h
  clear h
  induction hAll with
  | nil => exact fun _ hb => by cases hb
  | @cons a b l bs hb _ ih =>
    intro x hx
    rcases List.mem_cons.mp hx with rfl | hx
    · exact ⟨a, List.mem_cons_self, hb⟩
    · obtain ⟨a', ha', hx⟩ := ih x hx
      exact ⟨a', List.mem_cons_of_mem _ ha', hx⟩

theorem error_of_mapM {l : List α} {e : ε} (h : l.mapM f = .error e) :
    ∃ a ∈ l, f a = .error e := by
  induction l with
  | nil => cases h
  | cons a l ih =>
    rw [List.mapM_cons] at h
    cases ha : f a with
    | error e' =>
      rw [ha] at h
      cases h
      exact ⟨a, List.mem_cons_self, ha⟩
    | ok b =>
      cases hRest : l.mapM f with
      | ok rest =>
        rw [ha, hRest] at h
        cases h
      | error e' =>
        rw [ha, hRest] at h
        cases h
        obtain ⟨a', ha', hError⟩ := ih hRest
        exact ⟨a', List.mem_cons_of_mem _ ha', hError⟩

end

/-! ## Assertions -/

variable {σ α β : Type}

/-- From a state with `pre`, the action answers in a state with `good` or fails in one with `bad`. -/
def Meets (pre : σ → Prop) (x : Action σ α) (good : α → σ → Prop) (bad : Fault → σ → Prop) :
    Prop :=
  ∀ s, pre s →
    match outcome x s with
    | (.ok a, s') => good a s'
    | (.error f, s') => bad f s'

variable {pre : σ → Prop} {good : α → σ → Prop} {bad : Fault → σ → Prop}

theorem meets_iff {x : Action σ α} :
    Meets pre x good bad ↔ ∀ s, pre s →
      (∀ a, (outcome x s).1 = .ok a → good a (outcome x s).2) ∧
        ∀ f, (outcome x s).1 = .error f → bad f (outcome x s).2 := by
  refine forall₂_congr fun s _ => ?_
  rcases outcome x s with ⟨r, s'⟩
  cases r <;> simp

theorem Meets.of_ok {x : Action σ α} (h : Meets pre x good bad) {s : σ} (hs : pre s) {a : α}
    (hx : (outcome x s).1 = .ok a) : good a (outcome x s).2 :=
  (meets_iff.mp h s hs).1 a hx

theorem Meets.of_error {x : Action σ α} (h : Meets pre x good bad) {s : σ} (hs : pre s) {f : Fault}
    (hx : (outcome x s).1 = .error f) : bad f (outcome x s).2 :=
  (meets_iff.mp h s hs).2 f hx

theorem Meets.weaken {pre' : σ → Prop} {good' : α → σ → Prop} {bad' : Fault → σ → Prop}
    {x : Action σ α} (h : Meets pre' x good' bad') (hpre : ∀ s, pre s → pre' s)
    (hgood : ∀ a s, good' a s → good a s) (hbad : ∀ f s, bad' f s → bad f s) :
    Meets pre x good bad := by
  rw [meets_iff]
  intro s hs
  constructor
  · intro a hx
    exact hgood a _ (h.of_ok (hpre s hs) hx)
  · intro f hx
    exact hbad f _ (h.of_error (hpre s hs) hx)

theorem meets_or {pre' : σ → Prop} {x : Action σ α} (h : Meets pre x good bad)
    (h' : Meets pre' x good bad) : Meets (fun s => pre s ∨ pre' s) x good bad := by
  rintro s (hs | hs)
  · exact h s hs
  · exact h' s hs

theorem meets_and {pre' : σ → Prop} {good' : α → σ → Prop} {bad' : Fault → σ → Prop}
    {x : Action σ α} (h : Meets pre x good bad) (h' : Meets pre' x good' bad') :
    Meets (fun s => pre s ∧ pre' s) x (fun a s => good a s ∧ good' a s)
      (fun f s => bad f s ∧ bad' f s) := by
  rw [meets_iff]
  rintro s ⟨hs, hs'⟩
  constructor
  · intro a hx
    exact ⟨h.of_ok hs hx, h'.of_ok hs' hx⟩
  · intro f hx
    exact ⟨h.of_error hs hx, h'.of_error hs' hx⟩

theorem Meets.imp_pre {pre' : σ → Prop} {x : Action σ α} (h : Meets pre' x good bad)
    (hpre : ∀ s, pre s → pre' s) : Meets pre x good bad :=
  h.weaken hpre (fun _ _ h => h) (fun _ _ h => h)

theorem Meets.imp_good {good' : α → σ → Prop} {x : Action σ α} (h : Meets pre x good' bad)
    (hgood : ∀ a s, good' a s → good a s) : Meets pre x good bad :=
  h.weaken (fun _ h => h) hgood (fun _ _ h => h)

theorem Meets.imp_bad {bad' : Fault → σ → Prop} {x : Action σ α} (h : Meets pre x good bad')
    (hbad : ∀ f s, bad' f s → bad f s) : Meets pre x good bad :=
  h.weaken (fun _ h => h) (fun _ _ h => h) hbad

/-- What is known of the state before can be taken apart first. -/
theorem meets_known {x : Action σ α}
    (h : ∀ s, pre s → ∃ pre' : σ → Prop, pre' s ∧ Meets pre' x good bad) :
    Meets pre x good bad := by
  intro s hs
  obtain ⟨pre', hs', hx⟩ := h s hs
  exact hx s hs'

theorem meets_pure {a : α} (h : ∀ s, pre s → good a s) : Meets pre (pure a) good bad := h

theorem meets_throw {f : Fault} (h : ∀ s, pre s → bad f s) :
    Meets pre (throw f : Action σ α) good bad := h

theorem meets_get {good : σ → σ → Prop} (h : ∀ s, pre s → good s s) :
    Meets pre (get : Action σ σ) good bad := h

theorem meets_modify {f : σ → σ} {good : PUnit → σ → Prop} (h : ∀ s, pre s → good ⟨⟩ (f s)) :
    Meets pre (modify f : Action σ PUnit) good bad := h

theorem meets_ofExcept {r : Except Fault α} (hok : ∀ a, r = .ok a → ∀ s, pre s → good a s)
    (herror : ∀ f, r = .error f → ∀ s, pre s → bad f s) : Meets pre (ofExcept r) good bad := by
  intro s hs
  rw [outcome_ofExcept]
  cases r with
  | ok a => exact hok a rfl s hs
  | error f => exact herror f rfl s hs

theorem meets_bind {m : α → σ → Prop} {good : β → σ → Prop} {x : Action σ α}
    {k : α → Action σ β} (hx : Meets pre x m bad) (hk : ∀ a, Meets (m a) (k a) good bad) :
    Meets pre (x >>= k) good bad := by
  intro s hs
  have := hx s hs
  rw [outcome_bind]
  rcases hr : outcome x s with ⟨r, s'⟩
  rw [hr] at this
  cases r with
  | ok a => exact hk a s' this
  | error f => exact this

/-- What is known of the answer alone goes before the state that it was given in. -/
theorem meets_bind_given {known : α → Prop} {m : α → σ → Prop} {good : β → σ → Prop}
    {x : Action σ α} {k : α → Action σ β} (hx : Meets pre x (fun a s => known a ∧ m a s) bad)
    (hk : ∀ a, known a → Meets (m a) (k a) good bad) : Meets pre (x >>= k) good bad := by
  apply meets_bind hx
  rintro a s ⟨hKnown, hs⟩
  exact hk a hKnown s hs

theorem meets_attempt_bind {m : α → σ → Prop} {e : Fault → σ → Prop} {good : β → σ → Prop}
    {x : Action σ α} {k : Except Fault α → Action σ β} (hx : Meets pre x m e)
    (hok : ∀ a, Meets (m a) (k (.ok a)) good bad)
    (herror : ∀ f, Meets (e f) (k (.error f)) good bad) :
    Meets pre (attempt x >>= k) good bad := by
  intro s hs
  have := hx s hs
  rw [outcome_bind, outcome_attempt]
  rcases hr : outcome x s with ⟨r, s'⟩
  rw [hr] at this
  cases r with
  | ok a => exact hok a s' this
  | error f => exact herror f s' this

theorem meets_ensuring {m : α → σ → Prop} {e : Fault → σ → Prop} {x : Action σ α}
    {finish : Action σ Unit} (hx : Meets pre x m e)
    (hok : ∀ a, Meets (m a) finish (fun _ => good a) bad)
    (herror : ∀ f, Meets (e f) finish (fun _ => bad f) bad) :
    Meets pre (ensuring x finish) good bad := by
  apply meets_attempt_bind hx
  · intro a
    exact meets_bind (hok a) fun _ => meets_pure fun _ h => h
  · intro f
    exact meets_bind (herror f) fun _ => meets_throw fun _ h => h

theorem meets_tolerating {good : Unit → σ → Prop} {e : Fault → σ → Prop} {x : Action σ Unit}
    {note : Fault → Action σ Unit} (hx : Meets pre x good e)
    (hnote : ∀ f, f.isDriver = true → Meets (e f) (note f) good bad)
    (hother : ∀ f, f.isDriver = false → ∀ s, e f s → bad f s) :
    Meets pre (tolerating x note) good bad := by
  apply meets_attempt_bind hx
  · intro a
    exact meets_pure fun _ h => h
  · intro f
    change Meets (e f) (if f.isDriver then note f else throw f) good bad
    by_cases hf : f.isDriver = true
    · rw [if_pos hf]
      exact hnote f hf
    · rw [if_neg hf]
      exact meets_throw (hother f (Bool.eq_false_iff.mpr hf))

theorem meets_onDriverFault {x : Action σ α} {explain : Fault → Fault}
    (h : Meets pre x good fun f => bad (if f.isDriver then explain f else f)) :
    Meets pre (onDriverFault x explain) good bad := by
  intro s hs
  have := h s hs
  rw [outcome_onDriverFault]
  rcases hr : outcome x s with ⟨r, s'⟩
  rw [hr] at this
  cases r with
  | ok a => exact this
  | error f => exact this

/-- An action that leaves an assertion true in either case. -/
abbrev Keeps (P : σ → Prop) (x : Action σ α) : Prop := Meets P x (fun _ => P) (fun _ => P)

variable {P : σ → Prop}

theorem keeps_pure {a : α} : Keeps P (pure a : Action σ α) := fun _ h => h

theorem keeps_ofExcept {r : Except Fault α} : Keeps P (ofExcept r : Action σ α) :=
  meets_ofExcept (fun _ _ _ h => h) (fun _ _ _ h => h)

theorem keeps_bind {x : Action σ α} {k : α → Action σ β} (hx : Keeps P x)
    (hk : ∀ a, Keeps P (k a)) : Keeps P (x >>= k) := meets_bind hx hk

theorem keeps_tolerating {x : Action σ Unit} {note : Fault → Action σ Unit} (hx : Keeps P x)
    (hnote : ∀ f, Keeps P (note f)) : Keeps P (tolerating x note) :=
  meets_tolerating hx (fun f _ => hnote f) (fun _ _ _ h => h)

theorem keeps_throw {f : Fault} : Keeps P (throw f : Action σ α) := fun _ h => h

theorem keeps_get : Keeps P (get : Action σ σ) := fun _ h => h

theorem keeps_modify {f : σ → σ} (h : ∀ s, P s → P (f s)) :
    Keeps P (modify f : Action σ PUnit) := h

theorem keeps_attempt_bind {x : Action σ α} {k : Except Fault α → Action σ β} (hx : Keeps P x)
    (hk : ∀ r, Keeps P (k r)) : Keeps P (attempt x >>= k) :=
  meets_attempt_bind hx (fun a => hk (.ok a)) (fun f => hk (.error f))

theorem keeps_onDriverFault {x : Action σ α} {explain : Fault → Fault} (hx : Keeps P x) :
    Keeps P (onDriverFault x explain) := meets_onDriverFault hx

theorem keeps_forIn {γ : Type} {l : List γ} {b : β} {f : γ → β → Action σ (ForInStep β)}
    (hf : ∀ c b, Keeps P (f c b)) : Keeps P (forIn l b f) := by
  induction l generalizing b with
  | nil => exact keeps_pure
  | cons c rest ih =>
    rw [List.forIn_cons]
    apply keeps_bind (hf c b)
    rintro (b' | b')
    · exact keeps_pure
    · exact ih

theorem keeps_of_reaches {x : Action σ α} (h : ∀ s, P s → P (outcome x s).2) : Keeps P x :=
  meets_iff.mpr fun s hs => ⟨fun _ _ => h s hs, fun _ _ => h s hs⟩

theorem Meets.reaches {x : Action σ α} (h : Meets pre x (fun _ => P) (fun _ => P)) {s : σ}
    (hs : pre s) : P (outcome x s).2 := by
  cases hx : (outcome x s).1 with
  | ok a => exact h.of_ok hs hx
  | error f => exact h.of_error hs hx

end ReplicaBootstrap.Action
