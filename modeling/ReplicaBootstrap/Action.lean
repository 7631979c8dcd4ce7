import ReplicaBootstrap.Fault

/-! # Actions

An action changes a state and then answers or fails; the state it reached survives a failure.
-/

namespace ReplicaBootstrap

/-- What may fail with a fault and changes a state `σ` in either case. -/
abbrev Action (σ : Type) := ExceptT Fault (StateM σ)

namespace Action

variable {σ τ α β : Type}

def outcome (x : Action σ α) (s : σ) : Except Fault α × σ := x s

def attempt (x : Action σ α) : Action σ (Except Fault α) := fun s => (.ok (x s).1, (x s).2)

def ofExcept (r : Except Fault α) : Action σ α := fun s => (r, s)

/-- Runs `finish` after `x` in either case; a fault of `finish` replaces the outcome of `x`. -/
def ensuring (x : Action σ α) (finish : Action σ Unit) : Action σ α := do
  let r ← attempt x
  finish
  ofExcept r

def onDriverFault (x : Action σ α) (explain : Fault → Fault) : Action σ α := do
  match ← attempt x with
  | .ok a => pure a
  | .error f => throw (if f.isDriver then explain f else f)

/-- Goes on after a fault of the database driver, of which only a note is made. -/
def tolerating (x : Action σ Unit) (note : Fault → Action σ Unit) : Action σ Unit := do
  match ← attempt x with
  | .ok _ => pure ()
  | .error f => if f.isDriver then note f else throw f

def within (get : σ → τ) (put : σ → τ → σ) (x : Action τ α) : Action σ α := fun s =>
  ((x (get s)).1, put s (x (get s)).2)

theorem outcome_bind (x : Action σ α) (k : α → Action σ β) (s : σ) :
    outcome (x >>= k) s =
      match outcome x s with
      | (.ok a, s') => outcome (k a) s'
      | (.error f, s') => (.error f, s') := by
  show ExceptT.bindCont k (x s).1 (x s).2 = _
  unfold outcome
  obtain ⟨r, s'⟩ := x s
  cases r <;> rfl

theorem outcome_attempt (x : Action σ α) (s : σ) :
    outcome (attempt x) s = (.ok (outcome x s).1, (outcome x s).2) := rfl

theorem outcome_ofExcept (r : Except Fault α) (s : σ) :
    outcome (ofExcept r : Action σ α) s = (r, s) := rfl

theorem outcome_modify (f : σ → σ) (s : σ) :
    outcome (modify f : Action σ PUnit) s = (.ok ⟨⟩, f s) := rfl

theorem outcome_get (s : σ) : outcome (get : Action σ σ) s = (.ok s, s) := rfl

theorem outcome_onDriverFault (x : Action σ α) (explain : Fault → Fault) (s : σ) :
    outcome (onDriverFault x explain) s =
      match outcome x s with
      | (.ok a, s') => (.ok a, s')
      | (.error f, s') => (.error (if f.isDriver then explain f else f), s') := by
  simp only [onDriverFault, outcome_bind, outcome_attempt]
  rcases outcome x s with ⟨r, s'⟩
  cases r <;> rfl

end Action

end ReplicaBootstrap
