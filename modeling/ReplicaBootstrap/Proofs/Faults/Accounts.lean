import ReplicaBootstrap.Journal
import ReplicaBootstrap.Proofs.Action

/-! # Accounting for faults

What an action says is set against the faults that it may fail with: as long as those it talks to keep
to their terms, it fails only with a fault that is allowed, or with one that a reply let through.
-/

namespace ReplicaBootstrap.Action

/-- What is said, what holds in every state, what the replies keep to, and which faults are let through
by a piece of the talk. -/
structure Terms (σ : Type) where
  said : σ → List Entry
  holds : σ → Prop
  orderly : Entry → Prop
  lets : Fault → List Entry → Prop

variable {σ τ α β : Type} {T : Terms σ} {P Q : Prop} {before : List Entry}
  {allowed : Fault → Prop}

def Terms.LetsThrough (T : Terms σ) (talk : List Entry) (f : Fault) : Prop :=
  ∃ piece, piece <:+: talk ∧ T.lets f piece

theorem Terms.LetsThrough.mono {talk talk' : List Entry} {f : Fault} (h : T.LetsThrough talk f)
    (hPart : talk <:+: talk') : T.LetsThrough talk' f := by
  obtain ⟨piece, hPiece, hLets⟩ := h
  exact ⟨piece, hPiece.trans hPart, hLets⟩

def Terms.Ends (T : Terms σ) (talk : List Entry) (good : α → Prop) (allowed : Fault → Prop) :
    Except Fault α → Prop
  | .ok a => good a
  | .error f => allowed f ∨ T.LetsThrough talk f

/-- The action adds to what was said. After `before`, given `P` and an orderly talk, its answer and all
that was said are `good`, or its fault is accounted for. -/
def Tells (T : Terms σ) (before : List Entry) (P : Prop) (x : Action σ α)
    (good : α → List Entry → Prop) (allowed : Fault → Prop) : Prop :=
  ∀ s, T.holds s → ∃ talk, T.said (outcome x s).2 = T.said s ++ talk ∧ T.holds (outcome x s).2 ∧
    (P → (∀ y ∈ talk, T.orderly y) →
      T.Ends (before ++ talk) (fun a => good a (before ++ talk)) allowed (outcome x s).1)

/-- The action accounts for its faults, whatever was said before. -/
def Accounts (T : Terms σ) (P : Prop) (x : Action σ α) (good : α → Prop)
    (allowed : Fault → Prop) : Prop :=
  Tells T [] P x (fun a _ => good a) allowed

/-! ## What is said in turn -/

section

variable {good : α → List Entry → Prop}

theorem Tells.weaken {good' : α → List Entry → Prop} {allowed' : Fault → Prop} {x : Action σ α}
    (h : Tells T before Q x good' allowed') (hP : P → Q)
    (hGood : ∀ a said, P → good' a said → good a said) (hAllowed : ∀ f, P → allowed' f → allowed f) :
    Tells T before P x good allowed := by
  intro s hs
  obtain ⟨talk, hTalk, hHolds, hEnd⟩ := h s hs
  refine ⟨talk, hTalk, hHolds, fun hp hOrderly => ?_⟩
  have hEnd := hEnd (hP hp) hOrderly
  cases hr : (outcome x s).1 with
  | ok a =>
    rw [hr] at hEnd
    exact hGood a _ hp hEnd
  | error f =>
    rw [hr] at hEnd
    exact hEnd.imp_left (hAllowed f hp)

/-- An action that says nothing and leaves what holds of every state as it is. -/
theorem tells_silent {x : Action σ α} (hSaid : ∀ s, T.said (outcome x s).2 = T.said s)
    (hHolds : ∀ s, T.holds s → T.holds (outcome x s).2)
    (hEnd : P → ∀ s, T.Ends before (fun a => good a before) allowed (outcome x s).1) :
    Tells T before P x good allowed := by
  intro s hs
  refine ⟨[], ?_, hHolds s hs, fun hP _ => ?_⟩
  · rw [hSaid, List.append_nil]
  · rw [List.append_nil]
    exact hEnd hP s

theorem tells_pure {a : α} (h : P → good a before) : Tells T before P (pure a) good allowed :=
  tells_silent (fun _ => rfl) (fun _ h => h) (fun hP _ => h hP)

theorem tells_throw {f : Fault} (h : P → allowed f ∨ T.LetsThrough before f) :
    Tells T before P (throw f : Action σ α) good allowed :=
  tells_silent (fun _ => rfl) (fun _ h => h) (fun hP _ => h hP)

theorem tells_ofExcept {r : Except Fault α} (hOk : ∀ a, r = .ok a → P → good a before)
    (hError : ∀ f, r = .error f → P → allowed f ∨ T.LetsThrough before f) :
    Tells T before P (ofExcept r) good allowed := by
  cases r with
  | ok a => exact tells_pure (hOk a rfl)
  | error f => exact tells_throw (hError f rfl)

variable {m : α → List Entry → Prop} {good : β → List Entry → Prop} {x : Action σ α}

/-- What is told by an action is told after all that was said before it. -/
theorem Tells.after {P' : Prop} {next : Action σ β} {talk : List Entry} {s s' : σ}
    (hNext : Tells T (before ++ talk) P' next good allowed) (hHolds : T.holds s')
    (hTalk : T.said s' = T.said s ++ talk) (hP' : P → (∀ y ∈ talk, T.orderly y) → P') :
    ∃ all, T.said (outcome next s').2 = T.said s ++ all ∧ T.holds (outcome next s').2 ∧
      (P → (∀ y ∈ all, T.orderly y) →
        T.Ends (before ++ all) (fun b => good b (before ++ all)) allowed (outcome next s').1) := by
  obtain ⟨talk', hTalk', hHolds', hEnd'⟩ := hNext s' hHolds
  refine ⟨talk ++ talk', ?_, hHolds', fun hP hOrderly => ?_⟩
  · rw [hTalk', hTalk, List.append_assoc]
  · have hHere := hP' hP fun y hy => hOrderly y (List.mem_append_left _ hy)
    rw [← List.append_assoc]
    exact hEnd' hHere fun y hy => hOrderly y (List.mem_append_right _ hy)

theorem tells_bind {k : α → Action σ β} (hx : Tells T before P x m allowed)
    (hk : ∀ a said, Tells T said (P ∧ m a said) (k a) good allowed) :
    Tells T before P (x >>= k) good allowed := by
  intro s hs
  obtain ⟨talk, hTalk, hHolds, hEnd⟩ := hx s hs
  rw [outcome_bind]
  rcases hr : outcome x s with ⟨r, s'⟩
  rw [hr] at hTalk hHolds hEnd
  cases r with
  | error f => exact ⟨talk, hTalk, hHolds, hEnd⟩
  | ok a => exact (hk a _).after hHolds hTalk fun hP hOrderly => ⟨hP, hEnd hP hOrderly⟩

/-- What an action may answer from a state in which what holds does hold. -/
def Terms.Answers (T : Terms σ) (x : Action σ α) (a : α) : Prop :=
  ∃ s, T.holds s ∧ (outcome x s).1 = .ok a

/-- What handles a fault may throw it again, also one that was let through. -/
theorem tells_attempt_bind {e : Fault → Prop} {k : Except Fault α → Action σ β}
    (hx : Tells T before P x m e)
    (hOk : ∀ a said, T.Answers x a → Tells T said (P ∧ m a said) (k (.ok a)) good allowed)
    (hError : ∀ f said, Tells T said (P ∧ (e f ∨ T.LetsThrough said f)) (k (.error f)) good
      allowed) :
    Tells T before P (attempt x >>= k) good allowed := by
  intro s hs
  obtain ⟨talk, hTalk, hHolds, hEnd⟩ := hx s hs
  rw [outcome_bind, outcome_attempt]
  rcases hr : outcome x s with ⟨r, s'⟩
  rw [hr] at hTalk hHolds hEnd
  cases r with
  | ok a =>
    have hAnswers : T.Answers x a := ⟨s, hs, congrArg Prod.fst hr⟩
    exact (hOk a _ hAnswers).after hHolds hTalk fun hP hOrderly => ⟨hP, hEnd hP hOrderly⟩
  | error f => exact (hError f _).after hHolds hTalk fun hP hOrderly => ⟨hP, hEnd hP hOrderly⟩

end

/-! ## Accounts -/

variable {good : α → Prop} {x : Action σ α}

theorem Accounts.tells (h : Accounts T P x good allowed) :
    Tells T before P x (fun a _ => good a) allowed := by
  intro s hs
  obtain ⟨talk, hTalk, hHolds, hEnd⟩ := h s hs
  refine ⟨talk, hTalk, hHolds, fun hP hOrderly => ?_⟩
  have hEnd := hEnd hP hOrderly
  cases hr : (outcome x s).1 with
  | ok a =>
    rw [hr] at hEnd
    exact hEnd
  | error f =>
    rw [hr] at hEnd
    exact hEnd.imp_right fun hLets => hLets.mono (List.suffix_append _ _).isInfix

theorem Accounts.weaken {good' : α → Prop} {allowed' : Fault → Prop}
    (h : Accounts T Q x good' allowed') (hP : P → Q) (hGood : ∀ a, P → good' a → good a)
    (hAllowed : ∀ f, P → allowed' f → allowed f) : Accounts T P x good allowed :=
  Tells.weaken h hP (fun a _ => hGood a) hAllowed

theorem Accounts.given (h : Accounts T Q x good allowed) (hP : P → Q) :
    Accounts T P x good allowed :=
  h.weaken hP (fun _ _ h => h) (fun _ _ h => h)

theorem Accounts.imp_good {good' : α → Prop} (h : Accounts T P x good' allowed)
    (hGood : ∀ a, good' a → good a) : Accounts T P x good allowed :=
  h.weaken id (fun a _ h => hGood a h) (fun _ _ h => h)

theorem Accounts.imp_allowed {allowed' : Fault → Prop} (h : Accounts T P x good allowed')
    (hAllowed : ∀ f, allowed' f → allowed f) : Accounts T P x good allowed :=
  h.weaken id (fun _ _ h => h) (fun f _ h => hAllowed f h)

theorem accounts_pure {a : α} (h : P → good a) : Accounts T P (pure a) good allowed :=
  tells_pure h

theorem accounts_throw {f : Fault} (h : P → allowed f) :
    Accounts T P (throw f : Action σ α) good allowed :=
  tells_throw fun hP => .inl (h hP)

theorem accounts_ofExcept {r : Except Fault α} (hOk : ∀ a, r = .ok a → P → good a)
    (hError : ∀ f, r = .error f → P → allowed f) : Accounts T P (ofExcept r) good allowed :=
  tells_ofExcept hOk fun f hf hP => .inl (hError f hf hP)

theorem accounts_get : Accounts T P (get : Action σ σ) (fun _ => True) allowed :=
  tells_silent (fun _ => rfl) (fun _ h => h) (fun _ _ => trivial)

theorem accounts_modify {f : σ → σ} (hSaid : ∀ s, T.said (f s) = T.said s)
    (hHolds : ∀ s, T.holds s → T.holds (f s)) :
    Accounts T P (modify f : Action σ PUnit) (fun _ => True) allowed :=
  tells_silent hSaid hHolds (fun _ _ => trivial)

theorem accounts_bind {m : α → Prop} {good : β → Prop} {k : α → Action σ β}
    (hx : Accounts T P x m allowed) (hk : ∀ a, Accounts T (P ∧ m a) (k a) good allowed) :
    Accounts T P (x >>= k) good allowed :=
  tells_bind hx fun a _ => (hk a).tells

/-- A fault that was let through may be thrown again: `Let` stands for what was said. -/
theorem accounts_attempt_bind {m : α → Prop} {e : Fault → Prop} {good : β → Prop}
    {k : Except Fault α → Action σ β} (hx : Accounts T P x m e)
    (hOk : ∀ a, T.Answers x a → Accounts T (P ∧ m a) (k (.ok a)) good allowed)
    (hError : ∀ (f : Fault) (Let : Prop), Accounts T (P ∧ (e f ∨ Let)) (k (.error f)) good
      fun g => allowed g ∨ g = f ∧ Let) :
    Accounts T P (attempt x >>= k) good allowed := by
  apply tells_attempt_bind hx
  · exact fun a _ hAnswers => (hOk a hAnswers).tells
  · intro f said s hs
    obtain ⟨talk, hTalk, hHolds, hEnd⟩ := hError f (T.LetsThrough said f) s hs
    refine ⟨talk, hTalk, hHolds, fun hP hOrderly => ?_⟩
    have hEnd := hEnd hP hOrderly
    cases hk : (outcome (k (.error f)) s).1 with
    | ok b =>
      rw [hk] at hEnd
      exact hEnd
    | error g =>
      rw [hk] at hEnd
      rcases hEnd with (h | ⟨rfl, hLet⟩) | hLets
      · exact .inl h
      · exact .inr (hLet.mono (List.prefix_append _ _).isInfix)
      · exact .inr (hLets.mono (List.suffix_append _ _).isInfix)

/-- A fault that is thrown again after some work on it. -/
theorem accounts_rethrow {e : Fault → Prop} {f : Fault} {Let : Prop}
    (h : P → e f → allowed f) :
    Accounts T (P ∧ (e f ∨ Let)) (throw f : Action σ α) good fun g => allowed g ∨ g = f ∧ Let :=
  accounts_throw fun ⟨hP, hf⟩ => hf.imp (h hP) (fun hLet => ⟨rfl, hLet⟩)

theorem accounts_ensuring {x : Action σ α} {finish : Action σ Unit}
    (hx : Accounts T P x good allowed) (hFinish : Accounts T P finish (fun _ => True) allowed) :
    Accounts T P (ensuring x finish) good allowed := by
  apply accounts_attempt_bind hx
  · intro a _
    apply accounts_bind (hFinish.given And.left)
    exact fun _ => accounts_pure fun ⟨⟨_, ha⟩, _⟩ => ha
  · intro f Let
    apply accounts_bind ((hFinish.given And.left).imp_allowed fun _ => .inl)
    exact fun _ => (accounts_rethrow fun _ h => h).given And.left

/-- A fault of the driver is explained, whether or not a reply let it through. -/
theorem accounts_onDriverFault {x : Action σ α} {explain : Fault → Fault}
    (hx : Accounts T P x good fun f => f.isDriver = true ∨ allowed f)
    (hExplain : ∀ f, allowed (explain f)) : Accounts T P (onDriverFault x explain) good allowed := by
  apply accounts_attempt_bind hx
  · intro a _
    exact accounts_pure And.right
  · intro f Let
    apply accounts_throw
    rintro ⟨-, hf⟩
    cases hDriver : f.isDriver with
    | true => exact .inl (hExplain f)
    | false =>
      rcases hf with (h | h) | hLet
      · rw [hDriver] at h
        cases h
      · exact .inl h
      · exact .inr ⟨rfl, hLet⟩

theorem accounts_tolerating {x : Action σ Unit} {note : Fault → Action σ Unit}
    (hx : Accounts T P x (fun _ => True) fun f => f.isDriver = true ∨ allowed f)
    (hNote : ∀ f, Accounts T P (note f) (fun _ => True) allowed) :
    Accounts T P (tolerating x note) (fun _ => True) allowed := by
  apply accounts_attempt_bind hx
  · intro a _
    exact accounts_pure fun _ => trivial
  · intro f Let
    dsimp only
    split
    · exact ((hNote f).given And.left).imp_allowed fun _ => .inl
    · rename_i hOther
      exact accounts_rethrow (e := fun g => g.isDriver = true ∨ allowed g)
        fun _ h => h.resolve_left hOther

end ReplicaBootstrap.Action
