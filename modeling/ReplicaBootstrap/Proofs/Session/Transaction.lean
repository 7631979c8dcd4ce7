import ReplicaBootstrap.Proofs.Site

/-! # What is done in a transaction

The acts at a site are its journal without what is logged and without the signals that arrive. What
an action does is told by a relation between its result and the acts that it adds, from whatever site
it starts: a transaction begins, does what its body does, and is committed or rolled back.
-/

namespace ReplicaBootstrap

open ReplicaBootstrap.Action

def Entry.isAct : Entry → Bool
  | .event (.log _) | .event (.signal _) => false
  | _ => true

def Reply.result (r : Reply) : Except Fault Reply :=
  match r.fault with
  | none => .ok r
  | some f => .error f

namespace Site

def acts (w : Site) : List Entry := w.journal.toList.filter Entry.isAct

theorem acts_record (w : Site) (x : Entry) :
    (w.record x).acts = w.acts ++ [x].filter Entry.isAct := by
  rw [acts, journal_record, List.filter_append]
  rfl

theorem undisturbed_acts (done : List Entry) : Undisturbed fun w => w.acts = done where
  said w e he h := by
    rw [acts_record, h]
    rcases he with ⟨_, rfl⟩ | ⟨_, rfl⟩ <;> exact List.append_nil done
  heard _ _ h := h

/-- From the site `w`, the result of the action and the acts that it adds are related. -/
def Does {α : Type} (x : Action Site α) (w : Site) (R : Except Fault α → List Entry → Prop) : Prop :=
  ∃ did, (outcome x w).2.acts = w.acts ++ did ∧ R (outcome x w).1 did

variable {α β : Type} {w : Site} {x : Action Site α} {R : Except Fault α → List Entry → Prop}

theorem Does.weaken {S : Except Fault α → List Entry → Prop} (h : Does x w R)
    (hR : ∀ r did, R r did → S r did) : Does x w S := by
  obtain ⟨did, hActs, h⟩ := h
  exact ⟨did, hActs, hR _ _ h⟩

theorem does_pure {a : α} (h : R (.ok a) []) : Does (pure a) w R :=
  ⟨[], (List.append_nil _).symm, h⟩

theorem does_throw {f : Fault} (h : R (.error f) []) : Does (throw f) w R :=
  ⟨[], (List.append_nil _).symm, h⟩

theorem does_ofExcept {r : Except Fault α} (h : R r []) : Does (Action.ofExcept r) w R :=
  ⟨[], (List.append_nil _).symm, h⟩

/-! ## Acts in turn -/

theorem does_bind {S : Except Fault β → List Entry → Prop} {k : α → Action Site β}
    (hx : Does x w R)
    (hok : ∀ a did v, R (.ok a) did → Does (k a) v fun r did' => S r (did ++ did'))
    (herror : ∀ f did, R (.error f) did → S (.error f) did) : Does (x >>= k) w S := by
  obtain ⟨did, hActs, h⟩ := hx
  unfold Does
  rw [outcome_bind]
  rcases hr : outcome x w with ⟨r, v⟩
  rw [hr] at hActs h
  cases r with
  | error f => exact ⟨did, hActs, herror f did h⟩
  | ok a =>
    obtain ⟨did', hActs', h'⟩ := hok a did v h
    refine ⟨did ++ did', ?_, h'⟩
    rw [hActs', hActs, List.append_assoc]

theorem does_attempt_bind {S : Except Fault β → List Entry → Prop}
    {k : Except Fault α → Action Site β} (hx : Does x w R)
    (hk : ∀ r did v, R r did → Does (k r) v fun r' did' => S r' (did ++ did')) :
    Does (attempt x >>= k) w S := by
  obtain ⟨did, hActs, h⟩ := hx
  obtain ⟨did', hActs', h'⟩ := hk _ did (outcome x w).2 h
  refine ⟨did ++ did', ?_, h'⟩
  change (outcome (k (outcome x w).1) (outcome x w).2).2.acts = _
  rw [hActs', hActs, List.append_assoc]

theorem does_onDriverFault {explain : Fault → Fault}
    (hx : Does x w fun r did =>
      R (r.mapError fun f => if f.isDriver then explain f else f) did) :
    Does (onDriverFault x explain) w R := by
  apply does_attempt_bind hx
  rintro (f | a) did v h
  · apply does_throw
    rw [List.append_nil]
    exact h
  · apply does_pure
    rw [List.append_nil]
    exact h

/-! ## Requests -/

theorem does_log (level : Level) (text : String) :
    Does (log level text) w fun r did => r = .ok () ∧ did = [] :=
  ⟨[], acts_record w _, rfl, rfl⟩

theorem does_log_bind {S : Except Fault β → List Entry → Prop} {k : Unit → Action Site β}
    {level : Level} {text : String} (h : ∀ v, Does (k ()) v S) : Does (log level text >>= k) w S := by
  apply does_bind (does_log level text)
  · rintro _ _ v ⟨-, rfl⟩
    exact h v
  · rintro _ _ ⟨⟨⟩, -⟩

theorem does_rollback (conn : Nat) :
    Does (emit (.rollback conn)) w fun r did => r = .ok () ∧ did = [.event (.rollback conn)] :=
  ⟨_, acts_record w _, rfl, rfl⟩

theorem resolve_answered {P : Site → Prop} (hP : Undisturbed P) (reply : Reply) {w : Site} (h : P w) :
    (outcome (resolve reply) w).1 = reply.result ∧ P (outcome (resolve reply) w).2 := by
  have hResolving : Meets P (resolve reply) _ _ :=
    meets_resolve (fun _ _ h => h) fun number _ => hP.deliver number
  have hResolved := hResolving w h
  unfold Reply.result
  rcases hr : outcome (resolve reply) w with ⟨r, v⟩
  rw [hr] at hResolved
  cases r with
  | ok a =>
    obtain ⟨rfl, hFault, hAfter⟩ := hResolved
    exact ⟨by rw [hFault], hAfter⟩
  | error f =>
    obtain ⟨hFault, hAfter⟩ := hResolved
    exact ⟨by rw [hFault], hAfter⟩

theorem does_request {conn : Nat} {text : String} {reply : Reply} (e : Event)
    (hReply : ((w.server conn).script.answer text).1 = reply) :
    Does (request conn e text) w fun result did =>
      result = reply.result ∧ did = [.exchange e reply] := by
  obtain ⟨script, hAnswer⟩ : ∃ script, (w.server conn).script.answer text = (reply, script) :=
    ⟨_, Prod.ext hReply rfl⟩
  let said := (w.record (.exchange e reply)).setServer conn { w.server conn with script }
  have hOutcome : outcome (request conn e text) w = outcome (resolve reply) said := by
    unfold request
    rw [outcome_bind, outcome_get]
    dsimp only
    rw [hAnswer]
    rfl
  obtain ⟨hResult, hActs⟩ := resolve_answered (undisturbed_acts said.acts) reply (w := said) rfl
  rw [← hOutcome] at hResult hActs
  exact ⟨_, hActs.trans (acts_record w _), hResult, rfl⟩

/-- A request is made once, and its reply tells how it ends. -/
inductive Answered (e : Event) : Except Fault Reply → List Entry → Prop
  | ok {r : Reply} (hFault : r.fault = none) : Answered e (.ok r) [.exchange e r]
  | error {r : Reply} {f : Fault} (hFault : r.fault = some f) :
      Answered e (.error f) [.exchange e r]

theorem does_answered (conn : Nat) (e : Event) (text : String) :
    Does (request conn e text) w (Answered e) := by
  apply (does_request e rfl).weaken
  rintro _ _ ⟨rfl, rfl⟩
  unfold Reply.result
  split
  · exact .ok ‹_›
  · exact .error ‹_›

end Site

namespace Session

open Site

variable {α : Type} {conn : Nat} {body : Action Site α} {w : Site}

/-- What is done in a transaction on a connection, around what `Body` tells of its body: the commit is
attempted if the body succeeds, otherwise the transaction is rolled back. -/
inductive Transacted (conn : Nat) (Body : Except Fault α → List Entry → Prop) :
    Except Fault α → List Entry → Prop
  | refused {r : Reply} {f : Fault} (hBegin : r.fault = some f) :
      Transacted conn Body (.error f) [.exchange (.beginTransaction conn) r]
  | rolledBack {r : Reply} {f : Fault} {did : List Entry} (hBegin : r.fault = none)
      (hBody : Body (.error f) did) :
      Transacted conn Body (.error f)
        (.exchange (.beginTransaction conn) r :: (did ++ [.event (.rollback conn)]))
  | uncommitted {r r' : Reply} {a : α} {f : Fault} {did : List Entry} (hBegin : r.fault = none)
      (hBody : Body (.ok a) did) (hCommit : r'.fault = some f) :
      Transacted conn Body (.error f)
        (.exchange (.beginTransaction conn) r :: (did ++ [.exchange (.commit conn) r']))
  | committed {r r' : Reply} {a : α} {did : List Entry} (hBegin : r.fault = none)
      (hBody : Body (.ok a) did) (hCommit : r'.fault = none) :
      Transacted conn Body (.ok a)
        (.exchange (.beginTransaction conn) r :: (did ++ [.exchange (.commit conn) r']))

theorem does_transaction {Body : Except Fault α → List Entry → Prop} (hBody : ∀ v, Does body v Body) :
    Does (transaction conn body) w (Transacted conn Body) := by
  unfold transaction
  apply does_bind (does_answered conn _ _)
  · rintro _ _ v ⟨hBegin⟩
    apply does_attempt_bind (hBody v)
    rintro (f | a) did v hBody
    · apply does_bind (does_rollback conn)
      · rintro _ _ v ⟨-, rfl⟩
        apply does_throw
        rw [List.append_nil]
        exact .rolledBack hBegin hBody
      · rintro _ _ ⟨⟨⟩, -⟩
    · apply does_bind (does_answered conn _ _)
      · rintro _ _ v ⟨hCommit⟩
        apply does_pure
        rw [List.append_nil]
        exact .committed hBegin hBody hCommit
      · rintro _ _ (_ | ⟨hCommit⟩)
        exact .uncommitted hBegin hBody hCommit
  · rintro _ _ (_ | ⟨hBegin⟩)
    exact .refused hBegin

/-! ## Commit or rollback -/

section

variable {query : String} {params : Option (List Value)} {good : Reply → Prop}
  {Body : Except Fault α → List Entry → Prop} {result : Except Fault α} {did : List Entry}

def Queries (conn : Nat) (did : List Entry) : Prop :=
  ∀ x ∈ did, ∃ query params r, x = .exchange (.execute conn query params) r

theorem Queries.not_mem (h : Queries conn did) {x : Entry}
    (hx : ∀ query params r, x ≠ .exchange (.execute conn query params) r) : x ∉ did := by
  intro hMem
  obtain ⟨query, params, r, hQuery⟩ := h x hMem
  exact hx query params r hQuery

/-- A body of queries that succeeds just if one query of it gets a good reply. -/
structure Decided (conn : Nat) (query : String) (params : Option (List Value)) (good : Reply → Prop)
    (Body : Except Fault α → List Entry → Prop) : Prop where
  queries : ∀ result did, Body result did → Queries conn did
  ok_iff : ∀ result did, Body result did →
    ((∃ a, result = .ok a) ↔ ∃ r, good r ∧ .exchange (.execute conn query params) r ∈ did)

/-- The commit is attempted just if the query that decides gets a good reply. -/
theorem Transacted.commit_iff (hBody : Decided conn query params good Body)
    (h : Transacted conn Body result did) :
    (∃ r, .exchange (.commit conn) r ∈ did) ↔
      ∃ r, good r ∧ .exchange (.execute conn query params) r ∈ did := by
  have hGood {a : α} {said : List Entry} (hDone : Body (.ok a) said) (first last : Entry) :
      ∃ r, good r ∧ .exchange (.execute conn query params) r ∈ first :: (said ++ [last]) := by
    obtain ⟨r, hr, hMem⟩ := (hBody.ok_iff _ _ hDone).mp ⟨a, rfl⟩
    exact ⟨r, hr, List.mem_cons_of_mem _ (List.mem_append_left _ hMem)⟩
  have hCommitted (first : Entry) (said : List Entry) (r' : Reply) :
      ∃ r, .exchange (.commit conn) r ∈ first :: (said ++ [.exchange (.commit conn) r']) :=
    ⟨r', List.mem_cons_of_mem _ (List.mem_append_right _ List.mem_cons_self)⟩
  cases h with
  | refused hBegin => simp
  | @rolledBack _ _ said hBegin hFailed =>
    have hNoCommit (r : Reply) : .exchange (.commit conn) r ∉ said :=
      (hBody.queries _ _ hFailed).not_mem (by simp)
    have hNotGood : ¬ ∃ r, good r ∧ .exchange (.execute conn query params) r ∈ said :=
      fun h => by simpa using (hBody.ok_iff _ _ hFailed).mpr h
    simpa [hNoCommit] using hNotGood
  | uncommitted hBegin hDone hCommit => exact iff_of_true (hCommitted _ _ _) (hGood hDone _ _)
  | committed hBegin hDone hCommit => exact iff_of_true (hCommitted _ _ _) (hGood hDone _ _)

/-- A transaction that was begun is rolled back just if its commit is not attempted. -/
theorem Transacted.rollback_iff (hBody : Decided conn query params good Body)
    (h : Transacted conn Body result did) :
    .event (.rollback conn) ∈ did ↔
      (∃ r, r.fault = none ∧ .exchange (.beginTransaction conn) r ∈ did) ∧
        ¬ ∃ r, .exchange (.commit conn) r ∈ did := by
  have hNoRollback {result : Except Fault α} {said : List Entry} (h : Body result said) :
      .event (.rollback conn) ∉ said := (hBody.queries _ _ h).not_mem (by simp)
  cases h with
  | refused hBegin => simp [hBegin]
  | @rolledBack _ _ said hBegin hFailed =>
    have hNoCommit (r : Reply) : .exchange (.commit conn) r ∉ said :=
      (hBody.queries _ _ hFailed).not_mem (by simp)
    refine iff_of_true (by simp) ⟨⟨_, hBegin, List.mem_cons_self⟩, ?_⟩
    simp [hNoCommit]
  | uncommitted hBegin hDone hCommit => simp [hNoRollback hDone]
  | committed hBegin hDone hCommit => simp [hNoRollback hDone]

end

end Session

end ReplicaBootstrap
