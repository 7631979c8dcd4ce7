import ReplicaBootstrap.Proofs.Lsn
import ReplicaBootstrap.Proofs.Session.Transaction

/-! # From a slot to its origin

The position at which a slot starts reaches the local replication origin as it is, in a transaction
that is committed only when the origin has been advanced to it.
-/

namespace ReplicaBootstrap.SlotProvision

open ReplicaBootstrap.Action Session Site

variable {conn : Nat} {name : Value} {lsn : String} {w : Site}

/-! ## The origin -/

def lookup (conn : Nat) (name : Value) (r : Reply) : Entry :=
  .exchange (.execute conn "SELECT pg_replication_origin_oid(%s)" (some [name])) r

def creation (conn : Nat) (name : Value) (r : Reply) : Entry :=
  .exchange (.execute conn "SELECT pg_replication_origin_create(%s)" (some [name])) r

def advance (conn : Nat) (name : Value) (lsn : String) (r : Reply) : Entry :=
  .exchange (.execute conn "SELECT pg_replication_origin_advance(%s, %s::pg_lsn)"
    (some [name, .text lsn])) r

/-- A reply answers with `cell`: the first one of its first row. -/
inductive Answers (r : Reply) (cell : Value) : Prop
  | mk {cells : List Value} {rows : List (List Value)} (hRows : r.rows = (cell :: cells) :: rows)

/-- An origin is looked up, and created if the lookup answers with no id. -/
inductive Ensured (conn : Nat) (name : Value) : Except Fault Value → List Entry → Prop
  | unanswered {r : Reply} {f : Fault} (hLookup : r.fault ≠ none) :
      Ensured conn name (.error f) [lookup conn name r]
  | found {r : Reply} {id : Value} (hLookup : r.fault = none) (hFound : Answers r id)
      (hId : id ≠ .null) : Ensured conn name (.ok id) [lookup conn name r]
  | uncreated {r r' : Reply} {f : Fault} (hLookup : r.fault = none)
      (hMissing : ∀ id, Answers r id → id = .null)
      (hCreation : r'.fault ≠ none ∨ ∀ id, ¬ Answers r' id) :
      Ensured conn name (.error f) [lookup conn name r, creation conn name r']
  | created {r r' : Reply} {id : Value} (hLookup : r.fault = none)
      (hMissing : ∀ id, Answers r id → id = .null) (hCreation : r'.fault = none)
      (hCreated : Answers r' id) :
      Ensured conn name (.ok id) [lookup conn name r, creation conn name r']

/-- An origin that is there is advanced, once. -/
inductive Provisioned (conn : Nat) (name : Value) (lsn : String) :
    Except Fault Value → List Entry → Prop
  | unensured {f : Fault} {did : List Entry} (hEnsured : Ensured conn name (.error f) did) :
      Provisioned conn name lsn (.error f) did
  | unadvanced {id : Value} {f : Fault} {did : List Entry} {r : Reply}
      (hEnsured : Ensured conn name (.ok id) did) (hAdvance : r.fault ≠ none) :
      Provisioned conn name lsn (.error f) (did ++ [advance conn name lsn r])
  | advanced {id : Value} {did : List Entry} {r : Reply}
      (hEnsured : Ensured conn name (.ok id) did) (hAdvance : r.fault = none) :
      Provisioned conn name lsn (.ok id) (did ++ [advance conn name lsn r])

theorem Ensured.mapError {explain : Fault → Fault} {result : Except Fault Value} {did : List Entry}
    (h : Ensured conn name result did) : Ensured conn name (result.mapError explain) did := by
  cases h with
  | unanswered hLookup => exact .unanswered hLookup
  | found hLookup hFound hId => exact .found hLookup hFound hId
  | uncreated hLookup hMissing hCreation => exact .uncreated hLookup hMissing hCreation
  | created hLookup hMissing hCreation hCreated => exact .created hLookup hMissing hCreation hCreated

theorem originId?_eq_some {r : Reply} {id : Value} (h : originId? r = some id) :
    Answers r id ∧ id ≠ .null := by
  unfold originId? at h
  split at h
  · rename_i hRows
    split at h
    · cases h
    · rename_i hId
      cases h
      exact ⟨⟨hRows⟩, hId⟩
  · cases h

theorem originId?_eq_none {r : Reply} (h : originId? r = none) (id : Value) (hId : Answers r id) :
    id = .null := by
  obtain ⟨hRows⟩ := hId
  unfold originId? at h
  rw [hRows] at h
  cases id with
  | null => rfl
  | _ => cases h

/-- The id of a new origin is taken from the reply to its creation, if it is there. -/
theorem does_createdId {k : Value → Action Site Value} {R : Except Fault Value → List Entry → Prop}
    (r : Reply) (hSome : ∀ id v, Answers r id → Does (k id) v R)
    (hNone : (∀ id, ¬ Answers r id) → ∀ f, R (.error f) []) :
    Does (firstRow r >>= fun row => Action.ofExcept (column row 0) >>= k) w R := by
  rcases hRows : r.rows with _ | ⟨_ | ⟨id, cells⟩, rows⟩
  · have hMissing (id : Value) : ¬ Answers r id := fun ⟨h⟩ => by cases hRows.symm.trans h
    unfold firstRow
    rw [hRows]
    exact does_throw (hNone hMissing _)
  · have hMissing (id : Value) : ¬ Answers r id := fun ⟨h⟩ => by cases hRows.symm.trans h
    unfold firstRow
    rw [hRows]
    exact does_throw (hNone hMissing _)
  · unfold firstRow
    rw [hRows]
    exact hSome id w ⟨hRows⟩

theorem does_lookUpOrCreate (conn : Nat) (name : Value) (w : Site) :
    Does (lookUpOrCreate conn name) w (Ensured conn name) := by
  unfold lookUpOrCreate
  apply does_bind (does_answered conn _ _)
  · rintro r _ v ⟨hLookup⟩
    split
    · rename_i id hFound
      obtain ⟨hAnswers, hId⟩ := originId?_eq_some hFound
      exact does_log_bind fun _ => does_pure (.found hLookup hAnswers hId)
    · rename_i hNone
      have hMissing := originId?_eq_none hNone
      apply does_bind (does_answered conn _ _)
      · rintro r' _ v ⟨hCreation⟩
        apply does_createdId r'
        · intro id v hCreated
          exact does_log_bind fun _ => does_pure (.created hLookup hMissing hCreation hCreated)
        · exact fun hNone f => .uncreated hLookup hMissing (.inr hNone)
      · rintro _ _ (_ | ⟨hCreation⟩)
        exact .uncreated hLookup hMissing (.inl (by simp [hCreation]))
  · rintro _ _ (_ | ⟨hLookup⟩)
    exact .unanswered (by simp [hLookup])

theorem does_ensureOrigin (conn : Nat) (name : Value) (w : Site) :
    Does (ensureOrigin conn name) w (Ensured conn name) :=
  does_onDriverFault ((does_lookUpOrCreate conn name w).weaken fun _ _ h => h.mapError)

theorem does_advanceOrigin (conn : Nat) (name : Value) (lsn : String) (w : Site) :
    Does (advanceOrigin conn name lsn) w fun result did =>
      ∃ r, did = [advance conn name lsn r] ∧ (result = .ok () ↔ r.fault = none) := by
  unfold advanceOrigin
  apply does_bind (R := fun result did =>
    ∃ r, did = [advance conn name lsn r] ∧ (result.isOk = true ↔ r.fault = none))
  · apply does_onDriverFault
    apply (does_answered conn _ _).weaken
    rintro _ _ (⟨hAdvance⟩ | ⟨hAdvance⟩)
    · exact ⟨_, rfl, by simp [hAdvance, Except.mapError, Except.isOk, Except.toBool]⟩
    · exact ⟨_, rfl, by simp [hAdvance, Except.mapError, Except.isOk, Except.toBool]⟩
  · rintro r _ v ⟨r', rfl, hAdvance⟩
    apply (does_log _ _).weaken
    rintro _ _ ⟨rfl, rfl⟩
    exact ⟨r', rfl, by simp [hAdvance.mp rfl]⟩
  · rintro f _ ⟨r, rfl, hAdvance⟩
    refine ⟨r, rfl, ?_⟩
    rw [← hAdvance]
    simp [Except.isOk, Except.toBool]

theorem does_provisionOrigin (conn : Nat) (slot : Slot) (w : Site) :
    Does (provisionOrigin conn slot) w (Transacted conn (Provisioned conn slot.name slot.lsn)) := by
  unfold provisionOrigin
  apply does_transaction
  intro v
  apply does_bind (does_ensureOrigin conn slot.name v)
  · intro id did v hEnsured
    apply does_bind (does_advanceOrigin conn slot.name slot.lsn v)
    · rintro _ _ v ⟨r, rfl, hAdvance⟩
      apply does_pure
      rw [List.append_nil]
      exact .advanced hEnsured (hAdvance.mp rfl)
    · rintro f _ ⟨r, rfl, hAdvance⟩
      exact .unadvanced hEnsured fun h => by cases hAdvance.mpr h
  · exact fun f did hEnsured => .unensured hEnsured

/-! ## Commit or rollback -/

section

variable {result : Except Fault Value} {did : List Entry}

theorem Ensured.advance_not_mem (h : Ensured conn name result did) (r : Reply) :
    advance conn name lsn r ∉ did := by
  cases h <;> simp [lookup, creation, advance]

theorem Ensured.queries (h : Ensured conn name result did) : Queries conn did := by
  cases h <;> simp [Queries, lookup, creation]

theorem Provisioned.queries (h : Provisioned conn name lsn result did) : Queries conn did := by
  have hAdvanced {result : Except Fault Value} {did : List Entry} (r : Reply)
      (h : Ensured conn name result did) : Queries conn (did ++ [advance conn name lsn r]) := by
    intro x hx
    rcases List.mem_append.mp hx with hx | hx
    · exact h.queries x hx
    · exact ⟨_, _, _, List.mem_singleton.mp hx⟩
  cases h with
  | unensured hEnsured => exact hEnsured.queries
  | unadvanced hEnsured => exact hAdvanced _ hEnsured
  | advanced hEnsured => exact hAdvanced _ hEnsured

theorem Provisioned.ok_iff (h : Provisioned conn name lsn result did) :
    (∃ id, result = .ok id) ↔ ∃ r, r.fault = none ∧ advance conn name lsn r ∈ did := by
  cases h with
  | unensured hEnsured => simp [hEnsured.advance_not_mem]
  | @unadvanced id f did r hEnsured hAdvance =>
    simp only [reduceCtorEq, exists_false, false_iff, not_exists, not_and]
    intro r' hFault hMem
    rcases List.mem_append.mp hMem with hMem | hMem
    · exact hEnsured.advance_not_mem r' hMem
    · cases List.mem_singleton.mp hMem
      exact hAdvance hFault
  | advanced hEnsured hAdvance =>
    exact ⟨fun _ => ⟨_, hAdvance, List.mem_append_right _ List.mem_cons_self⟩, fun _ => ⟨_, rfl⟩⟩

theorem decided_provisioned (conn : Nat) (name : Value) (lsn : String) :
    Decided conn "SELECT pg_replication_origin_advance(%s, %s::pg_lsn)" (some [name, .text lsn])
      (fun r => r.fault = none) (Provisioned conn name lsn) where
  queries _ _ h := h.queries
  ok_iff _ _ h := h.ok_iff

end

/-! ## The slot -/

def slotQuery (plugin slotName : String) : String :=
  s!"CREATE_REPLICATION_SLOT \"{slotName}\" LOGICAL {plugin}"

section

variable {plugin slotName : String} {r : Reply} {row : List Value} {rows : List (List Value)}
  {slot : Slot}

theorem does_createSlot
    (hReply : ((w.server conn).script.answer (slotQuery plugin slotName)).1 = r)
    (hFault : r.fault = none) (hRows : r.rows = row :: rows)
    (hSlot : slotOfRow (slotQuery plugin slotName) plugin row = .ok slot) :
    Does (createSlot conn plugin slotName) w fun result did => result = .ok slot ∧
      did = [.exchange (.execute conn (slotQuery plugin slotName) none) r] := by
  unfold createSlot
  apply does_bind (R := fun result did => result = .ok r ∧
    did = [.exchange (.execute conn (slotQuery plugin slotName) none) r])
  · apply does_onDriverFault
    apply (does_request _ hReply).weaken
    rintro _ _ ⟨rfl, rfl⟩
    rw [Reply.result, hFault]
    exact ⟨rfl, rfl⟩
  · rintro _ _ v ⟨⟨⟩, rfl⟩
    rw [hRows]
    apply does_bind (does_ofExcept (R := fun result did => result = .ok slot ∧ did = []) ⟨hSlot, rfl⟩)
    · rintro _ _ v ⟨⟨⟩, rfl⟩
      exact does_log_bind fun _ => does_pure ⟨rfl, rfl⟩
    · rintro _ _ ⟨⟨⟩, -⟩
  · rintro f _ ⟨⟨⟩, -⟩

end

/-- A slot at a position reaches the origin of its name. All that is done locally is done in one
transaction, in which the origin is looked up, created if it is missing, and advanced to the same
position, written in its one form. The commit is attempted just if the advance succeeds; otherwise the
transaction, if it was begun, is rolled back. -/
theorem slot_reaches_origin (remote conn : Nat) (plugin slotName : String) {name snapshot : Value}
    {lsn : String} {rest : List Value} {rows : List (List Value)} {p : Nat} {r : Reply} (w : Site)
    (hReply : ((w.server remote).script.answer (slotQuery plugin slotName)).1 = r)
    (hFault : r.fault = none) (hRows : r.rows = (name :: .text lsn :: snapshot :: rest) :: rows)
    (hLsn : Lsn.Denotes lsn p) :
    ∃ lsn' did,
      Lsn.Denotes lsn' p ∧ Lsn.Written lsn' p ∧
      (outcome (createSlot remote plugin slotName >>= provisionOrigin conn) w).2.acts =
        w.acts ++ .exchange (.execute remote (slotQuery plugin slotName) none) r :: did ∧
      Transacted conn (Provisioned conn name lsn')
        (outcome (createSlot remote plugin slotName >>= provisionOrigin conn) w).1 did ∧
      ((∃ r', .exchange (.commit conn) r' ∈ did) ↔
        ∃ r', r'.fault = none ∧ advance conn name lsn' r' ∈ did) ∧
      (.event (.rollback conn) ∈ did ↔
        (∃ r', r'.fault = none ∧ .exchange (.beginTransaction conn) r' ∈ did) ∧
          ¬ ∃ r', .exchange (.commit conn) r' ∈ did) := by
  have hParse : Lsn.parse lsn = .ok p := Lsn.parse_eq_ok_iff.mpr hLsn.reads
  have hWritten := Lsn.written_format p
  have hSlot := Lsn.slotOfRow_text (slotQuery plugin slotName) plugin lsn name snapshot rest
  rw [hParse] at hSlot
  have hDone : Does (createSlot remote plugin slotName >>= provisionOrigin conn) w
      fun result did => ∃ did', Transacted conn (Provisioned conn name (Lsn.format p)) result did' ∧
        did = [.exchange (.execute remote (slotQuery plugin slotName) none) r] ++ did' := by
    apply does_bind (does_createSlot hReply hFault hRows hSlot)
    · rintro _ _ v ⟨⟨⟩, rfl⟩
      exact (does_provisionOrigin conn _ v).weaken fun _ did' h => ⟨did', h, rfl⟩
    · rintro _ _ ⟨⟨⟩, -⟩
  obtain ⟨_, hActs, did, hTransacted, rfl⟩ := hDone
  have hDecided := decided_provisioned conn name (Lsn.format p)
  exact ⟨Lsn.format p, did, hWritten.denotes hLsn.lt, hWritten, hActs, hTransacted,
    hTransacted.commit_iff hDecided, hTransacted.rollback_iff hDecided⟩

def slotServer : Server where
  script := [{ pattern := "CREATE_REPLICATION_SLOT"
               replies := .standing { rows := [[.text "s", .text "0/00ab", .text "snapshot"]] } }]

/-- A server that creates a slot, and one that has no origin for it yet. -/
def newOrigin : Site where
  servers := [slotServer,
    { script := [{ pattern := "create", replies := .standing { rows := [[.int 7]] } }] }]

/-- A server that creates a slot, and one that knows the origin of an earlier run. -/
def knownOrigin : Site where
  servers := [slotServer,
    { script := [{ pattern := "oid", replies := .standing { rows := [[.int 5]] } }] }]

theorem slot_reaches_new_or_known_origin :
    Lsn.Denotes "0/00ab" 0xAB ∧
      (outcome (createSlot 0 "output" "s" >>= provisionOrigin 1) newOrigin).1 = .ok (.int 7) ∧
      (∃ lsn' did, Lsn.Denotes lsn' 0xAB ∧ Lsn.Written lsn' 0xAB ∧
        Transacted 1 (Provisioned 1 (.text "s") lsn') (.ok (.int 7)) did ∧
        ((∃ r, .exchange (.commit 1) r ∈ did) ↔
          ∃ r, r.fault = none ∧ advance 1 (.text "s") lsn' r ∈ did)) ∧
      (outcome (createSlot 0 "output" "s" >>= provisionOrigin 1) knownOrigin).1 = .ok (.int 5) ∧
      (∃ lsn' did, Lsn.Denotes lsn' 0xAB ∧ Lsn.Written lsn' 0xAB ∧
        Transacted 1 (Provisioned 1 (.text "s") lsn') (.ok (.int 5)) did ∧
        (outcome (createSlot 0 "output" "s" >>= provisionOrigin 1) knownOrigin).2.acts =
          .exchange (.execute 0 (slotQuery "output" "s") none)
            { rows := [[.text "s", .text "0/00ab", .text "snapshot"]] } :: did) ∧
      (outcome (createSlot 0 "output" "s" >>= provisionOrigin 1) knownOrigin).2.acts =
        [.exchange (.execute 0 "CREATE_REPLICATION_SLOT \"s\" LOGICAL output" none)
            { rows := [[.text "s", .text "0/00ab", .text "snapshot"]] },
          .exchange (.beginTransaction 1) {}, lookup 1 (.text "s") { rows := [[.int 5]] },
          advance 1 (.text "s") "0/AB" {}, .exchange (.commit 1) {}] := by
  have hLsn : Lsn.Denotes "0/00ab" 0xAB :=
    @Lsn.Denotes.mk ['0'] ['0', '0', 'a', 'b'] (by decide) (by decide)
  have hNew : (outcome (createSlot 0 "output" "s" >>= provisionOrigin 1) newOrigin).1 =
      .ok (.int 7) := rfl
  have hKnown : (outcome (createSlot 0 "output" "s" >>= provisionOrigin 1) knownOrigin).1 =
      .ok (.int 5) := rfl
  obtain ⟨lsn', did, hDenotes, hWritten, -, hTransacted, hCommit, -⟩ :=
    slot_reaches_origin 0 1 "output" "s" newOrigin rfl rfl rfl hLsn
  obtain ⟨lsn'', did', hDenotes', hWritten', hActs, hTransacted', -⟩ :=
    slot_reaches_origin 0 1 "output" "s" knownOrigin rfl rfl rfl hLsn
  rw [hNew] at hTransacted
  rw [hKnown] at hTransacted'
  exact ⟨hLsn, hNew, ⟨lsn', did, hDenotes, hWritten, hTransacted, hCommit⟩, hKnown,
    ⟨lsn'', did', hDenotes', hWritten', hTransacted', hActs⟩, rfl⟩

end ReplicaBootstrap.SlotProvision
