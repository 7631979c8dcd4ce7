import ReplicaBootstrap.Proofs.Copy.NodeData
import ReplicaBootstrap.Proofs.Faults.Services

/-! # Faults of the data copy

A copy of a node between orderly servers fails with a fault of the initialisation. Tables whose names
are texts can be asked for, and the chunks of a table are moved between two connections.
-/

namespace ReplicaBootstrap.Copy

open ReplicaBootstrap.Action Session Site

variable {α : Type} {conn floor : Nat} {P : Prop} {dsns : List String} {origin target : Nat}

/-! ## Transactions -/

theorem literal_error {v : Value} {f : Fault} (h : Sql.literal v = .error f) :
    f.isDriver = true := by
  unfold Sql.literal at h
  split at h
  case h_5 s =>
    unfold Sql.textLiteral at h
    dsimp only at h
    split_ifs at h
    cases h
    rfl
  all_goals cases h
  rfl

theorem accounts_beginOrigin (server : Nat) (snapshot : Value) :
    Accounts (terms conn floor) P (beginOrigin server snapshot) (fun _ => True) (Allowed dsns) := by
  unfold beginOrigin
  apply accounts_bind (m := fun _ => True)
  · apply accounts_onDriverFault
    · apply accounts_bind (m := fun _ => True)
      · apply accounts_ofExcept
        · exact fun _ _ _ => trivial
        · exact fun f hf _ => .inl (literal_error hf)
      intro literal
      exact (accounts_execute _ _ _).weaken id (fun _ _ _ => trivial) fun _ _ => .inl
    · exact fun _ => .init rfl
  exact fun _ => accounts_log _ _

theorem accounts_beginTarget (server : Nat) :
    Accounts (terms conn floor) P (beginTarget server) (fun _ => True) (Allowed dsns) := by
  unfold beginTarget
  apply accounts_bind (accounts_execute_explained _ _ _ fun _ => rfl)
  exact fun _ => accounts_log _ _

theorem accounts_finishOrigin (server : Nat) :
    Accounts (terms conn floor) P (finishOrigin server) (fun _ => True) (Allowed dsns) := by
  apply accounts_tolerating
  · apply accounts_bind ((accounts_execute _ _ _).imp_allowed fun _ => .inl)
    exact fun _ => accounts_pure fun _ => trivial
  · exact fun _ => accounts_log _ _

theorem accounts_finishTarget (server : Nat) :
    Accounts (terms conn floor) P (finishTarget server) (fun _ => True) (Allowed dsns) := by
  unfold finishTarget
  apply accounts_bind (accounts_execute_explained _ _ _ fun _ => rfl)
  exact fun _ => accounts_pure fun _ => trivial

/-! ## Tables -/

def Named (t : Table) : Prop := ∃ schema name, t = ⟨.text schema, .text name⟩

theorem named_of_row {row : List Value} (hRow : namesTable row = true) :
    ∃ t, tableOfRow row = .ok t ∧ Named t := by
  unfold namesTable at hRow
  split at hRow
  · exact ⟨_, rfl, _, _, rfl⟩
  · cases hRow

theorem accounts_tables (server : Nat) (sets : List String) (extension : String) :
    Accounts (terms conn floor) P (tables server sets extension) (fun ts => ∀ t ∈ ts, Named t)
      (Allowed dsns) := by
  unfold tables
  apply accounts_bind (m := fun _ => True)
  · apply accounts_ofExcept
    · exact fun _ _ _ => trivial
    · intro f hf _
      cases hf
  intro name
  dsimp only
  apply accounts_bind (accounts_execute_explained _ _ _ fun _ => rfl)
  intro reply
  have hRows (h : hasShape (listQuery name) reply.rows = true) :
      ∀ row ∈ reply.rows, ∃ t, tableOfRow row = .ok t ∧ Named t := by
    have hShape := shape_of_hasShape h
      (List.mem_cons_of_mem _ (List.mem_cons_of_mem _ (List.mem_cons_of_mem _
        (List.mem_cons_of_mem _ (List.mem_cons_of_mem _ List.mem_cons_self)))))
      (prefix_append (prefix_append List.prefix_rfl))
    exact fun row hRow => named_of_row (List.all_eq_true.mp hShape row hRow)
  apply accounts_ofExcept
  · rintro ts hts ⟨-, h⟩ t ht
    obtain ⟨row, hRow, hTable⟩ := ok_of_mapM hts t ht
    obtain ⟨t', ht', hNamed⟩ := hRows h row hRow
    rw [hTable] at ht'
    cases ht'
    exact hNamed
  · rintro f hf ⟨-, h⟩
    obtain ⟨row, hRow, hTable⟩ := error_of_mapM hf
    obtain ⟨t, ht, -⟩ := hRows h row hRow
    rw [hTable] at ht
    cases ht

theorem Blames.allowed {t : Table} {talk : List Entry} {f : Fault} (h : Blames t talk f)
    (hNamed : Named t) (hOrderly : ∀ y ∈ talk, y.isOrderly = true) : Allowed dsns f := by
  cases h with
  | stopped hInit => exact .init hInit
  | reply hSaid hServer hAnswer =>
    rcases hAnswer with hInit | ⟨hFault, hOther⟩
    · exact .init hInit
    · have := isDriver_of_isOrderly (hOrderly _ hSaid) hServer hFault
      rw [hOther] at this
      cases this
  | unnamed hStatement =>
    obtain ⟨schema, name, rfl⟩ := hNamed
    cases hStatement
  | endless hEndless => exact .endless hEndless

theorem accounts_table (hConn : origin ≠ target) (t : Table) :
    Accounts (terms conn floor) (P ∧ Named t) (table origin target t) (fun _ => True)
      (Allowed dsns) := by
  apply tells_of_stands
  intro base n c
  apply (stands_table hConn t).weaken (fun _ h => h)
  · rintro stats w ⟨c', copy, -, -, -, h⟩
    exact ⟨c', copy, h, fun _ _ => trivial⟩
  · rintro f w ⟨c', copy, hCut, h⟩
    exact ⟨c', copy, h, fun hNamed hOrderly => .inl (hCut.blames.allowed hNamed.2 hOrderly)⟩

theorem accounts_eachTable (hConn : origin ≠ target) (ts : List Table) (bytes : Nat) :
    Accounts (terms conn floor) (P ∧ ∀ t ∈ ts, Named t) (eachTable origin target ts bytes)
      (fun _ => True) (Allowed dsns) := by
  induction ts generalizing P bytes with
  | nil => exact accounts_pure fun _ => trivial
  | cons t ts ih =>
    have ⟨hHead, hTail⟩ : ((∀ x ∈ t :: ts, Named x) → Named t) ∧
        ((∀ x ∈ t :: ts, Named x) → ∀ x ∈ ts, Named x) :=
      ⟨fun h => h t List.mem_cons_self, fun h x hx => h x (List.mem_cons_of_mem _ hx)⟩
    unfold eachTable
    apply accounts_bind ((accounts_table hConn t).given fun h => ⟨h.1, hHead h.2⟩)
    intro stats
    apply accounts_bind accounts_checkInterrupts
    exact fun _ => (ih _).given fun h => ⟨h, hTail h.1.1.2⟩

/-! ## The whole copy -/

variable {source sink application : String} {es es' : List Conninfo.Entry}

theorem accounts_transfer (hConn : origin ≠ target) (ts : List Table) :
    Accounts (terms conn floor) (P ∧ ∀ t ∈ ts, Named t) (transfer origin target ts)
      (fun _ => True) (Allowed dsns) := by
  unfold transfer
  apply accounts_bind (accounts_beginTarget _)
  intro _
  apply accounts_bind ((accounts_eachTable hConn ts 0).given fun h => ⟨h, h.1.2⟩)
  intro bytes
  apply accounts_bind (accounts_finishOrigin _)
  intro _
  apply accounts_bind (accounts_finishTarget _)
  exact fun _ => accounts_log _ _

/-- The connections that are asked for later differ from one that is open. -/
theorem accounts_connect_bind {good : α → Prop} {k : Nat → Action Site α} {dsn : String}
    (hDsn : dsn ∈ dsns) (hEntries : Conninfo.entries dsn = .ok es)
    (hApplication : '\x00' ∉ application.toList)
    (hk : ∀ c, Accounts (terms conn (c + 1)) P (k c) good (Allowed dsns)) :
    Accounts (terms conn floor) P (connect .queries (.text dsn) application >>= k) good
      (Allowed dsns) := by
  have hConnect : Accounts (terms conn floor) P (connect .queries (.text dsn) application)
      (fun c => floor ≤ c) (Allowed dsns) := accounts_connect .queries hDsn hEntries hApplication
  intro w (hw : floor ≤ w.connections)
  obtain ⟨talk, hTalk, hHolds, hEnd⟩ := hConnect w hw
  have hNew := stands_connect (.text dsn) application w (stands_self w)
  rw [outcome_bind]
  rcases hr : outcome (connect .queries (.text dsn) application) w with ⟨r, w'⟩
  rw [hr] at hTalk hHolds hEnd hNew
  cases r with
  | error f => exact ⟨talk, hTalk, hHolds, hEnd⟩
  | ok c =>
    obtain ⟨rfl, _, _, hStands⟩ := hNew
    have hRaised : w.connections + 1 ≤ w'.connections := hStands.connections.ge
    have hNext : Tells (terms conn (w.connections + 1)) talk P (k w.connections)
        (fun a _ => good a) (Allowed dsns) := (hk _).tells
    obtain ⟨talk', hTalk', hHolds', hEnd'⟩ := hNext w' hRaised
    have hFloor : floor ≤ (outcome (k w.connections) w').2.connections := by
      have : w.connections + 1 ≤ (outcome (k w.connections) w').2.connections := hHolds'
      omega
    refine ⟨talk ++ talk', ?_, hFloor, fun hP hOrderly => ?_⟩
    · rw [← List.append_assoc, ← hTalk]
      exact hTalk'
    · exact hEnd' hP fun y hy => hOrderly y (List.mem_append_right _ hy)

theorem accounts_prepare {pair : NodePair} (snapshot : Value) (extension : String)
    (hTarget : pair.target.dsn = .text sink) (hDsn : sink ∈ dsns)
    (hEntries : Conninfo.entries sink = .ok es) (hApplication : '\x00' ∉ application.toList) :
    Accounts (terms conn floor) P (prepare origin pair snapshot extension application)
      (fun x => ∀ t ∈ x.1, Named t) (Allowed dsns) := by
  unfold prepare
  apply accounts_bind (accounts_beginOrigin _ _)
  intro _
  apply accounts_bind (accounts_tables _ _ _)
  intro ts
  apply accounts_bind (accounts_log _ _)
  intro _
  rw [hTarget]
  apply accounts_bind (accounts_connect .queries hDsn hEntries hApplication)
  exact fun c => accounts_pure fun h => h.1.1.2

theorem ne_of_answers {pair : NodePair} {snapshot : Value} {extension : String} {ts : List Table}
    (h : (terms conn (origin + 1)).Answers (prepare origin pair snapshot extension application)
      (ts, target)) : origin ≠ target := by
  obtain ⟨w, hw, hAnswer⟩ := h
  have hEnd := (stands_prepare pair snapshot extension application).of_ok (stands_self w) hAnswer
  have hTarget : target = w.connections := hEnd.1
  have hFloor : origin + 1 ≤ w.connections := hw
  omega

theorem accounts_nodeData {pair : NodePair} (snapshot : Value) (extension : String)
    (hOrigin : pair.origin.dsn = .text source) (hSource : source ∈ dsns)
    (hSourceEntries : Conninfo.entries source = .ok es)
    (hTarget : pair.target.dsn = .text sink) (hSink : sink ∈ dsns)
    (hSinkEntries : Conninfo.entries sink = .ok es') (hApplication : '\x00' ∉ application.toList) :
    Accounts (terms conn floor) P (nodeData pair snapshot extension application) (fun _ => True)
      (Allowed dsns) := by
  unfold nodeData
  rw [hOrigin]
  apply accounts_connect_bind hSource hSourceEntries hApplication
  intro origin
  apply accounts_attempt_bind
    (accounts_prepare snapshot extension hTarget hSink hSinkEntries hApplication)
  · rintro ⟨ts, target⟩ hAnswers
    have hConn := ne_of_answers hAnswers
    apply accounts_bind (m := fun _ => True)
    · apply accounts_ensuring (accounts_transfer hConn ts)
      apply accounts_bind (accounts_closeQuietly _)
      exact fun _ => accounts_closeQuietly _
    · exact fun _ => accounts_pure fun _ => trivial
  · intro f Let
    apply accounts_bind (accounts_closeQuietly _)
    intro _
    exact (accounts_rethrow fun _ h => h).given And.left

end ReplicaBootstrap.Copy
