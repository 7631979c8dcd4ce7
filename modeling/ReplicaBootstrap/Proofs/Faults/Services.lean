import ReplicaBootstrap.Proofs.Faults.Orderly
import ReplicaBootstrap.Slot.Name
import ReplicaBootstrap.Slot.Provision

/-! # Faults of sessions, the catalog, slots and tools

What each service answers and fails with when its partners are orderly. Only the transaction that
provisions an origin lets faults of its begin and its commit through.
-/

namespace ReplicaBootstrap

open ReplicaBootstrap.Action Site

variable {α : Type} {conn floor : Nat} {P : Prop} {good : α → Prop} {allowed : Fault → Prop}
  {dsns : List String}

/-- What can be done with the site without saying anything. -/
theorem accounts_modifySite {f : Site → Site} (hTalk : ∀ w, (f w).journal = w.journal)
    (hConnections : ∀ w, (f w).connections = w.connections) :
    Accounts (terms conn floor) P (modify f : Action Site PUnit) (fun _ => True) allowed := by
  apply accounts_modify
  · intro w
    show ((f w).journal.toList.filter _) = _
    rw [hTalk]
    rfl
  · intro w (hw : floor ≤ w.connections)
    show floor ≤ (f w).connections
    rwa [hConnections]

theorem prefix_append {words s t : String} (h : words.toList <+: s.toList) :
    words.toList <+: (s ++ t).toList := by
  rw [String.toList_append]
  exact h.trans (List.prefix_append _ _)

namespace Session

variable {application dsn : String} {es : List Conninfo.Entry}

theorem sound_params (purpose : Purpose) (hApplication : '\x00' ∉ application.toList) :
    Conninfo.Sound (purpose.params application) := by
  have hOne : ("fallback_application_name" : String) ∈ Conninfo.keywords := by decide
  have hTwo : ("replication" : String) ∈ Conninfo.keywords := by decide
  cases purpose with
  | queries =>
    intro kv hkv
    rw [List.mem_singleton.mp hkv]
    exact ⟨hOne, hApplication⟩
  | replication =>
    intro kv hkv
    rcases List.mem_cons.mp hkv with rfl | hkv
    · exact ⟨hTwo, by decide⟩
    · rw [List.mem_singleton.mp hkv]
      exact ⟨hOne, hApplication⟩

/-- A new connection is none of those that were asked for before. -/
theorem accounts_connectTo (conninfo : String) :
    Accounts (terms conn floor) P (connectTo conninfo) (fun c => floor ≤ c)
      fun f => f.isDriver = true := by
  unfold connectTo
  apply accounts_bind (m := fun c => floor ≤ c)
  · intro w hw
    exact ⟨[], (List.append_nil _).symm, Nat.le_succ_of_le hw, fun _ _ => hw⟩
  intro c
  apply accounts_bind (accounts_request c _ rfl)
  exact fun _ => accounts_pure fun h => h.1.2

theorem accounts_connect (purpose : Purpose) (hDsn : dsn ∈ dsns)
    (hEntries : Conninfo.entries dsn = .ok es) (hApplication : '\x00' ∉ application.toList) :
    Accounts (terms conn floor) P (connect purpose (.text dsn) application) (fun c => floor ≤ c)
      (Allowed dsns) := by
  have hParams := sound_params purpose hApplication
  unfold connect
  apply accounts_bind (m := fun conninfo =>
    Conninfo.extend (.text dsn) (purpose.params application) = .ok conninfo)
  · apply accounts_ofExcept
    · exact fun _ h _ => h
    · intro f hf _
      obtain ⟨e, hParse, h⟩ := Conninfo.extend_error hEntries hParams hf
      exact .notText hDsn hParse h
  intro conninfo
  apply accounts_attempt_bind (accounts_connectTo conninfo)
  · exact fun c _ => accounts_pure fun h => h.2
  intro f Let
  dsimp only
  split
  · apply accounts_bind (accounts_log _ _)
    intro _
    apply accounts_bind (m := fun _ => True)
    · apply accounts_ofExcept
      · exact fun _ _ _ => trivial
      · intro g hg hExtended
        obtain ⟨masked, hMask⟩ := Conninfo.mask_extended hParams.known hExtended.1.1.2
        rw [hMask] at hg
        cases hg
    intro _
    exact accounts_throw fun _ => .inl (.init rfl)
  · rename_i hOther
    exact accounts_rethrow (e := fun f => f.isDriver = true) fun _ h => absurd h hOther

theorem accounts_execute (server : Nat) (query : String) (params : Option (List Value)) :
    Accounts (terms conn floor) P (execute server query params)
      (fun r => hasShape query r.rows = true) fun f => f.isDriver = true := by
  apply (accounts_request server query rfl).imp_good
  rintro r ⟨hFault, hOrderly⟩
  exact hasShape_of_isOrderly hOrderly hFault

theorem accounts_execute_explained (server : Nat) (query : String) (params : Option (List Value))
    {explain : Fault → Fault} (hExplain : ∀ f, (explain f).isInit = true) :
    Accounts (terms conn floor) P ((execute server query params).onDriverFault explain)
      (fun r => hasShape query r.rows = true) (Allowed dsns) :=
  Tells.weaken (tells_execute_explained server query params hExplain) id (fun _ _ _ h => h.1)
    (fun _ _ h => h)

theorem accounts_transaction (server : Nat) {body : Action Site α}
    (hBegin : Accounts (terms conn floor) P (request server (.beginTransaction server) "<begin>")
      (fun _ => True) allowed)
    (hCommit : Accounts (terms conn floor) P (request server (.commit server) "<commit>")
      (fun _ => True) allowed)
    (hBody : Accounts (terms conn floor) P body good allowed) :
    Accounts (terms conn floor) P (transaction server body) good allowed := by
  unfold transaction
  apply accounts_bind hBegin
  intro _
  apply accounts_attempt_bind (hBody.given And.left)
  · intro a _
    apply accounts_bind (hCommit.given fun h => h.1.1)
    exact fun _ => accounts_pure fun h => h.1.2
  · intro f Let
    apply accounts_bind (accounts_emit _)
    intro _
    exact (accounts_rethrow fun _ h => h).given And.left

theorem accounts_close (server : Nat) :
    Accounts (terms conn floor) P (close server) (fun _ => True) fun f => f.isDriver = true := by
  unfold close
  apply accounts_bind (accounts_request server _ rfl)
  exact fun _ => accounts_pure fun _ => trivial

theorem accounts_closeQuietly (server : Nat) :
    Accounts (terms conn floor) P (closeQuietly server) (fun _ => True) allowed := by
  apply accounts_tolerating
  · exact (accounts_close server).imp_allowed fun _ => .inl
  · exact fun f => accounts_log _ _

theorem accounts_column {row : List Value} {i : Nat} (h : P → i < row.length) :
    Accounts (terms conn floor) P (Action.ofExcept (column row i)) (fun v => row[i]? = some v)
      allowed := by
  unfold column
  cases hCell : row[i]? with
  | some v => exact accounts_pure fun _ => rfl
  | none =>
    apply accounts_throw
    intro hP
    exact absurd (h hP) (Nat.not_lt.mpr (List.getElem?_eq_none_iff.mp hCell))

/-- The first cell of a reply that has one. -/
theorem accounts_firstCell {reply : Reply} (h : P → (firstCell? reply.rows).isSome = true) :
    Accounts (terms conn floor) P
      (do
        let row ← firstRow reply
        Action.ofExcept (column row 0))
      (fun v => firstCell? reply.rows = some v) allowed := by
  apply accounts_bind (m := fun row => reply.rows.head? = some row)
  · unfold firstRow
    cases hRows : reply.rows with
    | cons row rest => exact accounts_pure fun _ => rfl
    | nil =>
      apply accounts_throw
      intro hP
      have := h hP
      rw [hRows] at this
      cases this
  intro row
  apply (accounts_column ?_).weaken id
  · rintro v ⟨-, hRow⟩ hCell
    rw [firstCell?, hRow, Option.bind_some, List.head?_eq_getElem?, hCell]
  · exact fun _ _ h => h
  · rintro ⟨hP, hRow⟩
    have := h hP
    rw [firstCell?, hRow] at this
    cases row with
    | nil => cases this
    | cons v rest => exact Nat.succ_pos _

end Session

namespace Catalog

open Session

theorem accounts_nodeTable (extension : String) :
    Accounts (terms conn floor) P (nodeTable extension) (fun _ => True) allowed := by
  apply accounts_ofExcept
  · exact fun _ _ _ => trivial
  · intro f hf _
    cases hf

theorem accounts_nodeStatus (server : Nat) (extension : String) (id : Value) :
    Accounts (terms conn floor) P (nodeStatus server extension id) (fun _ => True)
      (Allowed dsns) := by
  unfold nodeStatus
  apply accounts_bind (accounts_nodeTable extension)
  intro table
  apply accounts_bind (accounts_execute_explained _ _ _ fun _ => rfl)
  intro reply
  split
  · exact accounts_throw fun _ => .init rfl
  rename_i row rest hRows
  have hCell (h : hasShape ("SELECT node_status FROM " ++ table ++ " WHERE node_id = %s")
      reply.rows = true) : 0 < row.length := by
    have hShape := shape_of_hasShape h List.mem_cons_self
      (prefix_append (prefix_append List.prefix_rfl))
    rw [hRows, List.all_cons, Bool.and_eq_true] at hShape
    exact List.length_pos_iff.mpr (by simpa using hShape.1)
  apply accounts_bind (accounts_column fun h => hCell h.2)
  exact fun _ => accounts_pure fun _ => trivial

theorem accounts_updateOne (server : Nat) (query : String) (params : List Value) {missing : Fault}
    (hMissing : missing.isInit = true) :
    Accounts (terms conn floor) P (updateOne server query params missing) (fun _ => True)
      fun f => f.isDriver = true ∨ f.isInit = true := by
  unfold updateOne
  apply accounts_transaction
  · exact (accounts_request _ _ rfl).weaken id (fun _ _ _ => trivial) fun _ _ => .inl
  · exact (accounts_request _ _ rfl).weaken id (fun _ _ _ => trivial) fun _ _ => .inl
  apply accounts_bind ((accounts_execute _ _ _).imp_allowed fun _ => .inl)
  intro reply
  split
  · exact accounts_throw fun _ => .inr hMissing
  · exact accounts_pure fun _ => trivial

/-- A status is set in a transaction whose begin and commit are explained too. -/
theorem accounts_updateOne_explained (server : Nat) (query : String) (params : List Value)
    {missing : Fault} (hMissing : missing.isInit = true) (what : String) :
    Accounts (terms conn floor) P
      ((updateOne server query params missing).onDriverFault (explained what)) (fun _ => True)
      (Allowed dsns) := by
  apply accounts_onDriverFault
  · apply (accounts_updateOne server query params hMissing).imp_allowed
    exact fun _ => Or.imp_right .init
  · exact fun _ => .init rfl

theorem accounts_setNodeStatus (server : Nat) (extension : String) (id : Value)
    (status : NodeStatus) :
    Accounts (terms conn floor) P (setNodeStatus server extension id status) (fun _ => True)
      (Allowed dsns) := by
  unfold setNodeStatus
  apply accounts_bind (accounts_nodeTable extension)
  exact fun _ => accounts_updateOne_explained _ _ _ rfl _

theorem accounts_setRemoteNodeStatus (server : Nat) (extension : String) (name : Value)
    (status : NodeStatus) :
    Accounts (terms conn floor) P (setRemoteNodeStatus server extension name status)
      (fun _ => True) (Allowed dsns) := by
  unfold setRemoteNodeStatus
  apply accounts_bind (accounts_nodeTable extension)
  exact fun _ => accounts_updateOne_explained _ _ _ rfl _

/-- A query for one cell answers with the cell, if rows of its shape have one. -/
theorem accounts_ask (server : Nat) (query what : String)
    (hShape : ∀ rows, hasShape query rows = true → (firstCell? rows).isSome = true) :
    Accounts (terms conn floor) P (ask server query what)
      (fun v => ∃ rows, hasShape query rows = true ∧ firstCell? rows = some v) (Allowed dsns) := by
  unfold ask
  apply accounts_bind (accounts_execute_explained _ _ _ fun _ => rfl)
  intro reply
  apply (accounts_firstCell fun h => hShape _ h.2).weaken id
  · exact fun v h hFirst => ⟨reply.rows, h.2, hFirst⟩
  · exact fun _ _ h => h

theorem accounts_databaseName (server : Nat) :
    Accounts (terms conn floor) P (databaseName server) (fun v => ∃ name, v = .text name)
      (Allowed dsns) := by
  have hCell {rows : List (List Value)} (h : hasShape "SELECT current_database()" rows = true) :
      ((firstCell? rows).bind Value.text?).isSome = true :=
    shape_of_hasShape h (List.mem_cons_of_mem _ List.mem_cons_self) (List.prefix_rfl)
  apply (accounts_ask server _ _ ?_).imp_good
  · rintro v ⟨rows, hShape, hFirst⟩
    have hText := hCell hShape
    rw [hFirst, Option.bind_some] at hText
    obtain ⟨name, hName⟩ := Option.isSome_iff_exists.mp hText
    exact ⟨name, Value.text?_eq_some.mp hName⟩
  · intro rows h
    exact Option.isSome_of_isSome_bind (hCell h)

theorem accounts_serverVersion (server : Nat) :
    Accounts (terms conn floor) P (serverVersion server) (fun _ => True) (Allowed dsns) := by
  have hCell {rows : List (List Value)} (h : hasShape "SHOW server_version_num" rows = true) :
      (firstCell? rows).any (wholeNumber · |>.isOk) = true :=
    shape_of_hasShape h (List.mem_cons_of_mem _ (List.mem_cons_of_mem _ List.mem_cons_self))
      (List.prefix_rfl)
  unfold serverVersion
  apply accounts_bind (accounts_ask server _ _ ?_)
  · intro v
    apply accounts_ofExcept
    · exact fun _ _ _ => trivial
    · rintro f hf ⟨-, rows, hShape, hFirst⟩
      have := hCell hShape
      rw [hFirst, Option.any_some, hf] at this
      cases this
  · intro rows h
    cases hFirst : firstCell? rows with
    | some v => rfl
    | none =>
      have := hCell h
      rw [hFirst] at this
      cases this

end Catalog

namespace SlotProvision

open Session

theorem slotOfRow_error {query plugin : String} {row : List Value} {f : Fault}
    (hRow : describesSlot row = true) (h : slotOfRow query plugin row = .error f) :
    f.isInit = true := by
  unfold describesSlot at hRow
  split at hRow
  · cases hRow
  rename_i hBytes
  match row, hRow with
  | name :: position :: snapshot :: rest, _ =>
    simp only [slotOfRow, column, List.getElem?_cons_succ, List.getElem?_cons_zero, bind,
      Except.bind] at h
    cases position with
    | bytes b => exact absurd rfl (hBytes name b (snapshot :: rest))
    | text s =>
      cases hParse : Lsn.parse s with
      | ok v =>
        simp only [canonicalLsn, hParse] at h
        cases h
      | error e =>
        simp only [canonicalLsn, hParse] at h
        cases h
        rfl
    | _ =>
      cases h
      rfl

/-- A slot that is there is the last thing that was told. -/
theorem tells_createSlot (server : Nat) (plugin name : String) :
    Tells (terms conn floor) before P (createSlot server plugin name)
      (fun _ said => ∃ query params r, "CREATE_REPLICATION_SLOT ".toList <+: query.toList ∧
        said = before ++ [.exchange (.execute server query params) r])
      (Allowed dsns) := by
  have hWords (s t u : String) : "CREATE_REPLICATION_SLOT ".toList <+:
      ("CREATE_REPLICATION_SLOT \"" ++ s ++ t ++ u).toList :=
    prefix_append (prefix_append (prefix_append (by decide)))
  unfold createSlot
  apply tells_bind (tells_execute_explained _ _ _ fun _ => rfl)
  intro reply said
  split
  · exact tells_throw fun _ => .inl (.init rfl)
  rename_i row rest hRows
  apply tells_bind (m := fun _ said' => said' = said)
  · apply tells_ofExcept
    · exact fun _ _ _ => rfl
    · rintro f hf ⟨-, h, -⟩
      have hShape := shape_of_hasShape h
        (List.mem_cons_of_mem _ (List.mem_cons_of_mem _ (List.mem_cons_of_mem _
          (List.mem_cons_of_mem _ List.mem_cons_self)))) (hWords _ _ _)
      rw [hRows, List.all_cons, Bool.and_eq_true] at hShape
      exact .inl (.init (slotOfRow_error hShape.1 hf))
  intro slot said'
  apply tells_bind (tells_emit _)
  intro _ said''
  apply tells_pure
  rintro ⟨⟨⟨-, -, rfl⟩, rfl⟩, rfl⟩
  exact ⟨_, _, _, hWords _ _ _, rfl⟩

theorem accounts_lookUpOrCreate (server : Nat) (name : Value) :
    Accounts (terms conn floor) P (lookUpOrCreate server name) (fun _ => True)
      fun f => f.isDriver = true := by
  unfold lookUpOrCreate
  apply accounts_bind (accounts_execute _ _ _)
  intro found
  split
  · apply accounts_bind (accounts_log _ _)
    exact fun _ => accounts_pure fun _ => trivial
  apply accounts_bind (accounts_execute _ _ _)
  intro created
  rw [← bind_assoc]
  apply accounts_bind (accounts_firstCell ?_)
  · intro id
    apply accounts_bind (accounts_log _ _)
    exact fun _ => accounts_pure fun _ => trivial
  · rintro ⟨-, h⟩
    exact shape_of_hasShape h (List.mem_cons_of_mem _ (List.mem_cons_of_mem _
      (List.mem_cons_of_mem _ List.mem_cons_self))) (by decide)

theorem accounts_ensureOrigin (server : Nat) (name : Value) :
    Accounts (terms conn floor) P (ensureOrigin server name) (fun _ => True) (Allowed dsns) := by
  apply accounts_onDriverFault
  · exact (accounts_lookUpOrCreate server name).imp_allowed fun _ => .inl
  · exact fun _ => .init rfl

/-- An origin that is advanced is the last thing that was told. -/
theorem tells_advanceOrigin (server : Nat) (name : Value) (lsn : String) :
    Tells (terms conn floor) before P (advanceOrigin server name lsn)
      (fun _ said => ∃ params r, said = before ++
        [.exchange (.execute server "SELECT pg_replication_origin_advance(%s, %s::pg_lsn)" params) r])
      (Allowed dsns) := by
  unfold advanceOrigin
  apply tells_bind (tells_execute_explained _ _ _ fun _ => rfl)
  intro reply said
  apply (tells_emit _).weaken id
  · rintro _ said' ⟨-, -, rfl⟩ rfl
    exact ⟨_, _, rfl⟩
  · exact fun _ _ h => h

theorem append_pair (before : List Entry) (x y : Entry) : [x, y] <:+: before ++ [x] ++ [y] := by
  rw [List.append_assoc]
  exact (List.suffix_append _ _).isInfix

/-- The begin and the commit of the transaction around a new origin stand outside of what explains
faults. -/
theorem tells_provisionOrigin (slot : Slot) :
    Tells (terms conn floor) before
      (P ∧ ∃ server query params r said, "CREATE_REPLICATION_SLOT ".toList <+: query.toList ∧
        before = said ++ [.exchange (.execute server query params) r])
      (provisionOrigin conn slot) (fun _ _ => True) (Allowed dsns) := by
  unfold provisionOrigin transaction
  apply tells_bind
  · apply tells_request
    rintro r f ⟨-, server, query, params, r', said, hSlot, rfl⟩ hFault
    exact ⟨_, append_pair _ _ _, .begin hSlot hFault⟩
  intro _ said
  apply tells_attempt_bind (e := Allowed dsns) (m := fun _ said => ∃ before params r,
    said = before ++ [.exchange (.execute conn
      "SELECT pg_replication_origin_advance(%s, %s::pg_lsn)" params) r])
  · apply tells_bind (accounts_ensureOrigin _ _).tells
    intro id said'
    apply tells_bind (tells_advanceOrigin _ _ _)
    intro _ said''
    apply tells_pure
    rintro ⟨-, params, r, rfl⟩
    exact ⟨_, _, _, rfl⟩
  · intro id said' _
    apply tells_bind
    · apply tells_request
      rintro r f ⟨-, before', params, r', rfl⟩ hFault
      exact ⟨_, append_pair _ _ _, .commit hFault⟩
    · exact fun _ _ => tells_pure fun _ => trivial
  · intro f said'
    apply tells_bind (tells_emit _)
    intro _ said''
    apply tells_throw
    rintro ⟨⟨-, hf⟩, rfl⟩
    exact hf

theorem accounts_makeOtherSlots (target : Value) :
    Accounts (terms conn floor) P (makeOtherSlots target) (fun _ => True) allowed := by
  unfold makeOtherSlots
  apply accounts_bind (accounts_log _ _)
  exact fun _ => accounts_pure fun _ => trivial

end SlotProvision

namespace SchemaTool

variable {base talk : List Entry} {n : Nat} {c : Nat → Option String}

theorem stands_runCommand (command : List String) :
    Meets (Stands base n c talk) (runCommand command)
      (fun r w => r.fault = none ∧ Stands base n c (talk ++ [.exchange (.run command) r]) w)
      (fun f w => ∃ r, r.fault = some f ∧
        Stands base n c (talk ++ [.exchange (.run command) r]) w) := by
  unfold runCommand
  apply meets_bind (m := fun _ => Stands base n c talk)
  · exact meets_get fun _ h => h
  intro q
  dsimp only
  generalize q.commands.answer (" ".intercalate command) = answer
  obtain ⟨reply, commands⟩ := answer
  apply meets_bind (m := fun _ => Stands base n c (talk ++ [.exchange (.run command) reply]))
  · apply meets_modify
    intro w h
    have hSaid := h.record (.exchange (.run command) reply)
    exact ⟨hSaid.talk, hSaid.connections, hSaid.copying⟩
  intro _
  apply (stands_resolve reply).weaken (fun _ h => h)
  · rintro _ w ⟨rfl, hFault, h⟩
    exact ⟨hFault, h⟩
  · exact fun f w h => ⟨reply, h⟩

/-- A tool that the system does not run is a fault of the initialisation. -/
theorem stands_explainedCommand (command : List String) {explain : Fault → Fault}
    (hExplain : ∀ f, (explain f).isInit = true) :
    Meets (Stands base n c talk) (onSystemFault (runCommand command) explain)
      (fun r w => r.fault = none ∧ Stands base n c (talk ++ [.exchange (.run command) r]) w)
      (fun f w => ∃ r, Stands base n c (talk ++ [.exchange (.run command) r]) w ∧
        ((Entry.exchange (.run command) r).isOrderly = true → f.isInit = true)) := by
  unfold onSystemFault
  apply meets_attempt_bind (stands_runCommand command)
  · exact fun r => meets_pure fun _ h => h
  intro f
  apply meets_throw
  rintro w ⟨r, hFault, h⟩
  refine ⟨r, h, fun hOrderly => ?_⟩
  rw [if_pos (isSystem_of_isOrderly hOrderly hFault)]
  exact hExplain f

theorem accounts_explainedCommand (command : List String) {explain : Fault → Fault}
    (hExplain : ∀ f, (explain f).isInit = true) :
    Accounts (terms conn floor) P (onSystemFault (runCommand command) explain) (fun _ => True)
      (Allowed dsns) := by
  apply tells_of_stands
  intro base n c
  apply (stands_explainedCommand command hExplain).weaken (fun _ h => h)
  · exact fun r w h => ⟨c, _, h.2, fun _ _ => trivial⟩
  · rintro f w ⟨r, h, hInit⟩
    exact ⟨c, _, h, fun _ hOrderly => .inl (.init (hInit (hOrderly _ List.mem_cons_self)))⟩

theorem accounts_probe (path : String) :
    Accounts (terms conn floor) P (probe path) (fun _ => True) (Allowed dsns) := by
  apply tells_of_stands
  intro base n c
  -- The fault of an unreadable version is told apart only by the answer that it was read from.
  let Told (r : Reply) (w : Site) : Prop :=
    Stands base n c [.exchange (.run [path, "-V"]) r] w
  unfold probe
  apply meets_bind (m := fun r => Told r)
  · apply (stands_explainedCommand [path, "-V"] fun _ => rfl).weaken (fun _ h => h)
    · exact fun r w h => h.2
    · rintro f w ⟨r, h, hInit⟩
      exact ⟨c, _, h, fun _ hOrderly => .inl (.init (hInit (hOrderly _ List.mem_cons_self)))⟩
  intro r
  dsimp only
  split
  · apply meets_bind (m := fun _ => Told r)
    · apply meets_ofExcept
      · exact fun _ _ _ h => h
      · intro f hf w h
        refine ⟨c, _, h, fun _ _ => .inr ⟨_, List.infix_rfl, ?_⟩⟩
        cases hVersion : Version.parseTool r.stdout with
        | ok version =>
          rw [hVersion] at hf
          cases hf
        | error e =>
          rw [hVersion] at hf
          cases hf
          exact .version hVersion rfl
    intro version
    split
    · exact meets_pure fun _ h => ⟨c, _, h, fun _ _ => trivial⟩
    · exact meets_throw fun _ h => ⟨c, _, h, fun _ _ => .inl (.init rfl)⟩
  · exact meets_throw fun _ h => ⟨c, _, h, fun _ _ => .inl (.init rfl)⟩

theorem accounts_findDirectory (tool : SchemaTool) :
    Accounts (terms conn floor) P tool.findDirectory (fun _ => True) (Allowed dsns) := by
  unfold findDirectory
  split
  · apply accounts_bind accounts_get
    intro w
    dsimp only
    split
    · exact accounts_throw fun _ => .init rfl
    · exact accounts_pure fun _ => trivial
  · exact accounts_pure fun _ => trivial

theorem accounts_find (tool : SchemaTool) (name : String) :
    Accounts (terms conn floor) P (tool.find name) (fun _ => True) (Allowed dsns) := by
  unfold find
  apply accounts_bind accounts_get
  intro w
  split
  · exact accounts_pure fun _ => trivial
  apply accounts_bind (accounts_findDirectory tool)
  intro directory
  apply accounts_bind accounts_get
  intro w'
  split
  · exact accounts_throw fun _ => .init rfl
  apply accounts_bind (accounts_probe _)
  intro version
  dsimp only
  split
  · exact accounts_throw fun _ => .init rfl
  apply accounts_bind (accounts_log _ _)
  intro _
  apply accounts_bind (m := fun _ => True)
  · exact accounts_modifySite (fun _ => rfl) (fun _ => rfl)
  exact fun _ => accounts_pure fun _ => trivial

theorem accounts_checkVersion (tool : SchemaTool) :
    Accounts (terms conn floor) P tool.checkVersion (fun _ => True) (Allowed dsns) := by
  unfold checkVersion
  apply accounts_bind (accounts_find tool _)
  intro _
  apply accounts_bind (accounts_find tool _)
  exact fun _ => accounts_pure fun _ => trivial

theorem accounts_run (command : List String) {dsn : String} (hDsn : dsn ∈ dsns) :
    Accounts (terms conn floor) P (run command (.text dsn)) (fun _ => True) (Allowed dsns) := by
  unfold run
  apply accounts_bind (m := fun _ => True)
  · apply accounts_ofExcept
    · exact fun _ _ _ => trivial
    · intro f hf _
      obtain ⟨argument, -, hf⟩ := error_of_mapM hf
      split at hf
      · rename_i hSame
        obtain ⟨e, hParse, h⟩ := Conninfo.mask_error hf
        exact .notText hDsn (Option.some.inj hSame ▸ hParse) h
      · cases hf
  intro shown
  apply accounts_bind (accounts_log _ _)
  intro _
  apply accounts_bind (accounts_explainedCommand _ fun _ => rfl)
  intro reply
  split
  · exact accounts_throw fun _ => .init rfl
  · exact accounts_pure fun _ => trivial

theorem accounts_dump (tool : SchemaTool) (snapshot : Value) (archive : String) {dsn : String}
    (hDsn : dsn ∈ dsns) :
    Accounts (terms conn floor) P (tool.dump snapshot archive (.text dsn)) (fun _ => True)
      (Allowed dsns) := by
  unfold dump
  apply accounts_bind (accounts_find tool _)
  exact fun _ => accounts_run _ hDsn

theorem accounts_restore (tool : SchemaTool) {part : String} (archive : String) {dsn : String}
    (hPart : sections.contains part = true) (hDsn : dsn ∈ dsns) :
    Accounts (terms conn floor) P (tool.restore part archive (.text dsn)) (fun _ => True)
      (Allowed dsns) := by
  unfold restore
  simp only [hPart, Bool.not_true, Bool.false_eq_true, if_false]
  apply accounts_bind (accounts_find tool _)
  exact fun _ => accounts_run _ hDsn

end SchemaTool

end ReplicaBootstrap
