import ReplicaBootstrap.Proofs.Copy.Relay

/-! # What is said while a node is copied

From any site, what a copy of a node says follows its course, whether it is completed or cut off.
-/

namespace ReplicaBootstrap.Copy

open ReplicaBootstrap.Action Site Session

variable {base talk : List Entry} {n : Nat} {c : Nat → Option String} {origin target : Nat}

/-! ## Before the target's transaction -/

theorem stands_connectTo (conninfo : String) :
    Meets (Stands base n c talk) (connectTo conninfo)
      (fun conn w => conn = n ∧ ∃ r, r.fault = none ∧
        Stands base (n + 1) c (talk ++ [.exchange (.connect n conninfo true) r]) w)
      (fun _ w => ∃ r, r.fault ≠ none ∧
        Stands base (n + 1) c (talk ++ [.exchange (.connect n conninfo true) r]) w) := by
  unfold connectTo
  apply meets_bind (m := fun conn w => conn = n ∧ Stands base (n + 1) c talk w)
  · intro w h
    exact ⟨h.connections, h.talk, congrArg (· + 1) h.connections, h.copying⟩
  intro conn
  apply meets_known
  rintro _ ⟨rfl, h⟩
  refine ⟨_, h, ?_⟩
  apply meets_bind
  · apply (stands_request _ _ _).imp_bad
    rintro f w ⟨r, hFault, h⟩
    exact ⟨r, by simp [hFault], h⟩
  intro r
  exact meets_pure fun _ h => ⟨rfl, r, h⟩

/-- With a string that could be extended, one connection is asked for, whatever the server says. -/
theorem stands_connect_extended {purpose : Purpose} {dsn : Value} {application conninfo : String}
    (hConninfo : Conninfo.extend dsn (purpose.params application) = .ok conninfo) :
    Meets (Stands base n c talk) (connect purpose dsn application)
      (fun conn w => conn = n ∧ ∃ r, r.fault = none ∧
        Stands base (n + 1) c (talk ++ [.exchange (.connect n conninfo true) r]) w)
      (fun _ w => ∃ r, r.fault ≠ none ∧
        Stands base (n + 1) c (talk ++ [.exchange (.connect n conninfo true) r]) w) := by
  unfold connect
  rw [hConninfo]
  apply meets_bind (m := fun read w => read = conninfo ∧ Stands base n c talk w)
  · exact fun _ h => ⟨rfl, h⟩
  intro read
  apply meets_known
  rintro _ ⟨rfl, h⟩
  refine ⟨_, h, ?_⟩
  apply meets_attempt_bind (stands_connectTo read)
  · exact fun conn => meets_pure fun _ h => h
  · intro f
    apply meets_known
    rintro _ ⟨r, hConnect, h⟩
    refine ⟨_, h, ?_⟩
    have hRefused (w : Site)
        (h : Stands base (n + 1) c (talk ++ [.exchange (.connect n read true) r]) w) :
        ∃ r, r.fault ≠ none ∧
          Stands base (n + 1) c (talk ++ [.exchange (.connect n read true) r]) w := ⟨r, hConnect, h⟩
    dsimp only
    split
    · apply meets_bind (stands_log _ _)
      intro _
      apply meets_bind (meets_ofExcept (fun _ _ _ h => h) (fun _ _ => hRefused))
      intro _
      exact meets_throw hRefused
    · exact meets_throw hRefused

theorem stands_connect (dsn : Value) (application : String) :
    Meets (Stands base n c talk) (connect .queries dsn application)
      (fun conn w => conn = n ∧ ∃ opening, Connected application n dsn opening ∧
        Stands base (n + 1) c (talk ++ opening) w)
      (fun _ w => ∃ n' said, ConnectCut application n dsn said ∧
        Stands base n' c (talk ++ said) w) := by
  cases hExtend : Conninfo.extend dsn (Purpose.queries.params application) with
  | ok conninfo =>
    apply (stands_connect_extended hExtend).weaken (fun _ h => h)
    · rintro conn w ⟨rfl, r, hConnect, h⟩
      exact ⟨rfl, _, .mk hExtend hConnect, h⟩
    · rintro f w ⟨r, hConnect, h⟩
      exact ⟨n + 1, _, .refused hConnect, h⟩
  | error f =>
    unfold connect
    rw [hExtend]
    apply meets_bind (m := fun _ _ => False)
    · intro w h
      refine ⟨n, [], .unread hExtend, ?_⟩
      rw [List.append_nil]
      exact h
    · exact fun _ _ h => h.elim

theorem stands_beginOrigin (snapshot : Value) :
    Meets (Stands base n c talk) (beginOrigin origin snapshot)
      (fun _ w => ∃ begun, Begun snapshot origin begun ∧ Stands base n c (talk ++ begun) w)
      (fun _ w => ∃ said, BeginCut snapshot origin said ∧ Stands base n c (talk ++ said) w) := by
  unfold beginOrigin
  apply meets_bind (m := fun _ w => ∃ begun, Begun snapshot origin begun ∧
    Stands base n c (talk ++ begun) w)
  · apply meets_onDriverFault
    apply meets_bind (m := fun literal w => Sql.literal snapshot = .ok literal ∧
      Stands base n c talk w)
    · apply meets_ofExcept
      · intro literal hLiteral w h
        exact ⟨hLiteral, h⟩
      · intro f hLiteral w h
        refine ⟨[], .unwritten hLiteral, ?_⟩
        rw [List.append_nil]
        exact h
    intro literal
    apply meets_known
    rintro _ ⟨hLiteral, h⟩
    refine ⟨_, h, ?_⟩
    rw [originSetup_eq]
    apply (stands_request origin _ _).weaken (fun _ h => h)
    · rintro r w ⟨hBegin, h⟩
      refine ⟨_, .mk hLiteral ?_ hBegin, h⟩
      rintro text rfl
      exact Sql.standsFor_literal hLiteral
    · rintro f w ⟨r, hFault, h⟩
      exact ⟨_, .refused (by simp [hFault]), h⟩
  intro _
  apply meets_known
  rintro _ ⟨begun, hBegun, h⟩
  refine ⟨_, h, ?_⟩
  exact (stands_log _ _).imp_good (fun _ _ h => ⟨begun, hBegun, h⟩)

theorem stands_tables (pair : NodePair) (extension : String) :
    Meets (Stands base n c talk) (tables origin pair.replicationSets extension)
      (fun ts w => ∃ listing, Listed pair extension origin ts listing ∧
        Stands base n c (talk ++ listing) w)
      (fun _ w => ∃ said, ListCut origin said ∧ Stands base n c (talk ++ said) w) := by
  unfold tables
  apply meets_bind (m := fun name w => name = Sql.quotedName extension ∧ Stands base n c talk w)
  · exact meets_pure fun _ h => ⟨rfl, h⟩
  intro name
  apply meets_known
  rintro _ ⟨rfl, h⟩
  refine ⟨_, h, ?_⟩
  apply meets_bind
  · apply (stands_answered _ _ _).imp_bad
    rintro f w ⟨r, g, hFault, -, h⟩
    exact ⟨_, .refused (by simp [hFault]), h⟩
  intro r
  apply meets_known
  rintro _ ⟨hList, h⟩
  refine ⟨_, h, ?_⟩
  apply meets_ofExcept
  · intro ts hRows w h
    exact ⟨_, .mk hList (mapM_tableOfRow_eq_ok_iff.mp hRows), h⟩
  · intro f hRows w h
    exact ⟨_, .unread hRows, h⟩

theorem stands_prepare (pair : NodePair) (snapshot : Value) (extension application : String) :
    Meets (Stands base n c talk) (prepare origin pair snapshot extension application)
      (fun x w => x.2 = n ∧ ∃ prepared,
        Prepared pair snapshot extension application origin n x.1 prepared ∧
          Stands base (n + 1) c (talk ++ prepared) w)
      (fun _ w => ∃ n' said, PrepareCut pair snapshot extension application origin n said ∧
        Stands base n' c (talk ++ said) w) := by
  unfold prepare
  apply meets_bind
  · apply (stands_beginOrigin snapshot).imp_bad
    rintro f w ⟨said, hBegin, h⟩
    exact ⟨n, said, .begin hBegin, h⟩
  intro _
  apply meets_known
  rintro _ ⟨begun, hBegun, h⟩
  refine ⟨_, h, ?_⟩
  apply meets_bind
  · apply (stands_tables pair extension).imp_bad
    rintro f w ⟨said, hListing, h⟩
    rw [List.append_assoc] at h
    exact ⟨n, _, .listing hBegun hListing, h⟩
  intro ts
  apply meets_known
  rintro _ ⟨listing, hListing, h⟩
  refine ⟨_, h, ?_⟩
  dsimp only
  apply meets_bind (stands_log _ _)
  intro _
  apply meets_bind
  · apply (stands_connect _ application).imp_bad
    rintro f w ⟨n', said, hSink, h⟩
    rw [List.append_assoc, List.append_assoc, ← List.append_assoc begun] at h
    exact ⟨n', _, .connect hBegun hListing hSink, h⟩
  intro conn
  apply meets_pure
  rintro w ⟨rfl, sink, hSink, h⟩
  rw [List.append_assoc, List.append_assoc, ← List.append_assoc begun] at h
  exact ⟨rfl, _, .mk hBegun hListing hSink, h⟩

/-! ## The transactions -/

/-- A complaint of the driver about a request is only noted. -/
theorem stands_tolerated {conn : Nat} (e : Event) (text : String) (level : Level)
    (words : Fault → String) :
    Meets (Stands base n c talk)
      (Action.tolerating (do let _ ← request conn e text) fun f => log level (words f))
      (fun _ w => ∃ r, Tolerable r ∧ Stands base n c (talk ++ [.exchange e r]) w)
      (fun _ w => ∃ r, ¬ Tolerable r ∧ Stands base n c (talk ++ [.exchange e r]) w) := by
  apply meets_tolerating (e := fun f w => ∃ r, r.fault = some f ∧
    Stands base n c (talk ++ [.exchange e r]) w)
  · apply meets_bind (stands_request conn e text)
    intro r
    apply meets_pure
    rintro w ⟨hFault, h⟩
    exact ⟨r, tolerable_of_none hFault, h⟩
  · intro f hDriver
    apply meets_known
    rintro _ ⟨r, hFault, h⟩
    refine ⟨_, h, ?_⟩
    exact (stands_log _ _).imp_good fun _ _ h => ⟨r, tolerable_of_driver hFault hDriver, h⟩
  · rintro f hOther w ⟨r, hFault, h⟩
    exact ⟨r, not_tolerable_of_other hFault hOther, h⟩

theorem stands_transfer (hConn : origin ≠ target) (ts : List Table) :
    Meets (Stands base n c talk) (transfer origin target ts)
      (fun _ w => ∃ c' said r, Transferred origin target ts said ∧ r.fault = none ∧
        Stands base n c' (talk ++ (said ++ [.exchange (.execute target "COMMIT" none) r])) w)
      (fun f w => (∃ c' said, TransferCut origin target ts said f ∧
          Stands base n c' (talk ++ said) w) ∨
        ∃ c' said r, Transferred origin target ts said ∧ r.fault ≠ none ∧
          Stands base n c' (talk ++ (said ++ [.exchange (.execute target "COMMIT" none) r])) w) := by
  unfold transfer beginTarget
  rw [targetSetup_eq]
  apply meets_bind (m := fun _ w => ∃ r, r.fault = none ∧
    Stands base n c (talk ++ [.exchange (.execute target (script targetOpening) none) r]) w)
  · apply meets_bind
    · apply (stands_answered _ _ _).imp_bad
      rintro f w ⟨r, g, hFault, -, h⟩
      exact .inl ⟨c, _, .begin (by simp [hFault]), h⟩
    intro r
    apply meets_known
    rintro _ ⟨hBegin, h⟩
    refine ⟨_, h, ?_⟩
    exact (stands_log _ _).imp_good (fun _ _ h => ⟨r, hBegin, h⟩)
  intro _
  apply meets_known
  rintro _ ⟨r, hBegin, h⟩
  refine ⟨_, h, ?_⟩
  apply meets_bind
  · apply (stands_eachTable hConn ts 0).imp_bad
    rintro f w ⟨c', copies, hCopies, h⟩
    rw [List.append_assoc] at h
    exact .inl ⟨c', _, .tables hBegin hCopies, h⟩
  intro bytes
  apply meets_known
  rintro _ ⟨c', copies, hCopies, h⟩
  refine ⟨_, h, ?_⟩
  have hTalk (r' : Reply) :
      talk ++ [.exchange (.execute target (script targetOpening) none) r] ++ copies ++
          [.exchange (.execute origin "ROLLBACK" none) r'] =
        talk ++ (.exchange (.execute target (script targetOpening) none) r :: copies ++
          [.exchange (.execute origin "ROLLBACK" none) r']) := by
    rw [List.append_assoc, List.append_assoc]
    rfl
  apply meets_bind
  · apply (stands_tolerated _ _ .warning _).imp_bad
    rintro f w ⟨r', hRollback, h⟩
    rw [hTalk] at h
    exact .inl ⟨c', _, .rollback hBegin hCopies hRollback, h⟩
  intro _
  apply meets_known
  rintro _ ⟨r', hRollback, h⟩
  refine ⟨_, h, ?_⟩
  have hSaid : Transferred origin target ts _ := .mk hBegin hCopies hRollback
  rw [hTalk]
  unfold finishTarget
  apply meets_bind (m := fun _ w => ∃ c' said r, Transferred origin target ts said ∧
    r.fault = none ∧
      Stands base n c' (talk ++ (said ++ [.exchange (.execute target "COMMIT" none) r])) w)
  · apply meets_bind
    · apply (stands_answered _ _ _).imp_bad
      rintro f w ⟨r'', g, hFault, -, h⟩
      rw [List.append_assoc] at h
      exact .inr ⟨c', _, r'', hSaid, by simp [hFault], h⟩
    intro r''
    apply meets_pure
    rintro w ⟨hCommit, h⟩
    rw [List.append_assoc] at h
    exact ⟨c', _, r'', hSaid, hCommit, h⟩
  intro _
  apply meets_known
  rintro _ ⟨c'', said, r'', hTransferred, hCommit, h⟩
  refine ⟨_, h, ?_⟩
  exact (stands_log _ _).imp_good (fun _ _ h => ⟨c'', said, r'', hTransferred, hCommit, h⟩)

/-! ## Closing the connections -/

theorem closings_nil : Closings [] := fun _ h => by cases h

theorem Closings.cons (h : Closings talk) (conn : Nat) (r : Reply) :
    Closings (.exchange (.close conn) r :: talk) := by
  intro x hx
  rcases List.mem_cons.mp hx with rfl | hx
  · exact ⟨conn, r, rfl⟩
  · exact h x hx

theorem stands_closeQuietly (conn : Nat) :
    Meets (Stands base n c talk) (closeQuietly conn)
      (fun _ w => ∃ r, Tolerable r ∧ Stands base n c (talk ++ [.exchange (.close conn) r]) w)
      (fun _ w => ∃ r, ¬ Tolerable r ∧ Stands base n c (talk ++ [.exchange (.close conn) r]) w) :=
  stands_tolerated _ _ _ _

theorem stands_closing (origin target : Nat) :
    Meets (Stands base n c talk)
      (do
        closeQuietly origin
        closeQuietly target)
      (fun _ w => ∃ r r', Stands base n c
        (talk ++ [.exchange (.close origin) r, .exchange (.close target) r']) w)
      (fun _ w => ∃ closing, Closings closing ∧ Unclosed closing ∧
        Stands base n c (talk ++ closing) w) := by
  apply meets_bind
  · apply (stands_closeQuietly origin).imp_bad
    rintro f w ⟨r, hFault, h⟩
    exact ⟨_, closings_nil.cons origin r, ⟨origin, r, List.mem_cons_self, hFault⟩, h⟩
  intro _
  apply meets_known
  rintro _ ⟨r, -, h⟩
  refine ⟨_, h, ?_⟩
  apply (stands_closeQuietly target).weaken (fun _ h => h)
  · rintro _ w ⟨r', -, h⟩
    rw [List.append_assoc] at h
    exact ⟨r, r', h⟩
  · rintro f w ⟨r', hFault, h⟩
    rw [List.append_assoc] at h
    exact ⟨_, (closings_nil.cons target r').cons origin r,
      ⟨target, r', List.mem_cons_of_mem _ List.mem_cons_self, hFault⟩, h⟩

/-! ## The whole copy -/

theorem Prepared.committable {pair : NodePair} {snapshot : Value} {extension application : String}
    {ts : List Table} {source prepared said : List Entry}
    (h : Prepared pair snapshot extension application origin target ts prepared)
    (hSource : Connected application origin pair.origin.dsn source)
    (hSaid : Transferred origin target ts said) :
    Committable pair snapshot extension application origin target ts
      (source ++ prepared ++ said) := by
  obtain ⟨hBegun, hListing, hSink⟩ := h
  obtain ⟨hBegin, hCopies, hRollback⟩ := hSaid
  rw [← List.append_assoc, ← List.append_assoc, ← List.append_assoc]
  exact .mk hSource hBegun hListing hSink hBegin hCopies hRollback

theorem stands_nodeData (pair : NodePair) (snapshot : Value) (extension application : String) :
    Meets (Stands base n c []) (nodeData pair snapshot extension application)
      (fun ts w => ∃ n' c' talk,
        Course pair snapshot extension application n (n + 1) (.ok ts) talk ∧
          Stands base n' c' talk w)
      (fun f w => ∃ n' c' talk,
        Course pair snapshot extension application n (n + 1) (.error f) talk ∧
          Stands base n' c' talk w) := by
  have hConn : n ≠ n + 1 := Nat.ne_of_lt (Nat.lt_succ_self n)
  unfold nodeData
  apply meets_bind
  · apply (stands_connect _ application).imp_bad
    rintro f w ⟨n', said, hSource, h⟩
    exact ⟨n', c, said, .unconnected hSource, h⟩
  intro conn
  apply meets_known
  rintro _ ⟨rfl, source, hSource, h⟩
  refine ⟨_, h, ?_⟩
  apply meets_attempt_bind (stands_prepare pair snapshot extension application)
  · rintro ⟨ts, target⟩
    apply meets_known
    rintro _ ⟨rfl, prepared, hPrepared, h⟩
    refine ⟨_, h, ?_⟩
    apply meets_bind (m := fun _ w => ∃ n' c' talk,
      Course pair snapshot extension application conn (conn + 1) (.ok ts) talk ∧
        Stands base n' c' talk w)
    · apply meets_ensuring (stands_transfer hConn ts)
      · intro _
        apply meets_known
        rintro _ ⟨c', said, r, hSaid, hCommit, h⟩
        refine ⟨_, h, ?_⟩
        have hBefore := hPrepared.committable hSource hSaid
        apply (stands_closing conn (conn + 1)).weaken (fun _ h => h)
        · rintro _ w ⟨r', r'', h⟩
          rw [← List.append_assoc, List.append_assoc _ [_]] at h
          exact ⟨_, c', _, .completed hBefore hCommit, h⟩
        · rintro f w ⟨closing, hClosing, hUnclosed, h⟩
          rw [← List.append_assoc, List.append_assoc _ [_]] at h
          exact ⟨_, c', _, .unclosed hBefore hCommit hClosing hUnclosed, h⟩
      · intro f
        apply meets_or
        · apply meets_known
          rintro _ ⟨c', said, hCut, h⟩
          refine ⟨_, h, ?_⟩
          apply (stands_closing conn (conn + 1)).weaken (fun _ h => h)
          · rintro _ w ⟨r, r', h⟩
            exact ⟨_, c', _, .untransferred hSource hPrepared hCut
              ((closings_nil.cons _ r').cons _ r) (.inl rfl), h⟩
          · rintro g w ⟨closing, hClosing, hUnclosed, h⟩
            exact ⟨_, c', _, .untransferred hSource hPrepared hCut hClosing (.inr hUnclosed), h⟩
        · apply meets_known
          rintro _ ⟨c', said, r, hSaid, hCommit, h⟩
          refine ⟨_, h, ?_⟩
          have hBefore := hPrepared.committable hSource hSaid
          apply (stands_closing conn (conn + 1)).weaken (fun _ h => h)
          · rintro _ w ⟨r', r'', h⟩
            rw [← List.append_assoc, List.append_assoc _ [_]] at h
            exact ⟨_, c', _, .uncommitted hBefore hCommit
              ((closings_nil.cons _ r'').cons _ r'), h⟩
          · rintro g w ⟨closing, hClosing, -, h⟩
            rw [← List.append_assoc, List.append_assoc _ [_]] at h
            exact ⟨_, c', _, .uncommitted hBefore hCommit hClosing, h⟩
    intro _
    exact meets_pure fun _ h => h
  · intro f
    apply meets_known
    rintro _ ⟨n', said, hCut, h⟩
    refine ⟨_, h, ?_⟩
    have hClosed {g : Fault} {r : Reply} {w : Site}
        (h : Stands base n' c (source ++ said ++ [.exchange (.close conn) r]) w) :
        ∃ n' c' talk, Course pair snapshot extension application conn (conn + 1) (.error g) talk ∧
          Stands base n' c' talk w :=
      ⟨n', c, _, .unprepared hSource hCut (closings_nil.cons conn r), h⟩
    apply meets_bind (m := fun _ w => ∃ n' c' talk,
      Course pair snapshot extension application conn (conn + 1) (.error f) talk ∧
        Stands base n' c' talk w)
    · apply (stands_closeQuietly conn).weaken (fun _ h => h)
      · rintro _ w ⟨r, -, h⟩
        exact hClosed h
      · rintro g w ⟨r, -, h⟩
        exact hClosed h
    intro _
    exact meets_throw fun _ h => h

theorem nodeData_follows (pair : NodePair) (snapshot : Value) (extension application : String)
    (w : Site) :
    ∃ talk, ((nodeData pair snapshot extension application).outcome w).2.talk = w.talk ++ talk ∧
      Course pair snapshot extension application w.connections (w.connections + 1)
        ((nodeData pair snapshot extension application).outcome w).1 talk := by
  have hEnd := stands_nodeData pair snapshot extension application w (stands_self w)
  rcases hx : (nodeData pair snapshot extension application).outcome w with ⟨result, w'⟩
  rw [hx] at hEnd
  cases result with
  | ok ts =>
    obtain ⟨n, c, talk, hCourse, h⟩ := hEnd
    exact ⟨talk, h.talk, hCourse⟩
  | error f =>
    obtain ⟨n, c, talk, hCourse, h⟩ := hEnd
    exact ⟨talk, h.talk, hCourse⟩

end ReplicaBootstrap.Copy
