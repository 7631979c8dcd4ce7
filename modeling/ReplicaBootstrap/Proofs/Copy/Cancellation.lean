import ReplicaBootstrap.Proofs.Copy.Remainder
import ReplicaBootstrap.Proofs.Copy.TableList

/-! # Cancelling a copy

Once a signal asks to stop, a copy of a node that has not ended its transactions writes one chunk more
at most and opens no further table. It ends neither transaction, and fails.
-/

namespace ReplicaBootstrap

/-- The rows of the origin's list of tables, which alone is asked for with parameters. -/
def Entry.listed? (origin : Nat) : Entry → Option (List (List Value))
  | .exchange (.execute conn _ (some _)) r =>
    if conn = origin ∧ r.fault.isNone then some r.rows else none
  | _ => none

/-- Whether an entry gives up a copy or closes a connection. -/
def Entry.isCleanup : Entry → Bool
  | .exchange (.abortCopy _ _) _ | .exchange (.close _) _ => true
  | _ => false

namespace Copy

open ReplicaBootstrap.Action

variable {conn origin target : Nat} {t : Table} {ts : List Table} {x : Entry}
  {talk tail : List Entry}

/-! ## How a copy fails -/

def Served (talk : List Entry) : Prop := ∀ e r, .exchange e r ∈ talk → r.fault = none

theorem Served.of_subset {said : List Entry} (h : Served talk) (hSub : said ⊆ talk) :
    Served said := fun e r hMem => h e r (hSub hMem)

theorem Served.bearable (h : Served talk) : Bearable talk := fun _ _ r hMem =>
  tolerable_of_none (h _ r hMem)

theorem Served.failure {g : Fault} (h : Served talk)
    (hFirst : talk.findSome? Entry.failure? = some g) : g = Interrupts.cancelled := by
  obtain ⟨x, hMem, hFailure⟩ := List.exists_of_findSome?_eq_some hFirst
  unfold Entry.failure? at hFailure
  split at hFailure
  · split at hFailure
    · exact (Option.some.inj hFailure).symm
    · cases hFailure
  · cases hFailure
  · cases hFailure
  · rename_i e r _
    rw [h e r hMem] at hFailure
    cases hFailure

/-- Tables that can be asked for are copied, unless somebody wants to stop, for as long as the source
of a table yields chunks. -/
theorem CopiesCut.cause {f : Fault} (h : CopiesCut origin target ts talk f) (hServed : Served talk)
    (hNamed : ∀ t ∈ ts, ∀ direction, ∃ query, statement direction t = .ok query) :
    f = Interrupts.cancelled ∨ ∃ said aborts, talk = said ++ .check false :: aborts ∧
      ∀ y ∈ aborts, y.isAbort = true := by
  induction h with
  | @table t ts copy f hCopy hCaused =>
    cases hCaused hServed.bearable with
    | failed hFirst hConveys =>
      rw [hServed.failure hFirst] at hConveys
      exact .inl hConveys
    | @unnamed direction _ hStatement =>
      obtain ⟨query, hQuery⟩ := hNamed t List.mem_cons_self direction
      rw [hQuery] at hStatement
      cases hStatement
    | endless _ _ hSaid hAborts => exact .inr ⟨_, _, hSaid, hAborts⟩
  | stopped => exact .inl rfl
  | @later t ts copy copies f _ _ ih =>
    have hRest : Served copies := hServed.of_subset fun y hy =>
      List.mem_append_right _ (List.mem_cons_of_mem _ hy)
    refine (ih hRest fun t ht => hNamed t (List.mem_cons_of_mem _ ht)).imp_right ?_
    rintro ⟨said, aborts, rfl, hAborts⟩
    exact ⟨copy ++ .check false :: said, aborts, by simp, hAborts⟩

/-- What a copy is given makes sense: connections can be asked for, the snapshot can be written, and
the rows of the list name tables. -/
structure Fit (pair : NodePair) (snapshot : Value) (application : String) (origin : Nat)
    (talk : List Entry) : Prop where
  source : ∃ conninfo, Conninfo.extend pair.origin.dsn
    (Session.Purpose.queries.params application) = .ok conninfo
  sink : ∃ conninfo, Conninfo.extend pair.target.dsn
    (Session.Purpose.queries.params application) = .ok conninfo
  snapshot : ∃ literal, Sql.literal snapshot = .ok literal
  rows : ∀ y ∈ talk, ∀ rows, y.listed? origin = some rows →
    ∀ row ∈ rows, ∃ schema name rest, row = .text schema :: .text name :: rest

section

variable {pair : NodePair} {snapshot : Value} {extension application : String} {dsn : Value}
  {said : List Entry}

theorem Fit.of_subset (h : Fit pair snapshot application origin talk) (hSub : said ⊆ talk) :
    Fit pair snapshot application origin said where
  source := h.source
  sink := h.sink
  snapshot := h.snapshot
  rows y hy := h.rows y (hSub hy)

theorem ConnectCut.not_served (h : ConnectCut application conn dsn said)
    (hDsn : ∃ conninfo, Conninfo.extend dsn (Session.Purpose.queries.params application) =
      .ok conninfo) : ¬ Served said := by
  intro hServed
  cases h with
  | unread hUnread =>
    obtain ⟨conninfo, hRead⟩ := hDsn
    rw [hUnread] at hRead
    cases hRead
  | refused hConnect => exact hConnect (hServed _ _ List.mem_cons_self)

theorem ListCut.not_served (h : ListCut origin said)
    (hRows : ∀ y ∈ said, ∀ rows, y.listed? origin = some rows →
      ∀ row ∈ rows, ∃ schema name rest, row = .text schema :: .text name :: rest) :
    ¬ Served said := by
  intro hServed
  cases h with
  | refused hList => exact hList (hServed _ _ List.mem_cons_self)
  | @unread name sets r f hUnread =>
    have hList : r.fault = none := hServed _ _ List.mem_cons_self
    obtain ⟨row, hRow, hTable⟩ := error_of_mapM hUnread
    obtain ⟨schema, name, rest, rfl⟩ :=
      hRows _ List.mem_cons_self r.rows (by simp [Entry.listed?, hList]) row hRow
    cases hTable

theorem PrepareCut.not_served
    (h : PrepareCut pair snapshot extension application origin target said)
    (hFit : Fit pair snapshot application origin said) : ¬ Served said := by
  intro hServed
  cases h with
  | begin hBegin =>
    cases hBegin with
    | unwritten hLiteral =>
      obtain ⟨literal, hWritten⟩ := hFit.snapshot
      rw [hLiteral] at hWritten
      cases hWritten
    | refused hBegin => exact hBegin (hServed _ _ List.mem_cons_self)
  | listing _ hListing =>
    exact hListing.not_served (hFit.of_subset (List.subset_append_right _ _)).rows
      (hServed.of_subset (List.subset_append_right _ _))
  | connect _ _ hSink =>
    exact hSink.not_served hFit.sink (hServed.of_subset (List.subset_append_right _ _))

theorem Prepared.listed
    (h : Prepared pair snapshot extension application origin target ts said) :
    ∃ listing, Listed pair extension origin ts listing ∧ listing ⊆ said := by
  obtain ⟨-, hListing, -⟩ := h
  exact ⟨_, hListing, fun y hy => by simp [hy]⟩

theorem Listed.named (h : Listed pair extension origin ts said)
    (hRows : ∀ y ∈ said, ∀ rows, y.listed? origin = some rows →
      ∀ row ∈ rows, ∃ schema name rest, row = .text schema :: .text name :: rest) :
    ∀ t ∈ ts, ∀ direction, ∃ query, statement direction t = .ok query := by
  obtain @⟨r, hList, hNames⟩ := h
  intro t ht direction
  obtain ⟨row, hRow, hTable⟩ := ok_of_mapM (mapM_tableOfRow_eq_ok_iff.mpr hNames) t ht
  obtain ⟨schema, name, rest, rfl⟩ :=
    hRows _ List.mem_cons_self r.rows (by simp [Entry.listed?, hList]) row hRow
  cases hTable
  exact ⟨_, rfl⟩

theorem Listed.ne_nil (h : Listed pair extension origin ts said)
    (hSome : ∀ y ∈ said, y.listed? origin ≠ some []) : ts ≠ [] := by
  obtain @⟨r, hList, hNames⟩ := h
  have hRows : r.rows ≠ [] := by
    simpa [Entry.listed?, hList] using hSome _ List.mem_cons_self
  rintro rfl
  exact hRows (List.forall₂_nil_right_iff.mp hNames)

end

/-! ## Where the wish to stop arrives -/

section

theorem Aside.unwritten (h : Aside origin target talk) : Unwritten talk := by
  intro x hx
  have hAside := h x hx
  unfold Entry.isAside at hAside
  split at hAside <;> first | rfl | cases hAside

theorem Aside.openings_eq (h : Aside origin target talk) : openings conn talk = 0 := by
  rw [openings, List.countP_eq_zero]
  intro x hx
  have hAside := h x hx
  unfold Entry.isAside at hAside
  split at hAside <;> first | exact Bool.false_ne_true | cases hAside

def Unended (origin target : Nat) (talk : List Entry) : Prop :=
  ∀ y ∈ talk, y.isRollbackOn origin = false ∧ y.isCommitOn target = false

theorem Aside.unended (h : Aside origin target talk) : Unended origin target talk := fun y hy =>
  ⟨Entry.isRollbackOn_of_isAside (h y hy), Entry.isCommitOn_of_isAside (h y hy)⟩

theorem Copying.unended (h : Copying talk) : Unended origin target talk := fun y hy =>
  ⟨Entry.isRollbackOn_of_isCopying (h y hy), Entry.isCommitOn_of_isCopying (h y hy)⟩

/-- What comes of a signal that arrives with the entry `x`: one chunk more is written at most, no
more tables are opened than up to the signal, or than the first, and neither transaction is ended. -/
structure CutShort (origin target : Nat) (before : List Entry) (x : Entry) (after : List Entry) :
    Prop where
  writes : after.countP Entry.isWrite ≤ 1
  tables : openings origin (before ++ x :: after) ≤ max 1 (openings origin (before ++ [x]))
  sinks : openings target (before ++ x :: after) ≤ openings origin (before ++ x :: after)
  unended : Unended origin target (before ++ x :: after)

variable {before after : List Entry}

theorem cutShort_aside (h : Aside origin target (before ++ x :: after)) :
    CutShort origin target before x after := by
  have hAfter : Aside origin target after := fun y hy =>
    h y (List.mem_append_right _ (List.mem_cons_of_mem _ hy))
  constructor
  case writes =>
    rw [hAfter.unwritten.countP]
    exact Nat.zero_le 1
  case tables =>
    rw [h.openings_eq]
    exact Nat.zero_le _
  case sinks =>
    rw [h.openings_eq]
    exact Nat.zero_le _
  case unended => exact h.unended

theorem cutShort_copies {f : Fault} {opening copies closing : List Entry} (hConn : origin ≠ target)
    (hOpening : Aside origin target opening) (hCopies : CopiesCut origin target ts copies f)
    (hClosing : Aside origin target closing)
    (hSplit : opening ++ (copies ++ closing) = before ++ x :: after) (hx : x.stops = true)
    (hLooks : .check false ∉ after) : CutShort origin target before x after := by
  have hBrief : Brief (opening ++ (copies ++ closing)) :=
    (hCopies.brief hClosing.unwritten).after hOpening.unwritten
  have hCount (conn : Nat) : openings conn (before ++ x :: after) = openings conn copies := by
    rw [← hSplit, openings_append, openings_append, hOpening.openings_eq, hClosing.openings_eq,
      Nat.add_zero, Nat.zero_add]
  have hLater : openings origin after = 0 ∨ openings origin copies ≤ 1 := by
    rcases split_append hSplit with ⟨m, -, rfl⟩ | ⟨u, -, hRest⟩
    · have hNone : .check false ∉ copies := fun hMem =>
        hLooks (List.mem_append_right _ (List.mem_append_left _ hMem))
      exact .inr (hCopies.openings_le hConn hNone)
    rcases split_append hRest with ⟨m, hInside, rfl⟩ | ⟨v, -, hEnd⟩
    · have hNone : .check false ∉ m := fun hMem => hLooks (List.mem_append_left _ hMem)
      left
      rw [openings_append, hCopies.openings_after hConn hInside hx hNone, hClosing.openings_eq]
    · have hAfter : Aside origin target after := fun y hy => hClosing y (by simp [hEnd, hy])
      exact .inl hAfter.openings_eq
  constructor
  case writes =>
    apply hBrief after _ hLooks
    rw [hSplit]
    exact (List.suffix_cons x after).trans (List.suffix_append before _)
  case tables =>
    have hAll : openings origin (before ++ x :: after) =
        openings origin (before ++ [x]) + openings origin after := by
      rw [List.append_cons, openings_append]
    have hSame := hCount origin
    omega
  case sinks =>
    rw [hCount, hCount]
    exact hCopies.openings_target_le hConn
  case unended =>
    rw [← hSplit]
    intro y hy
    rcases List.mem_append.mp hy with hy | hy
    · exact hOpening.unended y hy
    rcases List.mem_append.mp hy with hy | hy
    · exact hCopies.copying.unended y hy
    · exact hClosing.unended y hy

/-- If the source of a table has yielded chunks up to the last look, a signal after that look arrives
while the copies are given up and the connections closed. -/
theorem isCleanup_of_endless {said aborts closing : List Entry}
    (hSplit : said ++ .check false :: (aborts ++ closing) = before ++ x :: after)
    (hAborts : ∀ y ∈ aborts, y.isAbort = true) (hClosing : Closings closing)
    (hx : x.stops = true) (hLooks : .check false ∉ after) : x.isCleanup = true := by
  obtain ⟨u, -, hRest⟩ := behind_look hSplit hx hLooks
  have hMem : x ∈ aborts ++ closing := by
    rw [hRest]
    exact List.mem_append_right _ List.mem_cons_self
  rcases List.mem_append.mp hMem with hAbort | hClose
  · have hGivenUp := hAborts x hAbort
    unfold Entry.isAbort at hGivenUp
    split at hGivenUp
    · rfl
    · cases hGivenUp
  · obtain ⟨conn, r, rfl⟩ := hClosing x hClose
    rfl

theorem cancelled_of_served {f g : Fault} {opening copies closing : List Entry}
    (hCopies : CopiesCut origin target ts copies f) (hClosing : Closings closing)
    (hFault : g = f ∨ Unclosed closing)
    (hNamed : ∀ t ∈ ts, ∀ direction, ∃ query, statement direction t = .ok query)
    (hSplit : opening ++ (copies ++ closing) = before ++ x :: after) (hx : x.stops = true)
    (hLooks : .check false ∉ after) (hCleanup : x.isCleanup = false)
    (hServed : Served (opening ++ (copies ++ closing))) : g = Interrupts.cancelled := by
  rcases hFault with rfl | ⟨conn, r, hClose, hNot⟩
  · have hCopiesServed : Served copies := hServed.of_subset fun y hy => by simp [hy]
    rcases hCopies.cause hCopiesServed hNamed with hCancelled | ⟨said, aborts, rfl, hAborts⟩
    · exact hCancelled
    · have hEnd : (opening ++ said) ++ .check false :: (aborts ++ closing) =
          before ++ x :: after := by
        rw [← hSplit, List.append_assoc, List.append_assoc, List.cons_append]
      rw [isCleanup_of_endless hEnd hAborts hClosing hx hLooks] at hCleanup
      cases hCleanup
  · have hClosingServed : Served closing := hServed.of_subset fun y hy => by simp [hy]
    exact absurd (tolerable_of_none (hClosingServed _ r hClose)) hNot

/-- Once all tables are copied and the origin's transaction is ended, it is too late to stop. -/
theorem not_late {said rest : List Entry} {y : Entry}
    (hSplit : said ++ .check false :: y :: rest = before ++ x :: after)
    (hy : y.isRollbackOn origin = true) (hx : x.stops = true) (hLooks : .check false ∉ after) :
    ¬ ∀ z ∈ before ++ [x], z.isRollbackOn origin = false := by
  intro hRunning
  obtain ⟨u, rfl, hRest⟩ := behind_look hSplit hx hLooks
  have hMem : y ∈ said ++ .check false :: u ++ [x] := by
    cases u with
    | nil =>
      obtain ⟨rfl, -⟩ := List.cons.inj hRest
      simp
    | cons z u =>
      obtain ⟨rfl, -⟩ := List.cons.inj hRest
      simp
  rw [hRunning y hMem] at hy
  cases hy

theorem CopiedAll.rolledBack (h : CopiedAll origin target ts talk) (hSome : ts ≠ []) (r : Reply) :
    ∃ said y, talk ++ [.exchange (.execute origin "ROLLBACK" none) r] = said ++ [.check false, y] ∧
      y.isRollbackOn origin = true := by
  have hLast : ∃ said, talk = said ++ [.check false] := by
    clear r
    induction h with
    | nil => exact absurd rfl hSome
    | @cons t ts copy copies _ hCopies ih =>
      cases hCopies with
      | nil => exact ⟨copy, rfl⟩
      | cons hCopy hCopies =>
        obtain ⟨said, hSaid⟩ := ih (List.cons_ne_nil _ _)
        refine ⟨copy ++ .check false :: said, ?_⟩
        rw [hSaid, List.append_assoc, List.cons_append]
  obtain ⟨said, rfl⟩ := hLast
  refine ⟨said, .exchange (.execute origin "ROLLBACK" none) r, by simp, ?_⟩
  simp [Entry.isRollbackOn]

/-- A transfer of tables into which the signal comes before the origin is rolled back. -/
theorem TransferCut.heeds {f g : Fault} {opened said closing : List Entry} (hConn : origin ≠ target)
    (h : TransferCut origin target ts said f) (hSome : ts ≠ [])
    (hOpened : Aside origin target opened) (hClosing : Closings closing)
    (hFault : g = f ∨ Unclosed closing)
    (hSplit : opened ++ said ++ closing = before ++ x :: after) (hx : x.stops = true)
    (hLooks : .check false ∉ after) (hRunning : ∀ y ∈ before ++ [x], y.isRollbackOn origin = false) :
    CutShort origin target before x after ∧
      (x.isCleanup = false → Served (before ++ x :: after) →
        (∀ t ∈ ts, ∀ direction, ∃ query, statement direction t = .ok query) →
        g = Interrupts.cancelled) := by
  cases h with
  | @begin r _ hBegin =>
    have hAside := (hOpened.append (aside_script target targetOpening r)).append hClosing.aside
    refine ⟨cutShort_aside (hSplit ▸ hAside), fun _ hServed _ => ?_⟩
    rw [← hSplit] at hServed
    exact absurd (hServed (.execute target (script targetOpening) none) r (by simp)) hBegin
  | @tables r copies _ hBegin hCopies =>
    have hParts : opened ++ .exchange (.execute target (script targetOpening) none) r :: copies ++
          closing =
        opened ++ [.exchange (.execute target (script targetOpening) none) r] ++
          (copies ++ closing) := by
      simp
    rw [hParts] at hSplit
    refine ⟨cutShort_copies hConn (hOpened.append (aside_script _ _ _)) hCopies hClosing.aside
      hSplit hx hLooks, fun hCleanup hServed hNamed => ?_⟩
    rw [← hSplit] at hServed
    exact cancelled_of_served hCopies hClosing hFault hNamed hSplit hx hLooks hCleanup hServed
  | @rollback r r' copies _ hBegin hCopies =>
    obtain ⟨earlier, y, hSaid, hy⟩ := hCopies.rolledBack hSome r'
    have hParts : opened ++ .exchange (.execute target (script targetOpening) none) r ::
          (earlier ++ [.check false, y]) ++ closing =
        opened ++ .exchange (.execute target (script targetOpening) none) r :: earlier ++
          .check false :: y :: closing := by
      simp
    rw [List.cons_append, hSaid, hParts] at hSplit
    exact absurd hRunning (not_late hSplit hy hx hLooks)

end

variable {pair : NodePair} {snapshot : Value} {extension application : String}
  {before after : List Entry}

theorem Committable.rolledBack
    (h : Committable pair snapshot extension application origin target ts talk)
    (hSome : ∀ y ∈ talk, y.listed? origin ≠ some []) :
    ∃ said y, talk = said ++ [.check false, y] ∧ y.isRollbackOn origin = true := by
  obtain @⟨source, begun, listing, sink, copies, r, r', -, -, hListing, -, -, hCopies, -⟩ := h
  have hTables : ts ≠ [] := hListing.ne_nil fun y hMem => hSome y (by simp [hMem])
  obtain ⟨said, y, hSaid, hy⟩ := hCopies.rolledBack hTables r'
  refine ⟨source ++ begun ++ listing ++ sink ++
    .exchange (.execute target (script targetOpening) none) r :: said, y, ?_, hy⟩
  rw [List.append_assoc _ (_ :: _), List.cons_append, hSaid]
  simp

/-- A copy of a node into which a signal comes that asks to stop, while tables are still to be copied
or being copied, is cut short and fails; if nothing else keeps it from ending well, because of the
wish to stop. -/
theorem nodeData_heeds {w : Site} (hWatching : w.interrupts = .watching)
    (hTalk : ((nodeData pair snapshot extension application).outcome w).2.talk =
      w.talk ++ (before ++ x :: after))
    (hSignal : x.stops = true)
    (hRunning : ∀ y ∈ before ++ [x], y.isRollbackOn w.connections = false)
    (hTables : ∀ y ∈ before ++ x :: after, y.listed? w.connections ≠ some []) :
    CutShort w.connections (w.connections + 1) before x after ∧
      ∃ f, ((nodeData pair snapshot extension application).outcome w).1 = .error f ∧
        (x.isCleanup = false → Served (before ++ x :: after) →
          Fit pair snapshot application w.connections (before ++ x :: after) →
          f = .init .cancelled "node initialization cancelled by user request") := by
  have hConn : w.connections ≠ w.connections + 1 := Nat.ne_of_lt (Nat.lt_succ_self _)
  have hLooks : .check false ∉ after :=
    (nodeData_truthful hTalk).heeds (by rw [hWatching]; rfl) hSignal
  obtain ⟨talk, hSaid, hCourse⟩ := nodeData_follows pair snapshot extension application w
  obtain rfl := List.append_cancel_left (hSaid.symm.trans hTalk)
  generalize ((nodeData pair snapshot extension application).outcome w).1 = result at hCourse ⊢
  generalize hSplit : before ++ x :: after = talk at hCourse hTables ⊢
  have hAside (h : Aside w.connections (w.connections + 1) talk) :
      CutShort w.connections (w.connections + 1) before x after :=
    cutShort_aside (hSplit ▸ h)
  cases hCourse with
  | @unconnected f said hSource =>
    exact ⟨hAside hSource.aside, f, rfl, fun _ hServed hFit =>
      absurd hServed (hSource.not_served hFit.source)⟩
  | @unprepared f source said closing hSource hCut hClosing =>
    refine ⟨hAside ((hSource.aside.append hCut.aside).append hClosing.aside), f, rfl,
      fun _ hServed hFit => ?_⟩
    have hSub : said ⊆ source ++ said ++ closing := by simp
    exact absurd (hServed.of_subset hSub) (hCut.not_served (hFit.of_subset hSub))
  | @untransferred f g ts source prepared said closing hSource hPrepared hCut hClosing hFault =>
    obtain ⟨listing, hListed, hListing⟩ := hPrepared.listed
    have hSome := hListed.ne_nil fun y hMem => hTables y (by simp [hListing hMem])
    obtain ⟨hShort, hCause⟩ := hCut.heeds hConn hSome (hSource.aside.append hPrepared.aside)
      hClosing hFault hSplit.symm hSignal hLooks hRunning
    rw [hSplit] at hCause
    exact ⟨hShort, g, rfl, fun hCleanup hServed hFit => hCause hCleanup hServed
      (hListed.named fun y hMem => hFit.rows y (by simp [hListing hMem]))⟩
  | uncommitted hBefore | unclosed hBefore | completed hBefore =>
    obtain ⟨earlier, y, rfl, hy⟩ := hBefore.rolledBack fun y hMem =>
      hTables y (List.mem_append_left _ hMem)
    rw [List.append_assoc] at hSplit
    exact absurd hRunning (not_late hSplit.symm hy hSignal hLooks)

/-- A signal arrives with the first chunk of the second of two tables. -/
def signalledTables : Site where
  interrupts := .watching
  servers := [{ script := [{ replies := .inTurn [{}, {},
    { rows := [["public", "a"], ["public", "b"]] }, {}, {}, {}, {}, {}, {},
    { data := [1, 2], signal := some 15 }, { data := [3] }] }] }]

def signalledTalk : List Entry :=
  ((nodeData twoTablesPair "s1" "pglogical" "setup").outcome signalledTables).2.talk

theorem listed_signalledTalk {y : Entry} {rows : List (List Value)} (hy : y ∈ signalledTalk)
    (hRows : y.listed? 0 = some rows) :
    rows = [[.text "public", .text "a"], [.text "public", .text "b"]] := by
  have hTexts : (signalledTalk.filterMap (Entry.listed? 0)).map
        (fun rows => rows.map fun row => row.map Value.text?) =
      [[[some "public", some "a"], [some "public", some "b"]]] := by
    decide +kernel
  have hMem := List.mem_map_of_mem (f := fun rows : List (List Value) => rows.map fun row =>
    row.map Value.text?) (List.mem_filterMap.mpr ⟨y, hy, hRows⟩)
  rw [hTexts, List.mem_singleton] at hMem
  exact @eq_of_texts rows [("public", "a"), ("public", "b")] hMem

theorem fit_signalledTalk : Fit twoTablesPair "s1" "setup" 0 signalledTalk where
  source := ok_of_isOk (by decide +kernel)
  sink := ok_of_isOk (by decide +kernel)
  snapshot := ok_of_isOk (by decide +kernel)
  rows y hy rows hRows row hRow := by
    rw [listed_signalledTalk hy hRows] at hRow
    rcases List.mem_pair.mp hRow with rfl | rfl
    · exact ⟨"public", "a", [], rfl⟩
    · exact ⟨"public", "b", [], rfl⟩

def isServed : Entry → Bool
  | .exchange _ r => r.fault.isNone
  | _ => true

theorem nodeData_heeds_signalledTables :
    ∃ x, signalledTalk = signalledTalk.take 17 ++ x :: signalledTalk.drop 18 ∧ x.stops = true ∧
      (∀ y ∈ signalledTalk.take 17 ++ [x], y.isRollbackOn 0 = false) ∧
      CutShort 0 1 (signalledTalk.take 17) x (signalledTalk.drop 18) ∧
      (signalledTalk.drop 18).countP Entry.isWrite = 1 ∧ openings 0 signalledTalk = 2 ∧
      ((nodeData twoTablesPair "s1" "pglogical" "setup").outcome signalledTables).1 =
        .error (.init .cancelled "node initialization cancelled by user request") := by
  have hFacts : signalledTalk[17]?.any (fun x => x.stops && !x.isCleanup) = true ∧
      (∀ y ∈ signalledTalk.take 18, y.isRollbackOn 0 = false) ∧
      (∀ y ∈ signalledTalk, isServed y = true) ∧
      (signalledTalk.drop 18).countP Entry.isWrite = 1 ∧ openings 0 signalledTalk = 2 := by
    decide +kernel
  obtain ⟨hAt, hRunning, hFaults, hWrites, hOpenings⟩ := hFacts
  have hServed : Served signalledTalk := fun e r hMem =>
    Option.isNone_iff_eq_none.mp (hFaults _ hMem)
  obtain ⟨x, hx, hSignal⟩ := Option.any_eq_true _ _ |>.mp hAt
  obtain ⟨hStops, hCleanup⟩ : x.stops = true ∧ x.isCleanup = false := by simpa using hSignal
  have hTake : signalledTalk.take 18 = signalledTalk.take 17 ++ [x] := by
    rw [List.take_add_one, hx]
    rfl
  have hTalk : signalledTalk = signalledTalk.take 17 ++ x :: signalledTalk.drop 18 := by
    rw [List.append_cons, ← hTake, List.take_append_drop]
  rw [hTake] at hRunning
  have hTables : ∀ y ∈ signalledTalk.take 17 ++ x :: signalledTalk.drop 18,
      y.listed? 0 ≠ some [] := by
    rw [← hTalk]
    intro y hy hNone
    cases listed_signalledTalk hy hNone
  obtain ⟨hCut, f, hFails, hCause⟩ := nodeData_heeds (w := signalledTables) rfl hTalk hStops
    hRunning hTables
  rw [← hTalk] at hCause
  rw [hCause hCleanup hServed fit_signalledTalk] at hFails
  exact ⟨x, hTalk, hStops, hRunning, hCut, hWrites, hOpenings, hFails⟩

end Copy

end ReplicaBootstrap
