import ReplicaBootstrap.Proofs.Copy.Course

/-! # What is said beside the copies

The talk of a copy of a node falls into what is said while tables are copied and what is said beside
that. Neither ends the transactions of the two sides.
-/

namespace ReplicaBootstrap

def Entry.isRollbackOn (origin : Nat) : Entry → Bool
  | .exchange (.execute conn query _) _ => conn = origin && query = "ROLLBACK"
  | _ => false

/-- Whether an entry belongs to the copy of a table. -/
def Entry.isCopying : Entry → Bool
  | .exchange (.openCursor _) _ | .exchange (.startCopy _ _) _ | .exchange (.read _) _
  | .exchange (.write _ _) _ | .exchange (.endCopy _) _ | .exchange (.abortCopy _ _) _
  | .check _ => true
  | _ => false

/-- Whether an entry opens or closes a connection or runs a statement that ends neither
transaction. -/
def Entry.isAside (origin target : Nat) : Entry → Bool
  | .exchange (.connect _ _ _) _ | .exchange (.close _) _ => true
  | .exchange (.execute conn query _) _ =>
    !(conn = origin && query = "ROLLBACK") && !(conn = target && query = "COMMIT")
  | _ => false

namespace Entry

variable {origin target : Nat} {x : Entry}

theorem isCommitOn_of_isCopying (h : x.isCopying = true) : x.isCommitOn target = false := by
  unfold isCopying at h
  split at h <;> first | rfl | cases h

theorem isRollbackOn_of_isCopying (h : x.isCopying = true) : x.isRollbackOn origin = false := by
  unfold isCopying at h
  split at h <;> first | rfl | cases h

theorem isCommitOn_of_isAside (h : x.isAside origin target = true) :
    x.isCommitOn target = false := by
  unfold isAside at h
  split at h
  · rfl
  · rfl
  · exact Bool.not_eq_true' _ |>.mp (Bool.and_eq_true _ _ |>.mp h).2
  · cases h

theorem isRollbackOn_of_isAside (h : x.isAside origin target = true) :
    x.isRollbackOn origin = false := by
  unfold isAside at h
  split at h
  · rfl
  · rfl
  · exact Bool.not_eq_true' _ |>.mp (Bool.and_eq_true _ _ |>.mp h).1
  · cases h

end Entry

namespace Copy

variable {conn origin target : Nat} {t : Table} {ts : List Table} {talk talk' : List Entry}

/-! ## While tables are copied -/

def Copying (talk : List Entry) : Prop := ∀ x ∈ talk, x.isCopying = true

theorem Copying.append (h : Copying talk) (h' : Copying talk') : Copying (talk ++ talk') :=
  List.forall_mem_append.mpr ⟨h, h'⟩

theorem Relayed.copying (h : Relayed origin target talk) : Copying talk := by
  induction h with
  | done => simp [Copying, Entry.isCopying]
  | chunk _ _ _ _ ih => simpa [Copying, Entry.isCopying] using ih

theorem RelayCut.copying (h : RelayCut origin target talk) : Copying talk := by
  induction h with
  | endless | read | write | stopped => simp [Copying, Entry.isCopying]
  | chunk _ _ _ _ ih => simpa [Copying, Entry.isCopying] using ih

theorem Opened.copying {direction : Direction} (h : Opened conn direction t talk) :
    Copying talk := by
  cases h
  simp [Copying, Entry.isCopying]

theorem OpeningCut.copying (h : OpeningCut conn talk) : Copying talk := by
  cases h <;> simp [Copying, Entry.isCopying]

theorem GivenUp.copying (h : GivenUp origin target talk) : Copying talk := by
  cases h <;> simp [Copying, Entry.isCopying]

theorem Copied.copying (h : Copied origin target t talk) : Copying talk := by
  obtain ⟨hSource, hSink, hChunks, -, -⟩ := h
  apply ((hSource.copying.append hSink.copying).append hChunks.copying).append
  simp [Copying, Entry.isCopying]

theorem CopyCut.copying (h : CopyCut origin target t talk) : Copying talk := by
  cases h with
  | source hSource => exact hSource.copying
  | sink hSource hSink =>
    apply (hSource.copying.append hSink.copying).append
    simp [Copying, Entry.isCopying]
  | relay hSource hSink hChunks hAborts =>
    exact ((hSource.copying.append hSink.copying).append hChunks.copying).append hAborts.copying
  | sourceEnd hSource hSink hChunks | sinkEnd hSource hSink hChunks =>
    apply ((hSource.copying.append hSink.copying).append hChunks.copying).append
    simp [Copying, Entry.isCopying]

theorem copying_cons_check {requested : Bool} (h : Copying talk) :
    Copying (.check requested :: talk) :=
  List.forall_mem_cons.mpr ⟨rfl, h⟩

theorem CopiedAll.copying (h : CopiedAll origin target ts talk) : Copying talk := by
  induction h with
  | nil => exact fun _ hx => by cases hx
  | cons hCopy _ ih => exact hCopy.copying.append (copying_cons_check ih)

theorem CopiesCut.copying {f : Fault} (h : CopiesCut origin target ts talk f) : Copying talk := by
  induction h with
  | table hCopy => exact hCopy.copying
  | stopped hCopy => exact hCopy.copying.append (by simp [Copying, Entry.isCopying])
  | later hCopy _ ih => exact hCopy.copying.append (copying_cons_check ih)

/-! ## Beside the tables -/

def Aside (origin target : Nat) (talk : List Entry) : Prop :=
  ∀ x ∈ talk, x.isAside origin target = true

theorem Aside.append (h : Aside origin target talk) (h' : Aside origin target talk') :
    Aside origin target (talk ++ talk') :=
  List.forall_mem_append.mpr ⟨h, h'⟩

theorem head?_append {s t : String} {x : Char} (h : s.toList.head? = some x) :
    (s ++ t).toList.head? = some x := by
  rw [String.toList_append, List.head?_append, h]
  rfl

theorem head?_script (statements : List String) :
    (script statements).toList.head? = some '\n' :=
  head?_append (by decide)

theorem head?_listOf (extension : String) : (listOf extension).toList.head? = some 'S' :=
  head?_append (head?_append (by decide))

theorem aside_execute {query : String} {first : Char} (h : query.toList.head? = some first)
    (hRollback : "ROLLBACK".toList.head? ≠ some first) (hCommit : "COMMIT".toList.head? ≠ some first)
    (conn : Nat) (params : Option (List Value)) (r : Reply) :
    Aside origin target [.exchange (.execute conn query params) r] := by
  have hNotRollback : query ≠ "ROLLBACK" := by
    rintro rfl
    exact hRollback h
  have hNotCommit : query ≠ "COMMIT" := by
    rintro rfl
    exact hCommit h
  simp [Aside, Entry.isAside, hNotRollback, hNotCommit]

theorem aside_script (conn : Nat) (statements : List String) (r : Reply) :
    Aside origin target [.exchange (.execute conn (script statements) none) r] :=
  aside_execute (head?_script statements) (by decide) (by decide) conn none r

theorem aside_listOf (conn : Nat) (name : String) (params : Option (List Value)) (r : Reply) :
    Aside origin target [.exchange (.execute conn (listOf name) params) r] :=
  aside_execute (head?_listOf name) (by decide) (by decide) conn params r

section

variable {pair : NodePair} {snapshot : Value} {extension application : String} {dsn : Value}
  {origin' target' : Nat}

theorem Connected.aside (h : Connected application conn dsn talk) : Aside origin target talk := by
  cases h
  simp [Aside, Entry.isAside]

theorem ConnectCut.aside (h : ConnectCut application conn dsn talk) :
    Aside origin target talk := by
  cases h <;> simp [Aside, Entry.isAside]

theorem Begun.aside (h : Begun snapshot origin' talk) : Aside origin target talk := by
  cases h
  exact aside_script _ _ _

theorem Listed.aside (h : Listed pair extension origin' ts talk) : Aside origin target talk := by
  cases h
  exact aside_listOf _ _ _ _

theorem Prepared.aside
    (h : Prepared pair snapshot extension application origin' target' ts talk) :
    Aside origin target talk := by
  obtain ⟨hBegun, hListing, hSink⟩ := h
  exact (hBegun.aside.append hListing.aside).append hSink.aside

theorem PrepareCut.aside
    (h : PrepareCut pair snapshot extension application origin' target' talk) :
    Aside origin target talk := by
  cases h with
  | begin hBegin =>
    cases hBegin with
    | unwritten => exact fun _ hx => by cases hx
    | refused => exact aside_script _ _ _
  | listing hBegun hListing =>
    apply hBegun.aside.append
    cases hListing <;> exact aside_listOf _ _ _ _
  | connect hBegun hListing hSink =>
    exact (hBegun.aside.append hListing.aside).append hSink.aside

theorem Closings.aside (h : Closings talk) : Aside origin target talk := by
  intro x hx
  obtain ⟨conn, r, rfl⟩ := h x hx
  rfl

end

/-! ## Talks without a commit -/

/-- Nothing in a talk asks the target to commit. -/
def Quiet (target : Nat) (talk : List Entry) : Prop := ∀ x ∈ talk, x.isCommitOn target = false

theorem Quiet.append (h : Quiet target talk) (h' : Quiet target talk') :
    Quiet target (talk ++ talk') :=
  List.forall_mem_append.mpr ⟨h, h'⟩

theorem Copying.quiet (h : Copying talk) : Quiet target talk := fun x hx =>
  Entry.isCommitOn_of_isCopying (h x hx)

theorem Aside.quiet (h : Aside origin target talk) : Quiet target talk := fun x hx =>
  Entry.isCommitOn_of_isAside (h x hx)

theorem quiet_closings (h : Closings talk) : Quiet target talk := by
  intro x hx
  obtain ⟨conn, r, rfl⟩ := h x hx
  rfl

theorem quiet_script (conn : Nat) (statements : List String) (r : Reply) :
    Quiet target [.exchange (.execute conn (script statements) none) r] :=
  Aside.quiet (aside_script conn statements r : Aside conn target _)

theorem quiet_rollback (hConn : origin ≠ target) (r : Reply) :
    Quiet target [.exchange (.execute origin "ROLLBACK" none) r] := by
  simp [Quiet, Entry.isCommitOn, hConn]

theorem TransferCut.quiet {f : Fault} (hConn : origin ≠ target)
    (h : TransferCut origin target ts talk f) : Quiet target talk := by
  cases h with
  | begin => exact quiet_script _ _ _
  | tables _ hCopies => exact (quiet_script _ _ _).append hCopies.copying.quiet
  | rollback _ hCopies =>
    exact ((quiet_script _ _ _).append hCopies.copying.quiet).append (quiet_rollback hConn _)

theorem Committable.quiet {pair : NodePair} {snapshot : Value} {extension application : String}
    (h : Committable pair snapshot extension application origin target ts talk)
    (hConn : origin ≠ target) : Quiet target talk := by
  obtain ⟨hSource, hBegun, hListing, hSink, -, hCopies, -⟩ := h
  have hOrigin : Aside origin target _ :=
    ((hSource.aside.append hBegun.aside).append hListing.aside).append hSink.aside
  have hInside (r : Reply) : Quiet target (.exchange (.execute target (script targetOpening) none) r :: _) :=
    (quiet_script target targetOpening r).append hCopies.copying.quiet
  exact (hOrigin.quiet.append (hInside _)).append (quiet_rollback hConn _)

end Copy

end ReplicaBootstrap
