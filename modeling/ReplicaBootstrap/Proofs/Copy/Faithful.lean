import Mathlib.Data.List.Forall2
import ReplicaBootstrap.Proofs.Copy.Commit

/-! # What a copy carries over

The copies made on a connection are read off what was said there, each with the chunks that were moved
in it. A table that is copied whole has the same chunks on both sides; a copy that is cut off has moved
all but the latest of the chunks that it has read.
-/

namespace ReplicaBootstrap.Copy

open ReplicaBootstrap.Action Site

/-! ## The copies made on a connection -/

/-- A COPY that a server has accepted, with the chunks moved in it, and whether it has ended well
after them. -/
structure Passage where
  statement : String
  chunks : List (List UInt8) := []
  ended : Bool := false
  deriving DecidableEq, Repr

/-- Passages so far, the latest first, after one more entry. A chunk belongs to the latest passage. -/
def follow (direction : Direction) (conn : Nat) (ps : List Passage) : Entry → List Passage
  | .exchange (.startCopy c query) r =>
    if c = conn ∧ r.fault.isNone then { statement := query } :: ps else ps
  | .exchange (.endCopy c) r =>
    if c = conn ∧ r.fault.isNone then ps.modifyHead ({ · with ended := true }) else ps
  | x =>
    match chunk? direction conn x with
    | some data => ps.modifyHead fun p => { p with chunks := p.chunks ++ [data], ended := false }
    | none => ps

def passages (direction : Direction) (conn : Nat) (talk : List Entry) : List Passage :=
  (talk.foldl (follow direction conn) []).reverse

/-- A talk that adds passages and leaves the earlier ones as they are. -/
def Yields (direction : Direction) (conn : Nat) (talk : List Entry) (new : List Passage) : Prop :=
  ∀ ps, talk.foldl (follow direction conn) ps = new.reverse ++ ps

variable {direction : Direction} {conn origin target : Nat} {talk talk' : List Entry}
  {new new' : List Passage} {t : Table}

theorem Yields.passages (h : Yields direction conn talk new) :
    passages direction conn talk = new := by
  rw [Copy.passages, h [], List.append_nil, List.reverse_reverse]

theorem Yields.append (h : Yields direction conn talk new)
    (h' : Yields direction conn talk' new') :
    Yields direction conn (talk ++ talk') (new ++ new') := by
  intro ps
  rw [List.foldl_append, h, h', List.reverse_append, List.append_assoc]

structure Idle (talk : List Entry) : Prop where
  yields : ∀ direction conn, Yields direction conn talk []
  moved : ∀ direction conn, moved direction conn talk = []

theorem Idle.append (h : Idle talk) (h' : Idle talk') : Idle (talk ++ talk') where
  yields direction conn := (h.yields direction conn).append (h'.yields direction conn)
  moved direction conn := by
    rw [moved_append, h.moved, h'.moved]
    rfl

theorem idle_check (requested : Bool) : Idle [.check requested] := ⟨fun _ _ _ => rfl, fun _ _ => rfl⟩

theorem idle_execute (conn : Nat) (query : String) (params : Option (List Value)) (r : Reply) :
    Idle [.exchange (.execute conn query params) r] := ⟨fun _ _ _ => rfl, fun _ _ => rfl⟩

theorem idle_close (conn : Nat) (r : Reply) : Idle [.exchange (.close conn) r] :=
  ⟨fun _ _ _ => rfl, fun _ _ => rfl⟩

theorem Connected.idle {application : String} {dsn : Value}
    (h : Connected application conn dsn talk) : Idle talk := by
  cases h
  exact ⟨fun _ _ _ => rfl, fun _ _ => rfl⟩

theorem Begun.idle {snapshot : Value} (h : Begun snapshot origin talk) : Idle talk := by
  cases h
  exact idle_execute _ _ _ _

theorem Listed.idle {pair : NodePair} {extension : String} {ts : List Table}
    (h : Listed pair extension origin ts talk) : Idle talk := by
  cases h
  exact idle_execute _ _ _ _

/-! ## A table -/

/-- A passage for a table that has ended with certain chunks. -/
structure Carries (direction : Direction) (t : Table) (chunks : List (List UInt8)) (p : Passage) :
    Prop where
  statement : Copy.statement direction t = .ok p.statement
  text : CopyOf t direction p.statement
  chunks : p.chunks = chunks
  ended : p.ended = true

theorem Relayed.moved_fromServer (h : Relayed origin target talk) :
    moved .fromServer origin talk = moved .toServer target talk ++ [[]] := by
  induction h with
  | done hRead hEmpty => simp [moved, chunk?, hRead, hEmpty]
  | chunk hRead hData hWrite hRest ih =>
    rw [moved_fromServer_chunk hRead, moved_toServer_chunk hWrite, ih, List.cons_append]

theorem Relayed.nil_not_mem (h : Relayed origin target talk) :
    [] ∉ moved .toServer target talk := by
  induction h with
  | done hRead hEmpty => simp [moved, chunk?]
  | chunk hRead hData hWrite hRest ih =>
    rw [moved_toServer_chunk hWrite, List.mem_cons, not_or]
    exact ⟨hData.symm, ih⟩

def Passage.add (p : Passage) (chunks : List (List UInt8)) : Passage :=
  { p with chunks := p.chunks ++ chunks }

theorem Passage.add_add (p : Passage) (chunks chunks' : List (List UInt8)) :
    (p.add chunks).add chunks' = p.add (chunks ++ chunks') := by
  simp only [add, List.append_assoc]

theorem follow_read (direction : Direction) (conn c : Nat) (r : Reply) {p : Passage} (hp : p.ended = false)
    (ps : List Passage) :
    follow direction conn (p :: ps) (.exchange (.read c) r) =
      p.add (moved direction conn [.exchange (.read c) r]) :: ps := by
  simp only [follow, moved, List.filterMap_cons, List.filterMap_nil, Passage.add]
  cases chunk? direction conn (.exchange (.read c) r) with
  | none => simp
  | some data => simp [← hp]

theorem follow_write (direction : Direction) (conn c : Nat) (data : List UInt8) (r : Reply) {p : Passage}
    (hp : p.ended = false) (ps : List Passage) :
    follow direction conn (p :: ps) (.exchange (.write c data) r) =
      p.add (moved direction conn [.exchange (.write c data) r]) :: ps := by
  simp only [follow, moved, List.filterMap_cons, List.filterMap_nil, Passage.add]
  cases chunk? direction conn (.exchange (.write c data) r) with
  | none => simp
  | some data => simp [← hp]

theorem Relayed.follow (h : Relayed origin target talk) {p : Passage} (hp : p.ended = false)
    (ps : List Passage) :
    talk.foldl (follow direction conn) (p :: ps) = p.add (moved direction conn talk) :: ps := by
  induction h generalizing p with
  | done => exact follow_read _ _ _ _ hp _
  | @chunk r r' rest _ _ _ _ ih =>
    have hRead := follow_read direction conn origin r hp ps
    have hReadEnded : (p.add (moved direction conn [.exchange (.read origin) r])).ended = false := hp
    have hWrite := follow_write direction conn target r.data r' hReadEnded ps
    rw [List.foldl_cons, hRead, List.foldl_cons, hWrite, List.foldl_cons]
    have hMoved : moved direction conn
        (.exchange (.read origin) r :: .exchange (.write target r.data) r' :: .check false :: rest) =
          moved direction conn [.exchange (.read origin) r] ++
            moved direction conn [.exchange (.write target r.data) r'] ++
              moved direction conn rest := by
      rw [← moved_append, ← moved_append]
      rfl
    rw [hMoved, ← Passage.add_add, ← Passage.add_add]
    exact ih hp

theorem Opened.follow (h : Opened conn direction t talk) (direction' : Direction) :
    ∃ query, CopyOf t direction query ∧ ∀ ps,
      talk.foldl (follow direction' conn) ps = { statement := query } :: ps := by
  obtain ⟨hQuery, hCursor, hCopy⟩ := h
  refine ⟨_, hQuery, ?_⟩
  intro ps
  simp [Copy.follow, chunk?, hCopy]

theorem Opened.follow_other {conn' : Nat} (h : Opened conn direction t talk) (hConn : conn ≠ conn')
    {direction' : Direction} (ps : List Passage) :
    talk.foldl (Copy.follow direction' conn') ps = ps := by
  obtain ⟨hQuery, hCursor, hCopy⟩ := h
  simp [Copy.follow, chunk?, hConn]

/-- On both sides a table has one passage of its own, with the same chunks but for the empty one that
the origin ends with. -/
theorem Copied.yields (hConn : origin ≠ target) (h : Copied origin target t talk) :
    ∃ p q, Carries .fromServer t (moved .toServer target talk ++ [[]]) p ∧
      Carries .toServer t (moved .toServer target talk) q ∧
      Yields .fromServer origin talk [p] ∧ Yields .toServer target talk [q] := by
  obtain @⟨source, sink, chunks, r, r', hSource, hSink, hChunks, hOrigin, hTarget⟩ := h
  obtain ⟨query, hQuery, hSourceFollow⟩ := hSource.follow .fromServer
  obtain ⟨query', hQuery', hSinkFollow⟩ := hSink.follow .toServer
  rw [moved_between hSource hSink rfl, ← hChunks.moved_fromServer]
  refine ⟨⟨query, moved .fromServer origin chunks, true⟩,
    ⟨query', moved .toServer target chunks, true⟩, ⟨statement_eq_ok_iff.mpr hQuery, hQuery, rfl, rfl⟩,
    ⟨statement_eq_ok_iff.mpr hQuery', hQuery', rfl, rfl⟩, ?_, ?_⟩
  · intro ps
    rw [List.foldl_append, List.foldl_append, List.foldl_append, hSourceFollow,
      hSink.follow_other hConn.symm, hChunks.follow rfl]
    simp [Copy.follow, Passage.add, hOrigin, hConn.symm]
  · intro ps
    rw [List.foldl_append, List.foldl_append, List.foldl_append,
      hSource.follow_other hConn, hSinkFollow, hChunks.follow rfl]
    simp [Copy.follow, Passage.add, hTarget, hConn]

theorem Copied.nil_not_mem (h : Copied origin target t talk) :
    [] ∉ moved .toServer target talk := by
  obtain ⟨hSource, hSink, hChunks, -, -⟩ := h
  rw [moved_between hSource hSink rfl]
  exact hChunks.nil_not_mem

/-! ## All tables -/

/-- Tables with their contents are carried over: one after the other, in one COPY on each side, where
the target is given the chunks that the origin yields before its empty one, and nothing else. -/
structure Carried (origin target : Nat) (contents : List (Table × List (List UInt8)))
    (talk : List Entry) : Prop where
  nonempty : ∀ x ∈ contents, [] ∉ x.2
  read : List.Forall₂ (fun x => Carries .fromServer x.1 (x.2 ++ [[]])) contents
    (passages .fromServer origin talk)
  written : List.Forall₂ (fun x => Carries .toServer x.1 x.2) contents
    (passages .toServer target talk)
  /-- no chunk is written outside these copies -/
  moved : moved .toServer target talk = (contents.map Prod.snd).flatten

/-- The bytes of each table are the same on both sides. -/
theorem Carried.bytes {contents : List (Table × List (List UInt8))}
    (h : Carried origin target contents talk) :
    (passages .fromServer origin talk).map (·.chunks.flatten) =
      (passages .toServer target talk).map (·.chunks.flatten) := by
  obtain ⟨-, hRead, hWritten, -⟩ := h
  generalize passages .fromServer origin talk = reads at hRead
  generalize passages .toServer target talk = writes at hWritten
  induction hRead generalizing writes with
  | nil =>
    cases hWritten
    rfl
  | cons hp _ ih =>
    cases hWritten with
    | cons hq hWritten =>
      rw [List.map_cons, List.map_cons, ih _ hWritten, hp.chunks, hq.chunks]
      simp


theorem CopiedAll.carried (hConn : origin ≠ target) {ts : List Table}
    (h : CopiedAll origin target ts talk) :
    ∃ contents reads writes, contents.map Prod.fst = ts ∧ (∀ x ∈ contents, [] ∉ x.2) ∧
      List.Forall₂ (fun x => Carries .fromServer x.1 (x.2 ++ [[]])) contents reads ∧
      List.Forall₂ (fun x => Carries .toServer x.1 x.2) contents writes ∧
      Yields .fromServer origin talk reads ∧ Yields .toServer target talk writes ∧
      moved .toServer target talk = (contents.map Prod.snd).flatten := by
  induction h with
  | nil => exact ⟨[], [], [], rfl, nofun, .nil, .nil, fun _ => rfl, fun _ => rfl, rfl⟩
  | @cons t ts copy copies hCopy _ ih =>
    obtain ⟨p, q, hp, hq, hRead, hWrite⟩ := hCopy.yields hConn
    obtain ⟨contents, reads, writes, hTables, hNonempty, hReads, hWrites, hReadAll, hWriteAll,
      hMoved⟩ := ih
    have hCheck := idle_check false
    refine ⟨(t, moved .toServer target copy) :: contents, p :: reads, q :: writes,
      congrArg (t :: ·) hTables, ?_, .cons hp hReads, .cons hq hWrites,
      hRead.append ((hCheck.yields _ _).append hReadAll),
      hWrite.append ((hCheck.yields _ _).append hWriteAll), ?_⟩
    · intro x hx
      rcases List.mem_cons.mp hx with rfl | hx
      · exact hCopy.nil_not_mem
      · exact hNonempty x hx
    · rw [moved_append, List.map_cons, List.flatten_cons, ← hMoved]
      rfl

theorem Committable.carried {pair : NodePair} {snapshot : Value} {extension application : String}
    {ts : List Table} (hConn : origin ≠ target)
    (h : Committable pair snapshot extension application origin target ts talk) :
    ∃ contents, contents.map Prod.fst = ts ∧ ∀ tail, Idle tail →
      Carried origin target contents (talk ++ tail) := by
  obtain @⟨source, begun, listing, sink, copies, r, r', hSource, hBegun, hListing, hSink, -, hCopies,
    -⟩ := h
  obtain ⟨contents, reads, writes, hTables, hNonempty, hReads, hWrites, hRead, hWrite, hMoved⟩ :=
    hCopies.carried hConn
  have hBefore := ((hSource.idle.append hBegun.idle).append hListing.idle).append
    (hSink.idle.append (idle_execute target (script targetOpening) none r))
  refine ⟨contents, hTables, ?_⟩
  intro tail hTail
  have hAfter := (idle_execute origin "ROLLBACK" none r').append hTail
  have hTalk : source ++ begun ++ listing ++ sink ++
      .exchange (.execute target (script targetOpening) none) r :: copies ++
        [.exchange (.execute origin "ROLLBACK" none) r'] ++ tail =
      source ++ begun ++ listing ++
        (sink ++ [.exchange (.execute target (script targetOpening) none) r]) ++ copies ++ ([.exchange (.execute origin "ROLLBACK" none) r'] ++ tail) := by
    simp only [List.append_assoc, List.cons_append, List.nil_append]
  have hAround {direction : Direction} {conn : Nat} {new : List Passage}
      (h : Yields direction conn copies new) :
      passages direction conn (source ++ begun ++ listing ++
        (sink ++ [.exchange (.execute target (script targetOpening) none) r]) ++ copies ++
          ([.exchange (.execute origin "ROLLBACK" none) r'] ++ tail)) = new := by
    have hAll := ((hBefore.yields direction conn).append h).append (hAfter.yields direction conn)
    rw [hAll.passages, List.nil_append, List.append_nil]
  rw [hTalk]
  constructor
  case nonempty => exact hNonempty
  case read =>
    rw [hAround hRead]
    exact hReads
  case written =>
    rw [hAround hWrite]
    exact hWrites
  case moved =>
    rw [moved_append, moved_append, hBefore.moved, hAfter.moved, List.append_nil]
    exact hMoved

/-! ## A copy that is cut off -/

/-- What was written is what was read, but for the latest chunk at most. -/
def Behind (origin target : Nat) (talk : List Entry) : Prop :=
  ∃ latest : Option (List UInt8),
    moved .fromServer origin talk = moved .toServer target talk ++ latest.toList

theorem behind_of_nothing (hRead : moved .fromServer origin talk = [])
    (hWrite : moved .toServer target talk = []) : Behind origin target talk := by
  refine ⟨none, ?_⟩
  rw [hRead, hWrite]
  rfl

theorem Relayed.behind (h : Relayed origin target talk) : Behind origin target talk :=
  ⟨some [], h.moved_fromServer⟩

theorem RelayCut.behind (h : RelayCut origin target talk) : Behind origin target talk := by
  induction h with
  | endless => exact behind_of_nothing rfl rfl
  | @read r hRead =>
    apply behind_of_nothing _ rfl
    simp [moved, chunk?, hRead]
  | @write r r' hRead _ hWrite =>
    refine ⟨some r.data, ?_⟩
    simp [moved, chunk?, hRead, hWrite]
  | @stopped r r' hRead _ hWrite =>
    refine ⟨none, ?_⟩
    simp [moved, chunk?, hRead, hWrite, List.filterMap_cons]
  | chunk hRead _ hWrite _ ih =>
    obtain ⟨latest, hLatest⟩ := ih
    refine ⟨latest, ?_⟩
    rw [moved_fromServer_chunk hRead, moved_toServer_chunk hWrite, hLatest, List.cons_append]

theorem OpeningCut.moved (h : OpeningCut conn talk) {direction' : Direction} {conn' : Nat} :
    moved direction' conn' talk = [] := by
  cases h <;> rfl

theorem GivenUp.moved (h : GivenUp origin target talk) {direction' : Direction} {conn' : Nat} :
    moved direction' conn' talk = [] := by
  cases h <;> rfl

theorem behind_between {source sink chunks tail : List Entry}
    (hSource : Opened origin .fromServer t source) (hSink : Opened target .toServer t sink)
    (hTail : ∀ direction conn, moved direction conn tail = [])
    (hChunks : Behind origin target chunks) :
    Behind origin target (source ++ sink ++ chunks ++ tail) := by
  obtain ⟨latest, hLatest⟩ := hChunks
  refine ⟨latest, ?_⟩
  rw [moved_between hSource hSink (hTail _ _), moved_between hSource hSink (hTail _ _), hLatest]

theorem CopyCut.behind (h : CopyCut origin target t talk) : Behind origin target talk := by
  cases h with
  | source hSource => exact behind_of_nothing hSource.moved hSource.moved
  | sink hSource hSink =>
    apply behind_of_nothing <;>
      rw [moved_append, moved_append, hSource.moved, hSink.moved] <;> rfl
  | relay hSource hSink hChunks hAborts =>
    exact behind_between hSource hSink (fun _ _ => hAborts.moved) hChunks.behind
  | sourceEnd hSource hSink hChunks | sinkEnd hSource hSink hChunks =>
    exact behind_between hSource hSink (fun _ _ => rfl) hChunks.behind

/-! ## From any site -/

/-- How the copy of a table answers: with the number of the chunks and of their bytes when the table
was carried over. -/
inductive TableCarried (origin target : Nat) (t : Table) :
    Except Fault Stats → List Entry → Prop
  | whole {chunks : List (List UInt8)} {copy : List Entry}
      (hCarried : Carried origin target [(t, chunks)] copy) :
      TableCarried origin target t (.ok ⟨chunks.length, (chunks.map List.length).sum⟩) copy
  | cut {f : Fault} {copy : List Entry} (hBehind : Behind origin target copy) :
      TableCarried origin target t (.error f) copy

theorem Copied.tableCarried (hConn : origin ≠ target) (h : Copied origin target t talk) :
    TableCarried origin target t (.ok ((moved .toServer target talk).foldl Stats.add {})) talk := by
  obtain ⟨p, q, hp, hq, hRead, hWrite⟩ := h.yields hConn
  rw [foldl_add, Nat.zero_add, Nat.zero_add]
  apply TableCarried.whole
  constructor
  case nonempty =>
    intro x hx
    rw [List.mem_singleton.mp hx]
    exact h.nil_not_mem
  case read =>
    rw [hRead.passages]
    exact .cons hp .nil
  case written =>
    rw [hWrite.passages]
    exact .cons hq .nil
  case moved => exact (List.append_nil _).symm

theorem table_carries (hConn : origin ≠ target) (t : Table) (w : Site) :
    ∃ copy, ((table origin target t).outcome w).2.talk = w.talk ++ copy ∧
      TableCarried origin target t ((table origin target t).outcome w).1 copy := by
  cases hx : ((table origin target t).outcome w).1 with
  | ok stats =>
    obtain ⟨c, copy, hCopy, -, rfl, h⟩ := (stands_table hConn t).of_ok (stands_self w) hx
    rw [List.nil_append] at h
    exact ⟨copy, h.talk, hCopy.tableCarried hConn⟩
  | error f =>
    obtain ⟨c, copy, hCut, h⟩ := (stands_table hConn t).of_error (stands_self w) hx
    rw [List.nil_append] at h
    exact ⟨copy, h.talk, .cut hCut.cut.behind⟩

theorem nodeData_closed {pair : NodePair} {snapshot : Value} {extension application : String}
    {w w' : Site} {ts : List Table}
    (hx : (nodeData pair snapshot extension application).outcome w = (.ok ts, w')) :
    ∃ before r r' r'',
      Committable pair snapshot extension application w.connections (w.connections + 1) ts before ∧
      w'.talk = w.talk ++ (before ++ .exchange (.execute (w.connections + 1) "COMMIT" none) r ::
        [.exchange (.close w.connections) r', .exchange (.close (w.connections + 1)) r'']) := by
  obtain ⟨talk, hTalk, hCourse⟩ := nodeData_follows pair snapshot extension application w
  rw [hx] at hTalk hCourse
  cases hCourse with
  | completed hBefore => exact ⟨_, _, _, _, hBefore, hTalk⟩

theorem nodeData_carries {pair : NodePair} {snapshot : Value} {extension application : String}
    {w w' : Site} {ts : List Table}
    (hx : (nodeData pair snapshot extension application).outcome w = (.ok ts, w')) :
    ∃ talk contents, w'.talk = w.talk ++ talk ∧ contents.map Prod.fst = ts ∧
      Carried w.connections (w.connections + 1) contents talk := by
  obtain ⟨before, r, r', r'', hBefore, hTalk⟩ := nodeData_closed hx
  have hConn : w.connections ≠ w.connections + 1 := Nat.ne_of_lt (Nat.lt_succ_self _)
  obtain ⟨contents, hTables, hCarried⟩ := hBefore.carried hConn
  have hClosing := (idle_execute (w.connections + 1) "COMMIT" none r).append
    ((idle_close w.connections r').append (idle_close (w.connections + 1) r''))
  exact ⟨_, contents, hTalk, hTables, hCarried _ hClosing⟩

/-- A copy that ends well has carried over every listed table, whatever the servers hold; and from any
site, the copy of one table counts what it has carried over or is at most one chunk behind. -/
theorem relays_faithfully :
    (∀ (pair : NodePair) (snapshot : Value) (extension application : String) (w w' : Site)
      (ts : List Table),
      (nodeData pair snapshot extension application).outcome w = (.ok ts, w') →
        ∃ talk contents, w'.talk = w.talk ++ talk ∧ contents.map Prod.fst = ts ∧
          Carried w.connections (w.connections + 1) contents talk ∧
          (passages .fromServer w.connections talk).map (·.chunks.flatten) =
            (passages .toServer (w.connections + 1) talk).map (·.chunks.flatten)) ∧
    ∀ (origin target : Nat) (t : Table) (w : Site), origin ≠ target →
      ∃ copy, ((table origin target t).outcome w).2.talk = w.talk ++ copy ∧
        TableCarried origin target t ((table origin target t).outcome w).1 copy := by
  constructor
  · intro pair snapshot extension application w w' ts hx
    obtain ⟨talk, contents, hTalk, hTables, hCarried⟩ := nodeData_carries hx
    exact ⟨talk, contents, hTalk, hTables, hCarried, hCarried.bytes⟩
  · intro origin target t w hConn
    exact table_carries hConn t w

theorem outcome_twoTables :
    ∃ ts w', (nodeData twoTablesPair "s1" "pglogical" "setup").outcome twoTables = (.ok ts, w') ∧
      ts.map Table.text = ["public.a", "public.b"] ∧
      (passages .toServer 1 w'.talk).map (·.chunks) = [[[1, 2], [3]], []] := by
  have hRun : ((nodeData twoTablesPair "s1" "pglogical" "setup").outcome twoTables).1.toOption.map
        (List.map Table.text) = some ["public.a", "public.b"] ∧
      (passages .toServer 1 ((nodeData twoTablesPair "s1" "pglogical" "setup").outcome
        twoTables).2.talk).map (·.chunks) = [[[1, 2], [3]], []] := by
    decide +kernel
  rcases hx : (nodeData twoTablesPair "s1" "pglogical" "setup").outcome twoTables with ⟨r, w'⟩
  rw [hx] at hRun
  cases r with
  | error f => cases hRun.1
  | ok ts => exact ⟨ts, w', rfl, Option.some.inj hRun.1, hRun.2⟩

theorem relays_twoTables_faithfully :
    ∃ ts w', (nodeData twoTablesPair "s1" "pglogical" "setup").outcome twoTables = (.ok ts, w') ∧
      ts.map Table.text = ["public.a", "public.b"] ∧
      (passages .toServer 1 w'.talk).map (·.chunks) = [[[1, 2], [3]], []] ∧
      (∃ talk contents, w'.talk = twoTables.talk ++ talk ∧ contents.map Prod.fst = ts ∧
        Carried 0 1 contents talk ∧
        (passages .fromServer 0 talk).map (·.chunks.flatten) =
          (passages .toServer 1 talk).map (·.chunks.flatten)) ∧
      ∃ copy, ((table 0 1 ⟨"public", "a"⟩).outcome twoTables).2.talk = twoTables.talk ++ copy ∧
        TableCarried 0 1 ⟨"public", "a"⟩ ((table 0 1 ⟨"public", "a"⟩).outcome twoTables).1 copy := by
  obtain ⟨ts, w', hx, hTables, hChunks⟩ := outcome_twoTables
  exact ⟨ts, w', hx, hTables, hChunks, relays_faithfully.1 _ _ _ _ _ _ _ hx,
    relays_faithfully.2 0 1 _ _ Nat.zero_ne_one⟩

end ReplicaBootstrap.Copy
