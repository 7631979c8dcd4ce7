import ReplicaBootstrap.Copy.NodeData
import ReplicaBootstrap.Proofs.Copy.Statement
import ReplicaBootstrap.Proofs.Site

/-! # The course of a copy

What can be said while a node is copied, as a grammar of talks: chunks, tables and the two
transactions, each completed or cut off, and what a cut comes from.
-/

namespace ReplicaBootstrap

def Entry.isCommitOn (target : Nat) : Entry → Bool
  | .exchange (.execute conn query _) _ => conn = target && query = "COMMIT"
  | .exchange (.commit conn) _ => conn = target
  | _ => false

/-- The fault that an entry of a copy tells of; giving up a copy is no cause of anything. -/
def Entry.failure? : Entry → Option Fault
  | .check requested => if requested then some Interrupts.cancelled else none
  | .exchange (.abortCopy _ _) _ | .event _ => none
  | .exchange _ r => r.fault

def Entry.isAbort : Entry → Bool
  | .exchange (.abortCopy _ _) _ => true
  | _ => false

def Event.isRun : Event → Bool
  | .run _ => true
  | _ => false

namespace Copy

def chunk? (direction : Direction) (conn : Nat) : Entry → Option (List UInt8)
  | .exchange (.read c) r =>
    if direction = .fromServer ∧ c = conn ∧ r.fault.isNone then some r.data else none
  | .exchange (.write c data) r =>
    if direction = .toServer ∧ c = conn ∧ r.fault.isNone then some data else none
  | _ => none

def moved (direction : Direction) (conn : Nat) (talk : List Entry) : List (List UInt8) :=
  talk.filterMap (chunk? direction conn)

theorem moved_append (direction : Direction) (conn : Nat) (talk talk' : List Entry) :
    moved direction conn (talk ++ talk') = moved direction conn talk ++ moved direction conn talk' :=
  List.filterMap_append

section

variable {origin target : Nat} {r r' : Reply} {rest : List Entry} (hRead : r.fault = none)
  (hWrite : r'.fault = none)

include hRead in
theorem moved_fromServer_chunk :
    moved .fromServer origin
        (.exchange (.read origin) r :: .exchange (.write target r.data) r' :: .check false :: rest) =
      r.data :: moved .fromServer origin rest := by
  simp [moved, List.filterMap_cons, chunk?, hRead]

include hWrite in
theorem moved_toServer_chunk :
    moved .toServer target
        (.exchange (.read origin) r :: .exchange (.write target r.data) r' :: .check false :: rest) =
      r.data :: moved .toServer target rest := by
  simp [moved, List.filterMap_cons, chunk?, hWrite]

end

/-- The chunks of a table, up to the empty one, each written before the next is read. -/
inductive Relayed (origin target : Nat) : List Entry → Prop
  | done {r : Reply} (hRead : r.fault = none) (hEmpty : r.data = []) :
      Relayed origin target [.exchange (.read origin) r]
  | chunk {r r' : Reply} {rest : List Entry} (hRead : r.fault = none) (hData : r.data ≠ [])
      (hWrite : r'.fault = none) (hRest : Relayed origin target rest) :
      Relayed origin target
        (.exchange (.read origin) r :: .exchange (.write target r.data) r' :: .check false :: rest)

inductive Opened (conn : Nat) (direction : Direction) (t : Table) : List Entry → Prop
  | mk {query : String} {r r' : Reply} (hQuery : CopyOf t direction query)
      (hCursor : r.fault = none) (hCopy : r'.fault = none) :
      Opened conn direction t
        [.exchange (.openCursor conn) r, .exchange (.startCopy conn query) r']

theorem Opened.moved {direction direction' : Direction} {conn conn' : Nat} {t : Table}
    {talk : List Entry} (h : Opened conn direction t talk) : moved direction' conn' talk = [] := by
  cases h
  rfl

theorem moved_between {direction : Direction} {conn origin target : Nat} {t : Table}
    {source sink chunks tail : List Entry} (hSource : Opened origin .fromServer t source)
    (hSink : Opened target .toServer t sink) (hTail : moved direction conn tail = []) :
    moved direction conn (source ++ sink ++ chunks ++ tail) = moved direction conn chunks := by
  rw [moved_append, moved_append, moved_append, hSource.moved, hSink.moved, hTail,
    List.append_nil]
  rfl

/-- A table is copied: its streams are opened, all chunks are moved, and both streams end well, the
target's last. -/
inductive Copied (origin target : Nat) (t : Table) : List Entry → Prop
  | mk {source sink chunks : List Entry} {r r' : Reply}
      (hSource : Opened origin .fromServer t source) (hSink : Opened target .toServer t sink)
      (hChunks : Relayed origin target chunks) (hOrigin : r.fault = none)
      (hTarget : r'.fault = none) :
      Copied origin target t (source ++ sink ++ chunks ++
        [.exchange (.endCopy origin) r, .exchange (.endCopy target) r'])

/-- Tables are copied one after the other, and after each one nobody wants to stop. -/
inductive CopiedAll (origin target : Nat) : List Table → List Entry → Prop
  | nil : CopiedAll origin target [] []
  | cons {t : Table} {ts : List Table} {copy copies : List Entry}
      (hCopy : Copied origin target t copy) (hCopies : CopiedAll origin target ts copies) :
      CopiedAll origin target (t :: ts) (copy ++ .check false :: copies)

/-- A reply that is well or a fault of the driver. -/
def Tolerable (r : Reply) : Prop := ∀ f, r.fault = some f → f.isDriver = true

theorem tolerable_of_none {r : Reply} (h : r.fault = none) : Tolerable r := by
  intro f hf
  rw [h] at hf
  cases hf

theorem tolerable_of_driver {r : Reply} {f : Fault} (hFault : r.fault = some f)
    (hDriver : f.isDriver = true) : Tolerable r := by
  intro g hg
  rw [hFault] at hg
  cases hg
  exact hDriver

theorem not_tolerable_of_other {r : Reply} {f : Fault} (hFault : r.fault = some f)
    (hOther : f.isDriver = false) : ¬ Tolerable r := by
  intro h
  rw [h f hFault] at hOther
  cases hOther

/-! ## Requests in full -/

def script (statements : List String) : String :=
  "\n" ++ String.join (statements.map (· ++ ";\n"))

/-- Settings under which data has the same text on both sides, and no time limits. -/
def alike : List String := [
    "SET DATESTYLE = ISO", "SET INTERVALSTYLE = POSTGRES", "SET extra_float_digits TO 3",
    "SET statement_timeout = 0", "SET lock_timeout = 0"]

/-- A transaction that only reads, on the snapshot that a literal names. -/
def originOpening (literal : String) : List String :=
  "BEGIN TRANSACTION ISOLATION LEVEL REPEATABLE READ, READ ONLY" ::
    ("SET TRANSACTION SNAPSHOT " ++ literal) :: alike

def targetOpening : List String := "BEGIN TRANSACTION ISOLATION LEVEL READ COMMITTED" :: alike

def listOf (extension : String) : String :=
  "SELECT nspname, relname FROM " ++ extension ++ ".tables WHERE set_name = ANY(%s::text[])"

inductive NamesTable : List Value → Table → Prop
  | mk {schema name : Value} {rest : List Value} : NamesTable (schema :: name :: rest) ⟨schema, name⟩

theorem sessionSettings_eq : sessionSettings = String.join (alike.map (· ++ ";\n")) := by
  decide +kernel

theorem originSetup_eq (literal : String) : originSetup literal = script (originOpening literal) := by
  have hBegin : "\nBEGIN TRANSACTION ISOLATION LEVEL REPEATABLE READ, READ ONLY;\n" =
      "\n" ++ ("BEGIN TRANSACTION ISOLATION LEVEL REPEATABLE READ, READ ONLY" ++ ";\n") := by
    decide +kernel
  unfold originSetup script originOpening
  rw [List.map_cons, List.map_cons, String.join_cons, String.join_cons, ← sessionSettings_eq, hBegin]
  simp only [String.append_assoc, ToString.toString]

theorem targetSetup_eq : targetSetup = script targetOpening := by decide +kernel

theorem listQuery_eq (extension : String) : listQuery extension = listOf extension := rfl

theorem tableOfRow_eq_ok_iff {row : List Value} {t : Table} :
    tableOfRow row = .ok t ↔ NamesTable row t := by
  constructor
  · intro h
    match row, h with
    | schema :: name :: rest, h =>
      cases h
      exact .mk
  · rintro ⟨⟩
    rfl

theorem mapM_tableOfRow_eq_ok_iff {rows : List (List Value)} {ts : List Table} :
    rows.mapM tableOfRow = .ok ts ↔ List.Forall₂ NamesTable rows ts := by
  simp only [Action.mapM_eq_ok_iff, tableOfRow_eq_ok_iff]

section

variable (pair : NodePair) (snapshot : Value) (extension application : String)
  (origin target : Nat)

inductive Connected (conn : Nat) (dsn : Value) : List Entry → Prop
  | mk {conninfo : String} {r : Reply}
      (hConninfo : Conninfo.extend dsn (Session.Purpose.queries.params application) = .ok conninfo)
      (hConnect : r.fault = none) :
      Connected conn dsn [.exchange (.connect conn conninfo true) r]

/-- The origin's transaction is begun, and is given the snapshot before anything else. -/
inductive Begun : List Entry → Prop
  | mk {literal : String} {r : Reply} (hLiteral : Sql.literal snapshot = .ok literal)
      (hText : ∀ text, snapshot = .text text → Sql.StandsFor text literal)
      (hBegin : r.fault = none) :
      Begun [.exchange (.execute origin (script (originOpening literal)) none) r]

inductive Listed (ts : List Table) : List Entry → Prop
  | mk {r : Reply} (hList : r.fault = none) (hRows : List.Forall₂ NamesTable r.rows ts) :
      Listed ts
        [.exchange (.execute origin (listOf (Sql.quotedName extension))
          (some [.list (pair.replicationSets.map .text)])) r]

/-- All that is said before the target's transaction can be committed. The origin's may have been
refused its end. -/
inductive Committable (ts : List Table) : List Entry → Prop
  | mk {source begun listing sink copies : List Entry} {r r' : Reply}
      (hSource : Connected application origin pair.origin.dsn source)
      (hBegun : Begun snapshot origin begun) (hListing : Listed pair extension origin ts listing)
      (hSink : Connected application target pair.target.dsn sink)
      (hBegin : r.fault = none) (hCopies : CopiedAll origin target ts copies)
      (hRollback : Tolerable r') :
      Committable ts (source ++ begun ++ listing ++ sink ++
        .exchange (.execute target (script targetOpening) none) r :: copies ++
        [.exchange (.execute origin "ROLLBACK" none) r'])

end

/-! ## Where a copy is cut off -/

inductive OpeningCut (conn : Nat) : List Entry → Prop
  /-- the table has a name that is no text -/
  | unnamed : OpeningCut conn []
  | cursor {r : Reply} (hCursor : r.fault ≠ none) :
      OpeningCut conn [.exchange (.openCursor conn) r]
  | copy {query : String} {r r' : Reply} (hCursor : r.fault = none) (hCopy : r'.fault ≠ none) :
      OpeningCut conn [.exchange (.openCursor conn) r, .exchange (.startCopy conn query) r']

/-- Chunks are moved until a request fails, somebody wants to stop, or no round is left. -/
inductive RelayCut (origin target : Nat) : List Entry → Prop
  | endless : RelayCut origin target []
  | read {r : Reply} (hRead : r.fault ≠ none) :
      RelayCut origin target [.exchange (.read origin) r]
  | write {r r' : Reply} (hRead : r.fault = none) (hData : r.data ≠ []) (hWrite : r'.fault ≠ none) :
      RelayCut origin target [.exchange (.read origin) r, .exchange (.write target r.data) r']
  | stopped {r r' : Reply} (hRead : r.fault = none) (hData : r.data ≠ []) (hWrite : r'.fault = none) :
      RelayCut origin target
        [.exchange (.read origin) r, .exchange (.write target r.data) r', .check true]
  | chunk {r r' : Reply} {rest : List Entry} (hRead : r.fault = none) (hData : r.data ≠ [])
      (hWrite : r'.fault = none) (hRest : RelayCut origin target rest) :
      RelayCut origin target
        (.exchange (.read origin) r :: .exchange (.write target r.data) r' :: .check false :: rest)

/-- Both copies are given up, the target's only if the origin's does not fail in turn. -/
inductive GivenUp (origin target : Nat) : List Entry → Prop
  | origin {cause : FaultKind} {r : Reply} (hOrigin : ¬ Tolerable r) :
      GivenUp origin target [.exchange (.abortCopy origin cause) r]
  | both {cause cause' : FaultKind} {r r' : Reply} (hOrigin : Tolerable r) :
      GivenUp origin target
        [.exchange (.abortCopy origin cause) r, .exchange (.abortCopy target cause') r']

/-- The copy of a table as far as it came: to the opening of a stream, through some of the chunks, or
to the end of a stream. -/
inductive CopyCut (origin target : Nat) (t : Table) : List Entry → Prop
  | source {opening : List Entry} (hSource : OpeningCut origin opening) :
      CopyCut origin target t opening
  | sink {source opening : List Entry} {cause : FaultKind} {r : Reply}
      (hSource : Opened origin .fromServer t source) (hSink : OpeningCut target opening) :
      CopyCut origin target t (source ++ opening ++ [.exchange (.abortCopy origin cause) r])
  | relay {source sink chunks aborts : List Entry} (hSource : Opened origin .fromServer t source)
      (hSink : Opened target .toServer t sink) (hChunks : RelayCut origin target chunks)
      (hAborts : GivenUp origin target aborts) :
      CopyCut origin target t (source ++ sink ++ chunks ++ aborts)
  | sourceEnd {source sink chunks : List Entry} {cause : FaultKind} {r r' : Reply}
      (hSource : Opened origin .fromServer t source) (hSink : Opened target .toServer t sink)
      (hChunks : Relayed origin target chunks) (hOrigin : r.fault ≠ none) :
      CopyCut origin target t (source ++ sink ++ chunks ++
        [.exchange (.endCopy origin) r, .exchange (.abortCopy target cause) r'])
  | sinkEnd {source sink chunks : List Entry} {r r' : Reply}
      (hSource : Opened origin .fromServer t source) (hSink : Opened target .toServer t sink)
      (hChunks : Relayed origin target chunks) (hOrigin : r.fault = none)
      (hTarget : r'.fault ≠ none) :
      CopyCut origin target t (source ++ sink ++ chunks ++
        [.exchange (.endCopy origin) r, .exchange (.endCopy target) r'])

/-! ## Faults of a copy -/

/-- What a failed request leads to: the reply's own fault, unless it is the driver's, which is told as
one of the initialisation. -/
def Answerable (r : Reply) (f : Fault) : Prop :=
  f.isInit = true ∨ r.fault = some f ∧ f.isDriver = false

theorem answerable_explained {r : Reply} {f : Fault} {explain : Fault → Fault}
    (hFault : r.fault = some f) (hExplain : (explain f).isInit = true) :
    Answerable r (if f.isDriver then explain f else f) := by
  cases hDriver : f.isDriver with
  | true => exact .inl hExplain
  | false => exact .inr ⟨hFault, hDriver⟩

/-- Where the fault of a copy comes from. -/
inductive Blames (t : Table) (talk : List Entry) (f : Fault) : Prop
  | stopped (hInit : f.isInit = true)
  | reply {e : Event} {r : Reply} (hSaid : .exchange e r ∈ talk) (hServer : e.isRun = false)
      (hAnswer : Answerable r f)
  | unnamed {direction : Direction} (hStatement : statement direction t = .error f)
  | endless (hEndless : f = endless)

theorem Blames.mono {t : Table} {talk talk' : List Entry} {f : Fault} (h : Blames t talk f)
    (hSub : talk ⊆ talk') : Blames t talk' f := by
  cases h with
  | stopped hInit => exact .stopped hInit
  | reply hSaid hServer hAnswer => exact .reply (hSub hSaid) hServer hAnswer
  | unnamed hStatement => exact .unnamed hStatement
  | endless hEndless => exact .endless hEndless

/-- `f` is what the program makes of `g`: a fault of the driver becomes one of the copy. -/
def Conveys (f g : Fault) : Prop :=
  if g.isDriver then ∃ words, f = .init .copy (words ++ g.text) else f = g

def Conveyed (r : Reply) (f : Fault) : Prop := ∃ g, r.fault = some g ∧ Conveys f g

theorem Conveyed.ne_none {r : Reply} {f : Fault} (h : Conveyed r f) : r.fault ≠ none := by
  obtain ⟨g, hFault, -⟩ := h
  simp [hFault]

theorem Conveyed.answerable {r : Reply} {f : Fault} (h : Conveyed r f) : Answerable r f := by
  obtain ⟨g, hFault, hConveys⟩ := h
  unfold Conveys at hConveys
  split at hConveys
  · obtain ⟨words, rfl⟩ := hConveys
    exact .inl rfl
  · rename_i hOther
    subst hConveys
    exact .inr ⟨hFault, Bool.eq_false_iff.mpr hOther⟩

theorem conveyed_explained {r : Reply} {g : Fault} (explain : Fault → Fault)
    (hFault : r.fault = some g) (hExplain : ∃ words, explain g = .init .copy (words ++ g.text)) :
    Conveyed r (if g.isDriver then explain g else g) := by
  refine ⟨g, hFault, ?_⟩
  unfold Conveys
  split
  · exact hExplain
  · rfl

def Unfailing (talk : List Entry) : Prop := talk.findSome? Entry.failure? = none

theorem Unfailing.append {talk talk' : List Entry} (h : Unfailing talk) (h' : Unfailing talk') :
    Unfailing (talk ++ talk') := by
  rw [Unfailing, List.findSome?_append, h, Option.none_or]
  exact h'

theorem unfailing_of_aborts {talk : List Entry} (h : ∀ x ∈ talk, x.isAbort = true) :
    Unfailing talk := by
  rw [Unfailing, List.findSome?_eq_none_iff]
  intro x hx
  have hAbort := h x hx
  unfold Entry.isAbort at hAbort
  split at hAbort
  · rfl
  · cases hAbort

/-- What cut a copy off: the first request that failed or the wish to stop, a table without a name,
or a source without an end. Of the last, nothing is seen but that nobody wanted to stop so far. -/
inductive Caused (t : Table) (talk : List Entry) (f : Fault) : Prop
  | failed {g : Fault} (hFirst : talk.findSome? Entry.failure? = some g) (hConveys : Conveys f g)
  | unnamed {direction : Direction} (hTalk : Unfailing talk)
      (hStatement : statement direction t = .error f)
  | endless {said aborts : List Entry} (hTalk : Unfailing talk) (hEndless : f = endless)
      (hSaid : talk = said ++ .check false :: aborts) (hAborts : ∀ x ∈ aborts, x.isAbort = true)

theorem Caused.after {t : Table} {talk talk' : List Entry} {f : Fault} (h : Caused t talk f)
    (hBefore : Unfailing talk') : Caused t (talk' ++ talk) f := by
  have hTalk : (talk' ++ talk).findSome? Entry.failure? = talk.findSome? Entry.failure? := by
    rw [List.findSome?_append, hBefore, Option.none_or]
  cases h with
  | failed hFirst hConveys => exact .failed (hTalk.trans hFirst) hConveys
  | unnamed hNone hStatement => exact .unnamed (hTalk.trans hNone) hStatement
  | endless hNone hEndless hSaid hAborts =>
    have hWhole := congrArg (talk' ++ ·) hSaid
    rw [← List.append_assoc] at hWhole
    exact .endless (hTalk.trans hNone) hEndless hWhole hAborts

theorem Caused.before {t : Table} {talk talk' : List Entry} {f : Fault} (h : Caused t talk f)
    (hAfter : ∀ x ∈ talk', x.isAbort = true) : Caused t (talk ++ talk') f := by
  have hTalk : (talk ++ talk').findSome? Entry.failure? = talk.findSome? Entry.failure? := by
    rw [List.findSome?_append, unfailing_of_aborts hAfter, Option.or_none]
  cases h with
  | failed hFirst hConveys => exact .failed (hTalk.trans hFirst) hConveys
  | unnamed hNone hStatement => exact .unnamed (hTalk.trans hNone) hStatement
  | endless hNone hEndless hSaid hAborts =>
    have hWhole := congrArg (· ++ talk') hSaid
    rw [List.append_assoc, List.cons_append] at hWhole
    exact .endless (hTalk.trans hNone) hEndless hWhole (List.forall_mem_append.mpr ⟨hAborts, hAfter⟩)

theorem Conveyed.caused {r : Reply} {f : Fault} (h : Conveyed r f) (t : Table) {e : Event}
    (he : (Entry.exchange e r).failure? = r.fault) : Caused t [.exchange e r] f := by
  obtain ⟨g, hFault, hConveys⟩ := h
  exact .failed (by simp [he, hFault]) hConveys

theorem caused_cancelled (t : Table) : Caused t [.check true] Interrupts.cancelled :=
  .failed rfl rfl

/-- No copy is given up with a complaint that is more than the driver's. -/
def Bearable (talk : List Entry) : Prop :=
  ∀ conn cause r, .exchange (.abortCopy conn cause) r ∈ talk → Tolerable r

/-! ## The course of a whole copy -/

/-- A connection that is not made: its conninfo cannot be read, or the server refuses it. -/
inductive ConnectCut (application : String) (conn : Nat) (dsn : Value) : List Entry → Prop
  | unread {f : Fault}
      (hDsn : Conninfo.extend dsn (Session.Purpose.queries.params application) = .error f) :
      ConnectCut application conn dsn []
  | refused {conninfo : String} {r : Reply} (hConnect : r.fault ≠ none) :
      ConnectCut application conn dsn [.exchange (.connect conn conninfo true) r]

inductive BeginCut (snapshot : Value) (origin : Nat) : List Entry → Prop
  | unwritten {f : Fault} (hLiteral : Sql.literal snapshot = .error f) :
      BeginCut snapshot origin []
  | refused {literal : String} {r : Reply} (hBegin : r.fault ≠ none) :
      BeginCut snapshot origin [.exchange (.execute origin (script (originOpening literal)) none) r]

inductive ListCut (origin : Nat) : List Entry → Prop
  | refused {name : String} {sets : Value} {r : Reply} (hList : r.fault ≠ none) :
      ListCut origin [.exchange (.execute origin (listOf name) (some [sets])) r]
  | unread {name : String} {sets : Value} {r : Reply} {f : Fault}
      (hRows : r.rows.mapM tableOfRow = .error f) :
      ListCut origin [.exchange (.execute origin (listOf name) (some [sets])) r]

/-- Tables are copied one after the other, up to one that is cut off or after which somebody wants to
stop. -/
inductive CopiesCut (origin target : Nat) : List Table → List Entry → Fault → Prop
  | table {t : Table} {ts : List Table} {copy : List Entry} {f : Fault}
      (hCopy : CopyCut origin target t copy) (hCaused : Bearable copy → Caused t copy f) :
      CopiesCut origin target (t :: ts) copy f
  | stopped {t : Table} {ts : List Table} {copy : List Entry} (hCopy : Copied origin target t copy) :
      CopiesCut origin target (t :: ts) (copy ++ [.check true]) Interrupts.cancelled
  | later {t : Table} {ts : List Table} {copy copies : List Entry} {f : Fault}
      (hCopy : Copied origin target t copy) (hCopies : CopiesCut origin target ts copies f) :
      CopiesCut origin target (t :: ts) (copy ++ .check false :: copies) f

/-- The target's transaction up to the end of the origin's. -/
inductive Transferred (origin target : Nat) (ts : List Table) : List Entry → Prop
  | mk {r r' : Reply} {copies : List Entry} (hBegin : r.fault = none)
      (hCopies : CopiedAll origin target ts copies) (hRollback : Tolerable r') :
      Transferred origin target ts (.exchange (.execute target (script targetOpening) none) r :: copies ++
        [.exchange (.execute origin "ROLLBACK" none) r'])

inductive TransferCut (origin target : Nat) (ts : List Table) : List Entry → Fault → Prop
  | begin {r : Reply} {f : Fault} (hBegin : r.fault ≠ none) :
      TransferCut origin target ts [.exchange (.execute target (script targetOpening) none) r] f
  | tables {r : Reply} {copies : List Entry} {f : Fault} (hBegin : r.fault = none)
      (hCopies : CopiesCut origin target ts copies f) :
      TransferCut origin target ts (.exchange (.execute target (script targetOpening) none) r :: copies) f
  | rollback {r r' : Reply} {copies : List Entry} {f : Fault} (hBegin : r.fault = none)
      (hCopies : CopiedAll origin target ts copies) (hRollback : ¬ Tolerable r') :
      TransferCut origin target ts
        (.exchange (.execute target (script targetOpening) none) r :: copies ++
          [.exchange (.execute origin "ROLLBACK" none) r']) f

def Closings (talk : List Entry) : Prop := ∀ x ∈ talk, ∃ conn r, x = .exchange (.close conn) r

def Unclosed (talk : List Entry) : Prop :=
  ∃ conn r, .exchange (.close conn) r ∈ talk ∧ ¬ Tolerable r

section

variable (pair : NodePair) (snapshot : Value) (extension application : String)
  (origin target : Nat)

inductive Prepared (ts : List Table) : List Entry → Prop
  | mk {begun listing sink : List Entry} (hBegun : Begun snapshot origin begun)
      (hListing : Listed pair extension origin ts listing)
      (hSink : Connected application target pair.target.dsn sink) :
      Prepared ts (begun ++ listing ++ sink)

inductive PrepareCut : List Entry → Prop
  | begin {said : List Entry} (hBegin : BeginCut snapshot origin said) : PrepareCut said
  | listing {begun said : List Entry} (hBegun : Begun snapshot origin begun)
      (hListing : ListCut origin said) : PrepareCut (begun ++ said)
  | connect {ts : List Table} {begun listing said : List Entry}
      (hBegun : Begun snapshot origin begun) (hListing : Listed pair extension origin ts listing)
      (hSink : ConnectCut application target pair.target.dsn said) :
      PrepareCut (begun ++ listing ++ said)

/-- What is said while a node is copied, with the outcome. A connection that fails to close replaces
the outcome by its own fault. -/
inductive Course : Except Fault (List Table) → List Entry → Prop
  | unconnected {f : Fault} {said : List Entry}
      (hSource : ConnectCut application origin pair.origin.dsn said) : Course (.error f) said
  | unprepared {f : Fault} {source said closing : List Entry}
      (hSource : Connected application origin pair.origin.dsn source)
      (hCut : PrepareCut pair snapshot extension application origin target said)
      (hClosing : Closings closing) : Course (.error f) (source ++ said ++ closing)
  | untransferred {f g : Fault} {ts : List Table} {source prepared said closing : List Entry}
      (hSource : Connected application origin pair.origin.dsn source)
      (hPrepared : Prepared pair snapshot extension application origin target ts prepared)
      (hCut : TransferCut origin target ts said f) (hClosing : Closings closing)
      (hFault : g = f ∨ Unclosed closing) :
      Course (.error g) (source ++ prepared ++ said ++ closing)
  | uncommitted {f : Fault} {ts : List Table} {before closing : List Entry} {r : Reply}
      (hBefore : Committable pair snapshot extension application origin target ts before)
      (hCommit : r.fault ≠ none) (hClosing : Closings closing) :
      Course (.error f) (before ++ .exchange (.execute target "COMMIT" none) r :: closing)
  | unclosed {f : Fault} {ts : List Table} {before closing : List Entry} {r : Reply}
      (hBefore : Committable pair snapshot extension application origin target ts before)
      (hCommit : r.fault = none) (hClosing : Closings closing) (hUnclosed : Unclosed closing) :
      Course (.error f) (before ++ .exchange (.execute target "COMMIT" none) r :: closing)
  | completed {ts : List Table} {before : List Entry} {r r' r'' : Reply}
      (hBefore : Committable pair snapshot extension application origin target ts before)
      (hCommit : r.fault = none) :
      Course (.ok ts) (before ++ .exchange (.execute target "COMMIT" none) r ::
        [.exchange (.close origin) r', .exchange (.close target) r''])

end

/-! ## Parts in which nothing fails -/

variable {origin target : Nat} {talk : List Entry}

theorem Relayed.unfailing (h : Relayed origin target talk) : Unfailing talk := by
  induction h with
  | done hRead => simp [Unfailing, Entry.failure?, hRead]
  | chunk hRead _ hWrite _ ih => simpa [Unfailing, Entry.failure?, hRead, hWrite] using ih

theorem Opened.unfailing {conn : Nat} {direction : Direction} {t : Table}
    (h : Opened conn direction t talk) : Unfailing talk := by
  obtain ⟨-, hCursor, hCopy⟩ := h
  simp [Unfailing, Entry.failure?, hCursor, hCopy]

theorem GivenUp.isAbort (h : GivenUp origin target talk) : ∀ x ∈ talk, x.isAbort = true := by
  cases h <;> simp [Entry.isAbort]

end Copy

end ReplicaBootstrap
