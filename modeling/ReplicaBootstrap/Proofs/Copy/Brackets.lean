import ReplicaBootstrap.Proofs.Connections.Use
import ReplicaBootstrap.Proofs.Copy.Relay

/-! # Brackets of copies

One table is copied after another over the same two connections, whether the copy before went well or
not. Each copy that is started is ended once and each cursor closed once, the target's copy ends well
only after the origin's, and the fault that leaves is the one that cut the copy off.
-/

namespace ReplicaBootstrap

/-- The closing of a cursor that follows what was said. -/
def Entry.closing : Entry → List Entry
  | .exchange (.startCopy conn _) r =>
    if r.fault.any Fault.isDriver then [.event (.closeCursor conn)] else []
  | .exchange (.endCopy conn) _ | .exchange (.abortCopy conn _) _ => [.event (.closeCursor conn)]
  | _ => []

/-- Whether an entry is said or closes a cursor. -/
def Entry.isStep : Entry → Bool
  | .event (.closeCursor _) => true
  | x => x.isTalk

/-- Whether an entry is about the cursor of a connection or the copy over it, as far as these are
opened and ended. -/
def Entry.isBracketOf (conn : Nat) : Entry → Bool
  | .event (.closeCursor c) => c = conn
  | .exchange (.openCursor c) _ | .exchange (.startCopy c _) _ | .exchange (.endCopy c) _
  | .exchange (.abortCopy c _) _ => c = conn
  | _ => false

/-- Whether an entry ends the copy over a connection, well or by giving it up. -/
def Entry.endsCopy (conn : Nat) : Entry → Bool
  | .exchange (.endCopy c) _ | .exchange (.abortCopy c _) _ => c = conn
  | _ => false

/-- Whether starting a copy and giving one up fail, if at all, as the driver does. -/
def Entry.isTame : Entry → Bool
  | .exchange (.startCopy _ _) r | .exchange (.abortCopy _ _) r => r.fault.all Fault.isDriver
  | _ => true

theorem Entry.isStep_of_isBracketOf {conn : Nat} {x : Entry} (h : x.isBracketOf conn = true) :
    x.isStep = true := by
  cases x with
  | event e => cases e <;> first | rfl | cases h
  | exchange e r => rfl
  | check requested => rfl

namespace Copy

open ReplicaBootstrap.Action Site

/-! ## The closing of cursors -/

/-- A talk with the closings of cursors that follow. -/
def withClosings (talk : List Entry) : List Entry := talk.flatMap fun x => x :: x.closing

/-- Every cursor that had to be closed was closed in its place, up to the closings still owed. -/
def Balanced (before owed : List Entry) (w : Site) : Prop :=
  ∃ said, w.journal.toList = before ++ said ∧
    said.filter Entry.isStep ++ owed = withClosings (said.filter Entry.isTalk)

section

variable {before owed : List Entry} {bad : Fault → Site → Prop}

theorem balanced_self (w : Site) : Balanced w.journal.toList [] w :=
  ⟨[], (List.append_nil _).symm, rfl⟩

theorem Balanced.record {w : Site} (h : Balanced before owed w) {x : Entry}
    (hx : x.isStep = false) : Balanced before owed (w.record x) := by
  obtain ⟨said, hJournal, hSaid⟩ := h
  have hTalk : x.isTalk = false := by
    cases x with
    | event e => rfl
    | exchange e r => cases hx
    | check requested => cases hx
  refine ⟨said ++ [x], ?_, ?_⟩
  · rw [journal_record, hJournal, List.append_assoc]
  · simpa [List.filter_append, hx, hTalk] using hSaid

theorem Balanced.say {w : Site} (h : Balanced before [] w) {x : Entry} (hx : x.isTalk = true) :
    Balanced before x.closing (w.record x) := by
  obtain ⟨said, hJournal, hSaid⟩ := h
  have hStep : x.isStep = true := by
    cases x with
    | event e => cases hx
    | exchange e r => rfl
    | check requested => rfl
  refine ⟨said ++ [x], ?_, ?_⟩
  · rw [journal_record, hJournal, List.append_assoc]
  · rw [List.append_nil] at hSaid
    rw [List.filter_append, List.filter_append, List.filter_cons_of_pos hStep,
      List.filter_cons_of_pos hx, hSaid, withClosings, withClosings, List.flatMap_append]
    simp

theorem Balanced.close {w : Site} {conn : Nat}
    (h : Balanced before [.event (.closeCursor conn)] w) :
    Balanced before [] (w.record (.event (.closeCursor conn))) := by
  obtain ⟨said, hJournal, hSaid⟩ := h
  refine ⟨said ++ [.event (.closeCursor conn)], ?_, ?_⟩
  · rw [journal_record, hJournal, List.append_assoc]
  · simpa [List.filter_append, List.filter_cons, Entry.isStep, Entry.isTalk] using hSaid

theorem balanced_log (level : Level) (text : String) :
    Meets (Balanced before owed) (log level text) (fun _ => Balanced before owed) bad :=
  meets_modify fun _ h => h.record rfl

theorem balanced_deliver (number : Int) :
    Meets (Balanced before owed) (deliver number) (fun _ => Balanced before owed) bad := by
  refine Undisturbed.deliver ⟨fun w e he h => h.record ?_, fun _ _ h => h⟩ number
  rcases he with ⟨number, rfl⟩ | ⟨x, rfl⟩ <;> rfl

theorem balanced_request (conn : Nat) (e : Event) (text : String) :
    Meets (Balanced before []) (request conn e text)
      (fun r w => r.fault = none ∧ Balanced before (Entry.exchange e r).closing w)
      (fun f w => ∃ r, r.fault = some f ∧ Balanced before (Entry.exchange e r).closing w) := by
  apply Site.meets_request
  · intro r _ w h
    exact h.say rfl
  · exact fun _ number => balanced_deliver number

theorem balanced_checkInterrupts : Keeps (Balanced before []) checkInterrupts := by
  unfold checkInterrupts
  apply keeps_bind keeps_get
  intro w
  apply keeps_bind (keeps_modify fun _ h => h.say rfl)
  exact fun _ => keeps_ofExcept

/-- A request owes the closing of a cursor whatever the answer. -/
theorem balanced_request_of_closing {conn : Nat} {e : Event} {text : String} {owed : List Entry}
    (h : ∀ r, (Entry.exchange e r).closing = owed) :
    Meets (Balanced before []) (request conn e text) (fun _ => Balanced before owed)
      (fun _ => Balanced before owed) := by
  apply (balanced_request conn e text).weaken (fun _ h => h)
  · rintro r w ⟨-, hw⟩
    rwa [h] at hw
  · rintro f w ⟨r, -, hw⟩
    rwa [h] at hw

theorem streaming_balanced (held : Finset Nat) (before : List Entry) :
    Streaming held (Balanced before [])
      (fun conn => Balanced before [.event (.closeCursor conn)]) where
  silent w w' hJournal _ _ h := by
    obtain ⟨said, hSaid⟩ := h
    exact ⟨said, by rwa [hJournal]⟩
  log level text := balanced_log level text
  check := balanced_checkInterrupts
  plain conn _ e text _ _ hPlain := by
    apply balanced_request_of_closing
    intro r
    cases e <;> first | rfl | cases hPlain
  start conn _ query := by
    apply (balanced_request conn _ query).weaken (fun _ h => h)
    · rintro r w ⟨hFault, h⟩
      rwa [Entry.closing, hFault] at h
    · rintro f w ⟨r, hFault, h⟩
      rw [Entry.closing, hFault] at h
      cases hDriver : f.isDriver <;> simpa [hDriver] using h
  finish conn _ _ := balanced_request_of_closing fun _ => rfl
  abort conn _ _ _ := balanced_request_of_closing fun _ => rfl
  close conn _ := meets_modify fun _ h => h.close

end

/-! ## Brackets in the course of a copy -/

/-- What becomes of a cursor and its copy: nothing is opened, the cursor or the copy is refused, or
the copy is started and ended once. The cursor is closed once, after the end of its copy. -/
inductive Bracketed (conn : Nat) : List Entry → Prop
  | nothing : Bracketed conn []
  | refused {r : Reply} (hCursor : r.fault ≠ none) :
      Bracketed conn [.exchange (.openCursor conn) r]
  | unstarted {query : String} {r r' : Reply} (hCursor : r.fault = none) (hCopy : r'.fault ≠ none) :
      Bracketed conn [.exchange (.openCursor conn) r, .exchange (.startCopy conn query) r',
        .event (.closeCursor conn)]
  | ended {query : String} {r r' : Reply} {x : Entry} (hCursor : r.fault = none)
      (hCopy : r'.fault = none) (hEnd : x.endsCopy conn = true) :
      Bracketed conn [.exchange (.openCursor conn) r, .exchange (.startCopy conn query) r', x,
        .event (.closeCursor conn)]

def brackets (conn : Nat) (talk : List Entry) : List Entry :=
  (withClosings talk).filter (Entry.isBracketOf conn)

def Tame (talk : List Entry) : Prop := ∀ x ∈ talk, x.isTame = true

instance (talk : List Entry) : Decidable (Tame talk) :=
  inferInstanceAs (Decidable (∀ x ∈ talk, x.isTame = true))

theorem Tame.bearable {talk : List Entry} (h : Tame talk) : Bearable talk := by
  intro conn cause r hMem f hFault
  simpa [Entry.isTame, hFault] using h _ hMem

section

variable {conn origin target : Nat} {t : Table} {talk talk' : List Entry}

theorem brackets_append :
    brackets conn (talk ++ talk') = brackets conn talk ++ brackets conn talk' := by
  rw [brackets, withClosings, List.flatMap_append, List.filter_append]
  rfl

theorem mem_brackets {x : Entry} (h : x ∈ talk) (hx : x.isBracketOf conn = true) :
    x ∈ brackets conn talk :=
  List.mem_filter.mpr ⟨List.mem_flatMap.mpr ⟨x, h, List.mem_cons_self⟩, hx⟩

theorem Relayed.brackets_eq (h : Relayed origin target talk) : brackets conn talk = [] := by
  induction h with
  | done => rfl
  | chunk _ _ _ _ ih => exact ih

theorem RelayCut.brackets_eq (h : RelayCut origin target talk) : brackets conn talk = [] := by
  induction h with
  | endless | read | write | stopped => rfl
  | chunk _ _ _ _ ih => exact ih

theorem Opened.brackets_eq {direction : Direction} (h : Opened conn direction t talk) :
    brackets conn talk = talk := by
  obtain ⟨-, -, hCopy⟩ := h
  simp [brackets, withClosings, Entry.closing, Entry.isBracketOf, hCopy]

theorem Opened.brackets_of_ne {conn' : Nat} {direction : Direction} (hConn : conn ≠ conn')
    (h : Opened conn direction t talk) : brackets conn' talk = [] := by
  obtain ⟨-, -, hCopy⟩ := h
  simp [brackets, withClosings, Entry.closing, Entry.isBracketOf, hCopy, hConn]

theorem OpeningCut.bracketed (h : OpeningCut conn talk) (hTame : Tame talk) :
    Bracketed conn (brackets conn talk) := by
  cases h with
  | unnamed => exact .nothing
  | cursor hCursor =>
    simpa [brackets, withClosings, Entry.closing, Entry.isBracketOf] using
      Bracketed.refused hCursor
  | @copy query r r' hCursor hCopy =>
    have hUnstarted : Bracketed conn [.exchange (.openCursor conn) r,
        .exchange (.startCopy conn query) r', .event (.closeCursor conn)] :=
      .unstarted hCursor hCopy
    obtain ⟨f, hFault⟩ := Option.ne_none_iff_exists'.mp hCopy
    have hDriver : f.isDriver = true := by
      simpa [Entry.isTame, hFault] using
        hTame (.exchange (.startCopy conn query) r') (List.mem_cons_of_mem _ List.mem_cons_self)
    simpa [brackets, withClosings, Entry.closing, Entry.isBracketOf, hFault, hDriver] using
      hUnstarted

theorem OpeningCut.brackets_of_ne {conn' : Nat} (hConn : conn ≠ conn')
    (h : OpeningCut conn talk) : brackets conn' talk = [] := by
  cases h with
  | unnamed => rfl
  | cursor => simp [brackets, withClosings, Entry.closing, Entry.isBracketOf, hConn]
  | copy =>
    simp only [brackets, withClosings, Entry.closing, List.flatMap_cons, List.flatMap_nil]
    split <;> simp [Entry.isBracketOf, hConn]

theorem OpeningCut.not_ended (h : OpeningCut conn talk) (r : Reply) :
    .exchange (.endCopy conn) r ∉ talk := by
  cases h <;> simp

theorem Opened.bracketed {direction : Direction} {x : Entry} (h : Opened conn direction t talk)
    (hx : x.endsCopy conn = true) : Bracketed conn (talk ++ [x, .event (.closeCursor conn)]) := by
  obtain ⟨-, hCursor, hCopy⟩ := h
  exact .ended hCursor hCopy hx

theorem brackets_end {x : Entry} (hx : x.endsCopy conn = true) :
    brackets conn [x] = [x, .event (.closeCursor conn)] := by
  unfold Entry.endsCopy at hx
  split at hx
  · obtain rfl := of_decide_eq_true hx
    simp [brackets, withClosings, Entry.closing, Entry.isBracketOf]
  · obtain rfl := of_decide_eq_true hx
    simp [brackets, withClosings, Entry.closing, Entry.isBracketOf]
  · cases hx

theorem brackets_end_of_ne {conn' : Nat} {x : Entry} (hConn : conn ≠ conn')
    (hx : x.endsCopy conn = true) : brackets conn' [x] = [] := by
  unfold Entry.endsCopy at hx
  split at hx
  · obtain rfl := of_decide_eq_true hx
    simp [brackets, withClosings, Entry.closing, Entry.isBracketOf, hConn]
  · obtain rfl := of_decide_eq_true hx
    simp [brackets, withClosings, Entry.closing, Entry.isBracketOf, hConn]
  · cases hx

theorem Relayed.exhausted (h : Relayed origin target talk) : ∃ chunks r,
    talk = chunks ++ [.exchange (.read origin) r] ∧ r.fault = none ∧ r.data = [] := by
  induction h with
  | @done r hRead hEmpty => exact ⟨[], r, rfl, hRead, hEmpty⟩
  | chunk _ _ _ _ ih =>
    obtain ⟨chunks, r, rfl, hRead, hEmpty⟩ := ih
    exact ⟨_ :: _ :: _ :: chunks, r, rfl, hRead, hEmpty⟩

/-- The target's copy ends well only right after the origin's, which was read to its end. -/
def EndsAfter (origin target : Nat) (talk : List Entry) : Prop :=
  ∀ before r after, talk = before ++ .exchange (.endCopy target) r :: after →
    ∃ chunks r₀ r₁, before = chunks ++ [.exchange (.read origin) r₀, .exchange (.endCopy origin) r₁] ∧
      r₀.fault = none ∧ r₀.data = [] ∧ r₁.fault = none

theorem endsAfter_of_not_mem (h : ∀ r, .exchange (.endCopy target) r ∉ talk) :
    EndsAfter origin target talk := by
  rintro before r after rfl
  exact absurd (List.mem_append_right _ List.mem_cons_self) (h r)

end

/-- How the cursors and the copies of a table are opened and ended. -/
structure InBrackets (origin target : Nat) (talk : List Entry) : Prop where
  source : Bracketed origin (brackets origin talk)
  sink : Bracketed target (brackets target talk)
  ends : EndsAfter origin target talk

section

variable {origin target : Nat} {t : Table} {source sink chunks talk : List Entry}
  (hConn : origin ≠ target) (hSource : Opened origin .fromServer t source)
  (hSink : Opened target .toServer t sink)

include hConn hSource hSink

/-- While chunks are moved, both copies are in progress. -/
theorem brackets_between (hChunks : ∀ conn, brackets conn chunks = []) :
    brackets origin (source ++ sink ++ chunks) = source ∧
      brackets target (source ++ sink ++ chunks) = sink := by
  constructor
  · rw [brackets_append, brackets_append, hSource.brackets_eq, hSink.brackets_of_ne hConn.symm,
      hChunks, List.append_nil, List.append_nil]
  · rw [brackets_append, brackets_append, hSource.brackets_of_ne hConn, hSink.brackets_eq, hChunks,
      List.nil_append, List.append_nil]

theorem not_ended_between (hChunks : ∀ conn, brackets conn chunks = []) (r : Reply) :
    .exchange (.endCopy target) r ∉ source ++ sink ++ chunks := by
  intro hMem
  have hEnd : (Entry.exchange (.endCopy target) r).isBracketOf target = true := by
    simp [Entry.isBracketOf]
  have hSaid := mem_brackets hMem hEnd
  rw [(brackets_between hConn hSource hSink hChunks).2] at hSaid
  cases hSink
  simp at hSaid

/-- Both copies are ended, the origin's first. -/
theorem bracketed_both (hChunks : ∀ conn, brackets conn chunks = []) {x y : Entry}
    (hx : x.endsCopy origin = true) (hy : y.endsCopy target = true) :
    Bracketed origin (brackets origin (source ++ sink ++ chunks ++ [x, y])) ∧
      Bracketed target (brackets target (source ++ sink ++ chunks ++ [x, y])) := by
  obtain ⟨hAtOrigin, hAtTarget⟩ := brackets_between hConn hSource hSink hChunks
  have hPair (conn : Nat) : brackets conn ([x] ++ [y]) = brackets conn [x] ++ brackets conn [y] :=
    brackets_append
  rw [List.singleton_append] at hPair
  constructor
  · rw [brackets_append, hAtOrigin, hPair, brackets_end hx, brackets_end_of_ne hConn.symm hy,
      List.append_nil]
    exact hSource.bracketed hx
  · rw [brackets_append, hAtTarget, hPair, brackets_end hy, brackets_end_of_ne hConn hx,
      List.nil_append]
    exact hSink.bracketed hy

/-- The target's copy is not ended well, whatever ends the origin's. -/
theorem inBrackets_givenUp (hChunks : ∀ conn, brackets conn chunks = []) {x : Entry}
    {cause : FaultKind} {r : Reply} (hx : x.endsCopy origin = true) :
    InBrackets origin target
      (source ++ sink ++ chunks ++ [x, .exchange (.abortCopy target cause) r]) := by
  obtain ⟨hAtOrigin, hAtTarget⟩ :=
    bracketed_both hConn hSource hSink hChunks hx (y := .exchange (.abortCopy target cause) r)
      (by simp [Entry.endsCopy])
  refine ⟨hAtOrigin, hAtTarget, endsAfter_of_not_mem fun r' hMem => ?_⟩
  rw [List.mem_append] at hMem
  have hLast := hMem.resolve_left (not_ended_between hConn hSource hSink hChunks r')
  obtain rfl : .exchange (.endCopy target) r' = x := by simpa using hLast
  simp [Entry.endsCopy, hConn.symm] at hx

/-- Both copies end after all chunks were moved, the target's whether well or not. -/
theorem inBrackets_ended (hChunks : Relayed origin target chunks) {r r' : Reply}
    (hOrigin : r.fault = none) :
    InBrackets origin target (source ++ sink ++ chunks ++
      [.exchange (.endCopy origin) r, .exchange (.endCopy target) r']) := by
  obtain ⟨hAtOrigin, hAtTarget⟩ :=
    bracketed_both hConn hSource hSink (fun _ => hChunks.brackets_eq)
      (x := .exchange (.endCopy origin) r) (y := .exchange (.endCopy target) r')
      (by simp [Entry.endsCopy]) (by simp [Entry.endsCopy])
  refine ⟨hAtOrigin, hAtTarget, fun before r'' after hSplit => ?_⟩
  have hNot : .exchange (.endCopy target) r'' ∉
      source ++ sink ++ chunks ++ [.exchange (.endCopy origin) r] := by
    rw [List.mem_append]
    rintro (hMem | hMem)
    · exact not_ended_between hConn hSource hSink (fun _ => hChunks.brackets_eq) r'' hMem
    · simp [hConn.symm] at hMem
  rw [List.append_cons] at hSplit
  rcases List.eq_nil_or_concat' after with rfl | ⟨after, y, rfl⟩
  · obtain ⟨rfl, -⟩ := List.append_inj' hSplit rfl
    obtain ⟨moved, r₀, rfl, hRead, hEmpty⟩ := hChunks.exhausted
    exact ⟨source ++ sink ++ moved, r₀, r, by simp, hRead, hEmpty, hOrigin⟩
  · rw [← List.cons_append, ← List.append_assoc] at hSplit
    obtain ⟨hBefore, -⟩ := List.append_inj' hSplit rfl
    rw [hBefore] at hNot
    exact absurd (List.mem_append_right _ List.mem_cons_self) hNot

end

section

variable {origin target : Nat} {t : Table} {talk : List Entry} (hConn : origin ≠ target)

include hConn

theorem Copied.inBrackets (h : Copied origin target t talk) : InBrackets origin target talk := by
  obtain ⟨hSource, hSink, hChunks, hOrigin, -⟩ := h
  exact inBrackets_ended hConn hSource hSink hChunks hOrigin

theorem CopyCut.inBrackets (h : CopyCut origin target t talk) (hTame : Tame talk) :
    InBrackets origin target talk := by
  cases h with
  | source hSource =>
    have hAtTarget := hSource.brackets_of_ne hConn
    refine ⟨hSource.bracketed hTame, ?_, endsAfter_of_not_mem fun r hMem => ?_⟩
    · rw [hAtTarget]
      exact .nothing
    · have hEnd : (Entry.exchange (.endCopy target) r).isBracketOf target = true := by
        simp [Entry.isBracketOf]
      have hSaid := mem_brackets hMem hEnd
      rw [hAtTarget] at hSaid
      cases hSaid
  | @sink source opening cause r hSource hSink =>
    have hEnd : (Entry.exchange (.abortCopy origin cause) r).endsCopy origin = true := by
      simp [Entry.endsCopy]
    have hOpening : Tame opening := fun x hx =>
      hTame x (List.mem_append_left _ (List.mem_append_right _ hx))
    refine ⟨?_, ?_, endsAfter_of_not_mem fun r' hMem => ?_⟩
    · rw [brackets_append, brackets_append, hSource.brackets_eq, hSink.brackets_of_ne hConn.symm,
        brackets_end hEnd, List.append_nil]
      exact hSource.bracketed hEnd
    · rw [brackets_append, brackets_append, hSource.brackets_of_ne hConn,
        brackets_end_of_ne hConn hEnd, List.nil_append, List.append_nil]
      exact hSink.bracketed hOpening
    · have hOther : .exchange (.endCopy target) r' ∉ source := by
        cases hSource
        simp
      simp [hOther, hSink.not_ended] at hMem
  | relay hSource hSink hChunks hAborts =>
    cases hAborts with
    | origin hRefused =>
      exact absurd (hTame.bearable _ _ _ (List.mem_append_right _ List.mem_cons_self)) hRefused
    | both =>
      exact inBrackets_givenUp hConn hSource hSink (fun _ => hChunks.brackets_eq)
        (by simp [Entry.endsCopy])
  | sourceEnd hSource hSink hChunks =>
    exact inBrackets_givenUp hConn hSource hSink (fun _ => hChunks.brackets_eq)
      (by simp [Entry.endsCopy])
  | sinkEnd hSource hSink hChunks hOrigin =>
    exact inBrackets_ended hConn hSource hSink hChunks hOrigin

end

/-! ## One table after another -/

/-- The copy of a table in a sequence of copies. -/
structure Call where
  table : Table
  before : Site
  result : Except Fault Stats
  after : Site

def call (origin target : Nat) (t : Table) (w : Site) : Call :=
  let x := (table origin target t).outcome w
  { table := t, before := w, result := x.1, after := x.2 }

/-- Tables are copied one after another, also after a copy that failed. -/
def calls (origin target : Nat) : List Table → Site → List Call
  | [], _ => []
  | t :: ts, w =>
    let x := call origin target t w
    x :: calls origin target ts x.after

namespace Call

/-- What was recorded during a copy. -/
def said (x : Call) : List Entry := x.after.journal.toList.drop x.before.journal.toList.length

def talk (x : Call) : List Entry := x.said.filter Entry.isTalk

/-- A copy that leaves nothing open behind it, whether it went well or not. -/
structure Bracketed (origin target : Nat) (x : Call) : Prop where
  shut : (x.after.server origin).copying = none ∧ (x.after.server target).copying = none
  source : Copy.Bracketed origin (x.said.filter (Entry.isBracketOf origin))
  sink : Copy.Bracketed target (x.said.filter (Entry.isBracketOf target))
  ends : EndsAfter origin target x.talk
  copied : ∀ stats, x.result = .ok stats → Copied origin target x.table x.talk
  caused : ∀ f, x.result = .error f → Caused x.table x.talk f

end Call

section

variable {origin target : Nat}

theorem filter_isBracketOf {conn : Nat} {said : List Entry}
    (h : said.filter Entry.isStep = withClosings (said.filter Entry.isTalk)) :
    said.filter (Entry.isBracketOf conn) = brackets conn (said.filter Entry.isTalk) := by
  rw [brackets, ← h, List.filter_filter]
  congr 1
  funext x
  cases hx : x.isBracketOf conn
  · rfl
  · rw [Entry.isStep_of_isBracketOf hx, Bool.and_self]

/-- Every cursor that a copy has to close is closed in its place. -/
theorem said_call (origin target : Nat) (t : Table) (w : Site) :
    (call origin target t w).after.talk = w.talk ++ (call origin target t w).talk ∧
      (call origin target t w).said.filter Entry.isStep =
        withClosings (call origin target t w).talk := by
  have hOrigin : origin ∈ ({origin, target} : Finset Nat) := Finset.mem_insert_self ..
  have hTarget : target ∈ ({origin, target} : Finset Nat) :=
    Finset.mem_insert_of_mem (Finset.mem_singleton_self _)
  obtain ⟨said, hJournal, hSaid⟩ :=
    (uses_table (streaming_balanced {origin, target} w.journal.toList) hOrigin hTarget
      t).reaches (balanced_self w)
  have hCall : (call origin target t w).said = said := by
    rw [Call.said, call, hJournal]
    exact List.drop_left
  rw [Call.talk, hCall]
  rw [List.append_nil] at hSaid
  refine ⟨?_, hSaid⟩
  rw [call, Site.talk, hJournal, List.filter_append]
  rfl

theorem call_bracketed (hConn : origin ≠ target) (t : Table) {w : Site}
    (hOrigin : (w.server origin).copying = none) (hTarget : (w.server target).copying = none)
    (hTame : Tame (call origin target t w).said) :
    (call origin target t w).Bracketed origin target := by
  obtain ⟨hTalk, hSteps⟩ := said_call origin target t w
  have hTalkTame : Tame (call origin target t w).talk := fun x hx =>
    hTame x (List.mem_of_mem_filter hx)
  have hSaid {c : Nat → Option String} {copy : List Entry}
      (h : Stands w.talk w.connections c copy (call origin target t w).after) :
      copy = (call origin target t w).talk := by
    have hSame : w.talk ++ copy = w.talk ++ (call origin target t w).talk := by
      rw [← hTalk, h.talk]
    exact List.append_cancel_left hSame
  cases hResult : (call origin target t w).result with
  | ok stats =>
    obtain ⟨c, copy, hCopied, hShut, -, hAfter⟩ := (stands_table hConn t).of_ok (stands_self w) hResult
    obtain rfl := hSaid hAfter
    obtain ⟨hSource, hSink, hEnds⟩ := hCopied.inBrackets hConn
    constructor
    case shut => exact ⟨(hAfter.copying origin).trans hShut.1, (hAfter.copying target).trans hShut.2⟩
    case source => rwa [filter_isBracketOf hSteps]
    case sink => rwa [filter_isBracketOf hSteps]
    case ends => exact hEnds
    case copied => exact fun _ _ => hCopied
    case caused =>
      rw [hResult]
      nofun
  | error f =>
    obtain ⟨c, copy, hCut, hAfter⟩ := (stands_table hConn t).of_error (stands_self w) hResult
    obtain rfl := hSaid hAfter
    obtain ⟨hSource, hSink, hEnds⟩ := hCut.cut.inBrackets hConn hTalkTame
    have hShut := hCut.shut hTalkTame.bearable hOrigin hTarget
    constructor
    case shut => exact ⟨(hAfter.copying origin).trans hShut.1, (hAfter.copying target).trans hShut.2⟩
    case source => rwa [filter_isBracketOf hSteps]
    case sink => rwa [filter_isBracketOf hSteps]
    case ends => exact hEnds
    case copied =>
      rw [hResult]
      nofun
    case caused =>
      rw [hResult]
      rintro _ ⟨⟩
      exact hCut.caused hTalkTame.bearable

theorem calls_bracketed (hConn : origin ≠ target) (ts : List Table) {w : Site}
    (hOrigin : (w.server origin).copying = none) (hTarget : (w.server target).copying = none)
    (hTame : ∀ x ∈ calls origin target ts w, Tame x.said) :
    ∀ x ∈ calls origin target ts w, x.Bracketed origin target := by
  induction ts generalizing w with
  | nil =>
    intro x hx
    cases hx
  | cons t ts ih =>
    rw [calls] at hTame ⊢
    have hFirst := call_bracketed hConn t hOrigin hTarget (hTame _ List.mem_cons_self)
    intro x hx
    rcases List.mem_cons.mp hx with rfl | hx
    · exact hFirst
    · exact ih hFirst.shut.1 hFirst.shut.2
        (fun y hy => hTame y (List.mem_cons_of_mem _ hy)) x hx

/-- The target's disk is full for a while, and giving up the origin's copy fails as well. -/
def diskFull : Site where
  servers := [
    { script := [{ replies := .inTurn [{}, {}, { data := [1, 2] }, { data := [3] },
      { fault := some (.driver .operational "no connection") }, {}, {}, { data := [4] }] }] },
    { script := [{ replies := .inTurn [{}, {}, {},
      { fault := some (.driver .operational "disk full") }] }] }]

theorem calls_bracketed_diskFull :
    ((diskFull.server 0).copying = none ∧ (diskFull.server 1).copying = none ∧
      ∀ x ∈ calls 0 1 [⟨"public", "a"⟩, ⟨"public", "b"⟩] diskFull, Tame x.said) ∧
    (calls 0 1 [⟨"public", "a"⟩, ⟨"public", "b"⟩] diskFull).map (·.result) =
      [.error (.init .copy "writing to target table failed: disk full"), .ok ⟨1, 1⟩] ∧
    ∀ x ∈ calls 0 1 [⟨"public", "a"⟩, ⟨"public", "b"⟩] diskFull, x.Bracketed 0 1 := by
  have hTame : ∀ x ∈ calls 0 1 [⟨"public", "a"⟩, ⟨"public", "b"⟩] diskFull, Tame x.said := by
    decide +kernel
  exact ⟨⟨rfl, rfl, hTame⟩, by decide +kernel,
    calls_bracketed Nat.zero_ne_one _ rfl rfl hTame⟩

end

end Copy

end ReplicaBootstrap
