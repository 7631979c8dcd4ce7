import Mathlib.Data.Finset.Insert
import ReplicaBootstrap.Proofs.Connections.Use

/-! # The ledger of connections

Which connections are held, and what was said on each one of the others: either it was refused, or it
was opened, used and closed once.
-/

namespace ReplicaBootstrap

open ReplicaBootstrap.Action Site

def Entry.conn? (x : Entry) : Option Nat := x.event?.bind Event.conn?

def Entry.isUse (x : Entry) : Bool := x.event?.all Event.isUse

/-- Closing a connection fails with no other fault than one of the driver. -/
def Entry.isCivil : Entry → Bool
  | .exchange (.close _) r => r.fault.all Fault.isDriver
  | _ => true

namespace Connections

variable {conn : Nat} {talk : List Entry} {x : Entry}

def on (conn : Nat) (talk : List Entry) : List Entry := talk.filter fun x => x.conn? == some conn

/-- A connection was opened, and since then it was used. -/
inductive InUse (conn : Nat) : List Entry → Prop
  | mk {conninfo r uses} (hFault : r.fault = none) (hUses : ∀ x ∈ uses, x.isUse = true) :
    InUse conn (.exchange (.connect conn conninfo true) r :: uses)

/-- A connection was refused, or it was opened, used and closed, and after that left alone. -/
inductive Over (conn : Nat) : List Entry → Prop
  | refused {conninfo r f} (hFault : r.fault = some f) :
    Over conn [.exchange (.connect conn conninfo true) r]
  | closed {conninfo r uses r'} (hFault : r.fault = none) (hUses : ∀ x ∈ uses, x.isUse = true) :
    Over conn (.exchange (.connect conn conninfo true) r :: (uses ++ [.exchange (.close conn) r']))

theorem InUse.use (h : InUse conn talk) (hx : x.isUse = true) : InUse conn (talk ++ [x]) := by
  cases h with
  | mk hFault hUses =>
    exact .mk hFault (List.forall_mem_append.mpr ⟨hUses, List.forall_mem_singleton.mpr hx⟩)

theorem InUse.close (h : InUse conn talk) (r : Reply) :
    Over conn (talk ++ [.exchange (.close conn) r]) := by
  cases h with
  | mk hFault hUses => exact .closed hFault hUses

theorem InUse.ne_nil (h : InUse conn talk) : talk ≠ [] := by
  cases h
  exact List.cons_ne_nil _ _

theorem on_concat_self (h : x.conn? = some conn) : on conn (talk ++ [x]) = on conn talk ++ [x] := by
  simp [on, h]

theorem on_concat_of_ne (h : x.conn? ≠ some conn) : on conn (talk ++ [x]) = on conn talk := by
  simp [on, h]

/-! ## What was said so far -/

/-- The connections from `floor` on, of which `n` would be the next one, each with what was said on
it. -/
structure Accounted (floor n : Nat) (held : Finset Nat) (talk : List Entry) : Prop where
  inUse : ∀ conn ∈ held, InUse conn (on conn talk)
  finished : ∀ conn, floor ≤ conn → conn < n → conn ∉ held → Over conn (on conn talk)
  unasked : ∀ conn, conn < floor ∨ n ≤ conn → on conn talk = []

variable {floor n : Nat} {held : Finset Nat}

theorem accounted_nil (floor : Nat) : Accounted floor floor ∅ [] where
  inUse _ h := by simp at h
  finished _ hFloor hNext _ := absurd hNext (Nat.not_lt.mpr hFloor)
  unasked _ _ := rfl

theorem Accounted.unheld (h : Accounted floor n held talk) (hOut : conn < floor ∨ n ≤ conn) :
    conn ∉ held := fun hMem => (h.inUse conn hMem).ne_nil (h.unasked conn hOut)

theorem Accounted.use (h : Accounted floor n held talk) (hx : x.Fits held) :
    Accounted floor n held (talk ++ [x]) := by
  have hSame (conn : Nat) (hConn : conn ∉ held) : on conn (talk ++ [x]) = on conn talk := by
    apply on_concat_of_ne
    intro hAbout
    obtain ⟨e, he, hEvent⟩ := Option.bind_eq_some_iff.mp hAbout
    exact hConn (hx e he conn hEvent).1
  constructor
  case inUse =>
    intro conn hConn
    by_cases hAbout : x.conn? = some conn
    · obtain ⟨e, he, hEvent⟩ := Option.bind_eq_some_iff.mp hAbout
      rw [on_concat_self hAbout]
      apply (h.inUse conn hConn).use
      rw [Entry.isUse, he]
      exact (hx e he conn hEvent).2
    · rw [on_concat_of_ne hAbout]
      exact h.inUse conn hConn
  case finished =>
    intro conn hFloor hNext hConn
    rw [hSame conn hConn]
    exact h.finished conn hFloor hNext hConn
  case unasked =>
    intro conn hOut
    rw [hSame conn (h.unheld hOut)]
    exact h.unasked conn hOut

theorem Accounted.elsewhere {m : Nat} {held' : Finset Nat} (h : Accounted floor n held talk)
    (conn : Nat) (hx : x.conn? = some conn) (hNext : ∀ c, c ≠ conn → (n ≤ c ↔ m ≤ c))
    (hHeld : ∀ c, c ≠ conn → (c ∈ held ↔ c ∈ held'))
    (hHere : floor ≤ conn ∧ conn < m)
    (hInUse : conn ∈ held' → InUse conn (on conn talk ++ [x]))
    (hOver : conn ∉ held' → Over conn (on conn talk ++ [x])) :
    Accounted floor m held' (talk ++ [x]) := by
  have hSame (c : Nat) (hc : c ≠ conn) : on c (talk ++ [x]) = on c talk := by
    apply on_concat_of_ne
    rw [hx]
    exact fun hEq => hc (Option.some.inj hEq).symm
  constructor
  case inUse =>
    intro c hMem
    by_cases hc : c = conn
    · subst hc
      rw [on_concat_self hx]
      exact hInUse hMem
    · rw [hSame c hc]
      exact h.inUse c ((hHeld c hc).mpr hMem)
  case finished =>
    intro c hFloor hLast hMem
    by_cases hc : c = conn
    · subst hc
      rw [on_concat_self hx]
      exact hOver hMem
    · rw [hSame c hc]
      apply h.finished c hFloor
      · exact Nat.lt_of_not_le fun hLe => Nat.not_le.mpr hLast ((hNext c hc).mp hLe)
      · exact fun hOld => hMem ((hHeld c hc).mp hOld)
  case unasked =>
    intro c hOut
    have hc : c ≠ conn := by
      rintro rfl
      omega
    rw [hSame c hc]
    exact h.unasked c (hOut.imp_right (hNext c hc).mpr)

theorem Accounted.connect (h : Accounted floor n held talk) (hFloor : floor ≤ n)
    (conninfo : String) (r : Reply) :
    Accounted floor (n + 1) (if r.fault = none then insert n held else held)
      (talk ++ [.exchange (.connect n conninfo true) r]) := by
  have hNew : n ∉ held := h.unheld (.inr (Nat.le_refl n))
  have hUnasked : on n talk = [] := h.unasked n (.inr (Nat.le_refl n))
  apply h.elsewhere n rfl
  · intro c hc
    omega
  · intro c hc
    split
    · simp [hc]
    · rfl
  · exact ⟨hFloor, Nat.lt_succ_self n⟩
  · intro hMem
    rw [hUnasked]
    split at hMem
    · rename_i hFault
      exact .mk hFault (List.forall_mem_nil _)
    · exact absurd hMem hNew
  · intro hMem
    rw [hUnasked]
    cases hFault : r.fault with
    | some f => exact .refused hFault
    | none => simp [hFault] at hMem

theorem Accounted.close (h : Accounted floor n (insert conn held) talk) (hConn : conn ∉ held)
    (r : Reply) : Accounted floor n held (talk ++ [.exchange (.close conn) r]) := by
  have hMem : conn ∈ insert conn held := Finset.mem_insert_self conn held
  apply h.elsewhere conn rfl
  · exact fun _ _ => Iff.rfl
  · intro c hc
    simp [hc]
  · by_contra hNot
    have hOut : conn < floor ∨ n ≤ conn := by omega
    exact h.unheld hOut hMem
  · exact fun hStill => absurd hStill hConn
  · exact fun _ => (h.inUse conn hMem).close r

/-! ## A site with its ledger -/

def Civil (talk : List Entry) : Prop := ∀ x ∈ talk, x.isCivil = true

/-- These connections are held, and all others asked for after `base` are over, unless closing one has
failed with more than a fault of the driver. -/
structure Holding (base : List Entry) (floor : Nat) (held : Finset Nat) (w : Site) : Prop where
  floor_le : floor ≤ w.connections
  below : ∀ conn ∈ held, conn < w.connections
  talk : ∃ talk, w.journal.toList = base ++ talk ∧
    (Civil talk → Accounted floor w.connections held talk)

/-- Closing a connection has failed with more than a fault of the driver. -/
def Spoiled (base : List Entry) (w : Site) : Prop :=
  ∃ talk, w.journal.toList = base ++ talk ∧ ¬ Civil talk

variable {α : Type} {base : List Entry} {w : Site}

theorem holding_start (w : Site) : Holding w.journal.toList w.connections ∅ w where
  floor_le := Nat.le_refl _
  below _ h := by simp at h
  talk := ⟨[], (List.append_nil _).symm, fun _ => accounted_nil w.connections⟩

/-- Nothing is held any more: what was said on any connection is over. -/
theorem Holding.settled (h : Holding base floor ∅ w) :
    ∃ talk, w.journal.toList = base ++ talk ∧
      (Civil talk → ∀ conn, on conn talk = [] ∨ Over conn (on conn talk)) := by
  obtain ⟨talk, hTalk, hAccounted⟩ := h.talk
  refine ⟨talk, hTalk, fun hCivil conn => ?_⟩
  have hLedger := hAccounted hCivil
  by_cases hAsked : floor ≤ conn ∧ conn < w.connections
  · exact .inr (hLedger.finished conn hAsked.1 hAsked.2 (Finset.notMem_empty conn))
  · exact .inl (hLedger.unasked conn (by omega))

theorem Holding.of_spoiled {held' : Finset Nat} (h : Holding base floor held w)
    (hSpoiled : Spoiled base w) (hSub : held' ⊆ held) : Holding base floor held' w where
  floor_le := h.floor_le
  below conn hConn := h.below conn (hSub hConn)
  talk := by
    obtain ⟨talk, hTalk, hNot⟩ := hSpoiled
    exact ⟨talk, hTalk, fun hCivil => absurd hCivil hNot⟩

theorem Holding.step {held' : Finset Nat} {w' : Site} (h : Holding base floor held w)
    (hJournal : w'.journal.toList = w.journal.toList ++ [x])
    (hFloor : w.connections ≤ w'.connections) (hBelow : ∀ c ∈ held', c < w'.connections)
    (hNext : ∀ talk, Accounted floor w.connections held talk →
      Accounted floor w'.connections held' (talk ++ [x])) : Holding base floor held' w' where
  floor_le := h.floor_le.trans hFloor
  below := hBelow
  talk := by
    obtain ⟨talk, hTalk, hAccounted⟩ := h.talk
    refine ⟨talk ++ [x], ?_, fun hCivil => ?_⟩
    · rw [hJournal, hTalk, List.append_assoc]
    · exact hNext talk (hAccounted (List.forall_mem_append.mp hCivil).1)

theorem lasting_holding : Lasting held (Holding base floor held) where
  record w x hx h := h.step (journal_record w x) (Nat.le_refl _) h.below fun _ hTalk => hTalk.use hx
  silent w w' hJournal hConnections h := by
    obtain ⟨hFloor, hBelow, hTalk⟩ := h
    rw [← hConnections] at hFloor hBelow hTalk
    rw [← hJournal] at hTalk
    exact ⟨hFloor, hBelow, hTalk⟩

theorem lasting_spoiled : Lasting held (Spoiled base) where
  record w x _ h := by
    obtain ⟨talk, hTalk, hNot⟩ := h
    refine ⟨talk ++ [x], ?_, fun hCivil => hNot (List.forall_mem_append.mp hCivil).1⟩
    rw [journal_record, hTalk, List.append_assoc]
  silent w w' hJournal _ h := by
    rwa [Spoiled, hJournal]

/-! ## Opening -/

/-- The next connection was counted and is about to be asked for. -/
def Asking (base : List Entry) (floor : Nat) (held : Finset Nat) (conn : Nat) (w : Site) : Prop :=
  ∃ before, Holding base floor held before ∧ conn = before.connections ∧
    w = { before with connections := before.connections + 1 }

theorem Asking.answered {conn : Nat} (h : Asking base floor held conn w) (conninfo : String)
    (r : Reply) (s : Server) :
    conn ∉ held ∧ Holding base floor (if r.fault = none then insert conn held else held)
      ((w.record (.exchange (.connect conn conninfo true) r)).setServer conn s) := by
  obtain ⟨before, h, rfl, rfl⟩ := h
  refine ⟨fun hMem => Nat.lt_irrefl _ (h.below _ hMem), ?_⟩
  apply h.step (x := .exchange (.connect before.connections conninfo true) r)
  · exact journal_record { before with connections := before.connections + 1 } _
  · exact Nat.le_succ before.connections
  · intro c hc
    have hKnown : c = before.connections ∨ c ∈ held := by
      split at hc
      · exact Finset.mem_insert.mp hc
      · exact .inr hc
    rcases hKnown with rfl | hc
    · exact Nat.lt_succ_self _
    · exact Nat.lt_succ_of_lt (h.below c hc)
  · exact fun talk hTalk => hTalk.connect h.floor_le conninfo r

theorem holding_connectTo (conninfo : String) :
    Meets (Holding base floor held) (Session.connectTo conninfo)
      (fun conn w => conn ∉ held ∧ Holding base floor (insert conn held) w)
      (fun _ => Holding base floor held) := by
  unfold Session.connectTo
  apply meets_bind (m := fun conn => Asking base floor held conn)
  · exact fun w h => ⟨w, h, rfl, rfl⟩
  intro conn
  apply meets_bind (m := fun _ w => conn ∉ held ∧ Holding base floor (insert conn held) w)
  · apply (meets_request (Q := fun r w => conn ∉ held ∧
      Holding base floor (if r.fault = none then insert conn held else held) w) conn _ _
      (fun r _ w h => h.answered conninfo r _) _).weaken (fun _ h => h)
    · rintro r w ⟨hFault, hNew, h⟩
      rw [if_pos hFault] at h
      exact ⟨hNew, h⟩
    · rintro f w ⟨r, hFault, -, h⟩
      rw [if_neg (by rw [hFault]; exact Option.some_ne_none f)] at h
      exact h
    · intro r number
      apply meets_known
      rintro w ⟨hNew, h⟩
      exact ⟨_, h, (uses_deliver lasting_holding number).imp_good fun _ _ h => ⟨hNew, h⟩⟩
  · exact fun _ => meets_pure fun _ h => h

theorem holding_connect (purpose : Session.Purpose) (dsn : Value) (application : String) :
    Meets (Holding base floor held) (Session.connect purpose dsn application)
      (fun conn w => conn ∉ held ∧ Holding base floor (insert conn held) w)
      (fun _ => Holding base floor held) := by
  unfold Session.connect
  apply meets_bind (m := fun _ => Holding base floor held) keeps_ofExcept
  intro conninfo
  apply meets_attempt_bind (holding_connectTo conninfo)
  · exact fun conn => meets_pure fun _ h => h
  intro f
  dsimp only
  split
  · apply meets_bind (uses_log lasting_holding _ _)
    intro _
    apply meets_bind (m := fun _ => Holding base floor held) keeps_ofExcept
    exact fun masked => meets_throw fun _ h => h
  · exact meets_throw fun _ h => h

/-! ## Closing -/

section

variable {conn : Nat} (hConn : conn ∉ held)

include hConn

theorem Holding.close (h : Holding base floor (insert conn held) w) (r : Reply) (s : Server) :
    Holding base floor held ((w.record (.exchange (.close conn) r)).setServer conn s) := by
  apply h.step (x := .exchange (.close conn) r)
  · exact journal_record w _
  · exact Nat.le_refl w.connections
  · exact fun c hc => h.below c (Finset.mem_insert_of_mem hc)
  · exact fun talk hTalk => hTalk.close hConn r

theorem holding_close :
    Meets (Holding base floor (insert conn held)) (Session.close conn)
      (fun _ => Holding base floor held)
      (fun f w => Holding base floor held w ∧ (f.isDriver = false → Spoiled base w)) := by
  let Said (r : Reply) (w : Site) : Prop := Holding base floor held w ∧
    ((Entry.exchange (.close conn) r).isCivil = false → Spoiled base w)
  have hLasting (r : Reply) : Lasting held (Said r) := lasting_holding.and lasting_spoiled.given
  have hSaid (r : Reply) (s : Server) (w : Site) (h : Holding base floor (insert conn held) w) :
      Said r ((w.record (.exchange (.close conn) r)).setServer conn s) := by
    refine ⟨h.close hConn r s, fun hUncivil => ?_⟩
    obtain ⟨talk, hTalk, -⟩ := h.talk
    refine ⟨talk ++ [.exchange (.close conn) r], ?_, fun hCivil => ?_⟩
    · rw [← List.append_assoc, ← hTalk]
      exact journal_record w _
    · rw [hCivil _ List.mem_concat_self] at hUncivil
      cases hUncivil
  unfold Session.close
  apply meets_bind (m := fun _ => Holding base floor held)
  · apply (meets_request conn _ _ (fun r _ w => hSaid r _ w) fun r number => uses_deliver (hLasting r) number).weaken
      (fun _ h => h)
    · exact fun r w h => h.2.1
    · rintro f w ⟨r, hFault, h, hSpoiled⟩
      refine ⟨h, fun hOther => hSpoiled ?_⟩
      simp [Entry.isCivil, hFault, hOther]
  · exact fun _ => meets_pure fun _ h => h

/-- What goes wrong in closing is no matter, as long as it is the driver's. -/
theorem holding_closeQuietly :
    Meets (Holding base floor (insert conn held)) (Session.closeQuietly conn)
      (fun _ => Holding base floor held)
      (fun _ w => Holding base floor held w ∧ Spoiled base w) := by
  apply meets_tolerating (holding_close hConn)
  · intro f _
    exact (uses_log lasting_holding _ _).imp_pre fun _ h => h.1
  · exact fun f hOther w h => ⟨h.1, h.2 hOther⟩

end

/-- The second of two connections is closed too, unless closing the first one has failed with more
than a fault of the driver. -/
theorem holding_closeBoth {origin target : Nat} (hOrigin : origin ∉ held)
    (hTarget : target ∉ insert origin held) :
    Meets (Holding base floor (insert target (insert origin held)))
      (do
        Session.closeQuietly origin
        Session.closeQuietly target)
      (fun _ => Holding base floor held) (fun _ => Holding base floor held) := by
  obtain ⟨hNe, hTarget⟩ := not_or.mp (mt Finset.mem_insert.mpr hTarget)
  have hOrigin : origin ∉ insert target held :=
    mt Finset.mem_insert.mp (not_or.mpr ⟨Ne.symm hNe, hOrigin⟩)
  rw [Finset.insert_comm]
  apply meets_bind (m := fun _ => Holding base floor (insert target held))
  · apply (holding_closeQuietly hOrigin).imp_bad
    exact fun _ w h => h.1.of_spoiled h.2 (Finset.subset_insert target held)
  · exact fun _ => (holding_closeQuietly hTarget).imp_bad fun _ _ h => h.1

theorem holding_nodeData (pair : NodePair) (snapshot : Value) (extension application : String) :
    Keeps (Holding base floor held) (Copy.nodeData pair snapshot extension application) := by
  unfold Copy.nodeData
  apply meets_bind_given (holding_connect _ _ _)
  intro origin hOrigin
  have hMem : origin ∈ insert origin held := Finset.mem_insert_self origin held
  have hPrepare : Meets (Holding base floor (insert origin held))
      (Copy.prepare origin pair snapshot extension application)
      (fun x w => x.2 ∉ insert origin held ∧ Holding base floor (insert x.2 (insert origin held)) w)
      (fun _ => Holding base floor (insert origin held)) := by
    unfold Copy.prepare
    apply meets_bind (Copy.uses_beginOrigin lasting_holding.streaming hMem _)
    intro _
    apply meets_bind (Copy.uses_tables lasting_holding.streaming hMem _ _)
    intro ts
    dsimp only
    apply meets_bind (uses_log lasting_holding _ _)
    intro _
    apply meets_bind (holding_connect _ _ _)
    exact fun target => meets_pure fun _ h => h
  apply meets_attempt_bind hPrepare
  · rintro ⟨ts, target⟩
    apply meets_known
    rintro w ⟨hTarget, h⟩
    refine ⟨_, h, ?_⟩
    apply meets_bind (m := fun _ => Holding base floor held)
    · exact meets_ensuring (Copy.uses_transfer lasting_holding.streaming (Finset.mem_insert_of_mem hMem)
        (Finset.mem_insert_self target _) ts) (fun _ => holding_closeBoth hOrigin hTarget)
        (fun _ => holding_closeBoth hOrigin hTarget)
    · exact fun _ => meets_pure fun _ h => h
  · intro f
    apply meets_bind (m := fun _ => Holding base floor held)
    · exact (holding_closeQuietly hOrigin).imp_bad fun _ _ h => h.1
    · exact fun _ => meets_throw fun _ h => h

end Connections

end ReplicaBootstrap
