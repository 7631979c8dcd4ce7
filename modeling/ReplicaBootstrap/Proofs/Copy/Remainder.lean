import ReplicaBootstrap.Proofs.Copy.Course
import ReplicaBootstrap.Proofs.Copy.Watch

/-! # What is left after a look

After the last look that found nobody wanting to stop, the copies of a node write one chunk at most
and open no table but the next.
-/

namespace ReplicaBootstrap

def Entry.isWrite : Entry → Bool
  | .exchange (.write _ _) _ => true
  | _ => false

def Entry.isOpening (conn : Nat) : Entry → Bool
  | .exchange (.openCursor c) _ => c = conn
  | _ => false

namespace Copy

variable {conn origin target : Nat} {t : Table} {ts : List Table} {x : Entry}
  {talk tail : List Entry}

/-! ## Places in a talk -/

/-- What comes before a look that found nobody wanting to stop was not the last signal to do so. -/
theorem behind_look {a b before after : List Entry} (h : a ++ .check false :: b = before ++ x :: after)
    (hx : x.stops = true) (hLooks : .check false ∉ after) :
    ∃ u, before = a ++ .check false :: u ∧ b = u ++ x :: after := by
  rcases split_append h with ⟨m, -, rfl⟩ | ⟨u, rfl, hb⟩
  · exact absurd (List.mem_append_right _ List.mem_cons_self) hLooks
  · cases u with
    | nil =>
      obtain ⟨rfl, -⟩ := List.cons.inj hb
      cases hx
    | cons y u =>
      obtain ⟨rfl, rfl⟩ := List.cons.inj hb
      exact ⟨u, rfl, rfl⟩

/-! ## Chunks that are still written -/

def Unwritten (talk : List Entry) : Prop := ∀ x ∈ talk, x.isWrite = false

theorem Unwritten.append (h : Unwritten talk) (h' : Unwritten tail) : Unwritten (talk ++ tail) :=
  List.forall_mem_append.mpr ⟨h, h'⟩

theorem Unwritten.countP (h : Unwritten talk) : talk.countP Entry.isWrite = 0 := by
  rw [List.countP_eq_zero]
  intro x hx
  simp [h x hx]

/-- After the last look that found nobody wanting to stop, one chunk is written at most. -/
def Brief (talk : List Entry) : Prop :=
  ∀ after, after <:+ talk → .check false ∉ after → after.countP Entry.isWrite ≤ 1

theorem Unwritten.brief (h : Unwritten talk) : Brief talk := by
  intro after hAfter _
  have hNone : Unwritten after := fun x hx => h x (hAfter.subset hx)
  rw [hNone.countP]
  exact Nat.zero_le 1

theorem Brief.cons (h : Brief talk) (hx : x.isWrite = false) : Brief (x :: talk) := by
  intro after hAfter hLooks
  rcases List.suffix_cons_iff.mp hAfter with rfl | hAfter
  · rw [List.countP_cons_of_neg (by simp [hx])]
    exact h talk List.suffix_rfl fun hMem => hLooks (List.mem_cons_of_mem _ hMem)
  · exact h after hAfter hLooks

theorem Brief.cons_of_mem (h : Brief talk) (hLook : .check false ∈ talk) : Brief (x :: talk) := by
  intro after hAfter hLooks
  rcases List.suffix_cons_iff.mp hAfter with rfl | hAfter
  · exact absurd (List.mem_cons_of_mem _ hLook) hLooks
  · exact h after hAfter hLooks

theorem Unwritten.brief_cons (h : Unwritten talk) : Brief (x :: talk) := by
  intro after hAfter hLooks
  rcases List.suffix_cons_iff.mp hAfter with rfl | hAfter
  · rw [List.countP_cons, h.countP]
    split <;> omega
  · exact h.brief after hAfter hLooks

theorem Brief.after (h : Brief tail) (hTalk : Unwritten talk) : Brief (talk ++ tail) := by
  induction talk with
  | nil => exact h
  | cons x talk ih =>
    exact (ih fun y hy => hTalk y (List.mem_cons_of_mem _ hy)).cons (hTalk x List.mem_cons_self)

theorem Brief.after_look (h : Brief tail) : Brief (talk ++ .check false :: tail) := by
  induction talk with
  | nil => exact h.cons rfl
  | cons x talk ih => exact ih.cons_of_mem (List.mem_append_right _ List.mem_cons_self)

theorem Relayed.brief (h : Relayed origin target talk) (hTail : Unwritten tail) :
    Brief (talk ++ tail) := by
  induction h with
  | done => exact hTail.brief.cons rfl
  | @chunk r r' rest _ _ _ _ ih =>
    have hRound : Brief ([.exchange (.read origin) r, .exchange (.write target r.data) r'] ++
        .check false :: (rest ++ tail)) := ih.after_look
    exact hRound

theorem RelayCut.brief (h : RelayCut origin target talk) (hTail : Unwritten tail) :
    Brief (talk ++ tail) := by
  induction h with
  | endless => exact hTail.brief
  | read => exact hTail.brief.cons rfl
  | write => exact hTail.brief_cons.cons rfl
  | stopped =>
    have hRest : Unwritten (.check true :: tail) := List.forall_mem_cons.mpr ⟨rfl, hTail⟩
    exact hRest.brief_cons.cons rfl
  | @chunk r r' rest _ _ _ _ ih =>
    have hRound : Brief ([.exchange (.read origin) r, .exchange (.write target r.data) r'] ++
        .check false :: (rest ++ tail)) := ih.after_look
    exact hRound

theorem Opened.unwritten {direction : Direction} (h : Opened conn direction t talk) :
    Unwritten talk := by
  cases h
  simp [Unwritten, Entry.isWrite]

theorem OpeningCut.unwritten (h : OpeningCut conn talk) : Unwritten talk := by
  cases h <;> simp [Unwritten, Entry.isWrite]

theorem Copied.brief (h : Copied origin target t talk) (hTail : Unwritten tail) :
    Brief (talk ++ tail) := by
  obtain ⟨hSource, hSink, hChunks, -, -⟩ := h
  rw [List.append_assoc, List.append_assoc]
  apply Brief.after _ (hSource.unwritten.append hSink.unwritten)
  apply hChunks.brief
  simpa [Unwritten, Entry.isWrite] using hTail

theorem CopyCut.brief (h : CopyCut origin target t talk) (hTail : Unwritten tail) :
    Brief (talk ++ tail) := by
  cases h with
  | source hSource => exact (hSource.unwritten.append hTail).brief
  | sink hSource hSink =>
    apply Unwritten.brief
    apply ((hSource.unwritten.append hSink.unwritten).append _).append hTail
    simp [Unwritten, Entry.isWrite]
  | relay hSource hSink hChunks hAborts =>
    rw [List.append_assoc, List.append_assoc]
    apply Brief.after _ (hSource.unwritten.append hSink.unwritten)
    apply hChunks.brief
    cases hAborts <;> simpa [Unwritten, Entry.isWrite] using hTail
  | sourceEnd hSource hSink hChunks | sinkEnd hSource hSink hChunks =>
    rw [List.append_assoc, List.append_assoc]
    apply Brief.after _ (hSource.unwritten.append hSink.unwritten)
    apply hChunks.brief
    simpa [Unwritten, Entry.isWrite] using hTail

theorem CopiesCut.brief {f : Fault} (h : CopiesCut origin target ts talk f)
    (hTail : Unwritten tail) : Brief (talk ++ tail) := by
  induction h with
  | table hCopy => exact hCopy.brief hTail
  | stopped hCopy =>
    rw [List.append_assoc]
    exact hCopy.brief (List.forall_mem_cons.mpr ⟨rfl, hTail⟩)
  | later _ _ ih =>
    rw [List.append_assoc]
    exact ih.after_look

/-! ## Tables that are still opened -/

def openings (conn : Nat) (talk : List Entry) : Nat := talk.countP (Entry.isOpening conn)

theorem openings_append : openings conn (talk ++ tail) = openings conn talk + openings conn tail :=
  List.countP_append

theorem Relayed.openings_eq (h : Relayed origin target talk) : openings conn talk = 0 := by
  induction h with
  | done => rfl
  | chunk _ _ _ _ ih => simpa [openings, List.countP_cons, Entry.isOpening] using ih

theorem RelayCut.openings_eq (h : RelayCut origin target talk) : openings conn talk = 0 := by
  induction h with
  | endless | read | write | stopped => rfl
  | chunk _ _ _ _ ih => simpa [openings, List.countP_cons, Entry.isOpening] using ih

theorem GivenUp.openings_eq (h : GivenUp origin target talk) : openings conn talk = 0 := by
  cases h <;> rfl

theorem Opened.openings_eq {direction : Direction} (h : Opened conn direction t talk) :
    openings conn talk = 1 := by
  cases h
  simp [openings, Entry.isOpening]

theorem Opened.openings_of_ne {conn' : Nat} {direction : Direction} (hConn : conn ≠ conn')
    (h : Opened conn direction t talk) : openings conn' talk = 0 := by
  cases h
  simp [openings, Entry.isOpening, hConn]

theorem OpeningCut.openings_le (h : OpeningCut conn talk) : openings conn talk ≤ 1 := by
  cases h <;> simp [openings, Entry.isOpening]

theorem OpeningCut.openings_of_ne {conn' : Nat} (hConn : conn ≠ conn') (h : OpeningCut conn talk) :
    openings conn' talk = 0 := by
  cases h <;> simp [openings, Entry.isOpening, hConn]

/-- A table is first opened at the origin. -/
def Led (origin : Nat) (talk : List Entry) : Prop :=
  ∀ y rest, talk = y :: rest → y.isOpening origin = true

theorem Opened.led {direction : Direction} (h : Opened origin direction t talk) :
    Led origin (talk ++ tail) := by
  cases h
  rintro y rest ⟨⟩
  simp [Entry.isOpening]

theorem OpeningCut.led (h : OpeningCut origin talk) : Led origin talk := by
  cases h <;> rintro y rest ⟨⟩ <;> simp [Entry.isOpening]

theorem openings_after_led {before after : List Entry} (hLed : Led origin talk)
    (hOnce : openings origin talk ≤ 1) (hSplit : talk = before ++ x :: after) :
    openings origin after = 0 := by
  cases talk with
  | nil => simp at hSplit
  | cons y rest =>
    have hFirst : openings origin (y :: rest) = openings origin rest + 1 := by
      rw [openings, List.countP_cons, if_pos (hLed y rest rfl)]
      rfl
    have hRest : openings origin after ≤ openings origin rest := by
      apply List.Sublist.countP_le
      cases before with
      | nil =>
        obtain ⟨-, rfl⟩ := List.cons.inj hSplit
        exact List.Sublist.refl _
      | cons z before =>
        obtain ⟨-, rfl⟩ := List.cons.inj hSplit
        exact (List.sublist_cons_self x after).trans (List.sublist_append_right before _)
    omega

section

variable (hConn : origin ≠ target)

include hConn

theorem Copied.openings_eq (h : Copied origin target t talk) :
    openings origin talk = 1 ∧ openings target talk = 1 := by
  obtain ⟨hSource, hSink, hChunks, -, -⟩ := h
  simp only [openings_append, hSource.openings_eq, hSource.openings_of_ne hConn,
    hSink.openings_eq, hSink.openings_of_ne hConn.symm, hChunks.openings_eq]
  exact ⟨rfl, rfl⟩

theorem CopyCut.openings_le (h : CopyCut origin target t talk) :
    openings origin talk ≤ 1 ∧ openings target talk ≤ openings origin talk := by
  cases h with
  | source hSource =>
    rw [hSource.openings_of_ne hConn]
    exact ⟨hSource.openings_le, Nat.zero_le _⟩
  | @sink source opening cause r hSource hSink =>
    have hAbort (conn : Nat) : openings conn [.exchange (.abortCopy origin cause) r] = 0 := rfl
    simp only [openings_append, hSource.openings_eq, hSource.openings_of_ne hConn,
      hSink.openings_of_ne hConn.symm, hAbort]
    have := hSink.openings_le
    omega
  | relay hSource hSink hChunks hAborts =>
    simp only [openings_append, hSource.openings_eq, hSource.openings_of_ne hConn,
      hSink.openings_eq, hSink.openings_of_ne hConn.symm, hChunks.openings_eq,
      hAborts.openings_eq]
    omega
  | sourceEnd hSource hSink hChunks | sinkEnd hSource hSink hChunks =>
    simp only [openings_append, hSource.openings_eq, hSource.openings_of_ne hConn,
      hSink.openings_eq, hSink.openings_of_ne hConn.symm, hChunks.openings_eq]
    exact ⟨Nat.le_refl _, Nat.le_refl _⟩

end

theorem Copied.led (h : Copied origin target t talk) : Led origin (talk ++ tail) := by
  obtain ⟨hSource, -, -, -, -⟩ := h
  rw [List.append_assoc, List.append_assoc, List.append_assoc]
  exact hSource.led

theorem CopyCut.led (h : CopyCut origin target t talk) : Led origin talk := by
  cases h with
  | source hSource => exact hSource.led
  | sink hSource =>
    rw [List.append_assoc]
    exact hSource.led
  | relay hSource | sourceEnd hSource | sinkEnd hSource =>
    rw [List.append_assoc, List.append_assoc]
    exact hSource.led

section

variable {f : Fault} (hConn : origin ≠ target) (h : CopiesCut origin target ts talk f)

include hConn h

/-- On the target no more tables are opened than at the origin. -/
theorem CopiesCut.openings_target_le : openings target talk ≤ openings origin talk := by
  induction h with
  | table hCopy => exact (hCopy.openings_le hConn).2
  | stopped hCopy =>
    obtain ⟨hOrigin, hTarget⟩ := hCopy.openings_eq hConn
    rw [openings_append, openings_append, hOrigin, hTarget]
    exact Nat.le_refl _
  | @later t ts copy copies f hCopy _ ih =>
    obtain ⟨hOrigin, hTarget⟩ := hCopy.openings_eq hConn
    have hLook (conn : Nat) : openings conn (.check false :: copies) = openings conn copies :=
      List.countP_cons_of_neg Bool.false_ne_true
    rw [openings_append, openings_append, hOrigin, hTarget, hLook, hLook]
    omega

theorem CopiesCut.openings_le (hLooks : .check false ∉ talk) : openings origin talk ≤ 1 := by
  cases h with
  | table hCopy => exact (hCopy.openings_le hConn).1
  | stopped hCopy =>
    rw [openings_append, (hCopy.openings_eq hConn).1]
    exact Nat.le_refl _
  | later => exact absurd (List.mem_append_right _ List.mem_cons_self) hLooks

/-- After a signal that asks to stop, no further table is opened. -/
theorem CopiesCut.openings_after {before after : List Entry} (hSplit : talk = before ++ x :: after)
    (hx : x.stops = true) (hLooks : .check false ∉ after) : openings origin after = 0 := by
  induction h generalizing before with
  | table hCopy => exact openings_after_led hCopy.led (hCopy.openings_le hConn).1 hSplit
  | stopped hCopy =>
    refine openings_after_led hCopy.led ?_ hSplit
    rw [openings_append, (hCopy.openings_eq hConn).1]
    exact Nat.le_refl _
  | later _ _ ih =>
    obtain ⟨u, -, hCopies⟩ := behind_look hSplit hx hLooks
    exact ih hCopies

end

end Copy

end ReplicaBootstrap
