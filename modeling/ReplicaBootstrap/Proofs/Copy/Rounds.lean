import ReplicaBootstrap.Copy.Relay
import ReplicaBootstrap.Proofs.Site

/-! # The rounds of a relay

A relay is given as many rounds as there are replies to be used up, and one more. That is enough: a
round that uses up no reply leads to the same round again and again, and no number of rounds would
bring such a relay to an end.
-/

namespace ReplicaBootstrap

/-! ## Replies that are used up -/

namespace Script

/-- A script that has used up nothing is as it was before. -/
theorem answer_eq_of_pending_le {text : String} {script : Script}
    (h : pending script ≤ pending (answer text script).2) : (answer text script).2 = script := by
  induction script with
  | nil => rfl
  | cons rule rest ih =>
    have hLater (hRest : pending (rule :: rest) ≤ pending (rule :: (answer text rest).2)) :
        rule :: (answer text rest).2 = rule :: rest := by
      rw [ih (pending_cons_le_iff.mp hRest)]
    revert h
    simp only [answer]
    split
    · split
      · intro _
        rfl
      · rename_i reply more hReplies
        intro h
        simp only [pending, hReplies, List.length_cons] at h
        omega
      · exact hLater
    · exact hLater

end Script

namespace Site

theorem foldl_pending (servers : List Server) (n : Nat) :
    servers.foldl (fun n s => n + s.script.pending) n =
      n + servers.foldl (fun n s => n + s.script.pending) 0 := by
  induction servers generalizing n with
  | nil => rfl
  | cons s rest ih =>
    rw [List.foldl_cons, List.foldl_cons, ih (n + _), ih (0 + _)]
    omega

theorem pending_setServerAt (servers : List Server) (i : Nat) (s : Server) :
    (setServerAt servers i s).foldl (fun n s => n + s.script.pending) 0 +
        (serverAt servers i).script.pending =
      servers.foldl (fun n s => n + s.script.pending) 0 + s.script.pending := by
  induction i generalizing servers with
  | zero =>
    cases servers with
    | nil => simp [setServerAt, serverAt, Script.pending]
    | cons s' rest =>
      simp only [setServerAt, serverAt, List.tail_cons, List.foldl_cons, List.getElem?_cons_zero,
        Option.getD_some]
      rw [foldl_pending rest, foldl_pending rest (0 + s'.script.pending)]
      omega
  | succ i ih =>
    have hRest := ih servers.tail
    cases servers with
    | nil => simpa [setServerAt, serverAt, Script.pending] using hRest
    | cons s' rest =>
      simp only [setServerAt, serverAt, List.tail_cons, List.head?_cons, Option.getD_some,
        List.foldl_cons, List.getElem?_cons_succ] at hRest ⊢
      rw [foldl_pending _ (0 + s'.script.pending), foldl_pending rest]
      omega

theorem pending_setServer (w : Site) (i : Nat) (s : Server) :
    (w.setServer i s).pending + (w.server i).script.pending = w.pending + s.script.pending :=
  pending_setServerAt w.servers i s

end Site

/-! ## One request -/

open ReplicaBootstrap.Action

/-- What of a site matters for the answers that it gets. -/
def Site.Has (servers : List Server) (i : Interrupts) (w : Site) : Prop :=
  w.servers = servers ∧ w.interrupts = i

theorem has_resolve {servers : List Server} {i : Interrupts} (r : Reply) :
    Meets (Site.Has servers i) (resolve r)
      (fun a w => a = r ∧ r.fault = none ∧ Site.Has servers (r.warned i) w)
      (fun f w => r.fault = some f ∧ Site.Has servers (r.warned i) w) :=
  Site.meets_resolve_warned ⟨fun _ _ _ h => h, fun _ _ h => h⟩ i r

/-- A server has answered to a text with `r`, and nothing else has changed but the journal. -/
structure Answered (conn : Nat) (text : String) (r : Reply) (w w' : Site) : Prop where
  reply : ((w.server conn).script.answer text).1 = r
  servers : w'.servers = Site.setServerAt w.servers conn
    { w.server conn with script := ((w.server conn).script.answer text).2 }
  interrupts : w'.interrupts = r.warned w.interrupts

theorem answered_request (w : Site) (conn : Nat) (e : Event) (text : String) :
    Meets (fun v => v = w) (request conn e text)
      (fun r w' => r.fault = none ∧ Answered conn text r w w')
      (fun f w' => ∃ r, r.fault = some f ∧ Answered conn text r w w') := by
  unfold request
  apply meets_bind (m := fun q v => q = w ∧ v = w)
  · exact meets_get fun _ h => ⟨h, h⟩
  intro q
  apply meets_known
  rintro v ⟨rfl, hv⟩
  refine ⟨fun v => v = q, hv, ?_⟩
  dsimp only
  rcases hAnswer : (q.server conn).script.answer text with ⟨r, script⟩
  have hReply : ((q.server conn).script.answer text).1 = r := congrArg Prod.fst hAnswer
  have hScript : ((q.server conn).script.answer text).2 = script := congrArg Prod.snd hAnswer
  apply meets_bind (m := fun _ => Site.Has
    (Site.setServerAt q.servers conn { q.server conn with script }) q.interrupts)
  · apply meets_modify
    rintro _ rfl
    exact ⟨rfl, rfl⟩
  intro _
  apply (has_resolve r).weaken (fun _ h => h)
  · rintro _ w' ⟨rfl, hFault, hServers, hInterrupts⟩
    exact ⟨hFault, hReply, hScript ▸ hServers, hInterrupts⟩
  · rintro f w' ⟨hFault, hServers, hInterrupts⟩
    exact ⟨r, hFault, hReply, hScript ▸ hServers, hInterrupts⟩

namespace Answered

variable {conn : Nat} {text : String} {r : Reply} {w w' : Site}

theorem pending_add (h : Answered conn text r w w') :
    w'.pending + (w.server conn).script.pending =
      w.pending + ((w.server conn).script.answer text).2.pending := by
  have hSet := w.pending_setServer conn
    { w.server conn with script := ((w.server conn).script.answer text).2 }
  unfold Site.pending at hSet ⊢
  rw [h.servers]
  exact hSet

theorem pending_le (h : Answered conn text r w w') : w'.pending ≤ w.pending := by
  have hLe := Script.pending_answer_le text (w.server conn).script
  have hAdd := h.pending_add
  omega

theorem server_eq (h : Answered conn text r w w')
    (hScript : ((w.server conn).script.answer text).2 = (w.server conn).script) (i : Nat) :
    w'.server i = w.server i := by
  have hServer : w'.server i = if i = conn then
      { w.server conn with script := ((w.server conn).script.answer text).2 } else w.server i := by
    rw [Site.server, h.servers, Site.serverAt_setServerAt]
    rfl
  rw [hServer, hScript]
  split
  · rename_i hi
    rw [hi]
  · rfl

theorem script_eq (h : Answered conn text r w w') (hPending : w.pending ≤ w'.pending) :
    ((w.server conn).script.answer text).2 = (w.server conn).script := by
  apply Script.answer_eq_of_pending_le
  have hAdd := h.pending_add
  omega

end Answered

/-! ## Rounds -/

namespace Copy

variable {origin target conn : Nat} {w w' : Site} {data : List UInt8}

theorem answered_explained (w : Site) (conn : Nat) (e : Event) (text : String)
    (explain : Fault → Fault) :
    Meets (fun v => v = w) ((request conn e text).onDriverFault explain)
      (fun r w' => r.fault = none ∧ Answered conn text r w w')
      (fun _ _ => ((w.server conn).script.answer text).1.fault ≠ none) := by
  apply meets_onDriverFault
  apply (answered_request w conn e text).imp_bad
  rintro f w' ⟨r, hFault, h⟩
  rw [h.reply, hFault]
  exact Option.some_ne_none f

theorem answered_nextChunk (w : Site) (conn : Nat) :
    Meets (fun v => v = w) (nextChunk conn)
      (fun data w' => ∃ query r, (w.server conn).copying = some query ∧ r.fault = none ∧
        r.data = data ∧ Answered conn ("<read> " ++ query) r w w')
      (fun _ _ => ∀ query, (w.server conn).copying = some query →
        ((w.server conn).script.answer ("<read> " ++ query)).1.fault ≠ none) := by
  unfold nextChunk
  apply meets_bind (m := fun q v => q = w ∧ v = w)
  · exact meets_get fun _ h => ⟨h, h⟩
  intro q
  apply meets_known
  rintro v ⟨rfl, hv⟩
  refine ⟨fun v => v = q, hv, ?_⟩
  cases hCopying : (q.server conn).copying with
  | none => exact meets_throw fun _ _ => nofun
  | some query =>
    apply meets_bind (m := fun r w' => r.fault = none ∧
      Answered conn ("<read> " ++ query) r q w')
    · apply (answered_explained q conn _ _ _).imp_bad
      intro _ _ hFault _ hQuery
      cases hQuery
      exact hFault
    intro r
    apply meets_pure
    rintro w' ⟨hFault, h⟩
    exact ⟨query, r, rfl, hFault, rfl, h⟩

theorem answered_writeChunk (w : Site) (conn : Nat) (data : List UInt8) :
    Meets (fun v => v = w) (writeChunk conn data)
      (fun _ w' => ∃ query r, (w.server conn).copying = some query ∧ r.fault = none ∧
        Answered conn ("<write> " ++ query) r w w')
      (fun _ _ => ∀ query, (w.server conn).copying = some query →
        ((w.server conn).script.answer ("<write> " ++ query)).1.fault ≠ none) := by
  unfold writeChunk
  apply meets_bind (m := fun q v => q = w ∧ v = w)
  · exact meets_get fun _ h => ⟨h, h⟩
  intro q
  apply meets_known
  rintro v ⟨rfl, hv⟩
  refine ⟨fun v => v = q, hv, ?_⟩
  cases hCopying : (q.server conn).copying with
  | none => exact meets_throw fun _ _ => nofun
  | some query =>
    apply meets_bind (m := fun r w' => r.fault = none ∧
      Answered conn ("<write> " ++ query) r q w')
    · apply (answered_explained q conn _ _ _).imp_bad
      intro _ _ hFault _ hQuery
      cases hQuery
      exact hFault
    intro r
    apply meets_pure
    rintro w' ⟨hFault, h⟩
    exact ⟨query, r, rfl, hFault, h⟩

/-- A round that does not end the relay. -/
inductive Round (origin target : Nat) (w : Site) (data : List UInt8) (w' : Site) : Prop
  | mk {read written : Site} (hRead : outcome (nextChunk origin) w = (.ok data, read))
      (hData : data.isEmpty = false)
      (hWrite : outcome (writeChunk target data) read = (.ok (), written))
      (hCheck : outcome checkInterrupts written = (.ok (), w'))

theorem outcome_relayFor_of_round (h : Round origin target w data w') (rounds : Nat)
    (stats : Stats) :
    outcome (relayFor origin target (rounds + 1) stats) w =
      outcome (relayFor origin target rounds (stats.add data)) w' := by
  obtain ⟨hRead, hData, hWrite, hCheck⟩ := h
  rw [relayFor, outcome_bind, hRead]
  simp only [hData, Bool.false_eq_true, if_false]
  rw [outcome_bind, hWrite]
  dsimp only
  rw [outcome_bind, hCheck]

theorem outcome_relayFor_congr (h : ∀ data w', ¬ Round origin target w data w') (m n : Nat)
    (stats : Stats) :
    outcome (relayFor origin target (m + 1) stats) w =
      outcome (relayFor origin target (n + 1) stats) w := by
  rw [relayFor, relayFor, outcome_bind, outcome_bind]
  rcases hRead : outcome (nextChunk origin) w with ⟨_ | data, read⟩
  · rfl
  cases hData : data.isEmpty with
  | true => simp only [hData, if_true]
  | false =>
    simp only [hData, Bool.false_eq_true, if_false]
    rw [outcome_bind, outcome_bind]
    rcases hWrite : outcome (writeChunk target data) read with ⟨_ | _, written⟩
    · rfl
    dsimp only
    rw [outcome_bind, outcome_bind]
    rcases hCheck : outcome checkInterrupts written with ⟨_ | _, w'⟩
    · rfl
    exact absurd ⟨hRead, hData, hWrite, hCheck⟩ (h data w')

theorem meets_checkInterrupts_eq (w : Site) :
    Meets (fun v => v = w) checkInterrupts
      (fun _ w' => w.interrupts.requested = false ∧ Site.Has w.servers w.interrupts w')
      (fun _ _ => w.interrupts.requested = true) := by
  unfold checkInterrupts
  apply meets_bind (m := fun q v => q = w ∧ v = w)
  · exact meets_get fun _ h => ⟨h, h⟩
  intro q
  apply meets_known
  rintro v ⟨rfl, hv⟩
  refine ⟨fun v => v = q, hv, ?_⟩
  apply meets_bind (m := fun _ => Site.Has q.servers q.interrupts)
  · apply meets_modify
    rintro _ rfl
    exact ⟨rfl, rfl⟩
  intro _
  unfold Interrupts.check
  cases q.interrupts.requested with
  | false => exact meets_ofExcept (fun _ _ _ h => ⟨rfl, h⟩) nofun
  | true => exact meets_ofExcept nofun fun _ _ _ _ => rfl

/-- What is answered in a round. -/
structure Exchanged (origin target : Nat) (source sink : String) (r r' : Reply)
    (w read written w' : Site) : Prop where
  copying : (w.server origin).copying = some source
  readFault : r.fault = none
  readData : r.data.isEmpty = false
  readAnswer : Answered origin ("<read> " ++ source) r w read
  sinkCopying : (read.server target).copying = some sink
  writeFault : r'.fault = none
  writeAnswer : Answered target ("<write> " ++ sink) r' read written
  requested : written.interrupts.requested = false
  has : Site.Has written.servers written.interrupts w'

theorem Round.exchanged (h : Round origin target w data w') :
    ∃ source sink r r' read written,
      Exchanged origin target source sink r r' w read written w' := by
  obtain @⟨read, written, hRead, hData, hWrite, hCheck⟩ := h
  have hReads := answered_nextChunk w origin w rfl
  rw [hRead] at hReads
  obtain ⟨source, r, hSource, hFault, rfl, hAnswer⟩ := hReads
  have hWrites := answered_writeChunk read target r.data read rfl
  rw [hWrite] at hWrites
  obtain ⟨sink, r', hSink, hFault', hAnswer'⟩ := hWrites
  have hChecks := meets_checkInterrupts_eq written written rfl
  rw [hCheck] at hChecks
  exact ⟨source, sink, r, r', read, written, hSource, hFault, hData, hAnswer, hSink, hFault',
    hAnswer', hChecks.1, hChecks.2⟩

/-- Nothing is used up in a round, and nobody wants to stop. -/
structure Stuck (origin target : Nat) (source sink : String) (r r' : Reply) (w : Site) :
    Prop where
  sourceCopying : (w.server origin).copying = some source
  sinkCopying : (w.server target).copying = some sink
  read : (w.server origin).script.answer ("<read> " ++ source) = (r, (w.server origin).script)
  write : (w.server target).script.answer ("<write> " ++ sink) = (r', (w.server target).script)
  readFault : r.fault = none
  readData : r.data.isEmpty = false
  writeFault : r'.fault = none
  readWarned : r.warned w.interrupts = w.interrupts
  writeWarned : r'.warned w.interrupts = w.interrupts
  requested : w.interrupts.requested = false

section

variable {source sink : String} {r r' : Reply} {read written : Site}

theorem Exchanged.pending_le (h : Exchanged origin target source sink r r' w read written w') :
    w'.pending ≤ written.pending ∧ written.pending ≤ read.pending ∧ read.pending ≤ w.pending := by
  have hLast : w'.pending = written.pending := by
    rw [Site.pending, h.has.1, Site.pending]
  exact ⟨Nat.le_of_eq hLast, h.writeAnswer.pending_le, h.readAnswer.pending_le⟩

theorem Exchanged.stuck (h : Exchanged origin target source sink r r' w read written w')
    (hPending : w.pending ≤ w'.pending) : Stuck origin target source sink r r' w := by
  obtain ⟨hCheck, hWrite, hRead⟩ := h.pending_le
  have hReadScript := h.readAnswer.script_eq (by omega)
  have hWriteScript := h.writeAnswer.script_eq (by omega)
  have hServer := h.readAnswer.server_eq hReadScript
  have hWarned' : r'.warned read.interrupts = read.interrupts :=
    Reply.warned_of_not_requested (h.writeAnswer.interrupts ▸ h.requested)
  have hReadRequested : read.interrupts.requested = false := by
    rw [← hWarned', ← h.writeAnswer.interrupts]
    exact h.requested
  have hWarned : r.warned w.interrupts = w.interrupts :=
    Reply.warned_of_not_requested (h.readAnswer.interrupts ▸ hReadRequested)
  have hInterrupts : read.interrupts = w.interrupts := h.readAnswer.interrupts.trans hWarned
  constructor
  case sourceCopying => exact h.copying
  case sinkCopying => exact hServer target ▸ h.sinkCopying
  case read => exact Prod.ext h.readAnswer.reply hReadScript
  case write =>
    rw [← hServer target]
    exact Prod.ext h.writeAnswer.reply hWriteScript
  case readFault => exact h.readFault
  case readData => exact h.readData
  case writeFault => exact h.writeFault
  case readWarned => exact hWarned
  case writeWarned =>
    rw [← hInterrupts]
    exact hWarned'
  case requested =>
    rw [← hInterrupts]
    exact hReadRequested

theorem Stuck.congr (h : Stuck origin target source sink r r' w)
    (hServer : ∀ i, w'.server i = w.server i) (hInterrupts : w'.interrupts = w.interrupts) :
    Stuck origin target source sink r r' w' := by
  constructor
  case sourceCopying => exact hServer origin ▸ h.sourceCopying
  case sinkCopying => exact hServer target ▸ h.sinkCopying
  case read => exact hServer origin ▸ h.read
  case write => exact hServer target ▸ h.write
  case readFault => exact h.readFault
  case readData => exact h.readData
  case writeFault => exact h.writeFault
  case readWarned => exact hInterrupts ▸ h.readWarned
  case writeWarned => exact hInterrupts ▸ h.writeWarned
  case requested => exact hInterrupts ▸ h.requested

theorem Stuck.exists_read (h : Stuck origin target source sink r r' w) :
    ∃ read, outcome (nextChunk origin) w = (.ok r.data, read) ∧
      Stuck origin target source sink r r' read := by
  have hReads := answered_nextChunk w origin w rfl
  rcases hRead : outcome (nextChunk origin) w with ⟨_ | data, read⟩
  · rw [hRead] at hReads
    have hFault := hReads source h.sourceCopying
    rw [h.read] at hFault
    exact absurd h.readFault hFault
  · rw [hRead] at hReads
    obtain ⟨source', r₁, hSource, -, rfl, hAnswer⟩ := hReads
    cases hSource.symm.trans h.sourceCopying
    have hReply : r₁ = r := by rw [← hAnswer.reply, h.read]
    subst hReply
    have hServer := hAnswer.server_eq (congrArg Prod.snd h.read)
    exact ⟨read, rfl, h.congr hServer (hAnswer.interrupts.trans h.readWarned)⟩

theorem Stuck.exists_write (h : Stuck origin target source sink r r' w) (data : List UInt8) :
    ∃ written, outcome (writeChunk target data) w = (.ok (), written) ∧
      Stuck origin target source sink r r' written := by
  have hWrites := answered_writeChunk w target data w rfl
  rcases hWrite : outcome (writeChunk target data) w with ⟨_ | _, written⟩
  · rw [hWrite] at hWrites
    have hFault := hWrites sink h.sinkCopying
    rw [h.write] at hFault
    exact absurd h.writeFault hFault
  · rw [hWrite] at hWrites
    obtain ⟨sink', r₁, hSink, -, hAnswer⟩ := hWrites
    cases hSink.symm.trans h.sinkCopying
    have hReply : r₁ = r' := by rw [← hAnswer.reply, h.write]
    subst hReply
    have hServer := hAnswer.server_eq (congrArg Prod.snd h.write)
    exact ⟨written, rfl, h.congr hServer (hAnswer.interrupts.trans h.writeWarned)⟩

theorem Stuck.exists_check (h : Stuck origin target source sink r r' w) :
    ∃ w', outcome checkInterrupts w = (.ok (), w') ∧
      Stuck origin target source sink r r' w' := by
  have hChecks := meets_checkInterrupts_eq w w rfl
  rcases hCheck : outcome checkInterrupts w with ⟨_ | _, w'⟩
  · rw [hCheck] at hChecks
    rw [h.requested] at hChecks
    cases hChecks
  · rw [hCheck] at hChecks
    obtain ⟨-, hServers, hInterrupts⟩ := hChecks
    have hServer (i : Nat) : w'.server i = w.server i := congrArg (Site.serverAt · i) hServers
    exact ⟨w', rfl, h.congr hServer hInterrupts⟩

/-- From where a relay is stuck, a round leads to where it is stuck again. -/
theorem Stuck.exists_round (h : Stuck origin target source sink r r' w) :
    ∃ w', Round origin target w r.data w' ∧ Stuck origin target source sink r r' w' := by
  obtain ⟨read, hRead, hStuck⟩ := h.exists_read
  obtain ⟨written, hWrite, hStuck⟩ := hStuck.exists_write r.data
  obtain ⟨w', hCheck, hStuck⟩ := hStuck.exists_check
  exact ⟨w', ⟨hRead, h.readData, hWrite, hCheck⟩, hStuck⟩

theorem Stuck.endless (h : Stuck origin target source sink r r' w) (rounds : Nat)
    (stats : Stats) : (outcome (relayFor origin target rounds stats) w).1 = .error endless := by
  induction rounds generalizing w stats with
  | zero => rfl
  | succ rounds ih =>
    obtain ⟨w', hRound, hStuck⟩ := h.exists_round
    rw [outcome_relayFor_of_round hRound]
    exact ih hStuck _

end

/-- If any number of rounds brings a relay to an end, one more than there are replies to be used up
does so too. -/
theorem relayFor_enough (rounds enough : Nat) (stats : Stats) (w : Site)
    (hEnough : w.pending < enough)
    (hEnds : (outcome (relayFor origin target rounds stats) w).1 ≠ .error endless) :
    outcome (relayFor origin target enough stats) w =
      outcome (relayFor origin target rounds stats) w := by
  induction rounds generalizing enough stats w with
  | zero => exact absurd rfl hEnds
  | succ rounds ih =>
    obtain ⟨rest, rfl⟩ := Nat.exists_eq_succ_of_ne_zero (Nat.ne_zero_of_lt hEnough)
    by_cases hRound : ∃ data w', Round origin target w data w'
    · obtain ⟨data, w', h⟩ := hRound
      obtain ⟨source, sink, r, r', read, written, hExchanged⟩ := h.exchanged
      by_cases hPending : w.pending ≤ w'.pending
      · exact absurd ((hExchanged.stuck hPending).endless _ _) hEnds
      · rw [outcome_relayFor_of_round h] at hEnds
        rw [outcome_relayFor_of_round h, outcome_relayFor_of_round h]
        exact ih rest _ w' (by omega) hEnds
    · apply outcome_relayFor_congr
      intro data w' h
      exact hRound ⟨data, w', h⟩

end Copy

end ReplicaBootstrap
