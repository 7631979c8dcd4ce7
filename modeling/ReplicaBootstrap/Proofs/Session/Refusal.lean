import ReplicaBootstrap.Proofs.Copy.Course
import ReplicaBootstrap.Proofs.Copy.Rounds
import ReplicaBootstrap.Proofs.Faults.Services

/-! # Refused connections

When a connection fails, the fault that leaves says so, if the connection string could be extended at
all. A string that cannot be is refused by the driver before anything is asked.
-/

namespace ReplicaBootstrap

open ReplicaBootstrap.Action

namespace Conninfo

variable {ps news base : Params} {dsn : Value}

theorem readBack_error {e : Error} (h : readBack ps = .error e) :
    e = .unterminatedQuote ∧ ∃ kv ∈ ps, '\x00' ∈ kv.2.toList ∧ kv.2.toList.any Text.isBlank = true := by
  induction ps with
  | nil => cases h
  | cons kv rest ih =>
    rw [readBack] at h
    split at h
    · rename_i hNul
      split at h
      · rename_i hBlank
        cases h
        exact ⟨rfl, kv, List.mem_cons_self .., hNul, hBlank⟩
      · cases h
    · cases hRest : readBack rest with
      | ok es =>
        rw [hRest] at h
        cases h
      | error e' =>
        rw [hRest] at h
        cases h
        obtain ⟨he, kv', hMem, hSpoilt⟩ := ih hRest
        exact ⟨he, kv', List.mem_cons_of_mem _ hMem, hSpoilt⟩

theorem readBack_set_spoilt (hps : Sound ps) (keyword : String) {value : String}
    (hNul : '\x00' ∈ value.toList) (hBlank : value.toList.any Text.isBlank = true) :
    readBack (set keyword value ps) = .error .unterminatedQuote := by
  induction ps with
  | nil => rw [set, readBack, if_pos hNul, if_pos hBlank]
  | cons kv rest ih =>
    rw [set]
    split
    · rw [readBack, if_pos hNul, if_pos hBlank]
    · rw [readBack, if_neg (hps kv (List.mem_cons_self ..)).2,
        ih fun kv' hkv' => hps kv' (List.mem_cons_of_mem _ hkv')]
      rfl

end Conninfo

namespace Session

variable {purpose : Purpose} {dsn application : String} {w : Site}

/-- Whether a connection string can be extended: it is empty or can be read, and the name of the
application is not cut within quotes. -/
def Legible (dsn application : String) : Prop :=
  (dsn = "" ∨ ∃ ps, Conninfo.parse dsn = .ok ps) ∧
    ('\x00' ∈ application.toList → application.toList.any Text.isBlank = false)

def connectReply (w : Site) : Reply := ((w.server w.connections).script.answer "<connect>").1

theorem known_params (purpose : Purpose) (application : String) :
    Conninfo.Known (purpose.params application) := by
  cases purpose with
  | queries => simp [Purpose.params, Conninfo.Known, Conninfo.keywords]
  | replication => simp [Purpose.params, Conninfo.Known, Conninfo.keywords]

theorem baseOf_ok_iff :
    (∃ base, Conninfo.baseOf (.text dsn) = .ok base) ↔
      dsn = "" ∨ ∃ ps, Conninfo.parse dsn = .ok ps := by
  rw [Conninfo.baseOf_text, ← String.isEmpty_iff]
  by_cases hEmpty : dsn.isEmpty = true
  · simp [hEmpty]
  · rw [if_neg hEmpty]
    cases Conninfo.parse dsn <;> simp [hEmpty, Except.mapError]

/-- The parameters that are set hold only one text that was not chosen here. -/
theorem overlay_params_ok_iff (purpose : Purpose) {base : Conninfo.Params} (hBase : Conninfo.Sound base) :
    (∃ es, Conninfo.readBack (Conninfo.overlay base (purpose.params application)) = .ok es) ↔
      ('\x00' ∈ application.toList → application.toList.any Text.isBlank = false) := by
  obtain ⟨base', hBase', hParams⟩ : ∃ base', Conninfo.Sound base' ∧
      Conninfo.overlay base (purpose.params application) =
        Conninfo.set "fallback_application_name" application base' := by
    cases purpose with
    | queries => exact ⟨base, hBase, rfl⟩
    | replication =>
      refine ⟨Conninfo.overlay base [("replication", "database")], hBase.overlay ?_, rfl⟩
      simp [Conninfo.Sound, Conninfo.keywords]
  rw [hParams]
  constructor
  · rintro ⟨es, hRead⟩ hNul
    rw [Bool.eq_false_iff]
    intro hBlank
    rw [Conninfo.readBack_set_spoilt hBase' _ hNul hBlank] at hRead
    cases hRead
  · intro hApplication
    cases hRead : Conninfo.readBack (Conninfo.set "fallback_application_name" application base') with
    | ok es => exact ⟨es, rfl⟩
    | error e =>
      obtain ⟨-, kv, hMem, hNul, hBlank⟩ := Conninfo.readBack_error hRead
      rcases Conninfo.mem_set hMem with rfl | hMem
      · rw [hApplication hNul] at hBlank
        cases hBlank
      · exact absurd hNul (hBase' kv hMem).2

theorem extend_ok_iff (purpose : Purpose) :
    (∃ conninfo, Conninfo.extend (.text dsn) (purpose.params application) = .ok conninfo) ↔
      Legible dsn application := by
  rw [Conninfo.extend_known (known_params purpose application), Legible, ← baseOf_ok_iff]
  cases hBase : Conninfo.baseOf (.text dsn) with
  | error f =>
    simp only [reduceCtorEq, exists_false, false_and, iff_false, not_exists]
    exact fun _ h => by cases h
  | ok base =>
    rw [← overlay_params_ok_iff purpose (Conninfo.baseOf_sound hBase)]
    change (∃ conninfo, ((Conninfo.readBack _).mapError _).map _ = _) ↔ _
    cases Conninfo.readBack (Conninfo.overlay base (purpose.params application)) <;>
      simp [Except.mapError, Except.map]

theorem extend_refused {f : Fault}
    (h : Conninfo.extend (.text dsn) (purpose.params application) = .error f) :
    ∃ e : Conninfo.Error, f = e.fault := by
  rw [Conninfo.extend_known (known_params purpose application)] at h
  have hMapped {α : Type} {r : Except Conninfo.Error α} {g : Fault}
      (hr : r.mapError Conninfo.Error.fault = .error g) : ∃ e : Conninfo.Error, g = e.fault := by
    cases r with
    | ok a => cases hr
    | error e =>
      cases hr
      exact ⟨e, rfl⟩
  rcases error_of_bind h with h | ⟨base, hBase, h⟩
  · rw [Conninfo.baseOf_text] at h
    split at h
    · cases h
    · exact hMapped h
  · cases hRead : Conninfo.readBack (Conninfo.overlay base (purpose.params application)) with
    | ok es =>
      rw [hRead] at h
      cases h
    | error e =>
      rw [hRead] at h
      cases h
      exact ⟨e, rfl⟩

theorem meets_connectTo_tolerable (conninfo : String) :
    Meets (fun w => Copy.Tolerable (connectReply w)) (connectTo conninfo) (fun _ _ => True)
      fun f _ => f.isDriver = true := by
  unfold connectTo
  apply meets_bind (m := fun conn w =>
    Copy.Tolerable ((w.server conn).script.answer "<connect>").1)
  · exact fun w hw => hw
  intro conn
  apply meets_bind (m := fun _ _ => True)
  · rintro w hw
    apply ((answered_request w conn _ _).weaken (fun _ h => h) (fun _ _ _ => trivial) ?_) w rfl
    rintro f _ ⟨r, hFault, hAnswered⟩
    exact hw f (hAnswered.reply ▸ hFault)
  · exact fun _ => meets_pure fun _ _ => trivial

theorem meets_connect_legible (h : Legible dsn application) :
    Meets (fun w => Copy.Tolerable (connectReply w)) (connect purpose (.text dsn) application)
      (fun _ _ => True) fun f _ => f.kind = .init .connection := by
  obtain ⟨conninfo, hConninfo⟩ := (extend_ok_iff purpose).mpr h
  obtain ⟨masked, hMasked⟩ := Conninfo.mask_extended (known_params purpose application) hConninfo
  unfold connect
  rw [hConninfo]
  apply meets_bind (m := fun c w => c = conninfo ∧ Copy.Tolerable (connectReply w))
  · exact fun _ hw => ⟨rfl, hw⟩
  intro c
  apply meets_known
  rintro w ⟨rfl, hw⟩
  refine ⟨fun w => Copy.Tolerable (connectReply w), hw, ?_⟩
  apply meets_attempt_bind (meets_connectTo_tolerable c)
  · exact fun _ => meets_pure fun _ _ => trivial
  intro f
  apply meets_known
  intro w hDriver
  refine ⟨fun _ => True, trivial, ?_⟩
  dsimp only
  rw [if_pos hDriver, hMasked]
  apply meets_bind (m := fun _ _ => True)
  · exact fun _ _ => trivial
  intro _
  exact fun _ _ => rfl

/-- A fault of connecting tells of the connection exactly if the connection string could be
extended. Otherwise the driver's own fault leaves, and nothing has been asked or logged. -/
theorem connect_reports_iff (purpose : Purpose) (dsn application : String) (w : Site)
    (hReply : Copy.Tolerable (connectReply w)) :
    ((∀ f, (outcome (connect purpose (.text dsn) application) w).1 = .error f →
        f.kind = .init .connection) ↔ Legible dsn application) ∧
      (¬ Legible dsn application → ∃ e : Conninfo.Error,
        outcome (connect purpose (.text dsn) application) w = (.error e.fault, w)) := by
  have hRefused (h : ¬ Legible dsn application) : ∃ e : Conninfo.Error,
      outcome (connect purpose (.text dsn) application) w = (.error e.fault, w) := by
    cases hExtend : Conninfo.extend (.text dsn) (purpose.params application) with
    | ok conninfo => exact absurd ((extend_ok_iff purpose).mp ⟨conninfo, hExtend⟩) h
    | error f =>
      obtain ⟨e, rfl⟩ := extend_refused hExtend
      refine ⟨e, ?_⟩
      rw [connect, outcome_bind, outcome_ofExcept, hExtend]
  refine ⟨⟨fun hReports => ?_, fun hLegible f => ?_⟩, hRefused⟩
  · by_contra hIllegible
    obtain ⟨e, hOutcome⟩ := hRefused hIllegible
    have hKind := hReports e.fault (by rw [hOutcome])
    cases e <;> cases hKind
  · exact (meets_connect_legible hLegible).of_error hReply

/-- A site whose only server takes no connections. -/
def closed : Site where
  servers := [{ script := [
    { pattern := "<connect>"
      replies := .standing { fault := some (.driver .operational "connection refused") } }] }]

theorem tolerable_closed : Copy.Tolerable (connectReply closed) := by
  rintro f ⟨⟩
  rfl

theorem connect_reports_closed :
    Copy.Tolerable (connectReply closed) ∧ Legible "host=a password='top secret'" "setup" ∧
      (outcome (connect .queries (.text "host=a password='top secret'") "setup") closed).1 =
        .error (.init .connection ("could not connect to the postgresql server: connection refused" ++
          " (dsn was: password=******** host=a fallback_application_name=setup)")) := by
  have hFault : (outcome (connect .queries (.text "host=a password='top secret'") "setup") closed).1 =
        .error (.init .connection ("could not connect to the postgresql server: connection refused" ++
          " (dsn was: password=******** host=a fallback_application_name=setup)")) := by
    decide +kernel
  have hReports := (connect_reports_iff .queries "host=a password='top secret'" "setup" closed
    tolerable_closed).1
  refine ⟨tolerable_closed, hReports.mp fun f hf => ?_, hFault⟩
  rw [hFault] at hf
  cases hf
  rfl

theorem connect_escapes_unread :
    Copy.Tolerable (connectReply closed) ∧
      (outcome (connect .queries (.text "host=a port") "setup") closed).1 =
        .error (.driver .programming "missing \"=\" after \"port\" in connection info string\n") ∧
      (outcome (connect .queries (.text "host=a port") "setup") closed).2.journal.toList.length = 0 := by
  refine ⟨?_, by decide +kernel⟩
  rintro f ⟨⟩
  rfl

end Session

end ReplicaBootstrap
