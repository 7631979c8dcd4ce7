import ReplicaBootstrap.Program
import ReplicaBootstrap.Proofs.Settings

/-! # What settings have been through

Settings are assigned to, checked and loaded, in any order and as often as one likes. Every check that
is passed prepares debugging output when it finds the most talkative level, but none undoes this.
So after a check that is passed, the output is prepared just if the level asks for it, or some check
before has found that level, or the settings came with it.
-/

namespace ReplicaBootstrap.Settings

open ReplicaBootstrap.Action

/-- What can be done to settings. A file that is loaded gives a document, or it cannot be read. -/
inductive Call where
  | assignLevel (level : Value)
  | validateLogLevel
  | validate (directories : List String)
  | load (temporary : String) (directories : List String) (environment : List (String × String))
      (file : String) (document : Except Fault Value)

namespace Call

def perform : Call → Action Settings Unit
  | assignLevel level => modify fun s => { s with logLevel := level }
  | validateLogLevel => do set (← Action.ofExcept (← get).validateLogLevel)
  | validate directories => do set (← Action.ofExcept ((← get).validate directories))
  | load temporary directories environment file document => do
    Settings.load temporary directories environment file (← Action.ofExcept document)

/-- Every call but an assignment checks the level. -/
def Checks : Call → Prop
  | assignLevel _ => False
  | _ => True

def Passes (c : Call) (s : Settings) : Prop := (outcome c.perform s).1 = .ok ()

def after (c : Call) (s : Settings) : Settings := (outcome c.perform s).2

def Raises (c : Call) (s : Settings) : Prop :=
  c.Checks ∧ c.Passes s ∧ (c.after s).logLevel = .text "debug"

end Call

variable {b : Bool} {s t : Settings}

/-! ## One call -/

/-- What a check that is passed leaves, when `b` tells whether output was prepared before. -/
def Settled (b : Bool) (t : Settings) : Prop :=
  ∃ level : String, t.logLevel = .text level ∧ t.debugs = (decide (level = "debug") || b)

theorem Settled.debugs_iff (h : Settled b t) :
    t.debugs = true ↔ t.logLevel = .text "debug" ∨ b = true := by
  obtain ⟨level, hLevel, hDebugs⟩ := h
  rw [hLevel, hDebugs, Value.text.injEq, Bool.or_eq_true, decide_eq_true_eq]

theorem settled_of_validateLogLevel (h : s.validateLogLevel = .ok t) : Settled s.debugs t := by
  obtain ⟨level, -, hLevel, rfl⟩ := validateLogLevel_eq_ok_iff.mp h
  exact ⟨level, hLevel, rfl⟩

theorem settled_of_validate {directories : List String} (h : s.validate directories = .ok t) :
    Settled s.debugs t := by
  obtain ⟨c, -, -, rfl⟩ := validate_eq_ok_iff.mp h
  exact ⟨c.level, rfl, rfl⟩

/-- A check that is not passed leaves the settings as they are. -/
theorem meets_checking {check : Settings → Except Fault Settings}
    (hCheck : ∀ s t, check s = .ok t → Settled s.debugs t) :
    Meets (fun s => s.debugs = b) (do set (← Action.ofExcept (check (← get))))
      (fun _ => Settled b) (fun _ s => s.debugs = b) := by
  apply meets_bind (m := fun s s' => s' = s ∧ s.debugs = b)
  · exact meets_get fun s hs => ⟨rfl, hs⟩
  intro s
  apply meets_bind (m := fun t _ => Settled b t)
  · apply meets_ofExcept
    · rintro t hChecked _ ⟨-, rfl⟩
      exact hCheck s t hChecked
    · rintro f - _ ⟨rfl, hs⟩
      exact hs
  · exact fun t => meets_modify fun _ ht => ht

theorem meets_load (temporary : String) (directories : List String)
    (environment : List (String × String)) (file : String) (document : Value) :
    Meets (fun s => s.debugs = b) (load temporary directories environment file document)
      (fun _ => Settled b) (fun _ s => s.debugs = b) := by
  unfold load
  apply meets_bind (m := fun _ s => s.debugs = b) keeps_ofExcept
  intro entries
  -- the document sets everything but whether output is prepared
  apply meets_bind (m := fun _ s => s.debugs = b)
  · exact meets_modify fun _ hs => hs
  intro _
  split
  · exact meets_bind (m := fun _ _ => False) (meets_throw fun _ hs => hs) fun _ _ h => h.elim
  · exact meets_checking fun _ _ => settled_of_validate

theorem meets_perform {c : Call} (hChecks : c.Checks) :
    Meets (fun s => s.debugs = b) c.perform (fun _ => Settled b) (fun _ s => s.debugs = b) := by
  cases c with
  | assignLevel => exact hChecks.elim
  | validateLogLevel => exact meets_checking fun _ _ => settled_of_validateLogLevel
  | validate directories => exact meets_checking fun _ _ => settled_of_validate
  | load temporary directories environment file document =>
    apply meets_bind (m := fun _ s => s.debugs = b) keeps_ofExcept
    exact fun document => meets_load temporary directories environment file document

theorem Call.settled {c : Call} (hChecks : c.Checks) (hPasses : c.Passes s) :
    Settled s.debugs (c.after s) :=
  (meets_perform hChecks).of_ok rfl hPasses

theorem Call.debugs_after (c : Call) (s : Settings) :
    (c.after s).debugs = true ↔ s.debugs = true ∨ c.Raises s := by
  by_cases hChecks : c.Checks
  · cases hOutcome : (outcome c.perform s).1 with
    | ok =>
      have hRaises : c.Raises s ↔ (c.after s).logLevel = .text "debug" :=
        ⟨fun h => h.2.2, fun h => ⟨hChecks, hOutcome, h⟩⟩
      rw [(c.settled hChecks hOutcome).debugs_iff, hRaises, or_comm]
    | error f =>
      have hSame : (c.after s).debugs = s.debugs := (meets_perform hChecks).of_error rfl hOutcome
      have hRaises : ¬ c.Raises s := fun h => nomatch hOutcome.symm.trans h.2.1
      rw [hSame, or_iff_left hRaises]
  · cases c with
    | assignLevel level => exact (or_iff_left fun h => hChecks h.1).symm
    | _ => exact absurd trivial hChecks

/-! ## Many calls -/

def afterAll (s : Settings) (calls : List Call) : Settings := calls.foldl (fun s c => c.after s) s

/-- Some check among the calls found the most talkative level. -/
def Raised (s : Settings) (calls : List Call) : Prop :=
  ∃ before c rest, calls = before ++ c :: rest ∧ c.Raises (s.afterAll before)

theorem raised_cons {c : Call} {calls : List Call} :
    Raised s (c :: calls) ↔ c.Raises s ∨ Raised (c.after s) calls := by
  constructor
  · rintro ⟨before, d, rest, hCalls, hRaises⟩
    cases before with
    | nil =>
      cases hCalls
      exact .inl hRaises
    | cons _ before =>
      cases hCalls
      exact .inr ⟨before, d, rest, rfl, hRaises⟩
  · rintro (hRaises | ⟨before, d, rest, rfl, hRaises⟩)
    · exact ⟨[], c, calls, rfl, hRaises⟩
    · exact ⟨c :: before, d, rest, rfl, hRaises⟩

theorem debugs_afterAll (s : Settings) (calls : List Call) :
    (s.afterAll calls).debugs = true ↔ s.debugs = true ∨ Raised s calls := by
  induction calls generalizing s with
  | nil => simp [afterAll, Raised]
  | cons c calls ih =>
    change ((c.after s).afterAll calls).debugs = true ↔ _
    rw [ih, c.debugs_after, raised_cons, or_assoc]

/-- After a check that is passed, debugging output is prepared just if the level is the most talkative
one, or an earlier check has found that level, or the settings came with it. So it goes by the level
just if the level is that one or nothing has prepared the output before. -/
theorem debugs_iff_asked_or_raised (s : Settings) (calls : List Call) (c : Call) (hChecks : c.Checks)
    (hPasses : c.Passes (s.afterAll calls)) :
    let t := s.afterAll (calls ++ [c])
    (t.debugs = true ↔ t.logLevel = .text "debug" ∨ s.debugs = true ∨ Raised s calls) ∧
      ((t.debugs = true ↔ t.logLevel = .text "debug") ↔
        t.logLevel = .text "debug" ∨ ¬ (s.debugs = true ∨ Raised s calls)) := by
  intro t
  have hLast : t = c.after (s.afterAll calls) := by
    simp [t, afterAll]
  have hDebugs : t.debugs = true ↔ t.logLevel = .text "debug" ∨ s.debugs = true ∨ Raised s calls := by
    rw [hLast, (c.settled hChecks hPasses).debugs_iff, debugs_afterAll]
  refine ⟨hDebugs, ?_⟩
  rw [hDebugs]
  tauto

def loadedThenLowered : List Call := [
    .load "/tmp" [] [] "config.yaml" (.ok (.map [("local_dsn", "host=b"), ("origin_node", "provider"),
      ("target_node", "subscriber"), ("log_level", "debug")])),
    .assignLevel "info"]

theorem debugs_loadedThenLowered :
    Call.validateLogLevel.Checks ∧
      Call.validateLogLevel.Passes (({} : Settings).afterAll loadedThenLowered) ∧
      Raised {} loadedThenLowered ∧
      (({} : Settings).afterAll (loadedThenLowered ++ [.validateLogLevel])).debugs = true := by
  have hPasses : Call.validateLogLevel.Passes (({} : Settings).afterAll loadedThenLowered) := rfl
  have hRaised : Raised {} loadedThenLowered :=
    ⟨[], _, _, rfl, trivial, rfl, rfl⟩
  exact ⟨trivial, hPasses, hRaised,
    (debugs_iff_asked_or_raised {} loadedThenLowered .validateLogLevel trivial hPasses).1.mpr
      (.inr (.inr hRaised))⟩

/-- The level is lowered after it has been checked. -/
theorem debugs_stale :
    let calls := [.assignLevel "debug", .validateLogLevel, .assignLevel "info"]
    let t := ({} : Settings).afterAll (calls ++ [.validateLogLevel])
    Call.validateLogLevel.Passes (({} : Settings).afterAll calls) ∧
      t.logLevel = .text "info" ∧ t.debugs = true ∧
      ¬ (t.debugs = true ↔ t.logLevel = .text "debug") := by
  refine ⟨rfl, rfl, rfl, fun h => ?_⟩
  exact absurd (Value.text.inj (h.mp rfl)) (by decide)

/-! ## The settings of a command -/

theorem meets_overrideLogLevel (level : String) :
    Meets (fun s => s.debugs = b) (overrideLogLevel level) (fun _ => Settled b)
      (fun _ s => s.debugs = b) := by
  apply meets_bind (m := fun _ s => s.debugs = b)
  · exact meets_modify fun _ hs => hs
  · exact fun _ => meets_checking fun _ _ => settled_of_validateLogLevel

theorem meets_loadSettings (file : String) :
    Meets (fun _ => True) (Program.loadSettings file) (fun s _ => Settled false s)
      (fun _ _ => True) := by
  unfold Program.loadSettings
  apply meets_bind (m := fun _ _ => True) (meets_get fun _ _ => trivial)
  intro w
  apply meets_bind (m := fun _ _ => True) keeps_ofExcept
  intro temporary
  apply meets_bind (m := fun _ _ => True)
  · exact meets_iff.mpr fun _ _ => ⟨fun _ _ => trivial, fun _ _ => trivial⟩
  intro text
  apply meets_bind (m := fun _ _ => True) keeps_ofExcept
  intro document
  apply meets_bind (m := fun _ _ => Settled false
    (outcome (load temporary w.host.directories w.host.environment file document)
      (fresh temporary)).2)
  · apply meets_ofExcept
    · exact fun _ hLoaded _ _ => (meets_load _ _ _ _ _).of_ok rfl hLoaded
    · exact fun _ _ _ h => h
  · exact fun _ => meets_pure fun _ h => h

/-- The settings of a command prepare debugging output just if their level asks for it or that of the
file does. -/
theorem debugs_settingsOf_iff {c : Command} {w : Site}
    (h : (outcome (Program.settingsOf c) w).1 = .ok t) :
    ∃ loaded, (outcome (Program.loadSettings c.config) w).1 = .ok loaded ∧
      (t.debugs = true ↔ t.logLevel = .text "debug" ∨ loaded.logLevel = .text "debug") := by
  unfold Program.settingsOf at h
  rw [outcome_bind] at h
  have hLoad := (meets_loadSettings c.config) w trivial
  rcases hOutcome : outcome (Program.loadSettings c.config) w with ⟨loaded | loaded, w'⟩
  · rw [hOutcome] at h
    cases h
  rw [hOutcome] at h hLoad
  refine ⟨loaded, rfl, ?_⟩
  have hLoaded : loaded.debugs = true ↔ loaded.logLevel = .text "debug" := by
    simpa using hLoad.debugs_iff
  have hKept (hSame : t = loaded) :
      t.debugs = true ↔ t.logLevel = .text "debug" ∨ loaded.logLevel = .text "debug" := by
    rw [hSame, hLoaded, or_self]
  dsimp only at h
  split at h
  · cases h
    exact hKept rfl
  · rename_i level hLevel
    split at h
    · cases h
      exact hKept rfl
    · have hOverride := (meets_overrideLogLevel level) loaded rfl
      rcases hOutcome : outcome (overrideLogLevel level) loaded with ⟨_ | _, s⟩
      · rw [hOutcome] at h
        cases h
      · rw [hOutcome] at h hOverride
        cases h
        rw [hOverride.debugs_iff, hLoaded]

end ReplicaBootstrap.Settings
