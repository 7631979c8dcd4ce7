import ReplicaBootstrap.Proofs.Session.Transaction
import ReplicaBootstrap.Proofs.Tool.Version
import ReplicaBootstrap.Tool.Schema

/-! # Tools that are found

A tool that is not known yet is looked for in its directory and asked for its version. It is found
just if it answers with a version that suits the server, and then it is kept.
-/

namespace ReplicaBootstrap

open ReplicaBootstrap.Action

namespace Site

variable {α β : Type} {w : Site} {x : Action Site α}
  {R : Except Fault α → List Entry → List (String × String) → Prop}

/-- From the site `w`, the result of the action, the acts that it adds and the tools that it finds
right are related. -/
def Finds (x : Action Site α) (w : Site)
    (R : Except Fault α → List Entry → List (String × String) → Prop) : Prop :=
  ∃ did found, (outcome x w).2.acts = w.acts ++ did ∧
    (outcome x w).2.verifiedTools = w.verifiedTools ++ found ∧ R (outcome x w).1 did found

theorem Finds.weaken {S : Except Fault α → List Entry → List (String × String) → Prop}
    (h : Finds x w R) (hR : ∀ r did found, R r did found → S r did found) : Finds x w S := by
  obtain ⟨did, found, hActs, hTools, h⟩ := h
  exact ⟨did, found, hActs, hTools, hR _ _ _ h⟩

theorem finds_pure {a : α} (h : R (.ok a) [] []) : Finds (pure a) w R :=
  ⟨[], [], (List.append_nil _).symm, (List.append_nil _).symm, h⟩

theorem finds_throw {f : Fault} (h : R (.error f) [] []) : Finds (throw f) w R :=
  ⟨[], [], (List.append_nil _).symm, (List.append_nil _).symm, h⟩

theorem finds_get_bind {k : Site → Action Site α} (h : Finds (k w) w R) : Finds (get >>= k) w R := h

theorem finds_bind {S : Except Fault β → List Entry → List (String × String) → Prop}
    {k : α → Action Site β} (hx : Finds x w R)
    (hok : ∀ a did found v, R (.ok a) did found → v.verifiedTools = w.verifiedTools ++ found →
      Finds (k a) v fun r did' found' => S r (did ++ did') (found ++ found'))
    (herror : ∀ f did found, R (.error f) did found → S (.error f) did found) :
    Finds (x >>= k) w S := by
  obtain ⟨did, found, hActs, hTools, h⟩ := hx
  unfold Finds
  rw [outcome_bind]
  rcases hr : outcome x w with ⟨r, v⟩
  rw [hr] at hActs hTools h
  cases r with
  | error f => exact ⟨did, found, hActs, hTools, herror f did found h⟩
  | ok a =>
    obtain ⟨did', found', hActs', hTools', h'⟩ := hok a did found v h hTools
    refine ⟨did ++ did', found ++ found', ?_, ?_, h'⟩
    · rw [hActs', hActs, List.append_assoc]
    · rw [hTools', hTools, List.append_assoc]

theorem finds_still_bind {S : Except Fault β → List Entry → List (String × String) → Prop}
    {k : α → Action Site β} (hStill : (outcome x w).2 = w)
    (hok : ∀ a, (outcome x w).1 = .ok a → Finds (k a) w S)
    (herror : ∀ f, (outcome x w).1 = .error f → S (.error f) [] []) : Finds (x >>= k) w S := by
  unfold Finds
  rw [outcome_bind]
  rcases hr : outcome x w with ⟨r, v⟩
  rw [hr] at hStill hok herror
  obtain rfl : v = w := hStill
  cases r with
  | error f => exact finds_throw (herror f rfl)
  | ok a => exact hok a rfl

theorem finds_throw_bind {S : Except Fault β → List Entry → List (String × String) → Prop} {f : Fault}
    {k : α → Action Site β} (h : S (.error f) [] []) : Finds ((throw f : Action Site α) >>= k) w S := by
  apply finds_still_bind rfl
  · rintro _ ⟨⟩
  · rintro _ ⟨⟩
    exact h

theorem finds_log (level : Level) (text : String) :
    Finds (log level text) w fun r did found => r = .ok () ∧ did = [] ∧ found = [] :=
  ⟨[], [], acts_record w _, (List.append_nil _).symm, rfl, rfl, rfl⟩

end Site

namespace SchemaTool

open Site

variable {w : Site}

/-! ## Commands -/

theorem undisturbed_stock (done : List Entry) (known : List (String × String)) :
    Undisturbed fun w => w.acts = done ∧ w.verifiedTools = known where
  said w e he h := ⟨(undisturbed_acts done).said w e he h.1, h.2⟩
  heard _ _ h := h

def answerTo (w : Site) (command : List String) : Reply :=
  (w.commands.answer (" ".intercalate command)).1

theorem finds_runCommand (command : List String) :
    Finds (runCommand command) w fun result did found => result = (answerTo w command).result ∧
      did = [.exchange (.run command) (answerTo w command)] ∧ found = [] := by
  obtain ⟨commands, hAnswer⟩ :
      ∃ commands, w.commands.answer (" ".intercalate command) = (answerTo w command, commands) :=
    ⟨_, rfl⟩
  let said : Site :=
    { w.record (.exchange (.run command) (answerTo w command)) with commands }
  have hOutcome : outcome (runCommand command) w = outcome (resolve (answerTo w command)) said := by
    unfold runCommand
    rw [outcome_bind, outcome_get]
    dsimp only
    rw [hAnswer]
    rfl
  obtain ⟨hResult, hActs, hTools⟩ :=
    resolve_answered (undisturbed_stock said.acts said.verifiedTools) (answerTo w command)
      (w := said) ⟨rfl, rfl⟩
  rw [← hOutcome] at hResult hActs hTools
  refine ⟨_, _, hActs.trans (acts_record w _), ?_, hResult, rfl, rfl⟩
  exact hTools.trans (List.append_nil _).symm

/-- A command is run once, and its reply is used unless it is a fault. -/
inductive Ran (command : List String) (r : Reply) :
    Except Fault Reply → List Entry → List (String × String) → Prop
  | ok (hFault : r.fault = none) : Ran command r (.ok r) [.exchange (.run command) r] []
  | error {f : Fault} (hFault : r.fault ≠ none) :
      Ran command r (.error f) [.exchange (.run command) r] []

theorem outcome_onSystemFault {α : Type} (x : Action Site α) (explain : Fault → Fault) (w : Site) :
    outcome (onSystemFault x explain) w =
      match outcome x w with
      | (.ok a, v) => (.ok a, v)
      | (.error f, v) => (.error (if f.isSystem then explain f else f), v) := by
  unfold onSystemFault
  rw [outcome_bind, outcome_attempt]
  rcases outcome x w with ⟨r, v⟩
  cases r <;> rfl

theorem finds_command (command : List String) (explain : Fault → Fault) :
    Finds (onSystemFault (runCommand command) explain) w (Ran command (answerTo w command)) := by
  obtain ⟨did, found, hActs, hTools, hResult, rfl, rfl⟩ := finds_runCommand (w := w) command
  unfold Finds
  rw [outcome_onSystemFault]
  rcases hr : outcome (runCommand command) w with ⟨r, v⟩
  rw [hr] at hActs hTools hResult
  cases hFault : (answerTo w command).fault with
  | none =>
    rw [Reply.result, hFault] at hResult
    cases hResult
    exact ⟨_, _, hActs, hTools, .ok hFault⟩
  | some f =>
    rw [Reply.result, hFault] at hResult
    cases hResult
    exact ⟨_, _, hActs, hTools, .error (by simp [hFault])⟩

/-! ## Versions -/

def asked (path : String) (r : Reply) : Entry := .exchange (.run [path, "-V"]) r

/-- A reply that tells of a version that suits the server. -/
structure Vouches (server : Int) (r : Reply) : Prop where
  fault : r.fault = none
  exitCode : r.exitCode = 0
  version : ∃ major minor, Version.Announces r.stdout major minor ∧ Version.Suits server major minor

/-- What is made of the reply of a tool that is asked for its version. -/
inductive Told (r : Reply) : Except Fault (List Int) → Prop
  | announced {major minor : Nat} (hFault : r.fault = none) (hExit : r.exitCode = 0)
      (hVersion : Version.Announces r.stdout major minor) : Told r (.ok [(major : Int), (minor : Int)])
  | unread {f : Fault} (hUnread : r.fault = none → Version.Short r.stdout →
      f.kind = .init .toolVersion ∧
        (r.exitCode = 0 → ∀ major minor, ¬ Version.Announces r.stdout major minor)) :
      Told r (.error f)

theorem Told.refusal {r : Reply} {f : Fault} (h : Told r (.error f)) (server : Int)
    (hFault : r.fault = none) (hShort : Version.Short r.stdout) :
    f.kind = .init .toolVersion ∧ ¬ Vouches server r := by
  cases h with
  | unread hUnread =>
    obtain ⟨hKind, hNot⟩ := hUnread hFault hShort
    refine ⟨hKind, fun hVouches => ?_⟩
    obtain ⟨major, minor, hVersion, -⟩ := hVouches.version
    exact hNot hVouches.exitCode major minor hVersion

theorem finds_probe (path : String) :
    Finds (probe path) w fun result did found =>
      Told (answerTo w [path, "-V"]) result ∧ did = [asked path (answerTo w [path, "-V"])] ∧
        found = [] := by
  unfold probe
  apply finds_bind (finds_command _ _)
  · intro _ _ _ v hRan _
    obtain ⟨hFault⟩ := hRan
    generalize answerTo w [path, "-V"] = reply at hFault
    dsimp only
    by_cases hExit : reply.exitCode = 0
    · rw [if_pos hExit]
      cases hParse : Version.parseTool reply.stdout with
      | error e =>
        apply finds_still_bind rfl
        · rintro _ ⟨⟩
        · intro f _
          refine ⟨.unread fun _ hShort => ?_, rfl, rfl⟩
          exact (Version.parseTool_ne_error hShort e hParse).elim
      | ok parsed =>
        apply finds_still_bind rfl
        · rintro _ ⟨⟩
          cases parsed with
          | some version =>
            obtain ⟨major, minor, rfl, hAnnounces⟩ := Version.announces_of_parseTool hParse
            exact finds_pure ⟨.announced hFault hExit hAnnounces, rfl, rfl⟩
          | none =>
            refine finds_throw ⟨.unread fun _ hShort => ⟨rfl, fun _ major minor h => ?_⟩, rfl, rfl⟩
            rw [Version.parseTool_of_announces h hShort] at hParse
            cases hParse
        · rintro _ ⟨⟩
    · rw [if_neg hExit]
      exact finds_throw ⟨.unread fun _ _ => ⟨rfl, fun h => (hExit h).elim⟩, rfl, rfl⟩
  · intro f _ _ hRan
    cases hRan with
    | error hFault => exact ⟨.unread fun hNone => (hFault hNone).elim, rfl, rfl⟩

/-! ## Tools -/

theorem outcome_findDirectory (tool : SchemaTool) (w : Site) :
    (outcome tool.findDirectory w).2 = w := by
  unfold findDirectory
  split
  · rw [outcome_bind, outcome_get]
    dsimp only
    cases w.host.dumpOnPath <;> rfl
  · rfl

/-- What comes of looking for a tool: one that is known is not looked for, and one that is not where it
should be is not asked. -/
inductive Sought (tool : SchemaTool) (w : Site) (name : String) :
    Except Fault String → List Entry → List (String × String) → Prop
  | known {path : String} (hKnown : w.verifiedTools.lookup name = some path) :
      Sought tool w name (.ok path) [] []
  | missing {f : Fault} (hNew : w.verifiedTools.lookup name = none)
      (hMissing : ∀ directory, (outcome tool.findDirectory w).1 = .ok directory →
        w.host.tools.lookup (Path.join directory name) ≠ some true) :
      Sought tool w name (.error f) [] []
  | refused {directory : String} {r : Reply} {f : Fault}
      (hNew : w.verifiedTools.lookup name = none)
      (hPlace : (outcome tool.findDirectory w).1 = .ok directory)
      (hReply : answerTo w [Path.join directory name, "-V"] = r)
      (hRefused : r.fault = none → Version.Short r.stdout →
        f.kind = .init .toolVersion ∧ ¬ Vouches tool.serverVersion r) :
      Sought tool w name (.error f) [asked (Path.join directory name) r] []
  | verified {directory : String} {r : Reply} (hNew : w.verifiedTools.lookup name = none)
      (hPlace : (outcome tool.findDirectory w).1 = .ok directory)
      (hReply : answerTo w [Path.join directory name, "-V"] = r)
      (hVouches : Vouches tool.serverVersion r) :
      Sought tool w name (.ok (Path.join directory name)) [asked (Path.join directory name) r]
        [(name, Path.join directory name)]

/-- A tool that told its version is kept if the version suits the server. -/
theorem finds_judged (tool : SchemaTool) {v : Site} {name directory text : String} {r : Reply}
    {version : List Int} {f : Fault} (hNew : w.verifiedTools.lookup name = none)
    (hPlace : (outcome tool.findDirectory w).1 = .ok directory)
    (hReply : answerTo w [Path.join directory name, "-V"] = r) (hTold : Told r (.ok version))
    (hKind : f.kind = .init .toolVersion) :
    Finds
      (do
        if !Version.agrees version (Version.ofServer tool.serverVersion) then throw f
        log .debug text
        modify fun w =>
          { w with verifiedTools := w.verifiedTools ++ [(name, Path.join directory name)] }
        return Path.join directory name)
      v fun result did found =>
        Sought tool w name result ([asked (Path.join directory name) r] ++ did) ([] ++ found) := by
  obtain ⟨hFault, hExit, hVersion⟩ := hTold
  rename_i major minor
  by_cases hSuits : Version.Suits tool.serverVersion major minor
  · have hAgrees := Version.agrees_ofServer_iff.mpr hSuits
    rw [if_neg (by rw [hAgrees]; decide)]
    refine ⟨[], _, acts_record v _, rfl, ?_⟩
    exact .verified hNew hPlace hReply ⟨hFault, hExit, major, minor, hVersion, hSuits⟩
  · have hAgrees := mt Version.agrees_ofServer_iff.mp hSuits
    rw [if_pos (by rw [Bool.eq_false_iff.mpr hAgrees]; rfl)]
    apply finds_throw_bind
    refine .refused hNew hPlace hReply fun _ _ => ⟨hKind, fun hVouches => ?_⟩
    obtain ⟨major', minor', hVersion', hSuits'⟩ := hVouches.version
    obtain ⟨rfl, rfl⟩ := hVersion.unique hVersion'
    exact hSuits hSuits'

theorem finds_find (tool : SchemaTool) (name : String) :
    Finds (tool.find name) w (Sought tool w name) := by
  unfold find
  apply finds_get_bind
  cases hKnown : w.verifiedTools.lookup name with
  | some path => exact finds_pure (.known hKnown)
  | none =>
    apply finds_still_bind (outcome_findDirectory tool w)
    · intro directory hPlace
      apply finds_get_bind
      by_cases hTool : w.host.tools.lookup (Path.join directory name) = some true
      · rw [if_neg (not_not.mpr hTool)]
        apply finds_bind (finds_probe _)
        · rintro version _ _ v ⟨hTold, rfl, rfl⟩ -
          exact finds_judged tool hKnown hPlace rfl hTold rfl
        · rintro f _ _ ⟨hTold, rfl, rfl⟩
          exact .refused hKnown hPlace rfl (hTold.refusal tool.serverVersion)
      · rw [if_pos hTool]
        apply finds_throw_bind
        refine .missing hKnown fun directory' hPlace' => ?_
        rw [hPlace] at hPlace'
        cases hPlace'
        exact hTool
    · intro f hf
      refine .missing hKnown fun directory hPlace => ?_
      rw [hf] at hPlace
      cases hPlace

/-! ## Which tools are found -/

/-- A tool that is not known yet, can be run and answers is found just if the version in its answer
suits the server; if not, its version is complained of. -/
theorem find_ok_iff (tool : SchemaTool) (w : Site) {name directory : String} {r : Reply}
    (hNew : w.verifiedTools.lookup name = none)
    (hPlace : (outcome tool.findDirectory w).1 = .ok directory)
    (hTool : w.host.tools.lookup (Path.join directory name) = some true)
    (hReply : answerTo w [Path.join directory name, "-V"] = r) (hFault : r.fault = none)
    (hShort : Version.Short r.stdout) :
    ((outcome (tool.find name) w).1 = .ok (Path.join directory name) ↔
      r.exitCode = 0 ∧ ∃ major minor,
        Version.Announces r.stdout major minor ∧ Version.Suits tool.serverVersion major minor) ∧
      ((outcome (tool.find name) w).1 = .ok (Path.join directory name) ∨
        ∃ text, (outcome (tool.find name) w).1 = .error (.init .toolVersion text)) := by
  obtain ⟨did, found, -, -, hSought⟩ := finds_find (w := w) tool name
  generalize (outcome (tool.find name) w).1 = result at hSought
  cases hSought with
  | known hKnown =>
    rw [hNew] at hKnown
    cases hKnown
  | missing _ hMissing => exact (hMissing directory hPlace hTool).elim
  | @refused directory' r' f _ hPlace' hReply' hRefused =>
    rw [hPlace] at hPlace'
    cases hPlace'
    obtain rfl : r = r' := hReply.symm.trans hReply'
    obtain ⟨hKind, hNot⟩ := hRefused hFault hShort
    refine ⟨iff_of_false (fun h => by cases h) ?_, .inr ⟨f.text, ?_⟩⟩
    · rintro ⟨hExit, hVersion⟩
      exact hNot ⟨hFault, hExit, hVersion⟩
    · obtain ⟨kind, text⟩ := f
      cases hKind
      rfl
  | @verified directory' r' _ hPlace' hReply' hVouches =>
    rw [hPlace] at hPlace'
    cases hPlace'
    obtain rfl : r = r' := hReply.symm.trans hReply'
    exact ⟨iff_of_true rfl ⟨hVouches.exitCode, hVouches.version⟩, .inl rfl⟩

/-- The directory is that of a link on the search path, and more follows the numbers of the version. -/
theorem find_restore_sixteen :
    let tool : SchemaTool := { serverVersion := 160002 }
    let r : Reply := { stdout := " pg_restore (PostgreSQL)\t16.4-1 Debian\n" }
    let w : Site :=
      { host :=
          { tools := [("/lib/pg/bin/pg_restore", true)]
            dumpOnPath := some "/bin/pg_dump"
            links := [("/bin/pg_dump", "/lib/pg/bin/pg_dump")] }
        commands := [{ pattern := "-V", replies := .standing r }] }
    w.verifiedTools.lookup restoreName = none ∧
      (outcome tool.findDirectory w).1 = .ok "/lib/pg/bin" ∧
      w.host.tools.lookup (Path.join "/lib/pg/bin" restoreName) = some true ∧
      answerTo w [Path.join "/lib/pg/bin" restoreName, "-V"] = r ∧ r.fault = none ∧
      Version.Short r.stdout ∧
      (outcome (tool.find restoreName) w).1 = .ok (Path.join "/lib/pg/bin" restoreName) := by
  intro tool r w
  have hNew : w.verifiedTools.lookup restoreName = none := rfl
  have hPlace : (outcome tool.findDirectory w).1 = .ok "/lib/pg/bin" := by decide +kernel
  have hTool : w.host.tools.lookup (Path.join "/lib/pg/bin" restoreName) = some true := rfl
  have hRule : Text.contains (" ".intercalate [Path.join "/lib/pg/bin" restoreName, "-V"]) "-V" := by
    decide +kernel
  have hReply : answerTo w [Path.join "/lib/pg/bin" restoreName, "-V"] = r := by
    unfold answerTo Script.answer
    rw [if_pos hRule]
  have hShort : Version.Short r.stdout := fun run hRun _ => hRun.length_le.trans (by decide +kernel)
  have hRelease : Number.IsDecimal ['1', '6'] := ⟨List.cons_ne_nil _ _, List.all_eq_true.mp (by decide)⟩
  have hPatch : Number.IsDecimal ['4'] := ⟨List.cons_ne_nil _ _, List.all_eq_true.mp (by decide)⟩
  have hWord : Version.Dotted ['1', '6'] ['4'] "16.4-1".toList :=
    .mk hRelease hPatch fun c hc => by
      cases hc
      decide
  have hAnnounces : Version.Announces r.stdout 16 4 :=
    ⟨['1', '6'], ['4'], ⟨"16.4-1".toList, by decide +kernel, hWord⟩, rfl, rfl⟩
  have hSuits : Version.Suits tool.serverVersion 16 4 :=
    @Version.Suits.modern _ 16 2 4 (by decide) (by decide) rfl
  have hFound := (find_ok_iff tool w hNew hPlace hTool hReply rfl hShort).1.mpr
    ⟨rfl, 16, 4, hAnnounces, hSuits⟩
  exact ⟨hNew, hPlace, hTool, hReply, rfl, hShort, hFound⟩

end SchemaTool

end ReplicaBootstrap
