import ReplicaBootstrap.Proofs.Conninfo.Unread
import ReplicaBootstrap.Proofs.Connections.Use
import ReplicaBootstrap.Proofs.Session.Refusal
import ReplicaBootstrap.Tool.Schema

/-! # Secrecy of passwords

Two runs that differ in a password only, and are told the same by servers and commands, log the same
and end the same, unless a password that is no text is complained of. The runs go in step: their sites
may differ in the scripts and in what was asked, but neither in what was told nor in what was logged.
-/

namespace ReplicaBootstrap

open ReplicaBootstrap.Action

/-! ## What is told and logged -/

def Event.isProbe : Event → Bool
  | .run [_, "-V"] => true
  | _ => false

/-- What of a reply the program takes notice of while it connects and runs commands. -/
structure Notice where
  signal : Option Int
  fault : Option Fault
  exitCode : Int
  stderr : String
  /-- the output of a command that is asked for its version -/
  version : Option String
  deriving DecidableEq

def Reply.notice (probe : Bool) (r : Reply) : Notice where
  signal := r.signal
  fault := r.fault
  exitCode := r.exitCode
  stderr := r.stderr
  version := if probe then some r.stdout else none

def Entry.notice? : Entry → Option Notice
  | .exchange e r => some (r.notice e.isProbe)
  | _ => none

def Entry.log? : Entry → Option LogRecord
  | .event (.log record) => some record
  | _ => none

namespace Site

def notices (w : Site) : List Notice := w.journal.toList.filterMap Entry.notice?

def logs (w : Site) : List LogRecord := w.journal.toList.filterMap Entry.log?

theorem notices_record (w : Site) (x : Entry) : (w.record x).notices = w.notices ++ x.notice?.toList := by
  rw [notices, journal_record, List.filterMap_append]
  cases h : x.notice? <;> simp [notices, h]

theorem logs_record (w : Site) (x : Entry) : (w.record x).logs = w.logs ++ x.log?.toList := by
  rw [logs, journal_record, List.filterMap_append]
  cases h : x.log? <;> simp [logs, h]

/-- Two sites between which the program cannot tell. -/
structure Twin (w w' : Site) : Prop where
  host : w.host = w'.host
  verifiedTools : w.verifiedTools = w'.verifiedTools
  interrupts : w.interrupts = w'.interrupts
  notices : w.notices = w'.notices
  logs : w.logs = w'.logs

variable {w w' v v' : Site}

theorem Twin.refl (w : Site) : Twin w w := ⟨rfl, rfl, rfl, rfl, rfl⟩

theorem Twin.symm (h : Twin w w') : Twin w' w :=
  ⟨h.host.symm, h.verifiedTools.symm, h.interrupts.symm, h.notices.symm, h.logs.symm⟩

theorem Twin.record (h : Twin w w') {x x' : Entry} (hTold : x.notice? = x'.notice?)
    (hLog : x.log? = x'.log?) : Twin (w.record x) (w'.record x') where
  host := h.host
  verifiedTools := h.verifiedTools
  interrupts := h.interrupts
  notices := by rw [notices_record, notices_record, h.notices, hTold]
  logs := by rw [logs_record, logs_record, h.logs, hLog]

def Compatible (w w' : Site) : Prop := w.notices <+: w'.notices ∨ w'.notices <+: w.notices

theorem Compatible.earlier (h : Compatible w w') (hw : v.notices <+: w.notices)
    (hw' : v'.notices <+: w'.notices) : Compatible v v' := by
  rcases h with h | h
  · exact List.prefix_or_prefix_of_prefix (hw.trans h) hw'
  · exact List.prefix_or_prefix_of_prefix hw (hw'.trans h)

end Site

open Site

/-! ## Actions in step -/

/-- Two actions that keep step while they are told the same; `seen` is what counts of their answers. -/
structure InStep {α γ : Type} (seen : α → γ) (x x' : Action Site α) : Prop where
  grows : ∀ w, w.notices <+: (outcome x w).2.notices
  grows' : ∀ w, w.notices <+: (outcome x' w).2.notices
  same : ∀ w w', Twin w w' → Compatible (outcome x w).2 (outcome x' w').2 →
    (outcome x w).1.map seen = (outcome x' w').1.map seen ∧
      Twin (outcome x w).2 (outcome x' w').2

section

variable {α β γ δ : Type} {seen : α → γ} {seen' : β → δ} {x x' : Action Site α}

theorem inStep_pure {a a' : α} (h : seen a = seen a') :
    InStep seen (pure a : Action Site α) (pure a') where
  grows _ := List.prefix_rfl
  grows' _ := List.prefix_rfl
  same _ _ hTwin _ := ⟨congrArg Except.ok h, hTwin⟩

theorem inStep_throw (f : Fault) : InStep seen (throw f : Action Site α) (throw f) where
  grows _ := List.prefix_rfl
  grows' _ := List.prefix_rfl
  same _ _ hTwin _ := ⟨rfl, hTwin⟩

theorem inStep_ofExcept (r : Except Fault α) :
    InStep id (Action.ofExcept r : Action Site α) (Action.ofExcept r) where
  grows _ := List.prefix_rfl
  grows' _ := List.prefix_rfl
  same _ _ hTwin _ := ⟨rfl, hTwin⟩

/-- Two actions go on in step if they do so after all answers that they get. -/
theorem InStep.same_bind {k k' : α → Action Site β} {w w' : Site} (hx : InStep seen x x')
    (hGrows : ∀ a v, v.notices <+: (outcome (k a) v).2.notices)
    (hGrows' : ∀ a v, v.notices <+: (outcome (k' a) v).2.notices)
    (hk : ∀ a a', (outcome x w).1 = .ok a → (outcome x' w').1 = .ok a' → seen a = seen a' →
      InStep seen' (k a) (k' a'))
    (hTwin : Twin w w')
    (hTold : Compatible (outcome (x >>= k) w).2 (outcome (x' >>= k') w').2) :
    (outcome (x >>= k) w).1.map seen' = (outcome (x' >>= k') w').1.map seen' ∧
      Twin (outcome (x >>= k) w).2 (outcome (x' >>= k') w').2 := by
  have hSame := hx.same w w' hTwin
  rw [outcome_bind, outcome_bind] at hTold ⊢
  rcases hOutcome : outcome x w with ⟨r, v⟩
  rcases hOutcome' : outcome x' w' with ⟨r', v'⟩
  rw [hOutcome, hOutcome'] at hSame hTold hk
  have hFirst : Compatible v v' := by
    cases r <;> cases r' <;> dsimp only at hTold
    · exact hTold
    · exact hTold.earlier List.prefix_rfl (hGrows' _ _)
    · exact hTold.earlier (hGrows _ _) List.prefix_rfl
    · exact hTold.earlier (hGrows _ _) (hGrows' _ _)
  obtain ⟨hResult, hTwin⟩ := hSame hFirst
  cases r with
  | error f =>
    cases r' with
    | error f' =>
      cases hResult
      exact ⟨rfl, hTwin⟩
    | ok a' => cases hResult
  | ok a =>
    cases r' with
    | error f' => cases hResult
    | ok a' => exact (hk a a' rfl rfl (Except.ok.inj hResult)).same v v' hTwin hTold

theorem grows_bind {k : α → Action Site β}
    (hx : ∀ w, w.notices <+: (outcome x w).2.notices)
    (hk : ∀ a w, w.notices <+: (outcome (k a) w).2.notices) (w : Site) :
    w.notices <+: (outcome (x >>= k) w).2.notices := by
  have hFirst := hx w
  rw [outcome_bind]
  rcases hOutcome : outcome x w with ⟨f | a, v⟩
  · rwa [hOutcome] at hFirst
  · rw [hOutcome] at hFirst
    exact hFirst.trans (hk a v)

theorem inStep_bind {k k' : α → Action Site β} (hx : InStep seen x x')
    (hk : ∀ a a', seen a = seen a' → InStep seen' (k a) (k' a')) :
    InStep seen' (x >>= k) (x' >>= k') where
  grows := grows_bind hx.grows fun a => (hk a a rfl).grows
  grows' := grows_bind hx.grows' fun a => (hk a a rfl).grows'
  same _ _ := hx.same_bind (fun a => (hk a a rfl).grows) (fun a => (hk a a rfl).grows')
    fun a a' _ _ => hk a a'

theorem inStep_attempt (hx : InStep seen x x') :
    InStep (Except.map seen) (attempt x) (attempt x') where
  grows := hx.grows
  grows' := hx.grows'
  same w w' hTwin hTold := by
    obtain ⟨hResult, hTwin⟩ := hx.same w w' hTwin hTold
    exact ⟨congrArg Except.ok hResult, hTwin⟩

theorem inStep_get_bind {k k' : Site → Action Site α}
    (hk : ∀ w w', Twin w w' → InStep seen (k w) (k' w')) :
    InStep seen (get >>= k) (get >>= k') where
  grows w := (hk w w (.refl w)).grows w
  grows' w := (hk w w (.refl w)).grows' w
  same w w' hTwin := (hk w w' hTwin).same w w' hTwin

theorem inStep_modify {f : Site → Site} (hNotices : ∀ w, (f w).notices = w.notices)
    (h : ∀ w w', Twin w w' → Twin (f w) (f w')) :
    InStep id (modify f : Action Site PUnit) (modify f) where
  grows w := (hNotices w).symm ▸ List.prefix_rfl
  grows' w := (hNotices w).symm ▸ List.prefix_rfl
  same w w' hTwin _ := ⟨rfl, h w w' hTwin⟩

theorem inStep_emit (e : Event) : InStep id (emit e) (emit e) :=
  inStep_modify (fun w => by simp [notices_record, Entry.notice?]) fun _ _ h => h.record rfl rfl

theorem inStep_log (level : Level) (text : String) : InStep id (log level text) (log level text) :=
  inStep_emit _

theorem inStep_deliver (number : Int) : InStep id (deliver number) (deliver number) := by
  unfold deliver
  apply inStep_bind (inStep_emit _)
  intro _ _ _
  apply inStep_get_bind
  intro w w' hTwin
  rw [hTwin.interrupts]
  dsimp only
  split
  · apply inStep_bind (inStep_log _ _)
    intro _ _ _
    refine inStep_modify (fun _ => rfl) fun w w' h => ?_
    exact ⟨h.host, h.verifiedTools, rfl, h.notices, h.logs⟩
  · exact inStep_pure rfl

theorem inStep_resolve {probe : Bool} {r r' : Reply} (h : r.notice probe = r'.notice probe) :
    InStep (Reply.notice probe) (resolve r) (resolve r') := by
  have hSignal : r.signal = r'.signal := congrArg Notice.signal h
  have hFault : r.fault = r'.fault := congrArg Notice.fault h
  unfold resolve
  rw [hSignal, hFault]
  cases r'.fault with
  | none =>
    cases r'.signal with
    | none => exact inStep_pure h
    | some number => exact inStep_bind (inStep_deliver number) fun _ _ _ => inStep_pure h
  | some f =>
    cases r'.signal with
    | none => exact inStep_throw f
    | some number => exact inStep_bind (inStep_deliver number) fun _ _ _ => inStep_throw f

theorem grows_resolve (r : Reply) (w : Site) : w.notices <+: (outcome (resolve r) w).2.notices :=
  (inStep_resolve (rfl : r.notice true = r.notice true)).grows w

def Asks (e : Event) (x : Action Site Reply) : Prop :=
  ∀ w, ∃ r v, outcome x w = outcome (resolve r) v ∧ v.journal = (w.record (.exchange e r)).journal ∧
    v.host = w.host ∧ v.verifiedTools = w.verifiedTools ∧ v.interrupts = w.interrupts

theorem asks_request (conn : Nat) (e : Event) (text : String) : Asks e (request conn e text) :=
  fun _ => ⟨_, _, rfl, rfl, rfl, rfl, rfl⟩

theorem asks_runCommand (command : List String) :
    Asks (.run command) (SchemaTool.runCommand command) :=
  fun _ => ⟨_, _, rfl, rfl, rfl, rfl, rfl⟩

theorem Asks.grows {e : Event} {x : Action Site Reply} (h : Asks e x) (w : Site) :
    w.notices <+: (outcome x w).2.notices := by
  obtain ⟨r, v, hOutcome, hJournal, -⟩ := h w
  have hTold : v.notices = w.notices ++ [r.notice e.isProbe] := by
    rw [notices, hJournal]
    exact notices_record w _
  rw [hOutcome]
  exact (hTold ▸ List.prefix_append ..).trans (grows_resolve r v)

theorem inStep_asks {e e' : Event} {x x' : Action Site Reply} (hx : Asks e x) (hx' : Asks e' x')
    (hProbe : e.isProbe = e'.isProbe) : InStep (Reply.notice e.isProbe) x x' where
  grows := hx.grows
  grows' := hx'.grows
  same w w' hTwin hTold := by
    obtain ⟨r, v, hOutcome, hJournal, hHost, hTools, hInterrupts⟩ := hx w
    obtain ⟨r', v', hOutcome', hJournal', hHost', hTools', hInterrupts'⟩ := hx' w'
    have hv : v.notices = w.notices ++ [r.notice e.isProbe] := by
      rw [notices, hJournal]
      exact notices_record w _
    have hv' : v'.notices = w'.notices ++ [r'.notice e'.isProbe] := by
      rw [notices, hJournal']
      exact notices_record w' _
    rw [hOutcome, hOutcome'] at hTold ⊢
    -- the replies stand at the same place of what is told in the end
    have hReply : r.notice e.isProbe = r'.notice e.isProbe := by
      have hFirst := hTold.earlier (grows_resolve r v)
        (grows_resolve r' v')
      rw [Compatible, hv, hv', hTwin.notices, List.prefix_append_right_inj,
        List.prefix_append_right_inj, hProbe] at hFirst
      rw [hProbe]
      rcases hFirst with hFirst | hFirst
      · simpa using hFirst
      · simpa [eq_comm] using hFirst
    have hSaid : Twin (w.record (.exchange e r)) (w'.record (.exchange e' r')) :=
      hTwin.record (by rw [Entry.notice?, Entry.notice?, ← hProbe, hReply]) rfl
    refine (inStep_resolve hReply).same v v' ?_ hTold
    exact ⟨hHost.trans (hTwin.host.trans hHost'.symm),
      hTools.trans (hTwin.verifiedTools.trans hTools'.symm),
      hInterrupts.trans (hTwin.interrupts.trans hInterrupts'.symm),
      by rw [notices, notices, hJournal, hJournal']; exact hSaid.notices,
      by rw [logs, logs, hJournal, hJournal']; exact hSaid.logs⟩

end

/-! ## Tools -/

namespace SchemaTool

variable {α γ : Type} {seen : α → γ} {dsn dsn' : String}

theorem inStep_onSystemFault {x x' : Action Site α} (hx : InStep seen x x')
    (explain : Fault → Fault) :
    InStep seen (onSystemFault x explain) (onSystemFault x' explain) := by
  apply inStep_bind (inStep_attempt hx)
  rintro (f | a) (f' | a') hSame
  · cases hSame
    exact inStep_throw _
  · cases hSame
  · cases hSame
  · exact inStep_pure (Except.ok.inj hSame)

theorem inStep_findDirectory (tool : SchemaTool) :
    InStep id tool.findDirectory tool.findDirectory := by
  unfold findDirectory
  split
  · apply inStep_get_bind
    intro w w' hTwin
    rw [hTwin.host]
    dsimp only
    split
    · exact inStep_throw _
    · exact inStep_pure rfl
  · exact inStep_pure rfl

theorem inStep_probe (path : String) : InStep id (probe path) (probe path) := by
  have hAsks := inStep_asks (asks_runCommand [path, "-V"]) (asks_runCommand [path, "-V"]) rfl
  unfold probe
  apply inStep_bind (inStep_onSystemFault hAsks _)
  intro r r' hNotice
  have hCode : r.exitCode = r'.exitCode := congrArg Notice.exitCode hNotice
  have hOutput : r.stdout = r'.stdout := Option.some.inj (congrArg Notice.version hNotice)
  rw [hCode, hOutput]
  dsimp only
  split
  · apply inStep_bind (inStep_ofExcept _)
    rintro (_ | version) _ rfl
    · exact inStep_throw _
    · exact inStep_pure rfl
  · apply inStep_bind (inStep_pure rfl : InStep id (pure none) (pure none))
    rintro (_ | version) _ rfl
    · exact inStep_throw _
    · exact inStep_pure rfl

theorem inStep_find (tool : SchemaTool) (name : String) :
    InStep id (tool.find name) (tool.find name) := by
  unfold find
  apply inStep_get_bind
  intro w w' hTwin
  rw [hTwin.verifiedTools]
  split
  · exact inStep_pure rfl
  apply inStep_bind (inStep_findDirectory tool)
  rintro directory _ rfl
  apply inStep_get_bind
  intro w w' hTwin
  rw [hTwin.host]
  dsimp only [id]
  split
  · exact inStep_throw _
  apply inStep_bind (inStep_probe _)
  rintro version _ rfl
  dsimp only [id]
  split
  · exact inStep_throw _
  apply inStep_bind (inStep_log _ _)
  intro _ _ _
  refine inStep_bind (inStep_modify (fun _ => rfl) fun w w' hTwin => ?_) fun _ _ _ => inStep_pure rfl
  exact ⟨hTwin.host, by rw [hTwin.verifiedTools], hTwin.interrupts, hTwin.notices, hTwin.logs⟩

/-- A command with a connection string among its arguments is shown with that string masked. -/
theorem shown_eq {before after : List String} (hBefore : dsn ∉ before) (hAfter : dsn ∉ after) :
    ((before ++ dsn :: after).mapM fun argument =>
      if (Value.text dsn).text? = some argument then Conninfo.mask argument else .ok argument) =
        (Conninfo.mask dsn).map fun shown => before ++ shown :: after := by
  have hOthers {arguments : List String} (h : dsn ∉ arguments) :
      (arguments.mapM fun argument =>
        if (Value.text dsn).text? = some argument then Conninfo.mask argument else .ok argument) =
          (.ok arguments : Except Fault (List String)) := by
    induction arguments with
    | nil => rfl
    | cons a rest ih =>
      rw [List.mem_cons, not_or] at h
      have hOther : (Value.text dsn).text? ≠ some a := fun h' => h.1 (Option.some.inj h')
      rw [List.mapM_cons, if_neg hOther, ih h.2]
      rfl
  have hSame : (Value.text dsn).text? = some dsn := rfl
  rw [List.mapM_append, List.mapM_cons, hOthers hBefore, hOthers hAfter, if_pos hSame]
  cases Conninfo.mask dsn <;> rfl

theorem inStep_run (before after : List String) (hMask : Conninfo.mask dsn = Conninfo.mask dsn')
    (hBefore : dsn ∉ before) (hAfter : dsn ∉ after) (hBefore' : dsn' ∉ before)
    (hAfter' : dsn' ∉ after)
    (hProbe : (Event.run (before ++ dsn :: after)).isProbe = false)
    (hProbe' : (Event.run (before ++ dsn' :: after)).isProbe = false) :
    InStep id (run (before ++ dsn :: after) (.text dsn))
      (run (before ++ dsn' :: after) (.text dsn')) := by
  unfold run
  rw [shown_eq hBefore hAfter, shown_eq hBefore' hAfter', hMask]
  apply inStep_bind (inStep_ofExcept _)
  rintro arguments _ rfl
  apply inStep_bind (inStep_log _ _)
  intro _ _ _
  have hAsks := inStep_asks (asks_runCommand (before ++ dsn :: after))
    (asks_runCommand (before ++ dsn' :: after)) (hProbe.trans hProbe'.symm)
  apply inStep_bind (inStep_onSystemFault hAsks _)
  intro r r' hNotice
  have hCode : r.exitCode = r'.exitCode := congrArg Notice.exitCode hNotice
  have hErrors : r.stderr = r'.stderr := congrArg Notice.stderr hNotice
  rw [hCode, hErrors]
  split
  · exact inStep_throw _
  · exact inStep_pure rfl

end SchemaTool

/-! ## Connections -/

namespace Session

theorem inStep_newNumber :
    InStep (fun _ => ())
      (modifyGet fun w => (w.connections, { w with connections := w.connections + 1 }) :
        Action Site Nat)
      (modifyGet fun w => (w.connections, { w with connections := w.connections + 1 })) where
  grows _ := List.prefix_rfl
  grows' _ := List.prefix_rfl
  same _ _ h _ := ⟨rfl, h.host, h.verifiedTools, h.interrupts, h.notices, h.logs⟩

theorem inStep_connectTo (conninfo conninfo' : String) :
    InStep (fun _ => ()) (connectTo conninfo) (connectTo conninfo') := by
  unfold connectTo
  apply inStep_bind inStep_newNumber
  intro conn conn' _
  have hAsks := inStep_asks (asks_request conn (.connect conn conninfo true) "<connect>")
    (asks_request conn' (.connect conn' conninfo' true) "<connect>") rfl
  apply inStep_bind hAsks
  exact fun _ _ _ => inStep_pure rfl

theorem inStep_connect {dsn dsn' : String} (h : Conninfo.ReadAlike dsn dsn') (purpose : Purpose)
    (application : String) :
    InStep (fun _ => ()) (connect purpose (.text dsn) application)
      (connect purpose (.text dsn') application) := by
  have hOther : ∀ kv ∈ purpose.params application, kv.1 ≠ "password" := by
    cases purpose with
    | queries => simp [Purpose.params]
    | replication => simp [Purpose.params]
  unfold connect
  obtain @⟨ps, ps', hParse, hParse', hAlike⟩ | @⟨e, e', hParse, hParse', hWords⟩ := h
  case unread =>
    rw [Conninfo.extend_unread hParse, Conninfo.extend_unread hParse', hWords]
    exact inStep_throw _
  rcases Conninfo.extend_alike (known_params purpose application) hOther hParse hParse' hAlike with
    ⟨f, hExtend, hExtend'⟩ | ⟨conninfo, conninfo', shown, hExtend, hExtend', hMask, hMask'⟩
  · rw [hExtend, hExtend']
    exact inStep_throw f
  have hGo (c : String) (k : String → Action Site Nat) : (Action.ofExcept (.ok c) >>= k) = k c := rfl
  rw [hExtend, hExtend', hGo, hGo]
  apply inStep_bind (inStep_attempt (inStep_connectTo conninfo conninfo'))
  rintro (f | conn) (f' | conn') hSame
  · cases hSame
    dsimp only
    rw [hMask, hMask']
    split
    · apply inStep_bind (inStep_log _ _)
      intro _ _ _
      exact inStep_throw _
    · exact inStep_throw f
  · cases hSame
  · cases hSame
  · exact inStep_pure rfl

end Session

/-! ## Errands -/

inductive Errand where
  | connect (purpose : Session.Purpose) (application : String)
  | dump (tool : SchemaTool) (snapshot : Value) (archive : String)
  | restore (tool : SchemaTool) (part archive : String)

namespace Errand

open SchemaTool

def run (dsn : String) : Errand → Action Site Unit
  | connect purpose application => do let _ ← Session.connect purpose (.text dsn) application
  | dump tool snapshot archive => tool.dump snapshot archive (.text dsn)
  | restore tool part archive => tool.restore part archive (.text dsn)

/-- No other argument of the command that is run on a site equals the connection string. -/
def Clear (w : Site) (dsn : String) : Errand → Prop
  | connect _ _ => True
  | dump tool snapshot archive =>
    ∀ path, (outcome (tool.find dumpName) w).1 = .ok path →
      dsn ∉ [path, s!"--snapshot={snapshot.plain}", "-F", "c", "-f", archive]
  | restore tool part archive =>
    ∀ path, (outcome (tool.find restoreName) w).1 = .ok path →
      dsn ∉ [path, s!"--section={part}", "--exit-on-error", "-1", "-d", archive]

theorem grows_run (command : List String) (dsn : Value) (w : Site) :
    w.notices <+: (outcome (SchemaTool.run command dsn) w).2.notices := by
  have hLasting : Lasting ∅ fun v => w.notices <+: v.notices := by
    constructor
    · intro v x _ h
      exact h.trans (notices_record v x ▸ List.prefix_append ..)
    · intro v v' hJournal _ h
      rw [notices, notices, hJournal]
      exact h
  exact (uses_run hLasting command dsn).reaches List.prefix_rfl

theorem run_restore (dsn : String) (tool : SchemaTool) (part archive : String) :
    run dsn (restore tool part archive) =
      if sections.contains part then
        tool.find restoreName >>= fun path =>
          SchemaTool.run [path, s!"--section={part}", "--exit-on-error", "-1", "-d", dsn, archive]
            (.text dsn)
      else throw (.host .badValue s!"unknown restore section {part}") := by
  change SchemaTool.restore tool part archive (.text dsn) = _
  rw [SchemaTool.restore]
  cases sections.contains part <;> rfl

theorem map_id (r : Except Fault Unit) : r.map id = r := by
  cases r <;> rfl

theorem runs_alike (e : Errand) {dsn dsn' : String} (hRead : Conninfo.ReadAlike dsn dsn')
    {w w' : Site} (hTwin : Twin w w') (hClear : e.Clear w dsn) (hClear' : e.Clear w' dsn')
    (hTold : Compatible (outcome (e.run dsn) w).2 (outcome (e.run dsn') w').2) :
    (outcome (e.run dsn) w).1 = (outcome (e.run dsn') w').1 ∧
      (outcome (e.run dsn) w).2.logs = (outcome (e.run dsn') w').2.logs := by
  have hMask := hRead.mask_eq
  suffices h : (outcome (e.run dsn) w).1.map id = (outcome (e.run dsn') w').1.map id ∧
      Twin (outcome (e.run dsn) w).2 (outcome (e.run dsn') w').2 by
    rw [map_id, map_id] at h
    exact ⟨h.1, h.2.logs⟩
  cases e with
  | connect purpose application =>
    have hConnect := Session.inStep_connect hRead purpose application
    exact (inStep_bind hConnect fun _ _ _ => inStep_pure rfl).same w w' hTwin hTold
  | dump tool snapshot archive =>
    apply (inStep_find tool dumpName).same_bind (fun _ => grows_run _ _) (fun _ => grows_run _ _) _
      hTwin hTold
    rintro path _ hFound hFound' rfl
    have hArguments := hClear path hFound
    have hArguments' := hClear' path hFound'
    exact inStep_run [path, _, "-F", "c", "-f", archive] [] hMask
      hArguments List.not_mem_nil hArguments' List.not_mem_nil rfl rfl
  | restore tool part archive =>
    rw [run_restore, run_restore] at hTold ⊢
    by_cases hPart : sections.contains part = true
    · rw [if_pos hPart, if_pos hPart] at hTold ⊢
      apply (inStep_find tool restoreName).same_bind (fun _ => grows_run _ _)
        (fun _ => grows_run _ _) _ hTwin hTold
      rintro path _ hFound hFound' rfl
      have hSplit {dsn : String} (h : dsn ∉ [path, _, "--exit-on-error", "-1", "-d", archive]) :
          dsn ∉ [path, s!"--section={part}", "--exit-on-error", "-1", "-d"] ∧ dsn ∉ [archive] :=
        ⟨fun hMem => h (List.mem_append_left [archive] hMem),
          fun hMem => h (List.mem_append_right [path, _, "--exit-on-error", "-1", "-d"] hMem)⟩
      obtain ⟨hBefore, hAfter⟩ := hSplit (hClear path hFound)
      obtain ⟨hBefore', hAfter'⟩ := hSplit (hClear' path hFound')
      exact inStep_run [path, _, "--exit-on-error", "-1", "-d"] [archive]
        hMask hBefore hAfter hBefore' hAfter' rfl rfl
    · rw [if_neg hPart, if_neg hPart]
      exact ⟨rfl, hTwin⟩

/-- Errands for two strings, at sites between which nothing can be told apart, end alike and are logged
alike if servers and commands tell them the same. -/
def EndAlike (dsn dsn' : String) : Prop :=
  ∀ (e : Errand) (w w' : Site), Twin w w' → e.Clear w dsn → e.Clear w' dsn' →
    Compatible (outcome (e.run dsn) w).2 (outcome (e.run dsn') w').2 →
      (outcome (e.run dsn) w).1 = (outcome (e.run dsn') w').1 ∧
        (outcome (e.run dsn) w).2.logs = (outcome (e.run dsn') w').2.logs

section

variable {dsn dsn' : String} {x : Text.Utf8Error}

theorem EndAlike.symm (h : EndAlike dsn dsn') : EndAlike dsn' dsn := by
  intro e w w' hTwin hClear hClear' hTold
  obtain ⟨hResult, hLogs⟩ := h e w' w hTwin.symm hClear' hClear hTold.symm
  exact ⟨hResult.symm, hLogs.symm⟩

theorem outcome_connect_unread (h : Conninfo.parse dsn = .error (.notText x)) (w : Site) :
    outcome (run dsn (connect .queries "setup")) w =
      (.error (.host .badEncoding (Conninfo.utf8Message x)), w) := by
  change outcome (Session.connect .queries (.text dsn) "setup" >>= fun _ => pure ()) w = _
  rw [Session.connect, Conninfo.extend_unread h]
  rfl

theorem kind_of_connect_read {ps : Conninfo.Params} {f : Fault} (h : Conninfo.parse dsn = .ok ps)
    (hFails : (outcome (run dsn (connect .queries "setup")) Session.closed).1 = .error f) :
    f.kind = .init .connection := by
  have hLegible : Session.Legible dsn "setup" :=
    ⟨.inr ⟨ps, h⟩, fun hNul => absurd hNul (by decide)⟩
  have hConnect : Meets (fun w => Copy.Tolerable (Session.connectReply w))
      (run dsn (connect .queries "setup")) (fun _ _ => True) (fun f _ => f.kind = .init .connection) :=
    meets_bind (Session.meets_connect_legible hLegible) fun _ => meets_pure fun _ _ => trivial
  exact hConnect.of_error Session.tolerable_closed hFails

/-- What is said of a value that is no text is all that can be told apart. -/
theorem EndAlike.unread (hEnd : EndAlike dsn dsn') {es' : List Conninfo.Entry}
    (hEntries' : Conninfo.entries dsn' = .ok es') (h : Conninfo.parse dsn = .error (.notText x)) :
    Conninfo.complaint? (Conninfo.latest es') = some (Conninfo.utf8Message x) := by
  have hRun := outcome_connect_unread h Session.closed
  have hSame := hEnd (connect .queries "setup") Session.closed Session.closed (.refl _) trivial trivial
    (.inl (hRun ▸ List.nil_prefix))
  rw [hRun] at hSame
  rcases Conninfo.parse_or hEntries' with ⟨x', hSome, hParse'⟩ | ⟨-, ps, hParse'⟩
  · rw [outcome_connect_unread hParse'] at hSame
    have hWords : Conninfo.utf8Message x = Conninfo.utf8Message x' :=
      congrArg Fault.text (Except.error.inj hSame.1)
    rw [hSome, hWords]
  · cases kind_of_connect_read hParse' hSame.1.symm

end

/-- Strings that differ in their passwords only make errands end alike just if the same is said of the
first values in them that are no texts, if there are any. So they do if the passwords are texts. -/
theorem ends_alike_iff {dsn dsn' : String} {es es' : List Conninfo.Entry}
    (hEntries : Conninfo.entries dsn = .ok es) (hEntries' : Conninfo.entries dsn' = .ok es')
    (hAlike : Conninfo.AlikeEntries (Conninfo.latest es) (Conninfo.latest es')) :
    (EndAlike dsn dsn' ↔
        Conninfo.complaint? (Conninfo.latest es) = Conninfo.complaint? (Conninfo.latest es')) ∧
      (Conninfo.Worded (Conninfo.latest es) → Conninfo.Worded (Conninfo.latest es') →
        EndAlike dsn dsn') := by
  have hEnd (h : Conninfo.complaint? (Conninfo.latest es) =
      Conninfo.complaint? (Conninfo.latest es')) : EndAlike dsn dsn' := fun e w w' =>
    e.runs_alike (Conninfo.readAlike_of_complaint? hEntries hEntries' hAlike h)
  refine ⟨⟨fun h => ?_, hEnd⟩, fun hWorded hWorded' => hEnd (hAlike.complaint?_eq hWorded hWorded')⟩
  rcases Conninfo.parse_or hEntries with ⟨x, hSome, hParse⟩ | ⟨hNone, -⟩
  · rw [hSome, h.unread hEntries' hParse]
  · rcases Conninfo.parse_or hEntries' with ⟨x', -, hParse'⟩ | ⟨hNone', -⟩
    · have hSome := h.symm.unread hEntries hParse'
      rw [hNone] at hSome
      cases hSome
    · rw [hNone, hNone']

def failingDump : Site where
  host := { tools := [("/bin/pg_dump", true)] }
  commands := [
    { pattern := "-V", replies := .standing { stdout := "pg_dump (PostgreSQL) 16.2\n" } },
    { replies := .standing { exitCode := 1, stderr := "no route to host" } }]

def archiving : Errand := .dump { serverVersion := 160004, directory := "/bin" } "1-1" "schema.dump"

def threeEntries (password : Except Text.Utf8Error String) : List Conninfo.Entry :=
  [("user", .ok "u"), ("password", password), ("host", .ok "a")]

theorem alikeEntries_three (password password' : Except Text.Utf8Error String) :
    Conninfo.AlikeEntries (threeEntries password) (threeEntries password') :=
  .cons ⟨rfl, fun _ => rfl⟩ (.cons ⟨rfl, fun h => absurd rfl h⟩ (.cons ⟨rfl, fun _ => rfl⟩ .nil))

theorem worded_three (text : String) : Conninfo.Worded (threeEntries (.ok text)) := by
  intro e he _
  simp only [threeEntries, List.mem_cons, List.not_mem_nil, or_false] at he
  rcases he with rfl | rfl | rfl <;> exact ⟨_, rfl⟩

theorem ends_alike_failing :
    ∃ es es', Conninfo.entries "host=a user=u password='top secret'" = .ok es ∧
      Conninfo.entries "postgresql://u:y@a" = .ok es' ∧
      Conninfo.latest es = threeEntries (.ok "top secret") ∧
      Conninfo.latest es' = threeEntries (.ok "y") ∧
      Conninfo.complaint? (Conninfo.latest es) = Conninfo.complaint? (Conninfo.latest es') ∧
      (outcome (archiving.run "host=a user=u password='top secret'") failingDump).1 =
        (outcome (archiving.run "postgresql://u:y@a") failingDump).1 ∧
      (outcome (archiving.run "host=a user=u password='top secret'") failingDump).2.logs =
        (outcome (archiving.run "postgresql://u:y@a") failingDump).2.logs ∧
      (outcome (archiving.run "postgresql://u:y@a") failingDump).1 =
        .error (.init .toolFailed ("command \"/bin/pg_dump --snapshot=1-1 -F c -f schema.dump " ++
          "user=u password=******** host=a\" failed with exit code 1: no route to host")) := by
  have hEntries : Conninfo.entries "host=a user=u password='top secret'" =
      .ok [("host", .ok "a"), ("user", .ok "u"), ("password", .ok "top secret")] := by decide +kernel
  have hEntries' : Conninfo.entries "postgresql://u:y@a" = .ok (threeEntries (.ok "y")) := by
    decide +kernel
  have hLatest : Conninfo.latest [("host", .ok "a"), ("user", .ok "u"), ("password", .ok "top secret")] =
      threeEntries (.ok "top secret") := by decide +kernel
  have hLatest' : Conninfo.latest (threeEntries (.ok "y")) = threeEntries (.ok "y") := by
    decide +kernel
  have hAlike := alikeEntries_three (.ok "top secret") (.ok "y")
  rw [← hLatest, ← hLatest'] at hAlike
  have hFound : (outcome (SchemaTool.find { serverVersion := 160004, directory := "/bin" } dumpName)
      failingDump).1 = .ok "/bin/pg_dump" := by decide +kernel
  have hClear {dsn : String}
      (h : dsn ∉ ["/bin/pg_dump", "--snapshot=1-1", "-F", "c", "-f", "schema.dump"]) :
      archiving.Clear failingDump dsn := by
    intro path hPath
    rw [hFound] at hPath
    cases hPath
    exact h
  have hNotices : (outcome (archiving.run "host=a user=u password='top secret'") failingDump).2.notices =
      (outcome (archiving.run "postgresql://u:y@a") failingDump).2.notices := by decide +kernel
  obtain ⟨hIff, hWorded⟩ := ends_alike_iff hEntries hEntries' hAlike
  have hEnd := hWorded (hLatest ▸ worded_three _) (hLatest' ▸ worded_three _)
  have hTold : Compatible
      (outcome (archiving.run "host=a user=u password='top secret'") failingDump).2
      (outcome (archiving.run "postgresql://u:y@a") failingDump).2 := by
    rw [Compatible, hNotices]
    exact .inl List.prefix_rfl
  obtain ⟨hResult, hLogs⟩ := hEnd archiving failingDump failingDump (.refl failingDump)
    (hClear (by decide +kernel)) (hClear (by decide +kernel)) hTold
  exact ⟨_, _, hEntries, hEntries', hLatest, hLatest', hIff.mp hEnd, hResult, hLogs, by decide +kernel⟩

/-- A byte of a password that is no text is told by the fault that connecting ends with. -/
theorem ends_apart_unread :
    ∃ es es', Conninfo.entries "postgresql://u:%ff@a" = .ok es ∧
      Conninfo.entries "postgresql://u:%fe@a" = .ok es' ∧
      Conninfo.latest es = threeEntries (.error (.badStart 0xff 0)) ∧
      Conninfo.latest es' = threeEntries (.error (.badStart 0xfe 0)) ∧
      Conninfo.AlikeEntries (Conninfo.latest es) (Conninfo.latest es') ∧
      ¬ EndAlike "postgresql://u:%ff@a" "postgresql://u:%fe@a" ∧
      outcome (run "postgresql://u:%ff@a" (connect .queries "setup")) Session.closed =
        (.error (.host .badEncoding
          "'utf-8' codec can't decode byte 0xff in position 0: invalid start byte"), Session.closed) ∧
      outcome (run "postgresql://u:%fe@a" (connect .queries "setup")) Session.closed =
        (.error (.host .badEncoding
          "'utf-8' codec can't decode byte 0xfe in position 0: invalid start byte"), Session.closed) := by
  have hEntries : Conninfo.entries "postgresql://u:%ff@a" =
      .ok (threeEntries (.error (.badStart 0xff 0))) := by decide +kernel
  have hEntries' : Conninfo.entries "postgresql://u:%fe@a" =
      .ok (threeEntries (.error (.badStart 0xfe 0))) := by decide +kernel
  have hLatest : Conninfo.latest (threeEntries (.error (.badStart 0xff 0))) =
      threeEntries (.error (.badStart 0xff 0)) := by decide +kernel
  have hLatest' : Conninfo.latest (threeEntries (.error (.badStart 0xfe 0))) =
      threeEntries (.error (.badStart 0xfe 0)) := by decide +kernel
  have hAlike := alikeEntries_three (.error (.badStart 0xff 0)) (.error (.badStart 0xfe 0))
  rw [← hLatest, ← hLatest'] at hAlike
  have hParse : Conninfo.parse "postgresql://u:%ff@a" = .error (.notText (.badStart 0xff 0)) := by
    decide +kernel
  have hParse' : Conninfo.parse "postgresql://u:%fe@a" = .error (.notText (.badStart 0xfe 0)) := by
    decide +kernel
  have hWords : Conninfo.utf8Message (.badStart 0xff 0) =
      "'utf-8' codec can't decode byte 0xff in position 0: invalid start byte" := by decide +kernel
  have hWords' : Conninfo.utf8Message (.badStart 0xfe 0) =
      "'utf-8' codec can't decode byte 0xfe in position 0: invalid start byte" := by decide +kernel
  have hRun := outcome_connect_unread hParse Session.closed
  have hRun' := outcome_connect_unread hParse' Session.closed
  rw [hWords] at hRun
  rw [hWords'] at hRun'
  refine ⟨_, _, hEntries, hEntries', hLatest, hLatest', hAlike, fun hEnd => ?_, hRun, hRun'⟩
  have hComplaint := hEnd.unread hEntries' hParse
  rw [hLatest', hWords] at hComplaint
  exact absurd hComplaint (by decide +kernel)

end Errand

end ReplicaBootstrap
