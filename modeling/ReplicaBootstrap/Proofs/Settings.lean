import ReplicaBootstrap.Proofs.Action
import ReplicaBootstrap.Proofs.Host
import ReplicaBootstrap.Proofs.Text.Pieces
import ReplicaBootstrap.Settings

/-! # Settings that are accepted

A document is accepted just if it configures a choice: it sets options only, each option has a value
of its kind or its default, and the values go together. The settings are then those of the choice.
-/

namespace ReplicaBootstrap

open ReplicaBootstrap.Action

namespace Level

theorem ofSetting?_eq_some_iff {s : String} {level : Level} :
    ofSetting? s = some level ↔ s = level.setting := by
  constructor
  · intro h
    have hFound := List.find?_some h
    exact (beq_iff_eq.mp hFound).symm
  · rintro rfl
    cases level <;> decide

def names : List String := ["critical", "error", "warning", "info", "debug"]

theorem mem_names_iff {s : String} : s ∈ names ↔ ∃ level : Level, s = level.setting := by
  constructor
  · intro h
    simp only [names, List.mem_cons, List.not_mem_nil, or_false] at h
    rcases h with rfl | rfl | rfl | rfl | rfl
    · exact ⟨.critical, rfl⟩
    · exact ⟨.error, rfl⟩
    · exact ⟨.warning, rfl⟩
    · exact ⟨.info, rfl⟩
    · exact ⟨.debug, rfl⟩
  · rintro ⟨level, rfl⟩
    cases level <;> decide

end Level

namespace Settings

variable {entries : List (Value × Value)} {name s : String} {v : Value}

/-! ## Options -/

/-- What a document gives to an option: the first value under its name, or nothing. -/
inductive Gives (entries : List (Value × Value)) (name : String) : Option Value → Prop
  | given {before after : List (Value × Value)} {v : Value}
      (hEntries : entries = before ++ (.text name, v) :: after)
      (hFirst : ∀ entry ∈ before, entry.1 ≠ .text name) : Gives entries name (some v)
  | missing (hMissing : ∀ entry ∈ entries, entry.1 ≠ .text name) : Gives entries name none

def isFor (name : String) (entry : Value × Value) : Bool := entry.1.text? == some name

theorem isFor_iff {entry : Value × Value} : isFor name entry = true ↔ entry.1 = .text name := by
  rw [isFor, beq_iff_eq, Value.text?_eq_some]

theorem option?_eq (entries : List (Value × Value)) (name : String) :
    option? entries name = (entries.find? (isFor name)).map (·.2) := rfl

theorem gives_iff {given : Option Value} : Gives entries name given ↔ option? entries name = given := by
  have hOther (entry : Value × Value) : (!isFor name entry) = true ↔ entry.1 ≠ .text name := by
    rw [Bool.not_eq_true', ← Bool.not_eq_true]
    exact not_congr isFor_iff
  rw [option?_eq]
  constructor
  · rintro (⟨hEntries, hFirst⟩ | hMissing)
    · rename_i before after v
      rw [List.find?_eq_some_iff_append.mpr ⟨isFor_iff.mpr rfl, before, after, hEntries,
        fun entry h => (hOther entry).mpr (hFirst entry h)⟩]
      rfl
    · rw [List.find?_eq_none.mpr fun entry h => mt isFor_iff.mp (hMissing entry h)]
      rfl
  · rintro rfl
    cases hFind : entries.find? (isFor name) with
    | none => exact .missing fun entry h => mt isFor_iff.mpr (List.find?_eq_none.mp hFind entry h)
    | some entry =>
      obtain ⟨hKey, before, after, hEntries, hFirst⟩ := List.find?_eq_some_iff_append.mp hFind
      obtain ⟨k, v⟩ := entry
      obtain rfl : k = .text name := isFor_iff.mp hKey
      exact .given hEntries fun entry h => (hOther entry).mp (hFirst entry h)

/-- What an option is taken to be: the text that it gets, or the fallback. -/
def Takes (entries : List (Value × Value)) (name fallback s : String) : Prop :=
  Gives entries name (some (.text s)) ∨ Gives entries name none ∧ s = fallback

theorem option_eq_text_iff {fallback : String} :
    option entries name (.text fallback) = .text s ↔ Takes entries name fallback s := by
  rw [Takes, gives_iff, gives_iff, option]
  cases option? entries name with
  | none => simp [eq_comm]
  | some v => simp

/-! ## Replication sets -/

/-- The pieces of a text between its commas, without the blanks around them and without the empty
ones. -/
def pieces (s : String) : List String :=
  ((s.toList.splitOn ',').map fun piece => String.ofList (Text.trimChars Text.isBlank piece)).filter
    (· ≠ "")

theorem normalizeSets_text (s : String) :
    normalizeSets (.text s) = .list ((pieces s).map .text) := by
  have hKept (names : List String) :
      (names.filterMap fun name => if name.isEmpty then none else some (Value.text name)) =
        (names.filter (· ≠ "")).map .text := by
    induction names with
    | nil => rfl
    | cons name names ih =>
      rw [List.filterMap_cons, List.filter_cons, ih]
      by_cases hName : name = "" <;> simp [hName]
  rw [normalizeSets, hKept, pieces, Text.split, Text.splitChars_eq_splitOn, List.map_map]
  simp [Function.comp_def, Text.trim]

/-- Which sets an option stands for. -/
inductive Lists : Option Value → List String → Prop
  | missing : Lists none ["default"]
  | list {names : List String} : Lists (some (.list (names.map .text))) names
  | text {s : String} : Lists (some (.text s)) (pieces s)

theorem map_text_injective : Function.Injective (List.map Value.text) :=
  List.map_injective_iff.mpr fun _ _ h => Value.text.inj h

theorem lists_iff {given : Option Value} {names : List String} :
    normalizeSets (given.getD (.list ["default"])) = .list (names.map .text) ↔ Lists given names := by
  constructor
  · intro h
    cases given with
    | none =>
      obtain rfl : ["default"] = names := map_text_injective (Value.list.inj h)
      exact .missing
    | some v =>
      rw [Option.getD_some] at h
      cases v with
      | text s =>
        rw [normalizeSets_text] at h
        obtain rfl := map_text_injective (Value.list.inj h)
        exact .text
      | list items =>
        obtain rfl : items = names.map .text := Value.list.inj h
        exact .list
      | _ => cases h
  · rintro (_ | _ | _)
    · rfl
    · rfl
    · exact normalizeSets_text _

/-! ## Tools and levels -/

/-- Values that say nothing. -/
inductive Hollow : Value → Prop
  | null : Hollow .null
  | no : Hollow (.bool false)
  | zero : Hollow (.int 0)
  | real {x : Binary64} (hZero : x.isZero = true) : Hollow (.real x)
  | text : Hollow (.text "")
  | bytes : Hollow (.bytes [])
  | list : Hollow (.list [])
  | map : Hollow (.map [])
  | set : Hollow (.set [])

theorem hollow_iff : Hollow v ↔ v.isGiven = false := by
  constructor
  · intro h
    cases h with
    | real hZero => exact (Bool.not_eq_false' _).mpr hZero
    | _ => rfl
  · intro h
    cases v with
    | null => exact .null
    | bool b =>
      obtain rfl : b = false := h
      exact .no
    | int n =>
      obtain rfl : n = 0 := by simpa [Value.isGiven] using h
      exact .zero
    | real x => exact .real ((Bool.not_eq_false' _).mp h)
    | text s =>
      obtain rfl : s = "" := by simpa [Value.isGiven] using h
      exact .text
    | bytes bs =>
      obtain rfl : bs = [] := by simpa [Value.isGiven] using h
      exact .bytes
    | list items =>
      obtain rfl : items = [] := by simpa [Value.isGiven] using h
      exact .list
    | map entries =>
      obtain rfl : entries = [] := by simpa [Value.isGiven] using h
      exact .map
    | set members =>
      obtain rfl : members = [] := by simpa [Value.isGiven] using h
      exact .set
    | _ => cases h

/-- Which archive an option stands for: one that is not given is a file among the temporary ones. -/
inductive Archives (temporary : String) : Option Value → String → Prop
  | missing {s : String} (hDefault : Host.Within temporary "pglogical.dump" s) :
      Archives temporary none s
  | notGiven {v : Value} {s : String} (hNot : Hollow v)
      (hDefault : Host.Within temporary "pglogical.dump" s) : Archives temporary (some v) s
  | given {s : String} (hGiven : s ≠ "") : Archives temporary (some (.text s)) s

theorem within_defaultArchive_iff {temporary : String} (hTemporary : temporary ≠ "") :
    Host.Within temporary "pglogical.dump" s ↔ ToolSettings.defaultArchive temporary = s :=
  Host.within_iff hTemporary (by decide)

theorem archives_iff {temporary : String} (hTemporary : temporary ≠ "") (directory : Value)
    {given : Option Value} {s : String} :
    (ToolSettings.of directory (given.getD "") temporary).archive = .text s ↔
      Archives temporary given s := by
  rw [ToolSettings.of]
  constructor
  · intro h
    cases given with
    | none =>
      cases h
      exact .missing ((within_defaultArchive_iff hTemporary).mpr rfl)
    | some v =>
      rw [Option.getD_some] at h
      cases hGiven : v.isGiven with
      | false =>
        rw [hGiven] at h
        cases h
        exact .notGiven (hollow_iff.mpr hGiven) ((within_defaultArchive_iff hTemporary).mpr rfl)
      | true =>
        rw [hGiven] at h
        obtain rfl : v = .text s := h
        exact .given (by simpa [Value.isGiven] using hGiven)
  · rintro (hDefault | ⟨hNot, hDefault⟩ | hGiven)
    · exact congrArg Value.text ((within_defaultArchive_iff hTemporary).mp hDefault)
    · rw [Option.getD_some, hollow_iff.mp hNot]
      exact congrArg Value.text ((within_defaultArchive_iff hTemporary).mp hDefault)
    · have hIs : (Value.text s).isGiven = true := by simpa [Value.isGiven] using hGiven
      rw [Option.getD_some, hIs]
      rfl

/-! ## Checks -/

theorem requireText_eq_ok_iff : requireText name v = .ok () ↔ ∃ s, v = .text s ∧ s ≠ "" := by
  cases v with
  | text s => by_cases hs : s = "" <;> simp [requireText, hs]
  | _ => simp [requireText]

theorem requireName_eq_ok_iff : requireName name v = .ok () ↔ ∃ s, v = .text s ∧ s ≠ "" := by
  cases v with
  | text s => by_cases hs : s = "" <;> simp [requireName, hs]
  | _ => simp [requireName]

theorem requireDifferent_eq_ok_iff {origin target : String} :
    requireDifferent (.text origin) (.text target) = .ok () ↔ origin ≠ target := by
  by_cases hSame : origin = target <;> simp [requireDifferent, hSame]

theorem all_text_iff {items : List Value} :
    (items.find? fun v => v.text?.isNone) = none ↔ ∃ names : List String, items = names.map .text := by
  rw [List.find?_eq_none]
  constructor
  · intro h
    induction items with
    | nil => exact ⟨[], rfl⟩
    | cons v items ih =>
      obtain ⟨hFirst, hRest⟩ := List.forall_mem_cons.mp h
      obtain ⟨names, rfl⟩ := ih hRest
      obtain ⟨s, hs⟩ := Option.ne_none_iff_exists'.mp (mt Option.isNone_iff_eq_none.mpr hFirst)
      exact ⟨s :: names, by rw [Value.text?_eq_some.mp hs, List.map_cons]⟩
  · rintro ⟨names, rfl⟩ v hv
    obtain ⟨s, -, rfl⟩ := List.mem_map.mp hv
    exact Bool.false_ne_true

theorem requireSets_eq_ok_iff :
    requireSets v = .ok () ↔ ∃ names : List String, v = .list (names.map .text) ∧ names ≠ [] := by
  cases v with
  | list items =>
    cases items with
    | nil => simp [requireSets]
    | cons first rest =>
      have hNames : requireSets (.list (first :: rest)) = .ok () ↔
          ((first :: rest).find? fun v => v.text?.isNone) = none := by
        unfold requireSets
        dsimp only
        cases (first :: rest).find? fun v => v.text?.isNone <;> simp
      rw [hNames, all_text_iff]
      constructor
      · rintro ⟨names, hItems⟩
        refine ⟨names, congrArg Value.list hItems, ?_⟩
        rintro rfl
        cases hItems
      · rintro ⟨names, hItems, -⟩
        exact ⟨names, Value.list.inj hItems⟩
  | _ => simp [requireSets]

theorem anyText_eq_ok_iff : anyText name v = .ok s ↔ v = .text s := by
  cases v <;> simp [anyText]

theorem requireTools_eq_ok_iff {directories : List String} {t : ToolSettings} :
    requireTools directories t = .ok () ↔ ∃ directory archive : String,
      t = ⟨.text directory, .text archive⟩ ∧ (directory = "" ∨ directory ∈ directories) := by
  constructor
  · intro h
    unfold requireTools at h
    obtain ⟨directory, hDirectory, h⟩ := ok_of_bind h
    obtain ⟨archive, hArchive, h⟩ := ok_of_bind h
    obtain ⟨d, a⟩ := t
    obtain rfl : d = .text directory := anyText_eq_ok_iff.mp hDirectory
    obtain rfl : a = .text archive := anyText_eq_ok_iff.mp hArchive
    refine ⟨directory, archive, rfl, ?_⟩
    by_contra hNot
    rw [if_pos (by simpa using hNot)] at h
    cases h
  · rintro ⟨directory, archive, rfl, hDirectory⟩
    change (if (!directory.isEmpty && !directories.contains directory) = true then _ else _) = _
    rw [if_neg]
    · rfl
    · simpa [or_iff_not_imp_left] using hDirectory

theorem validateLogLevel_eq_ok_iff {t t' : Settings} :
    t.validateLogLevel = .ok t' ↔ ∃ level ∈ Level.names, t.logLevel = .text level ∧
      t' = { t with debugs := decide (level = "debug") || t.debugs } := by
  have hLevel {level : Level} : t.level? = some level ↔ t.logLevel = .text level.setting := by
    rw [level?, Option.bind_eq_some_iff]
    simp only [Value.text?_eq_some, Level.ofSetting?_eq_some_iff]
    constructor
    · rintro ⟨_, hText, rfl⟩
      exact hText
    · exact fun hText => ⟨_, hText, rfl⟩
  have hChecked {level : Level} (h : t.level? = some level) :
      t.validateLogLevel = .ok { t with debugs := decide (level.setting = "debug") || t.debugs } := by
    rw [validateLogLevel, h]
    cases level <;> rfl
  constructor
  · intro h
    cases hGiven : t.level? with
    | none =>
      rw [validateLogLevel, hGiven] at h
      cases h
    | some level =>
      rw [hChecked hGiven] at h
      exact ⟨level.setting, Level.mem_names_iff.mpr ⟨level, rfl⟩, hLevel.mp hGiven,
        (Except.ok.inj h).symm⟩
  · rintro ⟨name, hName, hText, rfl⟩
    obtain ⟨level, rfl⟩ := Level.mem_names_iff.mp hName
    exact hChecked (hLevel.mpr hText)

/-! ## Choices -/

/-- What a run is set up for. -/
structure Choice where
  localDsn : String
  originNode : String
  targetNode : String
  sets : List String
  extensionName : String
  outputPlugin : String
  applicationName : String
  directory : String
  archive : String
  level : String

/-- The settings of a choice. -/
def Choice.settings (c : Choice) (file : Value) (debugs : Bool) : Settings where
  localDsn := c.localDsn
  originNode := c.originNode
  targetNode := c.targetNode
  replicationSets := .list (c.sets.map .text)
  extensionName := c.extensionName
  outputPlugin := c.outputPlugin
  applicationName := c.applicationName
  tools := ⟨c.directory, c.archive⟩
  settingsFile := file
  logLevel := c.level
  debugs := debugs

/-- The values of a choice are there and go together. -/
structure Choice.Valid (directories : List String) (c : Choice) : Prop where
  localDsn : c.localDsn ≠ ""
  originNode : c.originNode ≠ ""
  targetNode : c.targetNode ≠ ""
  different : c.originNode ≠ c.targetNode
  sets : c.sets ≠ []
  extensionName : c.extensionName ≠ ""
  outputPlugin : c.outputPlugin ≠ ""
  applicationName : c.applicationName ≠ ""
  directory : c.directory = "" ∨ c.directory ∈ directories
  level : c.level ∈ Level.names

theorem validate_eq_ok_iff {directories : List String} {t t' : Settings} :
    t.validate directories = .ok t' ↔ ∃ c : Choice, c.Valid directories ∧
      t = c.settings t.settingsFile t.debugs ∧
        t' = c.settings t.settingsFile (decide (c.level = "debug") || t.debugs) := by
  constructor
  · intro h
    unfold validate at h
    -- every check was passed, and each tells what its value is
    obtain ⟨_, hDsn, h⟩ := ok_of_bind h
    obtain ⟨_, hOrigin, h⟩ := ok_of_bind h
    obtain ⟨_, hTarget, h⟩ := ok_of_bind h
    obtain ⟨_, hDifferent, h⟩ := ok_of_bind h
    obtain ⟨_, hSets, h⟩ := ok_of_bind h
    obtain ⟨_, hExtension, h⟩ := ok_of_bind h
    obtain ⟨_, hPlugin, h⟩ := ok_of_bind h
    obtain ⟨_, hApplication, h⟩ := ok_of_bind h
    obtain ⟨_, hTools, h⟩ := ok_of_bind h
    obtain ⟨dsn, hDsn, hDsnGiven⟩ := requireText_eq_ok_iff.mp hDsn
    obtain ⟨origin, hOrigin, hOriginGiven⟩ := requireText_eq_ok_iff.mp hOrigin
    obtain ⟨target, hTarget, hTargetGiven⟩ := requireText_eq_ok_iff.mp hTarget
    rw [hOrigin, hTarget, requireDifferent_eq_ok_iff] at hDifferent
    obtain ⟨sets, hSets, hSetsGiven⟩ := requireSets_eq_ok_iff.mp hSets
    obtain ⟨extension, hExtension, hExtensionGiven⟩ := requireName_eq_ok_iff.mp hExtension
    obtain ⟨plugin, hPlugin, hPluginGiven⟩ := requireName_eq_ok_iff.mp hPlugin
    obtain ⟨application, hApplication, hApplicationGiven⟩ := requireName_eq_ok_iff.mp hApplication
    obtain ⟨directory, archive, hTools, hDirectory⟩ := requireTools_eq_ok_iff.mp hTools
    obtain ⟨level, hNamed, hLevel, rfl⟩ := validateLogLevel_eq_ok_iff.mp h
    obtain ⟨_, _, _, _, _, _, _, _, file, _, debugs⟩ := t
    cases hDsn
    cases hOrigin
    cases hTarget
    cases hSets
    cases hExtension
    cases hPlugin
    cases hApplication
    cases hTools
    cases hLevel
    exact ⟨⟨dsn, origin, target, sets, extension, plugin, application, directory, archive, level⟩,
      ⟨hDsnGiven, hOriginGiven, hTargetGiven, hDifferent, hSetsGiven, hExtensionGiven, hPluginGiven,
        hApplicationGiven, hDirectory, hNamed⟩, rfl, rfl⟩
  · rintro ⟨c, hValid, hBefore, rfl⟩
    generalize t.settingsFile = file at hBefore
    generalize t.debugs = debugs at hBefore
    subst hBefore
    unfold validate
    refine bind_of_ok (requireText_eq_ok_iff.mpr ⟨_, rfl, hValid.localDsn⟩) ?_
    refine bind_of_ok (requireText_eq_ok_iff.mpr ⟨_, rfl, hValid.originNode⟩) ?_
    refine bind_of_ok (requireText_eq_ok_iff.mpr ⟨_, rfl, hValid.targetNode⟩) ?_
    refine bind_of_ok (requireDifferent_eq_ok_iff.mpr hValid.different) ?_
    refine bind_of_ok (requireSets_eq_ok_iff.mpr ⟨_, rfl, hValid.sets⟩) ?_
    refine bind_of_ok (requireName_eq_ok_iff.mpr ⟨_, rfl, hValid.extensionName⟩) ?_
    refine bind_of_ok (requireName_eq_ok_iff.mpr ⟨_, rfl, hValid.outputPlugin⟩) ?_
    refine bind_of_ok (requireName_eq_ok_iff.mpr ⟨_, rfl, hValid.applicationName⟩) ?_
    refine bind_of_ok (requireTools_eq_ok_iff.mpr ⟨_, _, rfl, hValid.directory⟩) ?_
    exact validateLogLevel_eq_ok_iff.mpr ⟨c.level, hValid.level, rfl, rfl⟩

/-! ## What a document configures -/

/-- The values of a choice are those that the environment and a document give, or the defaults. -/
structure Configures (temporary : String) (environment : List (String × String))
    (entries : List (Value × Value)) (c : Choice) : Prop where
  overridden : ∀ s, environment.lookup "PGLOGICAL_INIT_LOCAL_DSN" = some s → c.localDsn = s
  localDsn : environment.lookup "PGLOGICAL_INIT_LOCAL_DSN" = none →
    Takes entries "local_dsn" "" c.localDsn
  originNode : Takes entries "origin_node" "" c.originNode
  targetNode : Takes entries "target_node" "" c.targetNode
  sets : ∃ given, Gives entries "replication_sets" given ∧ Lists given c.sets
  extensionName : Takes entries "extension_name" "pglogical" c.extensionName
  outputPlugin : Takes entries "output_plugin" "pglogical_output" c.outputPlugin
  applicationName : Takes entries "application_name" "pglogical" c.applicationName
  directory : Takes entries "pg_bin_dir" "" c.directory
  archive : ∃ given, Gives entries "archive_path" given ∧ Archives temporary given c.archive
  level : Takes entries "log_level" "info" c.level

theorem exists_gives_iff {P : Option Value → Prop} :
    (∃ given, Gives entries name given ∧ P given) ↔ P (option? entries name) := by
  simp [gives_iff]

theorem overridden_eq_iff {override : Option String} :
    (override.map Value.text).getD v = .text s ↔
      (∀ s', override = some s' → s = s') ∧ (override = none → v = .text s) := by
  cases override <;> simp [eq_comm]

theorem toolsOf_eq_iff {temporary : String} (hTemporary : temporary ≠ "") {directory archive : String} :
    ToolSettings.of v (option entries "archive_path" "") temporary =
        ⟨.text directory, .text archive⟩ ↔
      v = .text directory ∧
        ∃ given, Gives entries "archive_path" given ∧ Archives temporary given archive := by
  rw [exists_gives_iff, ← archives_iff hTemporary v]
  exact ToolSettings.mk.injEq .. ▸ Iff.rfl

theorem withEntries_eq_iff {temporary : String} (hTemporary : temporary ≠ "") {t : Settings}
    {file : String} {environment : List (String × String)} {c : Choice} :
    t.withEntries temporary file environment entries = c.settings (.text file) t.debugs ↔
      Configures temporary environment entries c := by
  unfold withEntries Choice.settings
  dsimp only [fresh]
  rw [Settings.mk.injEq, overridden_eq_iff, toolsOf_eq_iff hTemporary]
  constructor
  · rintro ⟨⟨hOverridden, hDsn⟩, hOrigin, hTarget, hSets, hExtension, hPlugin, hApplication,
      ⟨hDirectory, hArchive⟩, -, hLevel, -⟩
    exact {
      overridden := hOverridden
      localDsn := fun h => option_eq_text_iff.mp (hDsn h)
      originNode := option_eq_text_iff.mp hOrigin
      targetNode := option_eq_text_iff.mp hTarget
      sets := exists_gives_iff.mpr (lists_iff.mp hSets)
      extensionName := option_eq_text_iff.mp hExtension
      outputPlugin := option_eq_text_iff.mp hPlugin
      applicationName := option_eq_text_iff.mp hApplication
      directory := option_eq_text_iff.mp hDirectory
      archive := hArchive
      level := option_eq_text_iff.mp hLevel }
  · intro h
    exact ⟨⟨h.overridden, fun hUnset => option_eq_text_iff.mpr (h.localDsn hUnset)⟩,
      option_eq_text_iff.mpr h.originNode, option_eq_text_iff.mpr h.targetNode,
      lists_iff.mpr (exists_gives_iff.mp h.sets), option_eq_text_iff.mpr h.extensionName,
      option_eq_text_iff.mpr h.outputPlugin, option_eq_text_iff.mpr h.applicationName,
      ⟨option_eq_text_iff.mpr h.directory, h.archive⟩, rfl, option_eq_text_iff.mpr h.level, rfl⟩

/-- Every key of a document is the name of an option. -/
def OptionsOnly (entries : List (Value × Value)) : Prop :=
  ∀ entry ∈ entries, ∃ name ∈ ["local_dsn", "origin_node", "target_node", "replication_sets",
    "extension_name", "output_plugin", "application_name", "log_level", "pg_bin_dir",
    "archive_path"], entry.1 = .text name

theorem foreignKeys_eq_nil_iff : foreignKeys entries = [] ↔ OptionsOnly entries := by
  change _ ↔ ∀ entry ∈ entries, ∃ name ∈ optionNames, entry.1 = .text name
  rw [foreignKeys, List.filter_eq_nil_iff, List.forall_mem_map]
  refine forall₂_congr fun entry _ => ?_
  constructor
  · intro h
    cases hText : entry.1.text? with
    | none => simp [hText] at h
    | some name => exact ⟨name, by simpa [hText] using h, Value.text?_eq_some.mp hText⟩
  · rintro ⟨name, hName, hKey⟩
    simpa [hKey] using hName

/-! ## Documents that are taken alike -/

@[simp] theorem option?_nil (name : String) : option? [] name = none := rfl

theorem option?_append (before after : List (Value × Value)) (name : String) :
    option? (before ++ after) name = (option? before name).or (option? after name) := by
  rw [option?_eq, option?_eq, option?_eq, List.find?_append, Option.map_or]

theorem option?_cons (k v : Value) (rest : List (Value × Value)) (name : String) :
    option? ((k, v) :: rest) name = if k.text? = some name then some v else option? rest name := by
  rw [option?_eq, List.find?_cons, isFor]
  by_cases hKey : k.text? = some name
  · rw [if_pos hKey, beq_iff_eq.mpr hKey]
    rfl
  · rw [if_neg hKey, beq_eq_false_iff_ne.mpr hKey]
    rfl

theorem withEntries_pieces (t : Settings) (temporary file : String)
    (environment : List (String × String)) (before after : List (Value × Value)) (s : String) :
    t.withEntries temporary file environment
        (before ++ (.text "replication_sets", .list ((pieces s).map .text)) :: after) =
      t.withEntries temporary file environment
        (before ++ (.text "replication_sets", .text s) :: after) := by
  have hAlike : normalizeSets (.list ((pieces s).map .text)) = normalizeSets (.text s) :=
    (normalizeSets_text s).symm
  cases hEarlier : option? before "replication_sets" with
  | none => simp [withEntries, option, option?_append, option?_cons, hEarlier, hAlike]
  | some v => simp [withEntries, option, option?_append, option?_cons, hEarlier]

/-- What an option is when a document does not set it. -/
def defaults (archive : String) : List (String × Value) := [
    ("local_dsn", ""), ("origin_node", ""), ("target_node", ""),
    ("replication_sets", .list ["default"]), ("extension_name", "pglogical"),
    ("output_plugin", "pglogical_output"), ("application_name", "pglogical"), ("log_level", "info"),
    ("pg_bin_dir", ""), ("archive_path", .text archive)]

theorem withEntries_default (t : Settings) (temporary file : String)
    (environment : List (String × String))
    (hDefault : (name, v) ∈ defaults (ToolSettings.defaultArchive temporary))
    (hMissing : option? entries name = none) :
    t.withEntries temporary file environment (entries ++ [(.text name, v)]) =
      t.withEntries temporary file environment entries := by
  -- only for the archive is the default no fallback: an empty one is replaced by it
  have hArchive : (if (Value.text (ToolSettings.defaultArchive temporary)).isGiven then
      Value.text (ToolSettings.defaultArchive temporary)
    else .text (ToolSettings.defaultArchive temporary)) =
      .text (ToolSettings.defaultArchive temporary) := ite_self _
  simp only [defaults, List.mem_cons, Prod.mk.injEq, List.not_mem_nil, or_false] at hDefault
  rcases hDefault with ⟨rfl, rfl⟩ | ⟨rfl, rfl⟩ | ⟨rfl, rfl⟩ | ⟨rfl, rfl⟩ | ⟨rfl, rfl⟩ | ⟨rfl, rfl⟩ |
    ⟨rfl, rfl⟩ | ⟨rfl, rfl⟩ | ⟨rfl, rfl⟩ | ⟨rfl, rfl⟩ <;>
    simp [withEntries, fresh, option, option?_append, option?_cons, hMissing]
  exact congrArg (ToolSettings.mk _) hArchive

theorem foreignKeys_append (before after : List (Value × Value)) :
    foreignKeys (before ++ after) = foreignKeys before ++ foreignKeys after := by
  simp [foreignKeys]

/-! ## Which documents are accepted -/

theorem outcome_load (temporary : String) (directories : List String)
    (environment : List (String × String)) (file : String) (entries : List (Value × Value))
    (t : Settings) :
    outcome (load temporary directories environment file (.map entries)) t =
      if foreignKeys entries = [] then
        match (t.withEntries temporary file environment entries).validate directories with
        | .ok t' => (.ok (), t')
        | .error f => (.error f, t.withEntries temporary file environment entries)
      else (.error (unsupported (foreignKeys entries)),
        t.withEntries temporary file environment entries) := by
  have hEntries : entriesOf (.map entries) = .ok entries := by cases entries <;> rfl
  unfold load
  rw [hEntries]
  rw [outcome_bind, outcome_ofExcept]
  dsimp only
  rw [outcome_bind, outcome_modify]
  dsimp only
  by_cases hForeign : foreignKeys entries = []
  · rw [if_pos hForeign, if_neg (by simp [hForeign]), outcome_bind, outcome_get]
    dsimp only
    rw [outcome_bind, outcome_ofExcept]
    cases (t.withEntries temporary file environment entries).validate directories <;> rfl
  · rw [if_neg hForeign, if_pos (by simpa using hForeign)]
    rfl

section

variable {temporary : String} {directories : List String} {environment : List (String × String)}

theorem outcome_load_congr {entries' : List (Value × Value)} (directories : List String) {t : Settings}
    {file : String} (hForeign : foreignKeys entries' = foreignKeys entries)
    (hTaken : t.withEntries temporary file environment entries' =
      t.withEntries temporary file environment entries) :
    outcome (load temporary directories environment file (.map entries')) t =
      outcome (load temporary directories environment file (.map entries)) t := by
  rw [outcome_load, outcome_load, hForeign, hTaken]

theorem outcome_load_of_configures (hTemporary : temporary ≠ "") {c : Choice} (file : String)
    (t : Settings) (hOnly : OptionsOnly entries) (hValid : c.Valid directories)
    (hConfigures : Configures temporary environment entries c) :
    outcome (load temporary directories environment file (.map entries)) t =
      (.ok (), c.settings (.text file) (decide (c.level = "debug") || t.debugs)) := by
  have hChecked : (c.settings (.text file) t.debugs).validate directories =
      .ok (c.settings (.text file) (decide (c.level = "debug") || t.debugs)) :=
    validate_eq_ok_iff.mpr ⟨c, hValid, rfl, rfl⟩
  rw [outcome_load, if_pos (foreignKeys_eq_nil_iff.mpr hOnly),
    (withEntries_eq_iff hTemporary).mpr hConfigures, hChecked]

theorem configures_of_load (hTemporary : temporary ≠ "") {file : String} {t : Settings}
    (h : (outcome (load temporary directories environment file (.map entries)) t).1 = .ok ()) :
    OptionsOnly entries ∧
      ∃ c : Choice, c.Valid directories ∧ Configures temporary environment entries c := by
  rw [outcome_load] at h
  by_cases hForeign : foreignKeys entries = []
  · rw [if_pos hForeign] at h
    cases hChecked : (t.withEntries temporary file environment entries).validate directories with
    | error f =>
      rw [hChecked] at h
      cases h
    | ok t' =>
      obtain ⟨c, hValid, hTaken, -⟩ := validate_eq_ok_iff.mp hChecked
      exact ⟨foreignKeys_eq_nil_iff.mp hForeign, c, hValid, (withEntries_eq_iff hTemporary).mp hTaken⟩
  · rw [if_neg hForeign] at h
    cases h

end

/-- On a host that has a place for temporary files, a document is accepted just if it sets options only
and configures a choice whose values go together, and the settings are then those of the choice. A text
of replication sets is taken as the list of its pieces, and an option that is missing as its default. -/
theorem load_ok_iff (host : Host) (file : String) (entries : List (Value × Value)) {temporary : String}
    (hTemporary : host.Keeps temporary) :
    let taking := fun entries => outcome
      (load temporary host.directories host.environment file (.map entries)) (fresh temporary)
    host.temporaryDirectory = .ok temporary ∧
      ((taking entries).1 = .ok () ↔ OptionsOnly entries ∧ ∃ c : Choice,
        c.Valid host.directories ∧ Configures temporary host.environment entries c) ∧
      (∀ c : Choice, OptionsOnly entries → c.Valid host.directories →
        Configures temporary host.environment entries c →
          taking entries = (.ok (), c.settings (.text file) (decide (c.level = "debug")))) ∧
      (∀ before after s, entries = before ++ (.text "replication_sets", .text s) :: after →
        taking (before ++ (.text "replication_sets", .list ((pieces s).map .text)) :: after) =
          taking entries) ∧
      ∀ archive name v, Host.Within temporary "pglogical.dump" archive →
        (name, v) ∈ defaults archive → Gives entries name none →
          taking (entries ++ [(.text name, v)]) = taking entries := by
  intro taking
  have hSome := hTemporary.ne_empty
  have hTaken (c : Choice) (hOnly : OptionsOnly entries) (hValid : c.Valid host.directories)
      (hConfigures : Configures temporary host.environment entries c) :
      taking entries = (.ok (), c.settings (.text file) (decide (c.level = "debug"))) := by
    have hOutcome := outcome_load_of_configures hSome file (fresh temporary) hOnly hValid hConfigures
    rwa [fresh, Bool.or_false] at hOutcome
  refine ⟨Host.keeps_iff.mp hTemporary, ⟨configures_of_load hSome, ?_⟩, hTaken, ?_, ?_⟩
  · rintro ⟨hOnly, c, hValid, hConfigures⟩
    rw [hTaken c hOnly hValid hConfigures]
  · rintro before after s rfl
    refine outcome_load_congr host.directories ?_
      (withEntries_pieces (fresh temporary) temporary file host.environment before after s)
    simp [foreignKeys]
  · intro archive name v hArchive hDefault hMissing
    obtain rfl := (within_defaultArchive_iff hSome).mp hArchive
    refine outcome_load_congr host.directories ?_
      (withEntries_default (fresh temporary) temporary file host.environment hDefault
        (gives_iff.mp hMissing))
    have hOption : foreignKeys [(.text name, v)] = [] := by
      rw [foreignKeys_eq_nil_iff]
      rintro entry hEntry
      rw [List.mem_singleton] at hEntry
      refine ⟨name, ?_, by rw [hEntry]⟩
      simpa [defaults] using List.mem_map_of_mem (f := Prod.fst) hDefault
    rw [foreignKeys_append, hOption, List.append_nil]

/-- A host whose environment names a place for temporary files, and the local database. -/
def elsewhere : Host where
  environment := [("TMPDIR", "/var/tmp/"), ("PGLOGICAL_INIT_LOCAL_DSN", "host=b")]
  writable := ["/tmp", "/var/tmp"]

theorem load_ok_elsewhere :
    elsewhere.Keeps "/var/tmp" ∧
      outcome (load "/var/tmp" elsewhere.directories elsewhere.environment "config.yaml"
          (.map [("origin_node", "provider"), ("replication_sets", " default, ,ddl_sql"),
            ("target_node", "subscriber"), ("log_level", "debug")])) (fresh "/var/tmp") =
        (.ok (), Choice.settings {
          localDsn := "host=b"
          originNode := "provider"
          targetNode := "subscriber"
          sets := ["default", "ddl_sql"]
          extensionName := "pglogical"
          outputPlugin := "pglogical_output"
          applicationName := "pglogical"
          directory := ""
          archive := "/var/tmp/pglogical.dump"
          level := "debug" } (.text "config.yaml") true) := by
  have hKeeps : elsewhere.Keeps "/var/tmp" := Host.keeps_iff.mpr (by decide +kernel)
  have hOverride : elsewhere.environment.lookup "PGLOGICAL_INIT_LOCAL_DSN" = some "host=b" := rfl
  have hArchive : Host.Within "/var/tmp" "pglogical.dump" "/var/tmp/pglogical.dump" :=
    (within_defaultArchive_iff (by decide)).mpr (by decide)
  refine ⟨hKeeps, (load_ok_iff elsewhere "config.yaml" _ hKeeps).2.2.1 _ ?_ ?_ ?_⟩
  · rw [← foreignKeys_eq_nil_iff]
    rfl
  · exact {
      localDsn := by decide
      originNode := by decide
      targetNode := by decide
      different := by decide
      sets := by decide
      extensionName := by decide
      outputPlugin := by decide
      applicationName := by decide
      directory := .inl rfl
      level := by decide }
  · exact {
      overridden := fun s hs => Option.some.inj (hOverride.symm.trans hs)
      localDsn := fun hUnset => nomatch hOverride.symm.trans hUnset
      originNode := .inl (gives_iff.mpr rfl)
      targetNode := .inl (gives_iff.mpr rfl)
      sets := ⟨some (.text " default, ,ddl_sql"), gives_iff.mpr rfl, lists_iff.mp rfl⟩
      extensionName := .inr ⟨gives_iff.mpr rfl, rfl⟩
      outputPlugin := .inr ⟨gives_iff.mpr rfl, rfl⟩
      applicationName := .inr ⟨gives_iff.mpr rfl, rfl⟩
      directory := .inr ⟨gives_iff.mpr rfl, rfl⟩
      archive := ⟨none, gives_iff.mpr rfl, .missing hArchive⟩
      level := .inl (gives_iff.mpr rfl) }

end Settings

end ReplicaBootstrap
