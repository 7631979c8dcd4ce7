import Mathlib.Data.List.Nodup
import ReplicaBootstrap.Proofs.Copy.Faithful
import ReplicaBootstrap.Proofs.Copy.Rounds
import ReplicaBootstrap.Proofs.Copy.Statement

/-! # How often a table is listed and copied

The origin's view of tables has a row for each replication set that a table belongs to. A table is
listed, and copied, once for each of the chosen sets among them.
-/

namespace ReplicaBootstrap.Copy

open ReplicaBootstrap.Action Site Session

/-! ## Memberships -/

/-- A row of the origin's view: a table belongs to a replication set. -/
structure Membership where
  setName : String
  schema : String
  name : String
  deriving DecidableEq, Repr

def Membership.names (m : Membership) : String × String := (m.schema, m.name)

/-- The names that the server selects, one row for each membership in a chosen set. -/
def selected (view : List Membership) (sets : List String) : List (String × String) :=
  (view.filter fun m => m.setName ∈ sets).map Membership.names

def listRows (view : List Membership) (sets : List String) : List (List Value) :=
  (selected view sets).map fun names => [.text names.1, .text names.2]

/-- No table belongs to two of the chosen sets. -/
def Apart (view : List Membership) (sets : List String) : Prop :=
  ∀ m ∈ view, ∀ m' ∈ view, m.setName ∈ sets → m'.setName ∈ sets → m.names = m'.names →
    m.setName = m'.setName

instance (view : List Membership) (sets : List String) : Decidable (Apart view sets) :=
  inferInstanceAs (Decidable (∀ m ∈ view, ∀ m' ∈ view, m.setName ∈ sets → m'.setName ∈ sets →
    m.names = m'.names → m.setName = m'.setName))

variable {view : List Membership} {sets : List String}

theorem mem_selected {names : String × String} :
    names ∈ selected view sets ↔ ∃ m ∈ view, m.setName ∈ sets ∧ m.names = names := by
  simp only [selected, List.mem_map, List.mem_filter, decide_eq_true_eq, and_assoc]

theorem selected_nodup_iff (hView : view.Nodup) : (selected view sets).Nodup ↔ Apart view sets := by
  rw [selected, List.nodup_map_iff_inj_on (hView.filter _)]
  simp only [List.mem_filter, decide_eq_true_eq]
  constructor
  · intro h m hm m' hm' hSet hSet' hNames
    rw [h m ⟨hm, hSet⟩ m' ⟨hm', hSet'⟩ hNames]
  · rintro h ⟨setName, schema, name⟩ ⟨hm, hSet⟩ ⟨setName', schema', name'⟩ ⟨hm', hSet'⟩ hNames
    obtain rfl := h _ hm _ hm' hSet hSet' hNames
    cases hNames
    rfl

/-! ## The list -/

theorem mapM_tableOfRow (names : List (String × String)) :
    (names.map fun x => [Value.text x.1, Value.text x.2]).mapM tableOfRow =
      .ok (names.map tableNamed) := by
  induction names with
  | nil => rfl
  | cons x rest ih =>
    rw [List.map_cons, List.mapM_cons, ih]
    rfl

/-- Lists every table of the chosen sets, and each once just if no table is in two of them. -/
structure Lists (view : List Membership) (sets : List String) (ts : List Table) : Prop where
  eq : ts = (selected view sets).map tableNamed
  mem : ∀ t, t ∈ ts ↔ ∃ m ∈ view, m.setName ∈ sets ∧ tableNamed m.names = t
  nodup : ts.Nodup ↔ Apart view sets

theorem lists_selected (hView : view.Nodup) :
    Lists view sets ((selected view sets).map tableNamed) where
  eq := rfl
  mem t := by
    rw [List.mem_map]
    constructor
    · rintro ⟨names, hNames, rfl⟩
      obtain ⟨m, hm, hSet, rfl⟩ := mem_selected.mp hNames
      exact ⟨m, hm, hSet, rfl⟩
    · rintro ⟨m, hm, hSet, rfl⟩
      exact ⟨m.names, mem_selected.mpr ⟨m, hm, hSet, rfl⟩, rfl⟩
  nodup := by rw [List.nodup_map_iff tableNamed_injective, selected_nodup_iff hView]

/-- The server answers the next request for the list from its view. -/
structure Selects (view : List Membership) (sets : List String) (extension : String) (conn : Nat)
    (w : Site) : Prop where
  fault : ((w.server conn).script.answer (listOf (Sql.quotedName extension))).1.fault = none
  rows : ((w.server conn).script.answer (listOf (Sql.quotedName extension))).1.rows =
    listRows view sets

theorem tables_selected {conn : Nat} {extension : String} {w : Site}
    (h : Selects view sets extension conn w) :
    ((tables conn sets extension).outcome w).1 = .ok ((selected view sets).map tableNamed) := by
  have hTables : Meets (fun v => v = w) (tables conn sets extension)
      (fun ts _ => ts = (selected view sets).map tableNamed) (fun _ _ => False) := by
    unfold tables
    apply meets_bind (m := fun name v => name = Sql.quotedName extension ∧ v = w)
    · exact meets_pure fun _ hv => ⟨rfl, hv⟩
    intro name
    apply meets_known
    rintro _ ⟨rfl, hv⟩
    refine ⟨fun v => v = w, hv, ?_⟩
    rw [listQuery_eq]
    apply meets_bind (m := fun r _ => r.rows = listRows view sets)
    · apply meets_onDriverFault
      apply (answered_request w conn _ _).weaken (fun _ hv => hv)
      · rintro r _ ⟨-, hAnswer⟩
        rw [← hAnswer.reply]
        exact h.rows
      · rintro f _ ⟨r, hFault, hAnswer⟩
        have hNone := h.fault
        rw [hAnswer.reply, hFault] at hNone
        cases hNone
    intro r
    apply meets_ofExcept
    · intro ts hRows _ hr
      rw [hr, listRows, mapM_tableOfRow] at hRows
      exact (Except.ok.inj hRows).symm
    · intro f hRows _ hr
      rw [hr, listRows, mapM_tableOfRow] at hRows
      cases hRows
  cases hx : ((tables conn sets extension).outcome w).1 with
  | ok ts => exact congrArg Except.ok (hTables.of_ok rfl hx)
  | error f => exact (hTables.of_error rfl hx).elim

/-! ## The copies -/

def copiesInto (target : Nat) (names : String × String) (talk : List Entry) : Nat :=
  (passages .toServer target talk).countP fun p =>
    (statement .toServer (tableNamed names)).toOption = some p.statement

theorem Carried.copiesInto {origin target : Nat} {contents : List (Table × List (List UInt8))}
    {talk : List Entry} (h : Carried origin target contents talk) {listed : List (String × String)}
    (hTables : contents.map Prod.fst = listed.map tableNamed) (names : String × String) :
    copiesInto target names talk = listed.count names := by
  have hWritten := h.written
  unfold Copy.copiesInto
  generalize passages .toServer target talk = ps at hWritten
  clear h
  induction hWritten generalizing listed with
  | nil =>
    obtain rfl := List.map_eq_nil_iff.mp hTables.symm
    rfl
  | @cons x p contents ps hp _ ih =>
    cases listed with
    | nil => cases hTables
    | cons names' listed =>
      obtain ⟨hTable, hRest⟩ := List.cons.inj hTables
      have hSame : ((statement .toServer (tableNamed names)).toOption = some p.statement) ↔
          names' = names := by
        have hStatement := hp.statement
        rw [hTable] at hStatement
        constructor
        · intro h
          apply statement_tableNamed_inj .toServer
          rw [hStatement]
          exact (congrArg Except.ok (Option.some.inj h)).symm
        · rintro rfl
          rw [hStatement]
          rfl
      rw [List.countP_cons, List.count_cons, ih hRest]
      simp only [hSame, decide_eq_true_eq, beq_iff_eq]

/-- What the origin answered when it was asked for the tables of the chosen sets. -/
def SelectedFrom (view : List Membership) (sets : List String) (extension : String) (origin : Nat)
    (talk : List Entry) : Prop :=
  ∀ r, .exchange (.execute origin (listOf (Sql.quotedName extension))
    (some [.list (sets.map .text)])) r ∈ talk → r.rows = listRows view sets

theorem Committable.eq_selected {pair : NodePair} {snapshot : Value}
    {extension application : String} {origin target : Nat} {ts : List Table} {before : List Entry}
    (h : Committable pair snapshot extension application origin target ts before)
    (hSelected : SelectedFrom view pair.replicationSets extension origin before) :
    ts = (selected view pair.replicationSets).map tableNamed := by
  obtain ⟨-, -, hListing, -, -, -, -⟩ := h
  obtain @⟨r, -, hNames⟩ := hListing
  have hr : r.rows = listRows view pair.replicationSets := by
    apply hSelected
    simp
  have hRows := mapM_tableOfRow_eq_ok_iff.mpr hNames
  rw [hr, listRows, mapM_tableOfRow] at hRows
  exact (Except.ok.inj hRows).symm

/-- Every table of a chosen set is listed and copied, each once if no table is in two of the sets, and
only then. -/
theorem copied_once_iff_apart (view : List Membership) (hView : view.Nodup) :
    (∀ (sets : List String) (conn : Nat) (extension : String) (w : Site),
      Selects view sets extension conn w →
        ∃ ts, ((tables conn sets extension).outcome w).1 = .ok ts ∧ Lists view sets ts) ∧
    ∀ (pair : NodePair) (snapshot : Value) (extension application : String) (w w' : Site)
      (ts : List Table),
      (nodeData pair snapshot extension application).outcome w = (.ok ts, w') →
        ∃ talk, w'.talk = w.talk ++ talk ∧
          (SelectedFrom view pair.replicationSets extension w.connections talk →
            Lists view pair.replicationSets ts ∧
            (passages .toServer (w.connections + 1) talk).length = ts.length ∧
            ((∀ m ∈ view, m.setName ∈ pair.replicationSets →
                copiesInto (w.connections + 1) m.names talk = 1) ↔
              Apart view pair.replicationSets)) := by
  constructor
  · intro sets conn extension w h
    exact ⟨_, tables_selected h, lists_selected hView⟩
  · intro pair snapshot extension application w w' ts hx
    obtain ⟨before, r, r', r'', hBefore, hTalk⟩ := nodeData_closed hx
    obtain ⟨talk, contents, hTalk', hTables, hCarried⟩ := nodeData_carries hx
    obtain rfl := List.append_cancel_left (hTalk.symm.trans hTalk')
    refine ⟨_, hTalk, ?_⟩
    intro hSelected
    have hListed : ts = (selected view pair.replicationSets).map tableNamed :=
      hBefore.eq_selected fun r hr => hSelected r (List.mem_append_left _ hr)
    have hCopies := hCarried.copiesInto (hTables.trans hListed)
    refine ⟨hListed ▸ lists_selected hView, ?_, ?_⟩
    · rw [← hCarried.written.length_eq, ← hTables, List.length_map]
    · rw [← selected_nodup_iff hView, List.nodup_iff_count_eq_one]
      simp only [hCopies]
      constructor
      · intro h names hNames
        obtain ⟨m, hm, hSet, rfl⟩ := mem_selected.mp hNames
        exact h m hm hSet
      · intro h m hm hSet
        exact h _ (mem_selected.mpr ⟨m, hm, hSet, rfl⟩)

/-! ## Memberships in one set and in two -/

/-- Two tables of one set, one of which is in another set too. -/
def overlapping : List Membership :=
  [⟨"default", "public", "a"⟩, ⟨"default", "public", "b"⟩, ⟨"ddl_sql", "public", "a"⟩]

def overlappingOrigin (sets : List String) : Site where
  servers := [{ script := [{ replies := .standing { rows := listRows overlapping sets } }] }]

theorem selects_overlappingOrigin (sets : List String) (extension : String) :
    Selects overlapping sets extension 0 (overlappingOrigin sets) := by
  have hAnswer (text : String) : (((overlappingOrigin sets).server 0).script.answer text).1 =
      { rows := listRows overlapping sets } := by
    simp [overlappingOrigin, Site.server, Site.serverAt, Script.answer, Text.contains,
      Text.occursIn_nil]
  constructor
  · rw [hAnswer]
  · rw [hAnswer]

theorem overlapping_listed_twice :
    overlapping.Nodup ∧
      Selects overlapping ["default", "ddl_sql"] "pglogical" 0
        (overlappingOrigin ["default", "ddl_sql"]) ∧
      ∃ ts, ((tables 0 ["default", "ddl_sql"] "pglogical").outcome
          (overlappingOrigin ["default", "ddl_sql"])).1 = .ok ts ∧
        ts = [tableNamed ("public", "a"), tableNamed ("public", "b"),
          tableNamed ("public", "a")] ∧
        ¬ ts.Nodup := by
  have hSelects := selects_overlappingOrigin ["default", "ddl_sql"] "pglogical"
  refine ⟨by decide, hSelects, _, tables_selected hSelects, rfl, ?_⟩
  rw [List.nodup_map_iff tableNamed_injective]
  decide

/-- The texts of the rows that a connection was given for a request with parameters. -/
def textRows? (conn : Nat) : Entry → Option (List (List (Option String)))
  | .exchange (.execute c _ (some _)) r =>
    if c = conn then some (r.rows.map fun row => row.map Value.text?) else none
  | _ => none

theorem eq_of_texts {rows : List (List Value)} {names : List (String × String)}
    (h : (rows.map fun row => row.map Value.text?) = names.map fun x => [some x.1, some x.2]) :
    rows = names.map fun x => [.text x.1, .text x.2] := by
  induction rows generalizing names with
  | nil =>
    cases names with
    | nil => rfl
    | cons => cases h
  | cons row rows ih =>
    cases names with
    | nil => cases h
    | cons x names =>
      obtain ⟨hRow, hRest⟩ := List.cons.inj h
      rw [List.map_cons, ih hRest]
      obtain ⟨schema, cells, rfl, hSchema, hCells⟩ := List.map_eq_cons_iff.mp hRow
      obtain ⟨name, cells', rfl, hName, hNone⟩ := List.map_eq_cons_iff.mp hCells
      rw [Value.text?_eq_some.mp hSchema, Value.text?_eq_some.mp hName,
        List.map_eq_nil_iff.mp hNone]

theorem twoTables_listed :
    ((nodeData twoTablesPair "s1" "pglogical" "setup").outcome twoTables).2.talk.filterMap
      (textRows? 0) = [[[some "public", some "a"], [some "public", some "b"]]] := by
  decide +kernel

theorem selectedFrom_twoTables {w' : Site} {talk : List Entry}
    (hSite : ((nodeData twoTablesPair "s1" "pglogical" "setup").outcome twoTables).2 = w')
    (hTalk : w'.talk = twoTables.talk ++ talk) :
    SelectedFrom overlapping ["default"] "pglogical" 0 talk := by
  intro r hr
  have hListed := twoTables_listed
  rw [hSite, hTalk] at hListed
  have hMem : (r.rows.map fun row => row.map Value.text?) ∈
      (twoTables.talk ++ talk).filterMap (textRows? 0) :=
    List.mem_filterMap.mpr ⟨_, List.mem_append_right _ hr, rfl⟩
  rw [hListed, List.mem_singleton] at hMem
  exact eq_of_texts hMem

theorem copied_once_twoTables :
    overlapping.Nodup ∧ Apart overlapping ["default"] ∧
      (∃ ts, ((tables 0 ["default"] "pglogical").outcome (overlappingOrigin ["default"])).1 = .ok ts ∧
        Lists overlapping ["default"] ts) ∧
      ∃ ts w' talk,
        (nodeData twoTablesPair "s1" "pglogical" "setup").outcome twoTables = (.ok ts, w') ∧
        w'.talk = twoTables.talk ++ talk ∧
        SelectedFrom overlapping ["default"] "pglogical" 0 talk ∧
        Lists overlapping ["default"] ts ∧ (passages .toServer 1 talk).length = ts.length ∧
        ∀ m ∈ overlapping, m.setName ∈ ["default"] → copiesInto 1 m.names talk = 1 := by
  have hView : overlapping.Nodup := by decide
  have hApart : Apart overlapping ["default"] := by decide
  obtain ⟨hList, hCopies⟩ := copied_once_iff_apart overlapping hView
  obtain ⟨ts, w', hx, -, -⟩ := outcome_twoTables
  obtain ⟨talk, hTalk, hOnce⟩ := hCopies twoTablesPair "s1" "pglogical" "setup" twoTables w' ts hx
  have hSelected := selectedFrom_twoTables (congrArg Prod.snd hx) hTalk
  obtain ⟨hLists, hLength, hIff⟩ := hOnce hSelected
  exact ⟨hView, hApart, hList _ _ _ _ (selects_overlappingOrigin _ _), ts, w', talk, hx, hTalk, hSelected,
    hLists, hLength, hIff.mpr hApart⟩

end ReplicaBootstrap.Copy
