import Mathlib.Data.List.Nodup
import ReplicaBootstrap.Proofs.Conninfo.Readable

/-! # Parameters in their order

A string that can be read sets no parameter twice. What is written of such parameters sets the same
ones to the same values, in the order in which parameters are listed.
-/

namespace ReplicaBootstrap.Conninfo

open ReplicaBootstrap.Action

variable {ps : Params} {k v : String}

theorem lookup_cons_ite {α : Type} (k k' : String) (a : α) (rest : List (String × α)) :
    ((k', a) :: rest).lookup k = if k = k' then some a else rest.lookup k := by
  rw [List.lookup_cons]
  by_cases hk : k = k'
  · rw [if_pos hk, beq_iff_eq.mpr hk]
  · rw [if_neg hk, beq_eq_false_iff_ne.mpr hk]

/-! ## Parameters that are set once -/

theorem mem_of_lookup (h : ps.lookup k = some v) : (k, v) ∈ ps := by
  obtain ⟨before, after, rfl, -⟩ := List.lookup_eq_some_iff.mp h
  exact List.mem_append_right _ List.mem_cons_self

theorem lookup_of_mem (hOnce : (ps.map Prod.fst).Nodup) (h : (k, v) ∈ ps) :
    ps.lookup k = some v := by
  induction ps with
  | nil => cases h
  | cons kv rest ih =>
    obtain ⟨hFirst, hRest⟩ := List.nodup_cons.mp hOnce
    rcases List.mem_cons.mp h with rfl | h
    · exact List.lookup_cons_self
    · have hOther : k ≠ kv.1 := fun hk => hFirst (hk ▸ List.mem_map_of_mem h)
      rw [lookup_cons_ite, if_neg hOther]
      exact ih hRest h

theorem lookup_reverse (hOnce : (ps.map Prod.fst).Nodup) (k : String) :
    ps.reverse.lookup k = ps.lookup k := by
  have hReverse : (ps.reverse.map Prod.fst).Nodup := by
    rw [List.map_reverse, List.nodup_reverse]
    exact hOnce
  apply Option.ext
  intro v
  constructor
  · exact fun h => lookup_of_mem hOnce (List.mem_reverse.mp (mem_of_lookup h))
  · exact fun h => lookup_of_mem hReverse (List.mem_reverse.mpr (mem_of_lookup h))

/-- Setting a parameter changes this one. -/
theorem lookup_set (keyword value : String) (ps : Params) (k : String) :
    (set keyword value ps).lookup k = if k = keyword then some value else ps.lookup k := by
  induction ps with
  | nil => rw [set, lookup_cons_ite]
  | cons kv rest ih =>
    obtain ⟨k', v'⟩ := kv
    rw [set]
    by_cases hSame : k' = keyword
    · rw [if_pos hSame, lookup_cons_ite, lookup_cons_ite, hSame]
      split <;> rfl
    · rw [if_neg hSame, lookup_cons_ite, lookup_cons_ite, ih]
      by_cases hk : k = k'
      · rw [if_pos hk, if_pos hk, if_neg (hk ▸ hSame)]
      · rw [if_neg hk, if_neg hk]

theorem once_set (hOnce : (ps.map Prod.fst).Nodup) (keyword value : String) :
    ((set keyword value ps).map Prod.fst).Nodup := by
  induction ps with
  | nil => exact List.nodup_singleton _
  | cons kv rest ih =>
    obtain ⟨k', v'⟩ := kv
    obtain ⟨hFirst, hRest⟩ := List.nodup_cons.mp hOnce
    rw [set]
    split
    · exact hOnce
    · rename_i hOther
      refine List.nodup_cons.mpr ⟨fun hMem => ?_, ih hRest⟩
      obtain ⟨kv', hMem, hk⟩ := List.mem_map.mp hMem
      rcases mem_set hMem with rfl | hMem
      · exact hOther hk.symm
      · exact hFirst (hk ▸ List.mem_map_of_mem hMem)

theorem once_overlay (hOnce : (ps.map Prod.fst).Nodup) (news : Params) :
    ((overlay ps news).map Prod.fst).Nodup := by
  induction news generalizing ps with
  | nil => exact hOnce
  | cons kv rest ih => exact ih (once_set hOnce kv.1 kv.2)

/-! ## The order of parameters -/

section

variable {α : Type} (f : String → Option α) (listed : List String)

/-- What is gathered along a list of keywords comes in its order. -/
theorem fst_gathered_sublist :
    ((listed.filterMap fun k => (f k).map (k, ·)).map Prod.fst).Sublist listed := by
  induction listed with
  | nil => exact .slnil
  | cons k rest ih =>
    rw [List.filterMap_cons]
    cases f k with
    | none => exact ih.cons _
    | some a => exact ih.cons_cons _

end

theorem once_keywords : keywords.Nodup := by decide +kernel

/-- A setting of a value that is a text. -/
def plainEntry (kv : String × String) : Entry := (kv.1, .ok kv.2)

theorem fst_plainEntry (ps : Params) : (ps.map plainEntry).map Prod.fst = ps.map Prod.fst := by
  rw [List.map_map]
  rfl

theorem mapM_asText_plainEntry (ps : Params) : (ps.map plainEntry).mapM asText = .ok ps := by
  induction ps with
  | nil => rfl
  | cons kv rest ih =>
    rw [List.map_cons, List.mapM_cons, ih]
    rfl

theorem eq_plainEntry_of_mapM {es : List Entry} (h : es.mapM asText = .ok ps) :
    es = ps.map plainEntry := by
  induction es generalizing ps with
  | nil =>
    cases h
    rfl
  | cons e rest ih =>
    rw [List.mapM_cons] at h
    obtain ⟨kv, hHead, h⟩ := ok_of_bind h
    obtain ⟨more, hMore, h⟩ := ok_of_bind h
    cases h
    obtain ⟨k, v⟩ := e
    cases v with
    | error => cases hHead
    | ok v =>
      cases hHead
      rw [List.map_cons, ← ih hMore]
      rfl

/-- A string that can be read sets known parameters, each once, in the order of the keywords. -/
theorem parse_keywords {dsn : String} (h : parse dsn = .ok ps) :
    (ps.map Prod.fst).Sublist keywords := by
  obtain ⟨es, -, hCollect⟩ := ok_of_bind h
  rw [collect_eq] at hCollect
  rw [← fst_plainEntry, ← eq_plainEntry_of_mapM hCollect]
  exact fst_gathered_sublist _ _

theorem parse_once {dsn : String} (h : parse dsn = .ok ps) : (ps.map Prod.fst).Nodup :=
  (parse_keywords h).nodup once_keywords

/-! ## What is written and read -/

/-- The known parameters in the order of the keywords. -/
def arranged (ps : Params) : Params := keywords.filterMap fun k => (ps.lookup k).map (k, ·)

theorem lookup_gathered (ps : Params) (listed : List String) (k : String) :
    (listed.filterMap fun k => (ps.lookup k).map (k, ·)).lookup k =
      if k ∈ listed then ps.lookup k else none := by
  induction listed with
  | nil => rfl
  | cons k' rest ih =>
    rw [List.filterMap_cons]
    cases hLookup : ps.lookup k' with
    | none =>
      dsimp only [Option.map_none]
      rw [ih]
      by_cases hk : k = k'
      · simp [hk, hLookup]
      · simp [hk]
    | some v =>
      dsimp only [Option.map_some]
      rw [lookup_cons_ite, ih]
      by_cases hk : k = k'
      · simp [hk, hLookup]
      · simp [hk]

theorem lookup_arranged (hps : Known ps) (k : String) : (arranged ps).lookup k = ps.lookup k := by
  rw [arranged, lookup_gathered]
  split
  · rfl
  · rename_i hUnknown
    cases hLookup : ps.lookup k with
    | none => rfl
    | some v => exact absurd (hps _ (mem_of_lookup hLookup)) hUnknown

theorem gathered_eq_self {listed : List String} (hListed : listed.Nodup)
    (h : (ps.map Prod.fst).Sublist listed) :
    (listed.filterMap fun k => (ps.lookup k).map (k, ·)) = ps := by
  induction listed generalizing ps with
  | nil => rw [List.filterMap_nil, List.map_eq_nil_iff.mp (List.sublist_nil.mp h)]
  | cons k rest ih =>
    obtain ⟨hFirst, hRest⟩ := List.nodup_cons.mp hListed
    rw [List.filterMap_cons]
    rcases List.sublist_cons_iff.mp h with h | ⟨after, hKeys, h⟩
    · have hNone : ps.lookup k = none := by
        rw [List.lookup_eq_none_iff]
        intro kv hkv
        have hOther : k ≠ kv.1 := fun hk => hFirst (hk ▸ h.subset (List.mem_map_of_mem hkv))
        exact bne_iff_ne.mpr hOther
      rw [hNone]
      exact ih hRest h
    · obtain ⟨⟨k, v⟩, after, rfl, rfl, rfl⟩ := List.map_eq_cons_iff.mp hKeys
      have hAfter : (rest.filterMap fun k' => (((k, v) :: after).lookup k').map (k', ·)) =
          rest.filterMap fun k' => (after.lookup k').map (k', ·) := by
        apply List.filterMap_congr
        intro k' hk'
        rw [lookup_cons_ite, if_neg fun hk : k' = k => hFirst (hk ▸ hk')]
      rw [List.lookup_cons_self, hAfter, ih hRest h]
      rfl

/-- Parameters that already come in the order of the keywords stay as they are. -/
theorem arranged_eq_self (h : (ps.map Prod.fst).Sublist keywords) : arranged ps = ps :=
  gathered_eq_self once_keywords h

theorem lookup_map_plainEntry (ps : Params) (k : String) :
    (ps.map plainEntry).lookup k = (ps.lookup k).map .ok := by
  induction ps with
  | nil => rfl
  | cons kv rest ih =>
    rw [List.map_cons, plainEntry, lookup_cons_ite, ih, lookup_cons_ite]
    split <;> rfl

theorem latest_map_plainEntry (hOnce : (ps.map Prod.fst).Nodup) :
    latest (ps.map plainEntry) = (arranged ps).map plainEntry := by
  rw [latest, arranged, List.map_filterMap]
  congr 1
  funext k
  rw [← List.map_reverse, lookup_map_plainEntry, lookup_reverse hOnce]
  cases ps.lookup k <;> rfl

/-- What is written of parameters is read as these, in the order of the keywords. -/
theorem parse_write_arranged (hps : Sound ps) (hOnce : (ps.map Prod.fst).Nodup) :
    parse (write ps) = .ok (arranged ps) := by
  have hEntries : entries (write ps) = .ok (ps.map plainEntry) := entries_write hps
  rw [parse, hEntries]
  change collect (ps.map plainEntry) = _
  rw [collect_eq, latest_map_plainEntry hOnce, mapM_asText_plainEntry]

end ReplicaBootstrap.Conninfo
