import ReplicaBootstrap.Proofs.Conninfo.Readable

/-! # Masked connection strings

What is left of a connection string once its password is masked does not depend on the password,
wherever the masking stands: before the parameters are overlaid, written and read again, or after.
-/

namespace ReplicaBootstrap.Conninfo

open ReplicaBootstrap.Action

/-- The same parameters, except for the values of passwords. -/
def Alike (ps ps' : Params) : Prop :=
  List.Forall₂ (fun kv kv' => kv.1 = kv'.1 ∧ (kv.1 ≠ "password" → kv.2 = kv'.2)) ps ps'

theorem Alike.maskParams_eq {ps ps' : Params} (h : Alike ps ps') : maskParams ps = maskParams ps' := by
  induction h with
  | nil => rfl
  | @cons kv kv' rest rest' hHead hRest ih =>
    obtain ⟨k, v⟩ := kv
    obtain ⟨k', v'⟩ := kv'
    obtain ⟨rfl, hValue⟩ : k = k' ∧ (k ≠ "password" → v = v') := hHead
    change (k, _) :: maskParams rest = (k, _) :: maskParams rest'
    rw [ih]
    by_cases hk : k = "password"
    · rw [if_pos hk, if_pos hk]
    · rw [if_neg hk, if_neg hk, hValue hk]

theorem maskParams_set {keyword value : String} (hKeyword : keyword ≠ "password") (ps : Params) :
    maskParams (set keyword value ps) = set keyword value (maskParams ps) := by
  induction ps with
  | nil => simp [set, maskParams, hKeyword]
  | cons kv rest ih =>
    obtain ⟨k, v⟩ := kv
    have hRest : maskParams ((k, v) :: rest) =
        (k, if k = "password" then passwordMask else v) :: maskParams rest := rfl
    rw [set, hRest, set]
    split
    · rename_i hk
      change (k, _) :: maskParams rest = _
      rw [hk, if_neg hKeyword]
    · change (k, _) :: maskParams (set keyword value rest) = _
      rw [ih]

theorem maskParams_overlay {news : Params} (hNews : ∀ kv ∈ news, kv.1 ≠ "password") (ps : Params) :
    maskParams (overlay ps news) = overlay (maskParams ps) news := by
  induction news generalizing ps with
  | nil => rfl
  | cons kv rest ih =>
    have hRest := ih (fun kv' hkv' => hNews kv' (List.mem_cons_of_mem _ hkv')) (set kv.1 kv.2 ps)
    rw [maskParams_set (hNews kv (List.mem_cons_self ..))] at hRest
    exact hRest

/-! ## Masked entries -/

def maskEntry (e : Entry) : Entry := (e.1, if e.1 = "password" then .ok passwordMask else e.2)

/-- The passwords hold no zero character. -/
def Intact (ps : Params) : Prop := ∀ kv ∈ ps, kv.1 = "password" → '\x00' ∉ kv.2.toList

theorem readBack_maskParams {ps : Params} (hps : Intact ps) :
    readBack (maskParams ps) = (readBack ps).map (·.map maskEntry) := by
  induction ps with
  | nil => rfl
  | cons kv rest ih =>
    obtain ⟨k, v⟩ := kv
    have ih := ih fun kv' hkv' => hps kv' (List.mem_cons_of_mem _ hkv')
    change readBack ((k, _) :: maskParams rest) = _
    by_cases hk : k = "password"
    · have hNul : '\x00' ∉ v.toList := hps _ (List.mem_cons_self ..) hk
      rw [readBack, readBack, if_pos hk, if_neg (by decide), if_neg hNul, ih]
      cases readBack rest <;> simp [Except.map, maskEntry, hk]
    · rw [readBack, readBack, if_neg hk, ih]
      split
      · split
        · rfl
        · simp [Except.map, maskEntry, hk]
      · cases readBack rest <;> simp [Except.map, maskEntry, hk]

theorem lookup_map_maskEntry (es : List Entry) (k : String) :
    (es.map maskEntry).lookup k =
      (es.lookup k).map fun v => if k = "password" then .ok passwordMask else v := by
  induction es with
  | nil => rfl
  | cons e rest ih =>
    obtain ⟨k', v⟩ := e
    rw [List.map_cons, maskEntry, List.lookup_cons, List.lookup_cons]
    by_cases hk : k = k'
    · simp [hk]
    · have hOther : (k == k') = false := by simpa using hk
      simp only [hOther, ih]

theorem latest_map_maskEntry (es : List Entry) :
    latest (es.map maskEntry) = (latest es).map maskEntry := by
  rw [latest, latest, List.map_filterMap]
  congr 1
  funext k
  rw [← List.map_reverse, lookup_map_maskEntry]
  cases es.reverse.lookup k <;> rfl

theorem mapM_asText_maskEntry {es : List Entry} (h : ∀ e ∈ es, ∃ v, e.2 = .ok v) :
    (es.map maskEntry).mapM asText = (es.mapM asText).map maskParams := by
  induction es with
  | nil => rfl
  | cons e rest ih =>
    obtain ⟨k, v⟩ := e
    obtain ⟨v, rfl⟩ := h _ (List.mem_cons_self ..)
    have ih := ih fun e he => h e (List.mem_cons_of_mem _ he)
    have hMasked : asText (maskEntry (k, .ok v)) =
        .ok (k, if k = "password" then passwordMask else v) := by
      rw [maskEntry]
      split <;> rfl
    rw [List.map_cons, List.mapM_cons, List.mapM_cons, hMasked, ih]
    cases rest.mapM asText <;> rfl

theorem collect_map_maskEntry {es : List Entry} (h : ∀ e ∈ es, ∃ v, e.2 = .ok v) :
    collect (es.map maskEntry) = (collect es).map maskParams := by
  rw [collect_eq, collect_eq, latest_map_maskEntry,
    mapM_asText_maskEntry fun e he => h e (mem_of_mem_latest he).2]

/-! ## Masked strings -/

/-- A written string with its password masked is what is written of the masked parameters once they
have been read back. -/
theorem mask_write {ps : Params} {es : List Entry} (hps : Known ps) (hIntact : Intact ps)
    (h : readBack ps = .ok es) :
    ∃ shown, readBack (maskParams ps) >>= collect = .ok shown ∧ mask (write ps) = .ok (write shown) := by
  obtain ⟨ps', hCollect, hParse⟩ := parse_write hps h
  refine ⟨maskParams ps', ?_, mask_of_parse hParse⟩
  rw [readBack_maskParams hIntact, h]
  change collect (es.map maskEntry) = _
  rw [collect_map_maskEntry (readBack_texts h), hCollect]
  rfl

variable {dsn dsn' : String} {ps ps' : Params}

theorem mask_alike (hParse : parse dsn = .ok ps) (hParse' : parse dsn' = .ok ps')
    (h : Alike ps ps') : ∃ shown, mask dsn = .ok shown ∧ mask dsn' = .ok shown := by
  refine ⟨write (maskParams ps), mask_of_parse hParse, ?_⟩
  rw [mask_of_parse hParse', h.maskParams_eq]

theorem parse_empty : parse "" = .ok [] := by decide +kernel

theorem baseOf_parse (h : parse dsn = .ok ps) : baseOf (.text dsn) = .ok ps := by
  rw [baseOf_text]
  split
  · rename_i hEmpty
    rw [String.isEmpty_iff.mp hEmpty, parse_empty] at h
    cases h
    rfl
  · rw [h]
    rfl

/-- Two strings that differ in their passwords only are both refused, for the same reason, or extended to
strings that look the same once they are masked. -/
theorem extend_alike {news : Params} (hNews : Known news) (hOther : ∀ kv ∈ news, kv.1 ≠ "password")
    (hParse : parse dsn = .ok ps) (hParse' : parse dsn' = .ok ps') (h : Alike ps ps') :
    (∃ f, extend (.text dsn) news = .error f ∧ extend (.text dsn') news = .error f) ∨
      ∃ conninfo conninfo' shown, extend (.text dsn) news = .ok conninfo ∧
        extend (.text dsn') news = .ok conninfo' ∧ mask conninfo = .ok shown ∧
        mask conninfo' = .ok shown := by
  have hMasked : maskParams (overlay ps news) = maskParams (overlay ps' news) := by
    rw [maskParams_overlay hOther, maskParams_overlay hOther, h.maskParams_eq]
  have hFit {dsn : String} {ps : Params} (hParse : parse dsn = .ok ps) :
      Known (overlay ps news) ∧ Intact (overlay ps news) := by
    refine ⟨(parse_sound hParse).known.overlay hNews, fun kv hkv hk => ?_⟩
    rcases mem_overlay hkv with hkv | hkv
    · exact (parse_sound hParse kv hkv).2
    · exact absurd hk (hOther kv hkv)
  obtain ⟨hKnown, hIntact⟩ := hFit hParse
  obtain ⟨hKnown', hIntact'⟩ := hFit hParse'
  have hBack := readBack_maskParams hIntact
  rw [hMasked, readBack_maskParams hIntact'] at hBack
  rw [extend_known hNews, extend_known hNews, baseOf_parse hParse, baseOf_parse hParse']
  change (∃ f, ((readBack (overlay ps news)).mapError _).map _ = _ ∧
      ((readBack (overlay ps' news)).mapError _).map _ = _) ∨
    ∃ conninfo conninfo' shown, ((readBack (overlay ps news)).mapError _).map _ = _ ∧
      ((readBack (overlay ps' news)).mapError _).map _ = _ ∧ _
  cases hRead : readBack (overlay ps news) with
  | error e =>
    rw [hRead] at hBack
    cases hRead' : readBack (overlay ps' news) with
    | error e' =>
      rw [hRead'] at hBack
      cases hBack
      exact .inl ⟨_, rfl, rfl⟩
    | ok es' =>
      rw [hRead'] at hBack
      cases hBack
  | ok es =>
    rw [hRead] at hBack
    cases hRead' : readBack (overlay ps' news) with
    | error e' =>
      rw [hRead'] at hBack
      cases hBack
    | ok es' =>
      obtain ⟨shown, hShown, hMask⟩ := mask_write hKnown hIntact hRead
      obtain ⟨shown', hShown', hMask'⟩ := mask_write hKnown' hIntact' hRead'
      rw [hMasked, hShown'] at hShown
      cases hShown
      exact .inr ⟨_, _, _, rfl, rfl, hMask, hMask'⟩

end ReplicaBootstrap.Conninfo
