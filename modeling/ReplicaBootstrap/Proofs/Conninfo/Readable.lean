import ReplicaBootstrap.Proofs.Action
import ReplicaBootstrap.Proofs.Conninfo.Written
import ReplicaBootstrap.Proofs.Text.Utf8

/-! # Connection strings that can be read

The parameters of a string that can be read have known keywords and values without zero characters.
So they can be written again, with further parameters or with the password masked.
-/

namespace ReplicaBootstrap.Conninfo

open Text ReplicaBootstrap.Action

/-! ## Values without zero characters -/

/-- The values of entries are free of zero characters. -/
def Clean (es : List Entry) : Prop := ∀ e ∈ es, ∀ v, e.2 = .ok v → '\x00' ∉ v.toList

theorem clean_nil : Clean [] := fun _ h => by cases h

theorem clean_cons {e : Entry} {es : List Entry} (h : ∀ v, e.2 = .ok v → '\x00' ∉ v.toList)
    (h' : Clean es) : Clean (e :: es) := by
  intro x hx
  rcases List.mem_cons.mp hx with rfl | hx
  · exact h
  · exact h' x hx

theorem Clean.append {es es' : List Entry} (h : Clean es) (h' : Clean es') : Clean (es ++ es') := by
  intro e he
  rcases List.mem_append.mp he with he | he
  · exact h e he
  · exact h' e he

variable {cs : List Char}

theorem nul_not_mem_cons {c : Char} : '\x00' ∉ c :: cs ↔ '\x00' ≠ c ∧ '\x00' ∉ cs := by
  rw [List.mem_cons, not_or]

theorem not_mem_takeWhile (p : Char → Bool) (h : '\x00' ∉ cs) : '\x00' ∉ cs.takeWhile p :=
  fun hMem => h ((List.takeWhile_sublist p).subset hMem)

theorem not_mem_dropWhile (p : Char → Bool) (h : '\x00' ∉ cs) : '\x00' ∉ cs.dropWhile p :=
  fun hMem => h ((List.dropWhile_sublist p).subset hMem)

theorem not_mem_drop (n : Nat) (h : '\x00' ∉ cs) : '\x00' ∉ cs.drop n :=
  fun hMem => h (List.mem_of_mem_drop hMem)

/-! ## Keywords and values -/

theorem accept_clean {keyword value : String} {kv : String × String}
    (hValue : '\x00' ∉ value.toList) (h : accept keyword value = some kv) :
    '\x00' ∉ kv.2.toList := by
  unfold accept at h
  split at h
  · obtain rfl := Option.some.inj h
    dsimp only
    split
    · decide
    · decide
  · split at h
    · obtain rfl := Option.some.inj h
      exact hValue
    · cases h

theorem bareValue_clean (h : '\x00' ∉ cs) :
    '\x00' ∉ (bareValue cs).1 ∧ '\x00' ∉ (bareValue cs).2 := by
  fun_induction bareValue cs <;> simp_all

theorem quotedValue_clean {value after : List Char} (hcs : '\x00' ∉ cs)
    (h : quotedValue cs = some (value, after)) : '\x00' ∉ value ∧ '\x00' ∉ after := by
  fun_induction quotedValue cs generalizing value after with
  | case1 => cases h
  | case2 c rest ih =>
    obtain ⟨⟨v, a⟩, hRest, h⟩ := Option.map_eq_some_iff.mp h
    cases h
    simp only [List.mem_cons, not_or] at hcs
    obtain ⟨hValue, hAfter⟩ := ih hcs.2.2 hRest
    exact ⟨nul_not_mem_cons.mpr ⟨hcs.2.1, hValue⟩, hAfter⟩
  | case3 => cases h
  | case4 c rest =>
    cases h
    exact ⟨List.not_mem_nil, (nul_not_mem_cons.mp hcs).2⟩
  | case5 c rest _ _ _ ih =>
    obtain ⟨⟨v, a⟩, hRest, h⟩ := Option.map_eq_some_iff.mp h
    cases h
    obtain ⟨hc, hcs⟩ := nul_not_mem_cons.mp hcs
    obtain ⟨hValue, hAfter⟩ := ih hcs hRest
    exact ⟨nul_not_mem_cons.mpr ⟨hc, hValue⟩, hAfter⟩

theorem readValue_clean {value after : List Char} (hcs : '\x00' ∉ cs)
    (h : readValue cs = some (value, after)) : '\x00' ∉ value ∧ '\x00' ∉ after := by
  unfold readValue at h
  split at h
  · exact quotedValue_clean (nul_not_mem_cons.mp hcs).2 h
  · have hBare := bareValue_clean hcs
    rw [Option.some.inj h] at hBare
    exact hBare

theorem keyValueEntries_clean {es : List Entry} (hcs : '\x00' ∉ cs)
    (h : keyValueEntries cs = .ok es) : Clean es := by
  fun_induction keyValueEntries cs generalizing es with
  | case1 =>
    cases h
    exact clean_nil
  | case4 cs c tail hStart keyword rest hEquals value after hValue k v hAccept =>
    rename_i ih
    obtain ⟨more, hMore, h⟩ := ok_of_bind h
    cases h
    have hTail : '\x00' ∉ c :: tail := hStart ▸ not_mem_dropWhile _ hcs
    have hRest : '\x00' ∉ rest := by
      have := not_mem_dropWhile isAsciiBlank (not_mem_dropWhile isKeywordChar hTail)
      rw [hEquals] at this
      exact (nul_not_mem_cons.mp this).2
    obtain ⟨hValueClean, hAfter⟩ := readValue_clean (not_mem_dropWhile _ hRest) hValue
    apply clean_cons _ (ih hAfter hMore)
    intro w hw
    cases hw
    rw [← String.toList_ofList (l := value)] at hValueClean
    exact accept_clean hValueClean hAccept
  | case2 | case3 | case5 => cases h

/-! ## Parts of a URI -/

theorem hexValue?_lt {c : Char} {n : Nat} (h : hexValue? c = some n) : n < 16 := by
  have hLe {a b : Char} (hab : a ≤ b) : a.toNat ≤ b.toNat := UInt32.le_iff_toNat_le.mp hab
  simp only [hexValue?, Bool.and_eq_true, decide_eq_true_eq] at h
  split_ifs at h with hDigit hLower hUpper <;> cases h
  · have : c.toNat ≤ 57 := hLe hDigit.2
    omega
  · have : c.toNat ≤ 102 := hLe hLower.2
    omega
  · have : c.toNat ≤ 70 := hLe hUpper.2
    omega

theorem percentBytes_ne_zero {whole : String} {after : List Char} {bytes : List UInt8}
    (hcs : '\x00' ∉ cs) (h : percentBytes whole cs = .ok (bytes, after)) :
    ∀ b ∈ bytes, b ≠ 0 := by
  fun_induction percentBytes whole cs generalizing bytes after with
  | case1 | case6 =>
    cases h
    exact fun _ h => by cases h
  | case3 x y rest high low hLow hHigh hNonzero ih =>
    obtain ⟨⟨more, after'⟩, hMore, h⟩ := ok_of_bind h
    cases h
    simp only [List.mem_cons, not_or] at hcs
    intro b hb
    rcases List.mem_cons.mp hb with rfl | hb
    · have hHighLt := hexValue?_lt hHigh
      have hLowLt := hexValue?_lt hLow
      intro hZero
      apply hNonzero
      have hNat := congrArg UInt8.toNat hZero
      rw [UInt8.toNat_ofNat', Nat.mod_eq_of_lt (by omega)] at hNat
      exact hNat
    · exact ih hcs.2.2.2 hMore b hb
  | case7 c rest _ _ _ ih =>
    obtain ⟨⟨more, after'⟩, hMore, h⟩ := ok_of_bind h
    cases h
    obtain ⟨hc, hRest⟩ := nul_not_mem_cons.mp hcs
    intro b hb
    rcases List.mem_append.mp hb with hb | hb
    · exact ne_zero_of_mem_encodeUtf8 (Ne.symm hc) hb
    · exact ih hRest hMore b hb
  | case2 | case4 | case5 => cases h

theorem percentDecode_ne_zero {bytes : List UInt8} (hcs : '\x00' ∉ cs)
    (h : percentDecode cs = .ok bytes) : ∀ b ∈ bytes, b ≠ 0 := by
  obtain ⟨⟨more, after⟩, hBytes, h⟩ := ok_of_bind h
  dsimp only at h
  split at h
  · cases h
    exact percentBytes_ne_zero (not_mem_dropWhile _ hcs) hBytes
  · cases h

theorem partEntry_clean {keyword : String} {es : List Entry} (hcs : '\x00' ∉ cs)
    (h : partEntry keyword cs = .ok es) : Clean es := by
  unfold partEntry at h
  split at h
  · cases h
    exact clean_nil
  · obtain ⟨bytes, hBytes, h⟩ := ok_of_bind h
    cases h
    apply clean_cons _ clean_nil
    intro v hv
    exact nul_not_mem_decodeUtf8 (percentDecode_ne_zero hcs hBytes) hv

theorem userEntries_clean {es : List Entry} {rest : List Char} (hcs : '\x00' ∉ cs)
    (h : userEntries cs = .ok (es, rest)) : Clean es ∧ '\x00' ∉ rest := by
  unfold userEntries at h
  have hHead := not_mem_takeWhile (fun c => c ≠ '@' && c ≠ '/') hcs
  dsimp only at h
  split at h
  · rename_i more hDrop
    obtain ⟨user, hUser, h⟩ := ok_of_bind h
    obtain ⟨password, hPassword, h⟩ := ok_of_bind h
    cases h
    refine ⟨(partEntry_clean (not_mem_takeWhile _ hHead) hUser).append
      (partEntry_clean (not_mem_drop 1 (not_mem_dropWhile _ hHead)) hPassword), ?_⟩
    have hAll := not_mem_drop (cs.takeWhile fun c => c ≠ '@' && c ≠ '/').length hcs
    rw [hDrop] at hAll
    exact (nul_not_mem_cons.mp hAll).2
  · cases h
    exact ⟨clean_nil, hcs⟩

theorem readHost_clean {uri : String} {host rest : List Char} (hcs : '\x00' ∉ cs)
    (h : readHost uri cs = .ok (host, rest)) : '\x00' ∉ host ∧ '\x00' ∉ rest := by
  unfold readHost at h
  split at h
  · rename_i more
    have hMore := (nul_not_mem_cons.mp hcs).2
    dsimp only at h
    split at h
    · cases h
    · rename_i c after hDrop
      have hAfter : '\x00' ∉ c :: after := hDrop ▸ not_mem_drop _ hMore
      have hOk (hHost : Except.ok (more.takeWhile (· ≠ ']'), after) =
          (Except.ok (host, rest) : Except Error _)) : '\x00' ∉ host ∧ '\x00' ∉ rest := by
        cases hHost
        exact ⟨not_mem_takeWhile _ hMore, (nul_not_mem_cons.mp hAfter).2⟩
      split at h
      · cases h
      · split at h
        · exact hOk h
        · split at h
          · exact hOk h
          · cases h
  · cases h
    exact ⟨not_mem_takeWhile _ hcs, not_mem_drop _ hcs⟩

theorem readPort_clean (hcs : '\x00' ∉ cs) : '\x00' ∉ (readPort cs).1 ∧ '\x00' ∉ (readPort cs).2 := by
  unfold readPort
  split
  · have hMore := (nul_not_mem_cons.mp hcs).2
    exact ⟨not_mem_takeWhile _ hMore, not_mem_drop _ hMore⟩
  · exact ⟨List.not_mem_nil, hcs⟩

theorem readHosts_clean {uri : String} {list : HostList} (hcs : '\x00' ∉ cs)
    (h : readHosts uri cs = .ok list) :
    '\x00' ∉ list.hosts ∧ '\x00' ∉ list.ports ∧ '\x00' ∉ list.rest := by
  fun_induction readHosts uri cs generalizing list with
  | case1 => cases h
  | case2 cs host afterHost hHost port rest hPort =>
    rename_i ih
    obtain ⟨more, hMore, h⟩ := ok_of_bind h
    cases h
    obtain ⟨hHostClean, hAfterHost⟩ := readHost_clean hcs hHost
    obtain ⟨hPortClean, hRest⟩ := hPort ▸ readPort_clean hAfterHost
    obtain ⟨hHosts, hPorts, hLast⟩ := ih (nul_not_mem_cons.mp hRest).2 hMore
    have hComma : '\x00' ≠ ',' := by decide
    exact ⟨List.not_mem_append hHostClean (nul_not_mem_cons.mpr ⟨hComma, hHosts⟩),
      List.not_mem_append hPortClean (nul_not_mem_cons.mpr ⟨hComma, hPorts⟩), hLast⟩
  | case3 cs host afterHost hHost port rest _ hPort =>
    cases h
    obtain ⟨hHostClean, hAfterHost⟩ := readHost_clean hcs hHost
    obtain ⟨hPortClean, hRest⟩ := hPort ▸ readPort_clean hAfterHost
    exact ⟨hHostClean, hPortClean, hRest⟩

theorem mem_of_mem_splitChars {sep c : Char} {piece : List Char}
    (hPiece : piece ∈ splitChars sep cs) (hc : c ∈ piece) : c ∈ cs := by
  induction cs generalizing piece with
  | nil =>
    rw [splitChars, List.mem_singleton] at hPiece
    rw [hPiece] at hc
    exact hc
  | cons d rest ih =>
    rw [splitChars] at hPiece
    split at hPiece
    · rcases List.mem_cons.mp hPiece with rfl | hPiece
      · cases hc
      · exact List.mem_cons_of_mem _ (ih hPiece hc)
    · split at hPiece
      · rw [List.mem_singleton] at hPiece
        rw [hPiece] at hc
        exact List.mem_cons.mpr (.inl (List.mem_singleton.mp hc))
      · rename_i first pieces hSplit
        rw [hSplit] at ih
        rcases List.mem_cons.mp hPiece with rfl | hPiece
        · rcases List.mem_cons.mp hc with rfl | hc
          · exact List.mem_cons_self ..
          · exact List.mem_cons_of_mem _ (ih (List.mem_cons_self ..) hc)
        · exact List.mem_cons_of_mem _ (ih (List.mem_cons_of_mem _ hPiece) hc)

theorem queryEntry_clean {e : Entry} (hcs : '\x00' ∉ cs) (h : queryEntry cs = .ok e) :
    ∀ v, e.2 = .ok v → '\x00' ∉ v.toList := by
  unfold queryEntry at h
  split at h
  · rename_i keyword value hSplit
    obtain ⟨k, hKey, h⟩ := ok_of_bind h
    obtain ⟨v, hValue, h⟩ := ok_of_bind h
    dsimp only at h
    have hv : ∀ b ∈ v, b ≠ 0 := by
      apply percentDecode_ne_zero _ hValue
      have hPiece : value ∈ splitChars '=' cs := by
        rw [hSplit]
        exact List.mem_cons_of_mem _ (List.mem_singleton_self _)
      exact fun hMem => hcs (mem_of_mem_splitChars hPiece hMem)
    split at h
    · cases h
      intro w hw
      cases hw
      decide
    · split at h
      · split at h
        · cases h
          intro w hw
          cases hw
          split <;> decide
        · split at h
          · cases h
            exact fun _ hw => by cases hw
          · cases h
      · rename_i hDecode
        split at h
        · rename_i hAccept
          cases h
          intro w hw
          cases hw
          exact accept_clean (nul_not_mem_decodeUtf8 hv hDecode) hAccept
        · cases h
  · cases h
  · cases h

theorem queryEntries_clean {es : List Entry} (hcs : '\x00' ∉ cs)
    (h : queryEntries cs = .ok es) : Clean es := by
  fun_induction queryEntries cs generalizing es with
  | case1 =>
    cases h
    exact clean_nil
  | case2 c tail segment =>
    rename_i ih
    obtain ⟨entry, hEntry, h⟩ := ok_of_bind h
    obtain ⟨more, hMore, h⟩ := ok_of_bind h
    cases h
    exact clean_cons (queryEntry_clean (not_mem_takeWhile _ hcs) hEntry)
      (ih (not_mem_drop _ hcs) hMore)

theorem pathEntries_clean {es : List Entry} (hcs : '\x00' ∉ cs)
    (h : pathEntries cs = .ok es) : Clean es := by
  unfold pathEntries at h
  split at h
  · rename_i more
    have hMore := (nul_not_mem_cons.mp hcs).2
    obtain ⟨db, hDb, h⟩ := ok_of_bind h
    obtain ⟨query, hQuery, h⟩ := ok_of_bind h
    cases h
    exact (partEntry_clean (not_mem_takeWhile _ hMore) hDb).append
      (queryEntries_clean (not_mem_drop _ hMore) hQuery)
  · exact queryEntries_clean (nul_not_mem_cons.mp hcs).2 h
  · cases h
    exact clean_nil

theorem uriEntries_clean {uri : String} {es : List Entry} (hcs : '\x00' ∉ cs)
    (h : uriEntries uri cs = .ok es) : Clean es := by
  obtain ⟨⟨credentials, afterUser⟩, hUser, h⟩ := ok_of_bind h
  obtain ⟨list, hList, h⟩ := ok_of_bind h
  obtain ⟨host, hHost, h⟩ := ok_of_bind h
  obtain ⟨port, hPort, h⟩ := ok_of_bind h
  obtain ⟨path, hPath, h⟩ := ok_of_bind h
  cases h
  obtain ⟨hCredentials, hAfterUser⟩ := userEntries_clean hcs hUser
  obtain ⟨hHosts, hPorts, hRest⟩ := readHosts_clean hAfterUser hList
  exact ((hCredentials.append (partEntry_clean hHosts hHost)).append
    (partEntry_clean hPorts hPort)).append (pathEntries_clean hRest hPath)

/-! ## Whole strings -/

theorem entries_clean {dsn : String} {es : List Entry} (h : entries dsn = .ok es) : Clean es := by
  have hWhole : '\x00' ∉ dsn.toList.takeWhile (· ≠ '\x00') := by
    intro hMem
    have := List.mem_takeWhile_imp hMem
    simp at this
  unfold entries at h
  dsimp only at h
  split at h
  · rename_i body hScheme
    apply uriEntries_clean _ h
    obtain ⟨scheme, -, rfl⟩ := Option.map_eq_some_iff.mp hScheme
    exact not_mem_drop _ hWhole
  · exact keyValueEntries_clean hWhole h

/-- A keyword with the value that was set last, or with what is wrong with it. -/
abbrev asText : Entry → Except Error (String × String)
  | (k, .ok v) => .ok (k, v)
  | (_, .error e) => .error (.notText e)

theorem mapM_asText_ok {es : List Entry} {ps : Params} (h : es.mapM asText = .ok ps) :
    ∀ kv ∈ ps, (kv.1, .ok kv.2) ∈ es := by
  intro kv hkv
  obtain ⟨⟨k, v⟩, hMem, h⟩ := ok_of_mapM h kv hkv
  cases v <;> cases h
  exact hMem

theorem mapM_asText_error {es : List Entry} {error : Error} (h : es.mapM asText = .error error) :
    ∃ k e, error = .notText e ∧ (k, .error e) ∈ es := by
  obtain ⟨⟨k, v⟩, hMem, h⟩ := error_of_mapM h
  cases v <;> cases h
  exact ⟨k, _, rfl, hMem⟩

/-- The entries that count, in the order of the keywords. -/
abbrev latest (es : List Entry) : List Entry :=
  keywords.filterMap fun k => (es.reverse.lookup k).map (k, ·)

theorem collect_eq (es : List Entry) : collect es = (latest es).mapM asText := rfl

theorem mem_of_mem_latest {es : List Entry} {e : Entry} (h : e ∈ latest es) :
    e.1 ∈ keywords ∧ e ∈ es := by
  obtain ⟨k, hk, h⟩ := List.mem_filterMap.mp h
  obtain ⟨v, hLookup, rfl⟩ := Option.map_eq_some_iff.mp h
  obtain ⟨before, after, hSplit, -⟩ := List.lookup_eq_some_iff.mp hLookup
  refine ⟨hk, List.mem_reverse.mp ?_⟩
  rw [hSplit]
  exact List.mem_append_right _ (List.mem_cons_self ..)

theorem parse_sound {dsn : String} {ps : Params} (h : parse dsn = .ok ps) : Sound ps := by
  obtain ⟨es, hEntries, h⟩ := ok_of_bind h
  rw [collect_eq] at h
  intro kv hkv
  obtain ⟨hk, hMem⟩ := mem_of_mem_latest (mapM_asText_ok h kv hkv)
  exact ⟨hk, entries_clean hEntries _ hMem kv.2 rfl⟩

theorem parse_eq_collect {dsn : String} {es : List Entry} (h : entries dsn = .ok es) :
    parse dsn = collect es := by
  rw [parse, h]
  rfl

/-- Of a string that can be read, a value may still be no text. -/
theorem parse_of_entries {dsn : String} {es : List Entry} (h : entries dsn = .ok es) :
    (∃ ps, parse dsn = .ok ps) ∨ ∃ e, parse dsn = .error (.notText e) := by
  rw [parse_eq_collect h]
  cases hCollect : collect es with
  | ok ps => exact .inl ⟨ps, rfl⟩
  | error error =>
    rw [collect_eq] at hCollect
    obtain ⟨k, e, rfl, -⟩ := mapM_asText_error hCollect
    exact .inr ⟨e, rfl⟩

theorem readBack_texts {ps : Params} {es : List Entry} (h : readBack ps = .ok es) :
    ∀ e ∈ es, ∃ v, e.2 = .ok v := by
  induction ps generalizing es with
  | nil =>
    cases h
    exact fun _ he => by cases he
  | cons kv rest ih =>
    rw [readBack] at h
    split at h
    · split at h
      · cases h
      · cases h
        intro e he
        exact ⟨_, by rw [List.mem_singleton.mp he]⟩
    · cases hRest : readBack rest with
      | error error =>
        rw [hRest] at h
        cases h
      | ok more =>
        rw [hRest] at h
        cases h
        intro e he
        rcases List.mem_cons.mp he with rfl | he
        · exact ⟨_, rfl⟩
        · exact ih hRest e he

theorem collect_texts {es : List Entry} (h : ∀ e ∈ es, ∃ v, e.2 = .ok v) :
    ∃ ps, collect es = .ok ps := by
  cases hCollect : collect es with
  | ok ps => exact ⟨ps, rfl⟩
  | error error =>
    rw [collect_eq] at hCollect
    obtain ⟨k, e, -, hMem⟩ := mapM_asText_error hCollect
    obtain ⟨v, hv⟩ := h _ (mem_of_mem_latest hMem).2
    cases hv

/-- What was read back once has texts for values. -/
theorem parse_write {ps : Params} {es : List Entry} (hps : Known ps) (h : readBack ps = .ok es) :
    ∃ ps', collect es = .ok ps' ∧ parse (write ps) = .ok ps' := by
  obtain ⟨ps', hCollect⟩ := collect_texts (readBack_texts h)
  refine ⟨ps', hCollect, ?_⟩
  rw [parse, entries_write_known hps, h]
  exact hCollect

/-! ## Extending and masking -/

theorem mem_set {ps : Params} {keyword value : String} {kv : String × String}
    (h : kv ∈ set keyword value ps) : kv = (keyword, value) ∨ kv ∈ ps := by
  induction ps with
  | nil => exact .inl (List.mem_singleton.mp h)
  | cons kv' rest ih =>
    rw [Conninfo.set] at h
    split at h
    · rename_i hSame
      rcases List.mem_cons.mp h with rfl | h
      · exact .inl (by rw [hSame])
      · exact .inr (List.mem_cons_of_mem _ h)
    · rcases List.mem_cons.mp h with rfl | h
      · exact .inr (List.mem_cons_self ..)
      · exact (ih h).imp_right (List.mem_cons_of_mem _)

theorem mem_overlay {ps news : Params} {kv : String × String} (h : kv ∈ overlay ps news) :
    kv ∈ ps ∨ kv ∈ news := by
  induction news generalizing ps with
  | nil => exact .inl h
  | cons kv' rest ih =>
    rcases ih h with h | h
    · exact (mem_set h).symm.imp_right fun h => List.mem_cons.mpr (.inl h)
    · exact .inr (List.mem_cons_of_mem _ h)

theorem Known.overlay {ps news : Params} (hps : Known ps) (hNews : Known news) :
    Known (overlay ps news) := fun kv hkv => (mem_overlay hkv).elim (hps kv) (hNews kv)

theorem Sound.overlay {ps news : Params} (hps : Sound ps) (hNews : Sound news) :
    Sound (overlay ps news) := fun kv hkv => (mem_overlay hkv).elim (hps kv) (hNews kv)

theorem Sound.maskParams {ps : Params} (hps : Sound ps) : Sound (maskParams ps) := by
  intro kv hkv
  obtain ⟨⟨k, v⟩, hMem, rfl⟩ := List.mem_map.mp hkv
  obtain ⟨hk, hv⟩ := hps _ hMem
  refine ⟨hk, ?_⟩
  dsimp only
  split
  · decide
  · exact hv

theorem mask_of_parse {dsn : String} {ps : Params} (h : parse dsn = .ok ps) :
    mask dsn = .ok (write (maskParams ps)) := by
  rw [mask, h]
  dsimp only
  rw [writeChecked_eq (parse_sound h).maskParams]
  rfl

/-- Masking fails only for a value that is no text. -/
theorem mask_error {dsn : String} {f : Fault} (h : mask dsn = .error f) :
    ∃ e, parse dsn = .error (.notText e) ∧ f = (Error.notText e).fault := by
  cases hParse : parse dsn with
  | ok ps =>
    rw [mask_of_parse hParse] at h
    cases h
  | error error =>
    rw [mask, hParse] at h
    cases error with
    | notText e =>
      cases h
      exact ⟨e, rfl, rfl⟩
    | _ => cases h

/-- The parameters that a connection string is extended from. -/
def baseOf (dsn : Value) : Except Fault Params :=
  if dsn.isGiven then
    match dsn with
    | .text s => (parse s).mapError Error.fault
    | v => .error (notEncodable v)
  else pure []

theorem extend_eq (dsn : Value) (news : Params) :
    extend dsn news =
      baseOf dsn >>= fun base => (writeChecked (overlay base news)).mapError Error.fault := by
  unfold extend baseOf
  by_cases hGiven : dsn.isGiven = true
  · rw [if_pos hGiven, if_pos hGiven]
    cases dsn <;> rfl
  · rw [if_neg hGiven, if_neg hGiven]

theorem baseOf_text (s : String) :
    baseOf (.text s) = if s.isEmpty then .ok [] else (parse s).mapError Error.fault := by
  rw [baseOf, Value.isGiven]
  cases s.isEmpty <;> rfl

theorem baseOf_sound {dsn : Value} {ps : Params} (h : baseOf dsn = .ok ps) : Sound ps := by
  have hNone (hEmpty : (Except.ok [] : Except Fault Params) = .ok ps) : Sound ps := by
    cases hEmpty
    exact fun _ h => by cases h
  match dsn with
  | .text s =>
    rw [baseOf_text] at h
    split at h
    · exact hNone h
    · cases hParse : parse s with
      | ok ps' =>
        rw [hParse] at h
        cases h
        exact parse_sound hParse
      | error =>
        rw [hParse] at h
        cases h
  | .null | .bool _ | .int _ | .real _ | .bytes _ | .date _ | .moment _ | .list _ | .pair _ _
  | .map _ | .set _ | .again _ =>
    unfold baseOf at h
    split at h
    · cases h
    · exact hNone h

theorem extend_known {dsn : Value} {news : Params} (hNews : Known news) :
    extend dsn news = baseOf dsn >>= fun base =>
      ((readBack (overlay base news)).mapError Error.fault).map fun _ =>
        write (overlay base news) := by
  rw [extend_eq]
  cases hBase : baseOf dsn with
  | error f => rfl
  | ok base =>
    change (writeChecked (overlay base news)).mapError Error.fault = _
    rw [writeChecked_known ((baseOf_sound hBase).known.overlay hNews)]
    change _ = ((readBack (overlay base news)).mapError Error.fault).map _
    cases readBack (overlay base news) <;> rfl

/-- What was extended can be masked. -/
theorem mask_extended {dsn : Value} {news : Params} {conninfo : String} (hNews : Known news)
    (h : extend dsn news = .ok conninfo) : ∃ masked, mask conninfo = .ok masked := by
  rw [extend_known hNews] at h
  obtain ⟨base, hBase, h⟩ := ok_of_bind h
  cases hBack : readBack (overlay base news) with
  | error error =>
    rw [hBack] at h
    cases h
  | ok es =>
    rw [hBack] at h
    cases h
    obtain ⟨ps, -, hParse⟩ := parse_write ((baseOf_sound hBase).known.overlay hNews) hBack
    exact ⟨_, mask_of_parse hParse⟩

/-- A string that can be read can be extended, if its values are texts. -/
theorem extend_error {dsn : String} {es : List Entry} {news : Params} {f : Fault}
    (hEntries : entries dsn = .ok es) (hNews : Sound news)
    (h : extend (.text dsn) news = .error f) :
    ∃ e, parse dsn = .error (.notText e) ∧ f = (Error.notText e).fault := by
  rw [extend_eq] at h
  cases hBase : baseOf (.text dsn) with
  | ok base =>
    rw [hBase] at h
    change (writeChecked (overlay base news)).mapError Error.fault = .error f at h
    rw [writeChecked_eq ((baseOf_sound hBase).overlay hNews)] at h
    cases h
  | error f' =>
    rw [hBase] at h
    cases h
    rw [baseOf_text] at hBase
    split at hBase
    · cases hBase
    · rcases parse_of_entries hEntries with ⟨ps, hParse⟩ | ⟨e, hParse⟩
      · rw [hParse] at hBase
        cases hBase
      · rw [hParse] at hBase
        cases hBase
        exact ⟨e, hParse, rfl⟩

end ReplicaBootstrap.Conninfo
