import Mathlib.Data.List.Infix
import Mathlib.Data.List.TakeWhile
import ReplicaBootstrap.Conninfo

/-! # Connection strings that were written

What is written of parameters is read again as these parameters, whatever their values hold but a
zero character. A zero character ends what is read, within a quoted value as well.
-/

namespace ReplicaBootstrap.Conninfo

open Text

/-! ## Values -/

/-- What follows a value in a list of settings. -/
def EndsValue (tail : List Char) : Prop := tail = [] ∨ ∃ rest, tail = ' ' :: rest

theorem bareValue_cons {c : Char} (hc : c ≠ '\\') (hBlank : isAsciiBlank c = false)
    (rest : List Char) :
    bareValue (c :: rest) = (c :: (bareValue rest).1, (bareValue rest).2) := by
  rw [bareValue.eq_def]
  split
  · contradiction
  · simp_all
  · simp_all

theorem bareValue_escaped {value tail : List Char} (hValue : ∀ c ∈ value, isAsciiBlank c = false)
    (hTail : EndsValue tail) :
    bareValue (value.flatMap escapeChar ++ tail) = (value, tail.tail) := by
  induction value with
  | nil =>
    rcases hTail with rfl | ⟨rest, rfl⟩
    · rfl
    · rfl
  | cons c value ih =>
    have ih := ih fun d hd => hValue d (List.mem_cons_of_mem _ hd)
    have hBlank := hValue c (List.mem_cons_self ..)
    rw [List.flatMap_cons, List.append_assoc, escapeChar]
    by_cases hc : (c = '\\' || c = '\'') = true
    · rw [if_pos hc, List.cons_append, List.cons_append, List.nil_append, bareValue, ih]
    · rw [if_neg hc, List.cons_append, List.nil_append]
      rw [bareValue_cons _ hBlank, ih]
      rintro rfl
      exact hc rfl

theorem quotedValue_cons {c : Char} (hc : ¬ (c = '\\' || c = '\'') = true) (rest : List Char) :
    quotedValue (c :: rest) = (quotedValue rest).map fun (value, after) => (c :: value, after) := by
  simp only [Bool.or_eq_true, decide_eq_true_eq, not_or] at hc
  rw [quotedValue.eq_def]
  split
  · contradiction
  · simp_all
  · simp_all

theorem quotedValue_escaped (value rest : List Char) :
    quotedValue (value.flatMap escapeChar ++ '\'' :: rest) = some (value, rest) := by
  induction value with
  | nil => rfl
  | cons c value ih =>
    rw [List.flatMap_cons, List.append_assoc, escapeChar]
    by_cases hc : (c = '\\' || c = '\'') = true
    · rw [if_pos hc, List.cons_append, List.cons_append, List.nil_append, quotedValue, ih]
      rfl
    · rw [if_neg hc, List.cons_append, List.nil_append, quotedValue_cons hc, ih]
      rfl

theorem quotedValue_unclosed (value : List Char) :
    quotedValue (value.flatMap escapeChar) = none := by
  induction value with
  | nil => rfl
  | cons c value ih =>
    rw [List.flatMap_cons, escapeChar]
    by_cases hc : (c = '\\' || c = '\'') = true
    · rw [if_pos hc, List.cons_append, List.cons_append, List.nil_append, quotedValue, ih]
      rfl
    · rw [if_neg hc, List.cons_append, List.nil_append, quotedValue_cons hc, ih]
      rfl

theorem readValue_escaped {value tail : List Char} (hValue : ∀ c ∈ value, isAsciiBlank c = false)
    (hTail : EndsValue tail) :
    readValue (value.flatMap escapeChar ++ tail) = some (value, tail.tail) := by
  have hRead : readValue (value.flatMap escapeChar ++ tail) =
      some (bareValue (value.flatMap escapeChar ++ tail)) := by
    cases value with
    | nil =>
      rcases hTail with rfl | ⟨rest, rfl⟩
      · rfl
      · rfl
    | cons c value =>
      rw [List.flatMap_cons, escapeChar]
      split
      · rfl
      · rename_i hc
        simp only [Bool.or_eq_true, decide_eq_true_eq, not_or] at hc
        unfold readValue
        split
        · simp_all
        · rfl
  rw [hRead, bareValue_escaped hValue hTail]

theorem escaped_any_isBlank (value : List Char) :
    (value.flatMap escapeChar).any isBlank = value.any isBlank := by
  have hBackslash : isBlank '\\' = false := by decide
  rw [List.any_flatMap]
  congr 1
  funext c
  rw [escapeChar]
  split
  · rw [List.any_cons, List.any_cons, List.any_nil, hBackslash, Bool.false_or, Bool.or_false]
  · rw [List.any_cons, List.any_nil, Bool.or_false]

theorem writeValue_of_ne_nil {value : List Char} (h : value ≠ []) :
    writeValue value =
      if value.any isBlank then '\'' :: (value.flatMap escapeChar ++ ['\''])
      else value.flatMap escapeChar := by
  rw [writeValue, List.isEmpty_eq_false_iff.mpr h, if_neg Bool.false_ne_true]
  dsimp only
  rw [escaped_any_isBlank]
  rfl

theorem not_blank_of_any {value : List Char} (h : ¬ value.any isBlank = true) :
    ∀ c ∈ value, isAsciiBlank c = false := by
  intro c hc
  rw [Bool.eq_false_iff]
  intro hBlank
  exact h (List.any_eq_true.mpr ⟨c, hc, isBlank_of_isAsciiBlank hBlank⟩)

/-- No blank is skipped before an escaped value that holds none. -/
theorem escaped_dropWhile {value tail : List Char} (hValue : ∀ c ∈ value, isAsciiBlank c = false)
    (hTail : value = [] → tail = []) :
    (value.flatMap escapeChar ++ tail).dropWhile isAsciiBlank = value.flatMap escapeChar ++ tail := by
  cases value with
  | nil =>
    rw [hTail rfl]
    rfl
  | cons c value =>
    have hc := hValue c (List.mem_cons_self ..)
    rw [List.flatMap_cons, escapeChar]
    split
    · rfl
    · rw [List.cons_append, List.cons_append, List.dropWhile_cons_of_neg (by simp [hc])]

/-- A value is read up to its end; a blank after it may be left. -/
theorem readValue_writeValue (value : List Char) {tail : List Char} (hTail : EndsValue tail) :
    ∃ after, readValue ((writeValue value ++ tail).dropWhile isAsciiBlank) = some (value, after) ∧
      (after = tail ∨ after = tail.tail) := by
  by_cases hEmpty : value = []
  · rw [hEmpty]
    exact ⟨tail, rfl, .inl rfl⟩
  rw [writeValue_of_ne_nil hEmpty]
  split
  · refine ⟨tail, ?_, .inl rfl⟩
    rw [List.cons_append, List.append_assoc]
    exact quotedValue_escaped value tail
  · rename_i hBare
    have hValue := not_blank_of_any hBare
    refine ⟨tail.tail, ?_, .inr rfl⟩
    rw [escaped_dropWhile hValue fun h => absurd h hEmpty, readValue_escaped hValue hTail]

/-! ## Strings that end at a zero character -/

def untilNul (cs : List Char) : List Char := cs.takeWhile (· ≠ '\x00')

theorem untilNul_append {cs : List Char} (h : '\x00' ∉ cs) (tail : List Char) :
    untilNul (cs ++ tail) = cs ++ untilNul tail := by
  apply List.takeWhile_append_of_pos
  intro c hc
  rw [decide_eq_true_eq]
  rintro rfl
  exact h hc

theorem untilNul_cons {c : Char} (h : c ≠ '\x00') (tail : List Char) :
    untilNul (c :: tail) = c :: untilNul tail :=
  untilNul_append (by simpa using h.symm : '\x00' ∉ [c]) tail

theorem mem_escaped {value : List Char} {c : Char} (h : c ∈ value.flatMap escapeChar) :
    c = '\\' ∨ c ∈ value := by
  obtain ⟨d, hd, hc⟩ := List.mem_flatMap.mp h
  unfold escapeChar at hc
  split at hc
  · rcases List.mem_cons.mp hc with hc | hc
    · exact .inl hc
    · rw [List.mem_singleton.mp hc]
      exact .inr hd
  · rw [List.mem_singleton.mp hc]
    exact .inr hd

theorem nul_not_mem_escaped {value : List Char} (h : '\x00' ∉ value) :
    '\x00' ∉ value.flatMap escapeChar := by
  intro hMem
  rcases mem_escaped hMem with hBackslash | hMem
  · revert hBackslash
    decide
  · exact h hMem

theorem untilNul_escaped {value : List Char} (h : '\x00' ∈ value) (tail : List Char) :
    untilNul (value.flatMap escapeChar ++ tail) = (untilNul value).flatMap escapeChar := by
  induction value with
  | nil => cases h
  | cons c value ih =>
    by_cases hc : c = '\x00'
    · rw [hc]
      rfl
    · have hHead : '\x00' ∉ [c].flatMap escapeChar :=
        nul_not_mem_escaped (by simpa using Ne.symm hc)
      rw [List.flatMap_singleton] at hHead
      rw [List.flatMap_cons, List.append_assoc, untilNul_append hHead,
        ih ((List.mem_cons.mp h).resolve_left (Ne.symm hc)), untilNul_cons hc, List.flatMap_cons]

theorem nul_not_mem_writeValue {value : List Char} (h : '\x00' ∉ value) :
    '\x00' ∉ writeValue value := by
  by_cases hEmpty : value = []
  · rw [hEmpty]
    decide
  · rw [writeValue_of_ne_nil hEmpty]
    have hEscaped := nul_not_mem_escaped h
    split
    · simpa using hEscaped
    · exact hEscaped

/-- A value that holds a zero character is read up to there, or not at all when it was quoted. -/
theorem readValue_cut {value : List Char} (h : '\x00' ∈ value) (tail : List Char) :
    readValue ((untilNul (writeValue value ++ tail)).dropWhile isAsciiBlank) =
      if value.any isBlank then none else some (untilNul value, []) := by
  rw [writeValue_of_ne_nil (List.ne_nil_of_mem h)]
  split
  · rw [List.cons_append, List.append_assoc, untilNul_cons (by decide), untilNul_escaped h]
    exact quotedValue_unclosed (untilNul value)
  · rename_i hBare
    have hValue : ∀ c ∈ untilNul value, isAsciiBlank c = false := fun c hc =>
      not_blank_of_any hBare c ((List.takeWhile_sublist _).subset hc)
    have hRead := readValue_escaped hValue (.inl rfl)
    have hDrop := escaped_dropWhile hValue fun _ => (rfl : ([] : List Char) = [])
    rw [List.append_nil] at hRead hDrop
    rw [untilNul_escaped h, hDrop, hRead]
    rfl

/-! ## Settings -/

/-- Keywords are plain words. -/
theorem keyword_chars : ∀ k ∈ keywords, k.toList ≠ [] ∧
    ∀ c ∈ k.toList, isKeywordChar c = true ∧ c ≠ '\x00' ∧ c ≠ ':' := by
  have hAll : (keywords.all fun k => !k.toList.isEmpty &&
      k.toList.all fun c => isKeywordChar c && (c != '\x00' && c != ':')) = true := by
    decide +kernel
  intro k hk
  have hKeyword := List.all_eq_true.mp hAll k hk
  simpa [List.isEmpty_eq_false_iff] using hKeyword

theorem accept_of_mem_keywords {k : String} (hk : k ∈ keywords) (v : String) :
    accept k v = some (k, v) := by
  have hOld : k ≠ "requiressl" := by
    rintro rfl
    revert hk
    decide
  rw [accept, if_neg hOld, if_pos (List.contains_iff_mem.mpr hk)]

theorem keyValueEntries_nil : keyValueEntries [] = .ok [] := by
  rw [keyValueEntries.eq_def]
  rfl

theorem keyValueEntries_blank (cs : List Char) :
    keyValueEntries (' ' :: cs) = keyValueEntries cs := by
  rw [keyValueEntries.eq_def, keyValueEntries.eq_def cs]
  rfl

/-- A keyword is read off the front, then its value. -/
theorem keyValueEntries_keyword {k : String} (hk : k ∈ keywords) (body : List Char) :
    keyValueEntries (k.toList ++ '=' :: body) =
      match readValue (body.dropWhile isAsciiBlank) with
      | none => .error .unterminatedQuote
      | some (value, after) =>
        (keyValueEntries after).map ((k, .ok (String.ofList value)) :: ·) := by
  obtain ⟨hNonempty, hWord⟩ := keyword_chars k hk
  have hKey : ∀ c ∈ k.toList, isKeywordChar c = true := fun c hc => (hWord c hc).1
  obtain ⟨c, rest, hChars⟩ := List.exists_cons_of_ne_nil hNonempty
  have hBlank : ¬ isAsciiBlank c = true := by
    have hc := hKey c (hChars ▸ List.mem_cons_self ..)
    simp only [isKeywordChar, Bool.and_eq_true, Bool.not_eq_true'] at hc
    rw [hc.2]
    exact Bool.false_ne_true
  have hStart : (k.toList ++ '=' :: body).dropWhile isAsciiBlank = c :: (rest ++ '=' :: body) := by
    rw [hChars, List.cons_append, List.dropWhile_cons_of_neg hBlank]
  have hEquals : ((c :: (rest ++ '=' :: body)).dropWhile isKeywordChar).dropWhile isAsciiBlank =
      '=' :: body := by
    rw [← List.cons_append, ← hChars, List.dropWhile_append_of_pos hKey]
    rfl
  have hKeyword : String.ofList ((c :: (rest ++ '=' :: body)).takeWhile isKeywordChar) = k := by
    rw [← List.cons_append, ← hChars, List.takeWhile_append_of_pos hKey]
    simp [isKeywordChar]
  rw [keyValueEntries.eq_def]
  split
  · simp_all
  · rename_i c' tail' hStart'
    rw [hStart] at hStart'
    obtain ⟨rfl, rfl⟩ := List.cons.inj hStart'
    dsimp only
    split
    · rename_i rest' hEquals'
      rw [hEquals] at hEquals'
      obtain ⟨-, rfl⟩ := List.cons.inj hEquals'
      rw [hKeyword]
      split
      · rename_i hValue
        rw [hValue]
      · rename_i value after hValue
        rw [hValue, accept_of_mem_keywords hk]
        rfl
    · simp_all

/-- One setting is read off the front. -/
theorem keyValueEntries_setting {k v : String} (hk : k ∈ keywords) {tail : List Char}
    (hTail : EndsValue tail) :
    keyValueEntries (k.toList ++ '=' :: (writeValue v.toList ++ tail)) =
      (keyValueEntries tail).map ((k, .ok v) :: ·) := by
  obtain ⟨after, hRead, hAfter⟩ := readValue_writeValue v.toList hTail
  have hRest : keyValueEntries after = keyValueEntries tail := by
    rcases hAfter with rfl | rfl
    · rfl
    · rcases hTail with rfl | ⟨rest, rfl⟩
      · rfl
      · exact (keyValueEntries_blank rest).symm
  rw [keyValueEntries_keyword hk, hRead]
  dsimp only
  rw [hRest, String.ofList_toList]

/-- What begins with a keyword is no URI. -/
theorem afterScheme?_keyword {k : String} (hk : k ∈ keywords) (body : List Char) :
    afterScheme? (k.toList ++ '=' :: body) = none := by
  have hStart : k.toList ++ ['='] <+: k.toList ++ '=' :: body :=
    ⟨body, by rw [List.append_assoc, List.singleton_append]⟩
  have hSchemes : ∀ scheme ∈ uriSchemes, '=' ∉ scheme.toList ∧ ':' ∈ scheme.toList := by
    decide +kernel
  unfold afterScheme?
  rw [Option.map_eq_none_iff, List.find?_eq_none]
  intro scheme hScheme hPrefix
  obtain ⟨hEquals, hColon⟩ := hSchemes scheme hScheme
  rcases List.prefix_or_prefix_of_prefix hStart (List.isPrefixOf_iff_prefix.mp hPrefix) with h | h
  · exact hEquals (h.subset (List.mem_append_right _ (List.mem_singleton_self _)))
  · rcases List.mem_append.mp (h.subset hColon) with h | h
    · exact ((keyword_chars _ hk).2 _ h).2.2 rfl
    · revert h
      decide

/-! ## Parameters -/

/-- Parameters with known keywords. -/
def Known (ps : Params) : Prop := ∀ kv ∈ ps, kv.1 ∈ keywords

/-- What is read of parameters that were written. -/
def readBack : Params → Except Error (List Entry)
  | [] => .ok []
  | (k, v) :: rest =>
    if '\x00' ∈ v.toList then
      if v.toList.any isBlank then .error .unterminatedQuote
      else .ok [(k, .ok (String.ofList (untilNul v.toList)))]
    else (readBack rest).map ((k, .ok v) :: ·)

def setting (kv : String × String) : List Char := kv.1.toList ++ '=' :: writeValue kv.2.toList

theorem write_toList (ps : Params) : (write ps).toList = [' '].intercalate (ps.map setting) := by
  rw [write, String.toList_intercalate, List.map_map]
  congr 1
  apply List.map_congr_left
  intro kv _
  simp [setting, String.toList_append]

/-- The settings after the first one, with the blank before them. -/
theorem write_cons (k v : String) (rest : Params) : ∃ tail,
    (write ((k, v) :: rest)).toList = k.toList ++ '=' :: (writeValue v.toList ++ tail) ∧
    (rest = [] ∧ tail = [] ∨ tail = ' ' :: (write rest).toList) := by
  simp only [write_toList]
  cases rest with
  | nil => exact ⟨[], by simp [setting], .inl ⟨rfl, rfl⟩⟩
  | cons kv rest =>
    refine ⟨' ' :: [' '].intercalate ((kv :: rest).map setting), ?_, .inr rfl⟩
    rw [List.map_cons, List.map_cons, List.intercalate_cons_cons, setting]
    simp only [List.append_assoc, List.cons_append, List.nil_append]

theorem untilNul_keyword {k : String} (hk : k ∈ keywords) (body : List Char) :
    untilNul (k.toList ++ '=' :: body) = k.toList ++ '=' :: untilNul body := by
  rw [untilNul_append fun h => ((keyword_chars k hk).2 _ h).2.1 rfl, untilNul_cons (by decide)]

theorem keyValueEntries_write {ps : Params} (hps : Known ps) :
    keyValueEntries (untilNul (write ps).toList) = readBack ps := by
  induction ps with
  | nil => exact keyValueEntries_nil
  | cons kv rest ih =>
    obtain ⟨k, v⟩ := kv
    have hk : k ∈ keywords := hps _ (List.mem_cons_self ..)
    have ih := ih fun kv hkv => hps kv (List.mem_cons_of_mem _ hkv)
    obtain ⟨tail, hWritten, hTail⟩ := write_cons k v rest
    rw [hWritten, untilNul_keyword hk, readBack]
    by_cases hNul : '\x00' ∈ v.toList
    · rw [if_pos hNul, keyValueEntries_keyword hk, readValue_cut hNul]
      by_cases hBlank : v.toList.any isBlank = true
      · rw [if_pos hBlank, if_pos hBlank]
      · rw [if_neg hBlank, if_neg hBlank]
        dsimp only
        rw [keyValueEntries_nil]
        rfl
    · rw [if_neg hNul, untilNul_append (nul_not_mem_writeValue hNul), ← ih]
      rcases hTail with ⟨rfl, rfl⟩ | rfl
      · exact keyValueEntries_setting hk (.inl rfl)
      · rw [untilNul_cons (by decide), keyValueEntries_setting hk (.inr ⟨_, rfl⟩),
          keyValueEntries_blank]

/-- What is written is read again up to the first zero character. -/
theorem entries_write_known {ps : Params} (hps : Known ps) : entries (write ps) = readBack ps := by
  have hScheme : afterScheme? (untilNul (write ps).toList) = none := by
    match ps with
    | [] => decide +kernel
    | (k, v) :: rest =>
      have hk : k ∈ keywords := hps _ (List.mem_cons_self ..)
      obtain ⟨tail, hWritten, -⟩ := write_cons k v rest
      rw [hWritten, untilNul_keyword hk]
      exact afterScheme?_keyword hk _
  rw [← keyValueEntries_write hps]
  unfold entries
  dsimp only
  split
  · rename_i body hBody
    cases hBody.symm.trans hScheme
  · rfl

/-- Known parameters with values that a string of the C kind can hold. -/
def Sound (ps : Params) : Prop := ∀ kv ∈ ps, kv.1 ∈ keywords ∧ '\x00' ∉ kv.2.toList

theorem Sound.known {ps : Params} (h : Sound ps) : Known ps := fun kv hkv => (h kv hkv).1

theorem readBack_sound {ps : Params} (hps : Sound ps) :
    readBack ps = .ok (ps.map fun kv => (kv.1, .ok kv.2)) := by
  induction ps with
  | nil => rfl
  | cons kv rest ih =>
    rw [readBack, if_neg (hps kv (List.mem_cons_self ..)).2,
      ih fun kv hkv => hps kv (List.mem_cons_of_mem _ hkv)]
    rfl

/-- What is written is read again. -/
theorem entries_write {ps : Params} (hps : Sound ps) :
    entries (write ps) = .ok (ps.map fun kv => (kv.1, .ok kv.2)) := by
  rw [entries_write_known hps.known, readBack_sound hps]

theorem writeChecked_known {ps : Params} (hps : Known ps) :
    writeChecked ps = (readBack ps).map fun _ => write ps := by
  rw [writeChecked, entries_write_known hps]
  cases ps with
  | nil => rfl
  | cons kv rest =>
    rw [List.isEmpty_cons, if_neg Bool.false_ne_true]
    cases readBack (kv :: rest) <;> rfl

theorem writeChecked_eq {ps : Params} (hps : Sound ps) : writeChecked ps = .ok (write ps) := by
  rw [writeChecked_known hps.known, readBack_sound hps]
  rfl

end ReplicaBootstrap.Conninfo
