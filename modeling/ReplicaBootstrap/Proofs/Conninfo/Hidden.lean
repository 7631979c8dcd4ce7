import ReplicaBootstrap.Proofs.Conninfo.Arranged

/-! # What a masked string hides

A string that is not well formed has a fixed text in its place. One that is, and whose values are
texts, is shown as a string that is read as the same parameters, the password apart. What is shown
stays as it is when it is masked again.
-/

namespace ReplicaBootstrap.Conninfo

open ReplicaBootstrap.Action

/-! ## Strings that are not well formed -/

/-- What is wrong is the form of a string and not a value in it. -/
def Error.OfForm : Error → Prop
  | .notText _ => False
  | _ => True

section

variable {α β : Type} {x : Except Error α}

def Syntactic (x : Except Error α) : Prop := ∀ error, x = .error error → error.OfForm

theorem syntactic_ok (a : α) : Syntactic (.ok a : Except Error α) := fun _ h => by cases h

theorem syntactic_error {error : Error} (h : error.OfForm) :
    Syntactic (.error error : Except Error α) := by
  intro _ hError
  cases hError
  exact h

theorem Syntactic.bind {f : α → Except Error β} (hx : Syntactic x) (hf : ∀ a, Syntactic (f a)) :
    Syntactic (x >>= f) := by
  intro error h
  rcases error_of_bind h with h | ⟨a, -, h⟩
  · exact hx error h
  · exact hf a error h

end

theorem percentBytes_syntactic (whole : String) (cs : List Char) :
    Syntactic (percentBytes whole cs) := by
  fun_induction percentBytes whole cs with
  | case1 => exact syntactic_ok _
  | case2 => exact syntactic_error trivial
  | case3 _ _ _ _ _ _ _ _ ih => exact ih.bind fun _ => syntactic_ok _
  | case4 => exact syntactic_error trivial
  | case5 => exact syntactic_error trivial
  | case6 => exact syntactic_ok _
  | case7 _ _ _ _ _ ih => exact ih.bind fun _ => syntactic_ok _

theorem percentDecode_syntactic (cs : List Char) : Syntactic (percentDecode cs) := by
  refine (percentBytes_syntactic _ _).bind fun ⟨bytes, after⟩ => ?_
  dsimp only
  split
  · exact syntactic_ok _
  · exact syntactic_error trivial

theorem partEntry_syntactic (keyword : String) (part : List Char) :
    Syntactic (partEntry keyword part) := by
  rw [partEntry]
  split
  · exact syntactic_ok _
  · exact (percentDecode_syntactic _).bind fun _ => syntactic_ok _

theorem userEntries_syntactic (cs : List Char) : Syntactic (userEntries cs) := by
  rw [userEntries]
  split
  · refine (partEntry_syntactic _ _).bind fun _ => ?_
    exact (partEntry_syntactic _ _).bind fun _ => syntactic_ok _
  · exact syntactic_ok _

theorem readHost_syntactic (uri : String) (cs : List Char) : Syntactic (readHost uri cs) := by
  unfold readHost
  split
  · dsimp only
    split
    · exact syntactic_error trivial
    · split
      · exact syntactic_error trivial
      · split
        · exact syntactic_ok _
        · split
          · exact syntactic_ok _
          · exact syntactic_error trivial
  · exact syntactic_ok _

theorem readHosts_syntactic (uri : String) (cs : List Char) : Syntactic (readHosts uri cs) := by
  fun_induction readHosts uri cs with
  | case1 cs error hHost => exact syntactic_error (readHost_syntactic uri cs error hHost)
  | case2 =>
    rename_i ih
    exact ih.bind fun _ => syntactic_ok _
  | case3 => exact syntactic_ok _

theorem queryEntry_syntactic (segment : List Char) : Syntactic (queryEntry segment) := by
  unfold queryEntry
  split
  · refine (percentDecode_syntactic _).bind fun k => (percentDecode_syntactic _).bind fun v => ?_
    dsimp only
    split
    · exact syntactic_ok _
    · split
      · split
        · exact syntactic_ok _
        · split
          · exact syntactic_ok _
          · exact syntactic_error trivial
      · split
        · exact syntactic_ok _
        · exact syntactic_error trivial
  · exact syntactic_error trivial
  · exact syntactic_error trivial

theorem queryEntries_syntactic (cs : List Char) : Syntactic (queryEntries cs) := by
  fun_induction queryEntries cs with
  | case1 => exact syntactic_ok _
  | case2 =>
    rename_i ih
    exact (queryEntry_syntactic _).bind fun _ => ih.bind fun _ => syntactic_ok _

theorem pathEntries_syntactic (cs : List Char) : Syntactic (pathEntries cs) := by
  unfold pathEntries
  split
  · refine (partEntry_syntactic _ _).bind fun _ => ?_
    exact (queryEntries_syntactic _).bind fun _ => syntactic_ok _
  · exact queryEntries_syntactic _
  · exact syntactic_ok _

theorem uriEntries_syntactic (uri : String) (body : List Char) :
    Syntactic (uriEntries uri body) := by
  refine (userEntries_syntactic _).bind fun ⟨credentials, afterUser⟩ => ?_
  refine (readHosts_syntactic _ _).bind fun list => ?_
  refine (partEntry_syntactic _ _).bind fun host => (partEntry_syntactic _ _).bind fun port => ?_
  exact (pathEntries_syntactic _).bind fun _ => syntactic_ok _

theorem keyValueEntries_syntactic (cs : List Char) : Syntactic (keyValueEntries cs) := by
  fun_induction keyValueEntries cs with
  | case1 => exact syntactic_ok _
  | case2 => exact syntactic_error trivial
  | case3 => exact syntactic_error trivial
  | case4 =>
    rename_i ih
    exact ih.bind fun _ => syntactic_ok _
  | case5 => exact syntactic_error trivial

theorem entries_syntactic (dsn : String) : Syntactic (entries dsn) := by
  unfold entries
  dsimp only
  split
  · exact uriEntries_syntactic _ _
  · exact keyValueEntries_syntactic _

theorem mask_of_entries_error {dsn : String} {error : Error} (h : entries dsn = .error error) :
    mask dsn = .ok unparseable := by
  have hParse : parse dsn = .error error := by
    rw [parse, h]
    rfl
  have hForm := entries_syntactic dsn error h
  rw [mask, hParse]
  cases error with
  | notText e => exact hForm.elim
  | _ => rfl

/-! ## Parameters with the password hidden -/

/-- `ps'` are the parameters `ps`, with `********` for the value of the password. -/
structure Hidden (ps ps' : Params) : Prop where
  keywords : ps'.map Prod.fst = ps.map Prod.fst
  password : ∀ v, ("password", v) ∈ ps' → v = "********"
  others : ∀ k, k ≠ "password" → ps'.lookup k = ps.lookup k

theorem fst_maskParams (ps : Params) : (maskParams ps).map Prod.fst = ps.map Prod.fst := by
  rw [maskParams, List.map_map]
  rfl

theorem lookup_maskParams {k : String} (hk : k ≠ "password") (ps : Params) :
    (maskParams ps).lookup k = ps.lookup k := by
  induction ps with
  | nil => rfl
  | cons kv rest ih =>
    obtain ⟨k', v⟩ := kv
    change ((k', _) :: maskParams rest).lookup k = _
    rw [lookup_cons_ite, lookup_cons_ite, ih]
    split
    · rename_i hSame
      rw [if_neg (hSame ▸ hk)]
    · rfl

theorem hidden_maskParams (ps : Params) : Hidden ps (maskParams ps) where
  keywords := fst_maskParams ps
  password v h := by
    obtain ⟨⟨k, v'⟩, -, h⟩ := List.mem_map.mp h
    obtain ⟨hk, hv⟩ := Prod.mk.inj h
    rw [if_pos hk] at hv
    exact hv.symm
  others k hk := lookup_maskParams hk ps

theorem maskParams_idem (ps : Params) : maskParams (maskParams ps) = maskParams ps := by
  rw [maskParams, maskParams, List.map_map]
  apply List.map_congr_left
  rintro ⟨k, v⟩ -
  dsimp only [Function.comp_apply]
  split <;> rfl

/-! ## What is shown -/

variable {dsn : String} {ps : Params}

/-- The masked string is read as the masked parameters, in the same order. -/
theorem parse_shown (h : parse dsn = .ok ps) :
    parse (write (maskParams ps)) = .ok (maskParams ps) := by
  have hOnce : ((maskParams ps).map Prod.fst).Nodup := fst_maskParams ps ▸ parse_once h
  have hOrder : ((maskParams ps).map Prod.fst).Sublist keywords :=
    fst_maskParams ps ▸ parse_keywords h
  rw [parse_write_arranged (parse_sound h).maskParams hOnce, arranged_eq_self hOrder]

theorem mask_unparseable : mask unparseable = .ok unparseable := by decide +kernel

theorem mask_shown {shown : String} (h : mask dsn = .ok shown) : mask shown = .ok shown := by
  cases hParse : parse dsn with
  | ok ps =>
    rw [mask_of_parse hParse] at h
    cases h
    rw [mask_of_parse (parse_shown hParse), maskParams_idem]
  | error error =>
    rw [mask, hParse] at h
    cases error with
    | notText e => cases h
    | _ =>
      cases h
      exact mask_unparseable

/-- A well-formed string has parameters just if the values that count in it are texts. -/
theorem parse_ok_iff {es : List Entry} (h : entries dsn = .ok es) :
    (∃ ps, parse dsn = .ok ps) ↔ ∀ e ∈ latest es, ∃ v, e.2 = .ok v := by
  rw [parse_eq_collect h, collect_eq]
  constructor
  · rintro ⟨ps, hps⟩ e he
    rw [eq_plainEntry_of_mapM hps] at he
    obtain ⟨kv, -, rfl⟩ := List.mem_map.mp he
    exact ⟨kv.2, rfl⟩
  · intro hTexts
    cases hCollect : (latest es).mapM asText with
    | ok ps => exact ⟨ps, rfl⟩
    | error error =>
      obtain ⟨k, e, -, hMem⟩ := mapM_asText_error hCollect
      obtain ⟨v, hv⟩ := hTexts _ hMem
      cases hv

/-- `dsn` is shown as a string that says the same, without the password. -/
def HidesPassword (dsn : String) : Prop :=
  ∃ ps shown ps', parse dsn = .ok ps ∧ mask dsn = .ok shown ∧ parse shown = .ok ps' ∧ Hidden ps ps'

theorem hidesPassword_iff : HidesPassword dsn ↔ ∃ ps, parse dsn = .ok ps := by
  constructor
  · rintro ⟨ps, -, -, hParse, -⟩
    exact ⟨ps, hParse⟩
  · rintro ⟨ps, hParse⟩
    exact ⟨ps, _, _, hParse, mask_of_parse hParse, parse_shown hParse, hidden_maskParams ps⟩

/-- Masking hides the password and nothing else just if the values that count in a well-formed string
are texts; it fails for a value that is none. Every string that is not well formed has the fixed text
in its place, and what is shown stays as it is. -/
theorem mask_hides_iff (dsn : String) :
    (∀ es, entries dsn = .ok es →
      (HidesPassword dsn ↔ ∀ e ∈ latest es, ∃ v, e.2 = .ok v) ∧
        (HidesPassword dsn ∨
          ∃ k e, (k, .error e) ∈ latest es ∧ mask dsn = .error (Error.notText e).fault)) ∧
      (∀ error, entries dsn = .error error → mask dsn = .ok "<unparseable dsn>") ∧
      ∀ shown, mask dsn = .ok shown → mask shown = .ok shown := by
  refine ⟨fun es hEntries => ⟨?_, ?_⟩, fun _ => mask_of_entries_error, fun _ => mask_shown⟩
  · rw [hidesPassword_iff, parse_ok_iff hEntries]
  · rw [hidesPassword_iff]
    have hParse := parse_eq_collect hEntries
    cases hCollect : collect es with
    | ok ps => exact .inl ⟨ps, hParse.trans hCollect⟩
    | error error =>
      rw [collect_eq] at hCollect
      obtain ⟨k, e, rfl, hMem⟩ := mapM_asText_error hCollect
      refine .inr ⟨k, e, hMem, ?_⟩
      rw [mask, hParse, collect_eq, hCollect]

/-- A string with encoded characters, two hosts, two passwords and an empty setting. -/
def encodedUri : String := "postgresql://us%20er:one@a,b:5433/d%5cb?password=it%27s&sslcert="

def encodedShown : String :=
  "user='us er' password=******** dbname=d\\\\b host=a,b port=,5433 sslcert=''"

theorem mask_hides_encoded :
    parse encodedUri = .ok [("user", "us er"), ("password", "it's"), ("dbname", "d\\b"),
        ("host", "a,b"), ("port", ",5433"), ("sslcert", "")] ∧
      HidesPassword encodedUri ∧ mask encodedUri = .ok encodedShown ∧
      mask encodedShown = .ok encodedShown ∧ mask "host=a port" = .ok "<unparseable dsn>" := by
  have hParse : parse encodedUri = .ok [("user", "us er"), ("password", "it's"),
      ("dbname", "d\\b"), ("host", "a,b"), ("port", ",5433"), ("sslcert", "")] := by
    decide +kernel
  have hMask : mask encodedUri = .ok encodedShown := by decide +kernel
  obtain ⟨es, hEntries, -⟩ := ok_of_bind hParse
  have hTexts := (parse_ok_iff hEntries).mp ⟨_, hParse⟩
  obtain ⟨hHides, -, hShown⟩ := mask_hides_iff encodedUri
  refine ⟨hParse, (hHides es hEntries).1.mpr hTexts, hMask, hShown _ hMask, ?_⟩
  exact (mask_hides_iff "host=a port").2.1 (.missingEquals "port") (by decide +kernel)

/-- A user name that is no text leaves nothing to show of a well-formed string. -/
theorem mask_fails_on_bytes :
    (∃ es, entries "postgresql://%ff:secret@a" = .ok es) ∧
      mask "postgresql://%ff:secret@a" = .error (Error.notText (.badStart 0xff 0)).fault ∧
      ¬ HidesPassword "postgresql://%ff:secret@a" := by
  have hFails : mask "postgresql://%ff:secret@a" =
      .error (Error.notText (.badStart 0xff 0)).fault := by
    decide +kernel
  refine ⟨ok_of_isOk (by decide +kernel), hFails, ?_⟩
  rintro ⟨_, _, _, -, hMask, -⟩
  cases hFails.symm.trans hMask

end ReplicaBootstrap.Conninfo
