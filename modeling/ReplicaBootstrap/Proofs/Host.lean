import ReplicaBootstrap.Host

/-! # Where temporary files are kept

The variables for it are looked at in their order, then come the usual directories, and the working
directory last. The first of them in which a file can be made is kept.
-/

namespace ReplicaBootstrap.Host

variable {h : Host} {environment : List (String × String)} {names values : List String} {d : String}

/-! ## Candidates -/

/-- The values that variables have, in the order of the names; an empty value is as none. -/
inductive SetTo (environment : List (String × String)) : List String → List String → Prop
  | nil : SetTo environment [] []
  | unset {name : String} {names values : List String}
      (hUnset : ∀ v, environment.lookup name = some v → v = "")
      (hRest : SetTo environment names values) : SetTo environment (name :: names) values
  | set {name v : String} {names values : List String} (hSet : environment.lookup name = some v)
      (hGiven : v ≠ "") (hRest : SetTo environment names values) :
      SetTo environment (name :: names) (v :: values)

theorem setTo_iff : SetTo environment names values ↔
    (names.filterMap fun name => environment.lookup name).filter (!·.isEmpty) = values := by
  constructor
  · intro hSet
    induction hSet with
    | nil => rfl
    | @unset name names values hUnset _ ih =>
      rw [List.filterMap_cons]
      cases hLookup : environment.lookup name with
      | none => exact ih
      | some v =>
        obtain rfl := hUnset v hLookup
        exact ih
    | @set name v names values hLookup hGiven _ ih =>
      have hKept : (!v.isEmpty) = true := by simpa using hGiven
      rw [List.filterMap_cons, hLookup]
      dsimp only
      rw [List.filter_cons, if_pos hKept, ih]
  · rintro rfl
    induction names with
    | nil => exact .nil
    | cons name names ih =>
      rw [List.filterMap_cons]
      cases hLookup : environment.lookup name with
      | none => exact .unset (fun v hv => by cases hLookup.symm.trans hv) ih
      | some v =>
        dsimp only
        rw [List.filter_cons]
        by_cases hGiven : v = ""
        · rw [if_neg (by simp [hGiven])]
          exact .unset (fun v' hv => Option.some.inj (hv.symm.trans hLookup) ▸ hGiven) ih
        · rw [if_pos (by simpa using hGiven)]
          exact .set hLookup hGiven ih

/-! ## The directory that is kept -/

inductive Preferred (h : Host) (path : String) : Prop
  | mk {values before after : List String}
      (hValues : SetTo h.environment ["TMPDIR", "TEMP", "TMP"] values)
      (hPath : values ++ ["/tmp", "/var/tmp", "/usr/tmp", h.workingDirectory] =
        before ++ path :: after)
      (hBefore : ∀ earlier ∈ before, Path.absolute h.workingDirectory earlier ∉ h.writable)
      (hUsable : Path.absolute h.workingDirectory path ∈ h.writable)

/-- Temporary files are kept in the preferred candidate, seen from the root unless it is written as
the place where the program works. -/
inductive Keeps (h : Host) : String → Prop
  | here (hPreferred : Preferred h ".") : Keeps h "."
  | rooted {path : String} (hPreferred : Preferred h path) (hPath : path ≠ ".") :
      Keeps h (Path.absolute h.workingDirectory path)

theorem preferred_iff {path : String} : Preferred h path ↔
    (h.temporaryCandidates.find? fun path => h.writable.contains (h.absolute path)) = some path := by
  simp only [List.find?_eq_some_iff_append, List.contains_iff_mem, Bool.not_eq_true',
    ← Bool.not_eq_true]
  constructor
  · rintro ⟨hValues, hPath, hBefore, hUsable⟩
    rw [← setTo_iff.mp hValues] at hPath
    exact ⟨hUsable, _, _, hPath, hBefore⟩
  · rintro ⟨hUsable, before, after, hPath, hBefore⟩
    exact .mk (setTo_iff.mpr rfl) hPath hBefore hUsable

theorem keeps_iff : Keeps h d ↔ h.temporaryDirectory = .ok d := by
  rw [temporaryDirectory]
  constructor
  · rintro (hPreferred | ⟨hPreferred, hPath⟩)
    · rw [preferred_iff.mp hPreferred]
      rfl
    · rw [preferred_iff.mp hPreferred]
      exact congrArg Except.ok (if_neg hPath)
  · intro hKept
    split at hKept
    · rename_i path hFind
      have hPreferred := preferred_iff.mpr hFind
      cases hKept
      split
      · rename_i hPath
        rw [hPath] at hPreferred ⊢
        exact .here hPreferred
      · rename_i hPath
        exact .rooted hPreferred hPath
    · cases hKept

/-- A host that keeps temporary files nowhere is told to lack a file. -/
theorem keeps_or_missing (h : Host) : (∃ d, Keeps h d) ∨
    (∀ d, ¬ Keeps h d) ∧ ∃ text, h.temporaryDirectory = .error (.host .missingFile text) := by
  cases hKept : h.temporaryDirectory with
  | ok d => exact .inl ⟨d, keeps_iff.mpr hKept⟩
  | error f =>
    refine .inr ⟨fun d hKeeps => ?_, ?_⟩
    · rw [keeps_iff.mp hKeeps] at hKept
      cases hKept
    · unfold temporaryDirectory at hKept
      split at hKept
      · cases hKept
      · cases hKept
        exact ⟨_, rfl⟩

theorem absolute_ne_empty (workingDirectory path : String) :
    Path.absolute workingDirectory path ≠ "" := by
  intro hEmpty
  have hChars := congrArg String.toList hEmpty
  rw [Path.absolute, String.toList_ofList, Path.absoluteChars, Path.rootChars] at hChars
  split at hChars <;> cases hChars

theorem Keeps.ne_empty (hKeeps : Keeps h d) : d ≠ "" := by
  cases hKeeps with
  | here => decide
  | rooted => exact absolute_ne_empty _ _

/-! ## Files in a directory -/

/-- The path of a file in a directory, with one slash between them. -/
inductive Within (directory name : String) : String → Prop
  | slashed {start : String} (hSlash : directory = start ++ "/") :
      Within directory name (directory ++ name)
  | plain (hPlain : ∀ start, directory ≠ start ++ "/") :
      Within directory name (directory ++ "/" ++ name)

theorem within_iff {directory name path : String} (hDirectory : directory ≠ "")
    (hName : name.toList.head? ≠ some '/') :
    Within directory name path ↔ Path.join directory name = path := by
  have hSlash : directory.toList.getLast? = some '/' ↔ ∃ start, directory = start ++ "/" := by
    rw [List.getLast?_eq_some_iff]
    constructor
    · rintro ⟨start, hStart⟩
      exact ⟨String.ofList start, String.toList_injective (by simp [hStart])⟩
    · rintro ⟨start, rfl⟩
      exact ⟨start.toList, String.toList_append⟩
  have hSome : directory.toList.isEmpty = false := by simpa using hDirectory
  rw [Path.join, Path.joinChars, if_neg (by simpa using hName), hSome, Bool.false_or]
  by_cases hEnds : directory.toList.getLast? = some '/'
  · rw [if_pos (beq_iff_eq.mpr hEnds), ← String.toList_append, String.ofList_toList]
    constructor
    · rintro (_ | hPlain)
      · rfl
      · obtain ⟨start, hStart⟩ := hSlash.mp hEnds
        exact absurd hStart (hPlain start)
    · rintro rfl
      obtain ⟨start, hStart⟩ := hSlash.mp hEnds
      exact .slashed hStart
  · have hWhole : String.ofList (directory.toList ++ '/' :: name.toList) =
        directory ++ "/" ++ name := String.toList_injective (by simp)
    rw [if_neg (by simpa using hEnds), hWhole]
    constructor
    · rintro (⟨hStart⟩ | _)
      · exact absurd (hSlash.mpr ⟨_, hStart⟩) hEnds
      · rfl
    · rintro rfl
      exact .plain fun start hStart => hEnds (hSlash.mpr ⟨start, hStart⟩)

end ReplicaBootstrap.Host
