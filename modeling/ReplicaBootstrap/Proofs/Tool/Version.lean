import ReplicaBootstrap.Proofs.Number.Decimal
import ReplicaBootstrap.Proofs.Text.Words
import ReplicaBootstrap.Tool.Version

/-! # Versions that agree

The answer of a tool announces a version in its third word, and the number of a server tells which
versions suit it. A version is read off an answer just if it is announced, and agrees with the server
just if it suits it.
-/

namespace ReplicaBootstrap.Version

open Number Text

/-! ## Two numbers with a dot -/

/-- A text that begins with two numbers and a dot between them, as long as they can be. -/
inductive Dotted (ds es : List Char) : List Char → Prop
  | mk {tail : List Char} (hFirst : IsDecimal ds) (hSecond : IsDecimal es)
      (hTail : ∀ c ∈ tail.head?, isDigit c = false) : Dotted ds es (ds ++ '.' :: (es ++ tail))

theorem isDecimal_takeWhile {cs : List Char} (h : cs.takeWhile isDigit ≠ []) :
    IsDecimal (cs.takeWhile isDigit) :=
  ⟨h, fun _ hc => List.mem_takeWhile_imp hc⟩

theorem takeWhile_digits {ds tail : List Char} (hDigits : ∀ c ∈ ds, isDigit c = true)
    (hTail : ∀ c ∈ tail.head?, isDigit c = false) : (ds ++ tail).takeWhile isDigit = ds := by
  rw [List.takeWhile_append_of_pos hDigits]
  cases tail with
  | nil => exact List.append_nil ds
  | cons c tail => rw [List.takeWhile_cons_of_neg (by simp [hTail c rfl]), List.append_nil]

theorem dottedDigits_eq_some_iff {cs ds es : List Char} :
    dottedDigits cs = some (ds, es) ↔ Dotted ds es cs := by
  constructor
  · intro h
    have hFront : cs.takeWhile isDigit ++ cs.drop (cs.takeWhile isDigit).length = cs :=
      List.prefix_iff_eq_append.mp (List.takeWhile_prefix _)
    unfold dottedDigits at h
    dsimp only at h
    split at h
    · rename_i rest hRest
      split at h
      · cases h
      · rename_i hNonempty
        simp only [Bool.or_eq_true, List.isEmpty_iff, not_or] at hNonempty
        cases h
        rw [hRest, ← List.takeWhile_append_dropWhile (p := isDigit) (l := rest)] at hFront
        have hMore : Dotted (cs.takeWhile isDigit) (rest.takeWhile isDigit)
            (cs.takeWhile isDigit ++ '.' :: (rest.takeWhile isDigit ++ rest.dropWhile isDigit)) := by
          refine .mk (isDecimal_takeWhile hNonempty.1) (isDecimal_takeWhile hNonempty.2) ?_
          intro c hc
          have hHead := List.head?_dropWhile_not isDigit rest
          rwa [Option.mem_def.mp hc] at hHead
        rwa [hFront] at hMore
    · cases h
  · rintro ⟨hFirst, hSecond, hTail⟩
    rename_i tail
    have hWhole : (ds ++ '.' :: (es ++ tail)).takeWhile isDigit = ds :=
      takeWhile_digits hFirst.digits fun c hc => by
        cases hc
        decide
    have hRest : (es ++ tail).takeWhile isDigit = es := takeWhile_digits hSecond.digits hTail
    unfold dottedDigits
    dsimp only
    rw [hWhole, List.drop_left]
    change (if ds.isEmpty || ((es ++ tail).takeWhile isDigit).isEmpty then none
      else some (ds, (es ++ tail).takeWhile isDigit)) = some (ds, es)
    rw [hRest, if_neg]
    simp [hFirst.nonempty, hSecond.nonempty]

theorem isBlank_of_isDigit {c : Char} (h : isDigit c = true) : isBlank c = false := by
  have hZeros : ∀ start ∈ digitZeros, ∀ d < 10, isBlank (Char.ofNat (start + d)) = false := by
    decide +kernel
  obtain ⟨d, hd⟩ := Option.isSome_iff_exists.mp h
  obtain ⟨hLt, start, hStart, hc⟩ := toNat_of_digitValue? hd
  have hNot := hZeros start hStart d hLt
  rwa [← hc, Char.ofNat_toNat] at hNot

/-- The two numbers stand in the first word of a text. -/
theorem dotted_firstWord_iff {cs ds es : List Char} :
    Dotted ds es (firstWord cs) ↔ Dotted ds es cs := by
  constructor
  · intro h
    have hWhole := firstWord_append_drop cs
    generalize hWord : firstWord cs = word at h hWhole
    obtain ⟨hFirst, hSecond, hTail⟩ := h
    rename_i tail
    rw [List.append_assoc, List.cons_append, List.append_assoc] at hWhole
    rw [← hWhole]
    refine .mk hFirst hSecond ?_
    rw [List.head?_append]
    intro c hc
    cases tail with
    | cons c' tail => exact hTail c hc
    | nil =>
      rw [← hWord] at hc
      have hBlank := isBlank_of_mem_head?_drop hc
      rw [Bool.eq_false_iff]
      intro hDigit
      rw [isBlank_of_isDigit hDigit] at hBlank
      cases hBlank
  · rintro ⟨hFirst, hSecond, hTail⟩
    rename_i tail
    have hSolid {ds : List Char} (h : IsDecimal ds) : ∀ c ∈ ds, (!isBlank c) = true := by
      intro c hc
      simp [isBlank_of_isDigit (h.digits c hc)]
    have hDot : (!isBlank '.') = true := by decide
    rw [firstWord, List.takeWhile_append_of_pos (hSolid hFirst),
      List.takeWhile_cons_of_pos (p := (!isBlank ·)) hDot,
      List.takeWhile_append_of_pos (hSolid hSecond)]
    refine .mk hFirst hSecond ?_
    intro c hc
    cases tail with
    | nil => cases hc
    | cons c' tail =>
      rw [List.takeWhile_cons] at hc
      split at hc
      · exact hTail c hc
      · cases hc

/-! ## The third word -/

theorem unled_wordsThenRest (count : Nat) {cs : List Char} (h : Unled cs) :
    Unled (wordsThenRest count cs).2 := by
  induction count generalizing cs with
  | zero => exact h
  | succ count ih => exact ih (unled_dropWhile _)

/-- The word after the first ones is the first of the rest; there is none if one of them is empty. -/
theorem getElem?_words (count : Nat) {cs : List Char} (h : Unled cs) :
    (words cs)[count]? =
      if (wordsThenRest count cs).1.any List.isEmpty then none
      else (words (wordsThenRest count cs).2).head? := by
  induction count generalizing cs with
  | zero => exact List.head?_eq_getElem?.symm
  | succ count ih =>
    cases cs with
    | nil => rfl
    | cons c cs =>
      have hWords := words_eq_cons h (List.cons_ne_nil c cs)
      have hFirst : (firstWord (c :: cs)).isEmpty = false := by
        rw [firstWord, List.takeWhile_cons_of_pos (by simpa using h c rfl)]
        rfl
      rw [hWords, List.getElem?_cons_succ, ih (unled_dropWhile _), wordsThenRest]
      dsimp only
      rw [List.any_cons, hFirst, Bool.false_or]

theorem head?_words {cs : List Char} (h : Unled cs) :
    (words cs).head? = if cs.isEmpty then none else some (firstWord cs) := by
  cases cs with
  | nil => rfl
  | cons c cs =>
    rw [words_eq_cons h (List.cons_ne_nil c cs)]
    rfl

theorem not_dotted_nil {ds es : List Char} : ¬ Dotted ds es [] := by
  intro h
  generalize hNil : ([] : List Char) = cs at h
  obtain ⟨hFirst, -, -⟩ := h
  simp at hNil

/-- The third word of an answer begins with two numbers and a dot between them. -/
def ThirdWord (output : String) (ds es : List Char) : Prop :=
  ∃ word, (words output.toList)[2]? = some word ∧ Dotted ds es word

theorem thirdWord_iff {output : String} {ds es : List Char} {front : List (List Char)}
    {rest : List Char}
    (hRest : wordsThenRest 2 (trimChars isBlank output.toList) = (front, rest)) :
    ThirdWord output ds es ↔ front.any List.isEmpty = false ∧ dottedDigits rest = some (ds, es) := by
  have hThird := getElem?_words 2 (unled_trimChars output.toList)
  have hUnled := unled_wordsThenRest 2 (unled_trimChars output.toList)
  rw [hRest] at hThird hUnled
  rw [words_trimChars, head?_words hUnled] at hThird
  rw [ThirdWord, hThird, dottedDigits_eq_some_iff]
  cases front.any List.isEmpty with
  | true => simp
  | false =>
    cases rest with
    | nil => simp [not_dotted_nil]
    | cons c rest => simp [dotted_firstWord_iff]

/-! ## Versions of tools -/

/-- The third word of an answer begins with these two numbers and a dot between them. -/
def Announces (output : String) (major minor : Nat) : Prop :=
  ∃ ds es, ThirdWord output ds es ∧ decimalValue ds = major ∧ decimalValue es = minor

/-- No run of digits is longer than what is read as a number. -/
def Short (output : String) : Prop :=
  ∀ run, run <:+: output.toList → (∀ c ∈ run, isDigit c = true) → run.length ≤ 4300

theorem wordsThenRest_suffix (count : Nat) (cs : List Char) : (wordsThenRest count cs).2 <:+ cs := by
  induction count generalizing cs with
  | zero => exact List.suffix_rfl
  | succ count ih => exact (ih _).trans ((List.dropWhile_suffix _).trans (List.drop_suffix _ _))

theorem ThirdWord.isInfix {output : String} {ds es : List Char} (h : ThirdWord output ds es) :
    (IsDecimal ds ∧ ds <:+: output.toList) ∧ IsDecimal es ∧ es <:+: output.toList := by
  rcases hRest : wordsThenRest 2 (trimChars isBlank output.toList) with ⟨front, rest⟩
  have hInfix : rest <:+: output.toList := by
    have hSuffix := wordsThenRest_suffix 2 (trimChars isBlank output.toList)
    rw [hRest] at hSuffix
    exact hSuffix.isInfix.trans (trimChars_isInfix _)
  obtain ⟨-, hDotted⟩ := (thirdWord_iff hRest).mp h
  obtain ⟨hFirst, hSecond, -⟩ := dottedDigits_eq_some_iff.mp hDotted
  rename_i tail
  refine ⟨⟨hFirst, (List.prefix_append ds _).isInfix.trans hInfix⟩, hSecond, ?_⟩
  exact List.IsInfix.trans ⟨ds ++ ['.'], tail, by simp⟩ hInfix

/-- An answer announces one version at most. -/
theorem Announces.unique {output : String} {major minor major' minor' : Nat}
    (h : Announces output major minor) (h' : Announces output major' minor') :
    major = major' ∧ minor = minor' := by
  obtain ⟨ds, es, hThird, rfl, rfl⟩ := h
  obtain ⟨ds', es', hThird', rfl, rfl⟩ := h'
  rcases hRest : wordsThenRest 2 (trimChars isBlank output.toList) with ⟨front, rest⟩
  have hDigits := ((thirdWord_iff hRest).mp hThird).2
  rw [((thirdWord_iff hRest).mp hThird').2] at hDigits
  cases hDigits
  exact ⟨rfl, rfl⟩

/-! ## What is read off an answer -/

/-- Reads one of the two numbers. -/
def readPart (cs : List Char) : Except (RadixError × String) Int :=
  (readInt 10 (String.ofList cs)).mapError (·, String.ofList cs)

theorem parseTool_of_thirdWord {output : String} {ds es : List Char} (h : ThirdWord output ds es) :
    parseTool output = do return some [← readPart ds, ← readPart es] := by
  rcases hRest : wordsThenRest 2 (trimChars isBlank output.toList) with ⟨front, rest⟩
  obtain ⟨hFront, hDotted⟩ := (thirdWord_iff hRest).mp h
  rw [parseTool, hRest]
  dsimp only
  rw [hFront, if_neg Bool.false_ne_true, hDotted]
  rfl

theorem parseTool_of_not_thirdWord {output : String} (h : ∀ ds es, ¬ ThirdWord output ds es) :
    parseTool output = .ok none := by
  rcases hRest : wordsThenRest 2 (trimChars isBlank output.toList) with ⟨front, rest⟩
  rw [parseTool, hRest]
  dsimp only
  cases hFront : front.any List.isEmpty with
  | true => rfl
  | false =>
    cases hDotted : dottedDigits rest with
    | none => rfl
    | some parts => exact (h _ _ ((thirdWord_iff hRest).mpr ⟨hFront, hDotted⟩)).elim

theorem readPart_eq {cs : List Char} (h : IsDecimal cs) :
    readPart cs = if cs.length ≤ maxDecimalDigits then .ok (decimalValue cs : Int)
      else .error (.tooLong cs.length, String.ofList cs) := by
  rw [readPart, readInt_of_isDecimal h]
  split <;> rfl

theorem parseTool_of_announces {output : String} {major minor : Nat}
    (h : Announces output major minor) (hShort : Short output) :
    parseTool output = .ok (some [(major : Int), (minor : Int)]) := by
  obtain ⟨ds, es, hThird, rfl, rfl⟩ := h
  obtain ⟨⟨hFirst, hFirstIn⟩, hSecond, hSecondIn⟩ := hThird.isInfix
  have hMajor : ds.length ≤ maxDecimalDigits := hShort ds hFirstIn hFirst.digits
  have hMinor : es.length ≤ maxDecimalDigits := hShort es hSecondIn hSecond.digits
  rw [parseTool_of_thirdWord hThird, readPart_eq hFirst, readPart_eq hSecond, if_pos hMajor,
    if_pos hMinor]
  rfl

theorem announces_of_parseTool {output : String} {version : List Int}
    (h : parseTool output = .ok (some version)) :
    ∃ major minor : Nat, version = [(major : Int), (minor : Int)] ∧
      Announces output major minor := by
  by_cases hThird : ∃ ds es, ThirdWord output ds es
  · obtain ⟨ds, es, hThird⟩ := hThird
    obtain ⟨⟨hFirst, -⟩, hSecond, -⟩ := hThird.isInfix
    rw [parseTool_of_thirdWord hThird, readPart_eq hFirst, readPart_eq hSecond] at h
    split at h
    · split at h
      · cases h
        exact ⟨_, _, rfl, ds, es, hThird, rfl, rfl⟩
      · cases h
    · cases h
  · rw [parseTool_of_not_thirdWord fun ds es h => hThird ⟨ds, es, h⟩] at h
    cases h

/-- Only a number that is too long keeps a version from being read. -/
theorem parseTool_ne_error {output : String} (hShort : Short output) (e : RadixError × String) :
    parseTool output ≠ .error e := by
  by_cases hThird : ∃ ds es, ThirdWord output ds es
  · obtain ⟨ds, es, hThird⟩ := hThird
    rw [parseTool_of_announces ⟨ds, es, hThird, rfl, rfl⟩ hShort]
    exact fun h => by cases h
  · rw [parseTool_of_not_thirdWord fun ds es h => hThird ⟨ds, es, h⟩]
    exact fun h => by cases h

/-! ## Versions of servers -/

/-- The version of a tool that suits a server, by the number of the server: from ten on the first part
tells the release, before ten the first two do. -/
inductive Suits (number : Int) : (major minor : Nat) → Prop
  | modern {release patch minor : Nat} (hRelease : 10 ≤ release) (hPatch : patch < 10000)
      (hNumber : number = release * 10000 + patch) : Suits number release minor
  | early {major minor patch : Nat} (hMajor : major < 10) (hMinor : minor < 100) (hPatch : patch < 100)
      (hNumber : number = major * 10000 + minor * 100 + patch) : Suits number major minor

theorem agrees_ofServer_iff {number : Int} {major minor : Nat} :
    agrees [(major : Int), (minor : Int)] (ofServer number) = true ↔ Suits number major minor := by
  unfold agrees ofServer
  constructor
  · intro h
    split at h
    · have hMajor : (major : Int) = number.fdiv 10000 := by simpa using h
      rw [Int.fdiv_eq_ediv_of_nonneg _ (by decide)] at hMajor
      exact @Suits.modern _ _ (number % 10000).toNat _ (by omega) (by omega) (by omega)
    · have hParts : (major : Int) = number.fdiv 10000 ∧ (minor : Int) = (number.fdiv 100).fmod 100 := by
        simpa using h
      rw [Int.fdiv_eq_ediv_of_nonneg _ (by decide), Int.fdiv_eq_ediv_of_nonneg _ (by decide),
        Int.fmod_eq_emod_of_nonneg _ (by decide)] at hParts
      exact @Suits.early _ _ _ (number % 100).toNat (by omega) (by omega) (by omega) (by omega)
  · rintro (⟨hRelease, hPatch, rfl⟩ | ⟨hMajor, hMinor, hPatch, rfl⟩)
    · rw [if_pos (by omega), Int.fdiv_eq_ediv_of_nonneg _ (by decide)]
      simp
      omega
    · rw [if_neg (by omega), Int.fdiv_eq_ediv_of_nonneg _ (by decide),
        Int.fdiv_eq_ediv_of_nonneg _ (by decide), Int.fmod_eq_emod_of_nonneg _ (by decide)]
      simp
      omega

end ReplicaBootstrap.Version
