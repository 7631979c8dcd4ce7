import Mathlib.Data.List.TakeWhile
import Mathlib.Tactic.Ring
import ReplicaBootstrap.Proofs.Number.Hexadecimal

/-! # Numerals

Much more than what is written of a number is read as one: blanks around it, a sign, an announcement of
the base, digits of any script and single underscores between digits.
-/

namespace ReplicaBootstrap.Number

open Text

/-! ## Digits -/

theorem ofDigits_eq (base : Nat) (ds : List Nat) :
    ofDigits base ds = Nat.ofDigits base ds.reverse := by
  induction ds using List.reverseRecOn with
  | nil => rfl
  | append_singleton ds d ih =>
    rw [ofDigits, List.foldl_append, List.reverse_append, List.reverse_singleton,
      List.singleton_append, Nat.ofDigits_cons, ← ih, ofDigits]
    simp only [List.foldl_cons, List.foldl_nil]
    ring

theorem digitBelow?_of_ascii {c : Char} (hc : c.toNat < 128) : digitBelow? 16 c = hexDigit? c := by
  apply ascii_forall (P := fun c => digitBelow? 16 c = hexDigit? c) _ hc
  decide

/-- The digits of a script follow its zero. -/
theorem toNat_of_digitValue? {c : Char} {d : Nat} (h : digitValue? c = some d) :
    d < 10 ∧ ∃ start ∈ digitZeros, c.toNat = start + d := by
  unfold digitValue? at h
  split at h
  · split at h
    · rename_i hDigit
      cases h
      simp only [Bool.and_eq_true, decide_eq_true_eq] at hDigit
      have hZero : 48 ≤ c.toNat := UInt32.le_iff_toNat_le.mp hDigit.1
      have hNine : c.toNat ≤ 57 := UInt32.le_iff_toNat_le.mp hDigit.2
      exact ⟨by omega, 48, by decide, by omega⟩
    · cases h
  · obtain ⟨start, hStart, rfl⟩ := Option.map_eq_some_iff.mp h
    have hRange := List.find?_some hStart
    simp only [Bool.and_eq_true, decide_eq_true_eq] at hRange
    exact ⟨by omega, start, List.mem_of_find?_eq_some hStart, by omega⟩

/-- `c` counts as the digit of value `d`; it may be one of another script. -/
def CountsAs (c : Char) (d : Nat) : Prop := hexDigit? c = some d ∨ digitValue? c = some d

theorem digitValue?_of_ascii {c : Char} (hc : c.toNat < 128) :
    digitValue? c = none ∨ digitValue? c = hexDigit? c := by
  apply ascii_forall (P := fun c => digitValue? c = none ∨ digitValue? c = hexDigit? c) _ hc
  decide

theorem digitBelow?_eq_some_iff {c : Char} {d : Nat} : digitBelow? 16 c = some d ↔ CountsAs c d := by
  by_cases hc : c.toNat < 128
  · rw [digitBelow?_of_ascii hc, CountsAs]
    rcases digitValue?_of_ascii hc with hNone | hSame
    · simp [hNone]
    · rw [hSame, or_self]
  · have hAbove (x : Char) (hx : x.toNat < 128) : ¬ c ≤ x := fun h => by
      have hLe : c.toNat ≤ x.toNat := UInt32.le_iff_toNat_le.mp h
      omega
    have hNoLetter : digitBelow? 16 c = (digitValue? c).filter (· < 16) := by
      simp [digitBelow?, hAbove 'z' (by decide), hAbove 'Z' (by decide)]
    rw [hNoLetter, CountsAs, hexDigit?_of_not_ascii hc, Option.filter_eq_some_iff]
    constructor
    · exact fun h => .inr h.1
    · rintro (h | h)
      · cases h
      · have hd := (toNat_of_digitValue? h).1
        exact ⟨h, by simp; omega⟩

theorem not_countsAs {x : Char} (h : digitBelow? 16 x = none) (d : Nat) : ¬ CountsAs x d := by
  rw [← digitBelow?_eq_some_iff, h]
  exact fun h => by cases h

theorem CountsAs.ne {c x : Char} {d : Nat} (h : CountsAs c d) (hx : digitBelow? 16 x = none) :
    c ≠ x := by
  rintro rfl
  exact not_countsAs hx d h

/-! ## Digits of other scripts -/

theorem digitValue?_digit {d : Nat} (hd : d < 10) : digitValue? (Char.ofNat (48 + d)) = some d := by
  revert d
  decide

theorem digitValue?_plainDigit (c : Char) : digitValue? (plainDigit c) = digitValue? c := by
  unfold plainDigit
  split
  · rename_i d hd
    rw [hd, digitValue?_digit (toNat_of_digitValue? hd).1]
  · rfl

/-- What is no digit is only made of itself. -/
theorem plainDigit_eq_iff {c x : Char} (hx : digitValue? x = none) : plainDigit c = x ↔ c = x := by
  constructor
  · rintro rfl
    rw [digitValue?_plainDigit] at hx
    rw [plainDigit, hx]
  · rintro rfl
    rw [plainDigit, hx]

theorem countsAs_iff_of_digitValue? {c : Char} {d e : Nat} (h : digitValue? c = some e) :
    CountsAs c d ↔ e = d := by
  have hHex : hexDigit? c = none ∨ hexDigit? c = some e := by
    by_cases hc : c.toNat < 128
    · rcases digitValue?_of_ascii hc with hNone | hSame
      · simp [hNone] at h
      · exact .inr (hSame ▸ h)
    · exact .inl (hexDigit?_of_not_ascii hc)
  rw [CountsAs, h]
  rcases hHex with hHex | hHex <;> simp [hHex]

theorem countsAs_plainDigit {c : Char} {d : Nat} : CountsAs (plainDigit c) d ↔ CountsAs c d := by
  cases h : digitValue? c with
  | none => rw [plainDigit, h]
  | some e =>
    rw [countsAs_iff_of_digitValue? h,
      countsAs_iff_of_digitValue? ((digitValue?_plainDigit c).trans h)]

theorem digitValue?_of_isNumberBlank {c : Char} (h : isNumberBlank c = true) :
    digitValue? c = none := by
  have hZeros : ∀ start ∈ digitZeros, ∀ d < 10,
      isNumberBlank (Char.ofNat (start + d)) = false := by
    decide +kernel
  rw [Option.eq_none_iff_forall_ne_some]
  intro d hd
  obtain ⟨hLt, start, hStart, hc⟩ := toNat_of_digitValue? hd
  have hNot := hZeros start hStart d hLt
  rw [← hc, Char.ofNat_toNat, h] at hNot
  cases hNot

theorem isNumberBlank_plainDigit (c : Char) : isNumberBlank (plainDigit c) = isNumberBlank c := by
  cases hValue : digitValue? c with
  | none => rw [plainDigit, hValue]
  | some d =>
    have hNot {x : Char} (hx : digitValue? x = some d) : isNumberBlank x = false := by
      rw [Bool.eq_false_iff]
      intro hBlank
      rw [digitValue?_of_isNumberBlank hBlank] at hx
      cases hx
    rw [hNot hValue, hNot ((digitValue?_plainDigit c).trans hValue)]

/-! ## What is read -/

/-- More digits of a number, with their values; one underscore may stand before each. -/
inductive Digits : List Char → List Nat → Prop
  | nil : Digits [] []
  | digit {c : Char} {d : Nat} {cs : List Char} {ds : List Nat} (hDigit : CountsAs c d)
      (hMore : Digits cs ds) : Digits (c :: cs) (d :: ds)
  | gap {c : Char} {d : Nat} {cs : List Char} {ds : List Nat} (hDigit : CountsAs c d)
      (hMore : Digits cs ds) : Digits ('_' :: c :: cs) (d :: ds)

/-- The announcement of the base before the digits, if there is one. -/
inductive Announcement : List Char → Prop
  | none : Announcement []
  | announced {lead letter : Char} {gap : List Char} (hLead : digitValue? lead = some 0)
      (hLetter : letter = 'x' ∨ letter = 'X') (hGap : gap = [] ∨ gap = ['_']) :
      Announcement (lead :: letter :: gap)

/-- Digits, perhaps announced and followed by blanks, and the number that they denote. -/
inductive Magnitude : List Char → Nat → Prop
  | mk {announcement cs after : List Char} {c : Char} {d : Nat} {ds : List Nat}
      (hAnnouncement : Announcement announcement) (hFirst : CountsAs c d) (hMore : Digits cs ds)
      (hAfter : ∀ c ∈ after, isNumberBlank c = true) :
      Magnitude (announcement ++ c :: cs ++ after) (Nat.ofDigits 16 (d :: ds).reverse)

/-- A number that may have a sign, after blanks. -/
inductive Numeral : List Char → Int → Prop
  | unsigned {before cs : List Char} {n : Nat} (hBefore : ∀ c ∈ before, isNumberBlank c = true)
      (hMagnitude : Magnitude cs n) : Numeral (before ++ cs) n
  | positive {before cs : List Char} {n : Nat} (hBefore : ∀ c ∈ before, isNumberBlank c = true)
      (hMagnitude : Magnitude cs n) : Numeral (before ++ '+' :: cs) n
  | negative {before cs : List Char} {n : Nat} (hBefore : ∀ c ∈ before, isNumberBlank c = true)
      (hMagnitude : Magnitude cs n) : Numeral (before ++ '-' :: cs) (-n)

/-! ## Reading digits -/

/-- What is read off the front are digits. -/
theorem digits_of_digitRun {cs after : List Char} {ds : List Nat}
    (h : digitRun 16 cs = (ds, after)) : ∃ body, cs = body ++ after ∧ Digits body ds := by
  fun_induction digitRun 16 cs generalizing ds after with
  | case1 =>
    cases h
    exact ⟨[], rfl, .nil⟩
  | case2 c rest d hDigit ds' after' hRun ih =>
    cases h
    obtain ⟨body, hBody, hDigits⟩ := ih hRun
    refine ⟨'_' :: c :: body, ?_, .gap (digitBelow?_eq_some_iff.mp hDigit) hDigits⟩
    rw [hBody, List.cons_append, List.cons_append]
  | case3 c rest hDigit =>
    cases h
    exact ⟨[], rfl, .nil⟩
  | case4 c rest hOther d hDigit ds' after' hRun ih =>
    cases h
    obtain ⟨body, hBody, hDigits⟩ := ih hRun
    refine ⟨c :: body, ?_, .digit (digitBelow?_eq_some_iff.mp hDigit) hDigits⟩
    rw [hBody, List.cons_append]
  | case5 c rest hOther hDigit =>
    cases h
    exact ⟨[], rfl, .nil⟩

theorem digitRun_cons {c : Char} {d : Nat} (h : CountsAs c d) (rest : List Char) :
    digitRun 16 (c :: rest) = (d :: (digitRun 16 rest).1, (digitRun 16 rest).2) := by
  have hc : c ≠ '_' := h.ne (by decide)
  rw [digitRun.eq_def]
  split
  · contradiction
  · simp_all
  · rename_i hCons
    cases hCons
    rw [digitBelow?_eq_some_iff.mpr h]

theorem digitRun_gap {c : Char} {d : Nat} (h : CountsAs c d) (rest : List Char) :
    digitRun 16 ('_' :: c :: rest) = (d :: (digitRun 16 rest).1, (digitRun 16 rest).2) := by
  rw [digitRun, digitBelow?_eq_some_iff.mpr h]

theorem digitBelow?_of_isNumberBlank {c : Char} (h : isNumberBlank c = true) :
    digitBelow? 16 c = none := by
  have hHex : hexDigit? c = none := by
    by_cases hc : c.toNat < 128
    · revert h
      apply ascii_forall (P := fun c => isNumberBlank c = true → hexDigit? c = none) _ hc
      decide
    · exact hexDigit?_of_not_ascii hc
  rw [Option.eq_none_iff_forall_ne_some]
  intro d hd
  rcases digitBelow?_eq_some_iff.mp hd with hd | hd
  · rw [hHex] at hd
    cases hd
  · rw [digitValue?_of_isNumberBlank h] at hd
    cases hd

/-- Blanks end the digits. -/
theorem digitRun_blanks {after : List Char} (h : ∀ c ∈ after, isNumberBlank c = true) :
    digitRun 16 after = ([], after) := by
  cases after with
  | nil => rfl
  | cons c rest =>
    have hc := h c List.mem_cons_self
    have hNot : c ≠ '_' := by
      rintro rfl
      cases hc
    rw [digitRun.eq_def]
    split
    · contradiction
    · simp_all
    · rename_i hCons
      cases hCons
      rw [digitBelow?_of_isNumberBlank hc]

theorem digitRun_append {body after : List Char} {ds : List Nat} (h : Digits body ds)
    (hAfter : ∀ c ∈ after, isNumberBlank c = true) : digitRun 16 (body ++ after) = (ds, after) := by
  induction h with
  | nil => exact digitRun_blanks hAfter
  | digit hDigit _ ih => rw [List.cons_append, digitRun_cons hDigit, ih]
  | gap hDigit _ ih => rw [List.cons_append, List.cons_append, digitRun_gap hDigit, ih]

/-! ## Reading magnitudes -/

theorem exists_announcement (cs : List Char) :
    ∃ announcement, Announcement announcement ∧ cs = announcement ++ dropPrefix 16 cs := by
  unfold dropPrefix
  split
  · rename_i letter rest
    split
    · rename_i hLetter
      have hLetter : letter = 'x' ∨ letter = 'X' := by simpa [prefixLetters] using hLetter
      split
      · exact ⟨['0', letter, '_'], .announced (by decide) hLetter (.inr rfl), rfl⟩
      · exact ⟨['0', letter], .announced (by decide) hLetter (.inl rfl), rfl⟩
    · exact ⟨[], .none, rfl⟩
  · exact ⟨[], .none, rfl⟩

/-- Nothing but plain digits: those of other scripts are written as the ASCII ones. -/
def Plain (cs : List Char) : Prop := ∀ c ∈ cs, plainDigit c = c

theorem eq_zero_of_plain {c : Char} (hPlain : plainDigit c = c) (h : digitValue? c = some 0) :
    c = '0' := by
  rw [plainDigit, h] at hPlain
  exact hPlain.symm

theorem dropPrefix_announced {letter c : Char} {gap : List Char}
    (hLetter : letter = 'x' ∨ letter = 'X') (hGap : gap = [] ∨ gap = ['_']) (hc : c ≠ '_')
    (rest : List Char) : dropPrefix 16 ('0' :: letter :: (gap ++ c :: rest)) = c :: rest := by
  have hMem : (prefixLetters 16).contains letter = true := by
    rcases hLetter with rfl | rfl <;> decide
  change ite _ _ _ = _
  rw [if_pos hMem]
  rcases hGap with rfl | rfl
  · split
    · rename_i hCons
      exact absurd (List.cons.inj hCons).1 hc
    · rfl
  · rfl

/-- A number that is not announced does not look as if it were. -/
theorem dropPrefix_digits {c : Char} {cs after : List Char} {ds : List Nat}
    (hMore : Digits cs ds) (hAfter : ∀ c ∈ after, isNumberBlank c = true) :
    dropPrefix 16 (c :: cs ++ after) = c :: cs ++ after := by
  have hSecond : ∀ x rest, cs ++ after = x :: rest → x ≠ 'x' ∧ x ≠ 'X' := by
    intro x rest hCons
    cases hMore with
    | nil =>
      rw [List.nil_append] at hCons
      have hBlank := hAfter x (hCons ▸ List.mem_cons_self)
      constructor <;> (rintro rfl; cases hBlank)
    | digit hDigit _ =>
      cases hCons
      exact ⟨hDigit.ne (by decide), hDigit.ne (by decide)⟩
    | gap hDigit _ =>
      cases hCons
      decide
  unfold dropPrefix
  split
  · rename_i letter rest hCons
    obtain ⟨-, hRest⟩ := List.cons.inj hCons
    obtain ⟨hSmall, hLarge⟩ := hSecond letter rest hRest
    rw [if_neg (by simp [prefixLetters, hSmall, hLarge])]
    exact hCons.symm
  · rfl

theorem readMagnitude_body {c : Char} {d : Nat} {cs after : List Char} {ds : List Nat}
    (hFirst : CountsAs c d) (hMore : Digits cs ds) (hAfter : ∀ c ∈ after, isNumberBlank c = true)
    {whole : List Char} (hWhole : dropPrefix 16 whole = c :: cs ++ after) :
    readMagnitude 16 whole = .ok (ofDigits 16 (d :: ds)) := by
  have hRun : digitRun 16 (c :: cs ++ after) = (d :: ds, after) :=
    digitRun_append (.digit hFirst hMore) hAfter
  have hc : c ≠ '_' := hFirst.ne (by decide)
  have hEnd : (after.head? == some '_') = false := by
    rw [beq_eq_false_iff_ne]
    intro hHead
    have hBlank := hAfter '_' (List.mem_of_mem_head? hHead)
    cases hBlank
  rw [readMagnitude, hWhole]
  split
  · rename_i hCons
    exact absurd (List.cons.inj hCons).1 hc
  · rw [hRun]
    dsimp only
    rw [hEnd, List.isEmpty_cons, Bool.false_or, if_neg Bool.false_ne_true, if_neg (by simp),
      if_pos (List.all_eq_true.mpr hAfter)]

/-- A magnitude is read as the number that it denotes, and nothing else is read. -/
theorem readMagnitude_eq_ok_iff {cs : List Char} (hPlain : Plain cs) {n : Nat} :
    readMagnitude 16 cs = .ok n ↔ Magnitude cs n := by
  constructor
  · intro h
    obtain ⟨announcement, hAnnouncement, hSplit⟩ := exists_announcement cs
    rw [readMagnitude] at h
    split at h
    · cases h
    rename_i hHead
    rcases hRun : digitRun 16 (dropPrefix 16 cs) with ⟨ds, after⟩
    rw [hRun] at h
    dsimp only at h
    split at h
    · cases h
    rename_i hDigits
    split at h
    · cases h
    split at h
    · rename_i hAfter
      cases h
      obtain ⟨digits, hDrop, hMore⟩ := digits_of_digitRun hRun
      rw [hSplit, hDrop, ofDigits_eq]
      cases hMore with
      | nil => simp at hDigits
      | digit hFirst hMore =>
        rw [← List.append_assoc]
        exact .mk hAnnouncement hFirst hMore (List.all_eq_true.mp hAfter)
      | gap => exact (hHead _ hDrop).elim
    · cases h
  · rintro ⟨hAnnouncement, hFirst, hMore, hAfter⟩
    rw [← ofDigits_eq]
    apply readMagnitude_body hFirst hMore hAfter
    cases hAnnouncement with
    | none => exact dropPrefix_digits hMore hAfter
    | announced hLead hLetter hGap =>
      rw [eq_zero_of_plain (hPlain _ List.mem_cons_self) hLead]
      simp only [List.cons_append, List.append_assoc]
      exact dropPrefix_announced hLetter hGap (hFirst.ne (by decide)) _

/-! ## Digits of any script -/

theorem plainDigit_plainDigit (c : Char) : plainDigit (plainDigit c) = plainDigit c := by
  have hValue := digitValue?_plainDigit c
  cases h : digitValue? c with
  | none =>
    rw [h] at hValue
    rw [plainDigit, hValue]
  | some d =>
    have hPlain : plainDigit c = Char.ofNat (48 + d) := by rw [plainDigit, h]
    rw [h] at hValue
    rw [plainDigit, hValue, hPlain]

theorem plain_map (cs : List Char) : Plain (cs.map plainDigit) := by
  intro c hc
  obtain ⟨d, -, rfl⟩ := List.mem_map.mp hc
  exact plainDigit_plainDigit d

theorem digits_map_iff {cs : List Char} {ds : List Nat} :
    Digits (cs.map plainDigit) ds ↔ Digits cs ds := by
  constructor
  · intro h
    generalize hMap : cs.map plainDigit = plain at h
    induction h generalizing cs with
    | nil =>
      rw [List.map_eq_nil_iff.mp hMap]
      exact .nil
    | digit hDigit _ ih =>
      obtain ⟨c, rest, rfl, rfl, hRest⟩ := List.map_eq_cons_iff.mp hMap
      exact .digit (countsAs_plainDigit.mp hDigit) (ih hRest)
    | gap hDigit _ ih =>
      obtain ⟨x, rest, rfl, hx, hRest⟩ := List.map_eq_cons_iff.mp hMap
      obtain ⟨c, rest, rfl, rfl, hMore⟩ := List.map_eq_cons_iff.mp hRest
      rw [(plainDigit_eq_iff (by decide)).mp hx]
      exact .gap (countsAs_plainDigit.mp hDigit) (ih hMore)
  · intro h
    induction h with
    | nil => exact .nil
    | digit hDigit _ ih => exact .digit (countsAs_plainDigit.mpr hDigit) ih
    | gap hDigit _ ih => exact .gap (countsAs_plainDigit.mpr hDigit) ih

theorem announcement_map_iff {cs : List Char} :
    Announcement (cs.map plainDigit) ↔ Announcement cs := by
  have hLetter {c : Char} : plainDigit c = 'x' ∨ plainDigit c = 'X' ↔ c = 'x' ∨ c = 'X' := by
    rw [plainDigit_eq_iff (by decide), plainDigit_eq_iff (by decide)]
  have hGap {gap : List Char} : gap.map plainDigit = [] ∨ gap.map plainDigit = ['_'] ↔
      gap = [] ∨ gap = ['_'] := by
    have hOne : gap.map plainDigit = ['_'] ↔ gap = ['_'] := by
      cases gap with
      | nil => simp
      | cons c rest =>
        have hc : plainDigit c = '_' ↔ c = '_' := plainDigit_eq_iff (by decide)
        simp [hc]
    rw [List.map_eq_nil_iff, hOne]
  constructor
  · intro h
    generalize hMap : cs.map plainDigit = plain at h
    cases h with
    | none =>
      rw [List.map_eq_nil_iff.mp hMap]
      exact .none
    | announced hLead hX hUnderscore =>
      obtain ⟨lead, rest, rfl, rfl, hRest⟩ := List.map_eq_cons_iff.mp hMap
      obtain ⟨letter, gap, rfl, rfl, rfl⟩ := List.map_eq_cons_iff.mp hRest
      rw [digitValue?_plainDigit] at hLead
      exact .announced hLead (hLetter.mp hX) (hGap.mp hUnderscore)
  · rintro (_ | ⟨hLead, hX, hUnderscore⟩)
    · exact .none
    · exact .announced ((digitValue?_plainDigit _).trans hLead) (hLetter.mpr hX)
        (hGap.mpr hUnderscore)

theorem blanks_map_iff {cs : List Char} :
    (∀ c ∈ cs.map plainDigit, isNumberBlank c = true) ↔ ∀ c ∈ cs, isNumberBlank c = true := by
  simp [isNumberBlank_plainDigit]

theorem magnitude_map_iff {cs : List Char} {n : Nat} :
    Magnitude (cs.map plainDigit) n ↔ Magnitude cs n := by
  constructor
  · intro h
    generalize hMap : cs.map plainDigit = plain at h
    obtain ⟨hAnnouncement, hFirst, hMore, hAfter⟩ := h
    obtain ⟨front, after, rfl, hFront, rfl⟩ := List.map_eq_append_iff.mp hMap
    obtain ⟨announcement, digits, rfl, rfl, hDigits⟩ := List.map_eq_append_iff.mp hFront
    obtain ⟨c, cs, rfl, rfl, rfl⟩ := List.map_eq_cons_iff.mp hDigits
    exact .mk (announcement_map_iff.mp hAnnouncement) (countsAs_plainDigit.mp hFirst)
      (digits_map_iff.mp hMore) (blanks_map_iff.mp hAfter)
  · rintro ⟨hAnnouncement, hFirst, hMore, hAfter⟩
    rw [List.map_append, List.map_append, List.map_cons]
    exact .mk (announcement_map_iff.mpr hAnnouncement) (countsAs_plainDigit.mpr hFirst)
      (digits_map_iff.mpr hMore) (blanks_map_iff.mpr hAfter)

/-! ## Reading numbers -/

theorem Magnitude.head {cs : List Char} {n : Nat} (h : Magnitude cs n) :
    ∃ c rest d, cs = c :: rest ∧ CountsAs c d := by
  obtain ⟨hAnnouncement, hFirst, -, -⟩ := h
  cases hAnnouncement with
  | none => exact ⟨_, _, _, rfl, hFirst⟩
  | announced hLead _ _ => exact ⟨_, _, _, rfl, .inr hLead⟩

theorem Numeral.ne_nil {cs : List Char} {n : Int} (h : Numeral cs n) : cs ≠ [] := by
  cases h with
  | unsigned _ hMagnitude =>
    obtain ⟨c, rest, d, rfl, -⟩ := hMagnitude.head
    exact List.append_ne_nil_of_right_ne_nil _ (List.cons_ne_nil c rest)
  | positive _ _ | negative _ _ => exact List.append_ne_nil_of_right_ne_nil _ (List.cons_ne_nil _ _)

theorem dropWhile_blanks {before rest : List Char} {c : Char}
    (hBefore : ∀ c ∈ before, isNumberBlank c = true) (hc : isNumberBlank c = false) :
    (before ++ c :: rest).dropWhile isNumberBlank = c :: rest := by
  rw [List.dropWhile_append_of_pos hBefore, List.dropWhile_cons_of_neg (by simp [hc])]

theorem readMagnitude_map_eq_ok_iff {cs : List Char} {n : Nat} :
    readMagnitude 16 (cs.map plainDigit) = .ok n ↔ Magnitude cs n :=
  (readMagnitude_eq_ok_iff (plain_map cs)).trans magnitude_map_iff

theorem map_cast_eq_ok_iff {r : Except RadixError Nat} {f : Int → Int} {n : Int} :
    Except.map f (do let m ← r; pure (m : Int)) = .ok n ↔ ∃ m : Nat, r = .ok m ∧ f m = n := by
  cases r with
  | error e => simp [Except.map, bind, Except.bind]
  | ok m => simp [Except.map, bind, Except.bind, pure, Except.pure]

/-- Exactly the numerals are read as numbers. -/
theorem readInt_eq_ok_iff {s : String} {n : Int} : readInt 16 s = .ok n ↔ Numeral s.toList n := by
  constructor
  · intro h
    have hSplit : s.toList = s.toList.takeWhile isNumberBlank ++ s.toList.dropWhile isNumberBlank :=
      List.takeWhile_append_dropWhile.symm
    have hBefore : ∀ c ∈ s.toList.takeWhile isNumberBlank, isNumberBlank c = true :=
      fun c hc => List.mem_takeWhile_imp hc
    rw [hSplit]
    unfold readInt at h
    split at h
    · rename_i rest hMap
      obtain ⟨c, cs, hDrop, hc, rfl⟩ := List.map_eq_cons_iff.mp hMap
      obtain ⟨n, hn, rfl⟩ := map_cast_eq_ok_iff.mp h
      rw [hDrop, (plainDigit_eq_iff (by decide)).mp hc]
      exact .negative hBefore (readMagnitude_map_eq_ok_iff.mp hn)
    · rename_i rest hMap
      obtain ⟨c, cs, hDrop, hc, rfl⟩ := List.map_eq_cons_iff.mp hMap
      obtain ⟨n, hn, rfl⟩ := map_cast_eq_ok_iff.mp h
      rw [hDrop, (plainDigit_eq_iff (by decide)).mp hc]
      exact .positive hBefore (readMagnitude_map_eq_ok_iff.mp hn)
    · obtain ⟨n, hn, rfl⟩ := map_cast_eq_ok_iff.mp h
      exact .unsigned hBefore (readMagnitude_map_eq_ok_iff.mp hn)
  · intro h
    generalize hText : s.toList = cs at h
    rw [readInt, hText]
    cases h with
    | @unsigned before cs n hBefore hMagnitude =>
      have hRead := readMagnitude_map_eq_ok_iff.mpr hMagnitude
      obtain ⟨c, rest, d, rfl, hc⟩ := hMagnitude.head
      have hBlank : isNumberBlank c = false := by
        rw [Bool.eq_false_iff]
        exact fun h => not_countsAs (digitBelow?_of_isNumberBlank h) d hc
      have hSign {x : Char} (hx : digitValue? x = none) (hNone : digitBelow? 16 x = none) :
          plainDigit c ≠ x := fun h => hc.ne hNone ((plainDigit_eq_iff hx).mp h)
      rw [dropWhile_blanks hBefore hBlank, List.map_cons]
      split
      · rename_i hCons
        exact absurd (List.cons.inj hCons).1 (hSign (by decide) (by decide))
      · rename_i hCons
        exact absurd (List.cons.inj hCons).1 (hSign (by decide) (by decide))
      · exact map_cast_eq_ok_iff.mpr ⟨n, hRead, rfl⟩
    | @positive before cs n hBefore hMagnitude =>
      rw [dropWhile_blanks hBefore (by decide), List.map_cons]
      exact map_cast_eq_ok_iff.mpr ⟨n, readMagnitude_map_eq_ok_iff.mpr hMagnitude, rfl⟩
    | @negative before cs n hBefore hMagnitude =>
      rw [dropWhile_blanks hBefore (by decide), List.map_cons]
      exact map_cast_eq_ok_iff.mpr ⟨n, readMagnitude_map_eq_ok_iff.mpr hMagnitude, rfl⟩

/-! ## Characters of numerals -/

theorem Digits.mem {cs : List Char} {ds : List Nat} (h : Digits cs ds) {x : Char} (hx : x ∈ cs) :
    x = '_' ∨ ∃ d, CountsAs x d := by
  induction h with
  | nil => cases hx
  | digit hDigit _ ih =>
    rcases List.mem_cons.mp hx with rfl | hx
    · exact .inr ⟨_, hDigit⟩
    · exact ih hx
  | gap hDigit _ ih =>
    rcases List.mem_cons.mp hx with rfl | hx
    · exact .inl rfl
    rcases List.mem_cons.mp hx with rfl | hx
    · exact .inr ⟨_, hDigit⟩
    · exact ih hx

theorem Announcement.mem {cs : List Char} (h : Announcement cs) {x : Char} (hx : x ∈ cs) :
    x ∈ ['x', 'X', '_'] ∨ ∃ d, CountsAs x d := by
  cases h with
  | none => cases hx
  | announced hLead hLetter hGap =>
    rcases List.mem_cons.mp hx with rfl | hx
    · exact .inr ⟨0, .inr hLead⟩
    · left
      rcases List.mem_cons.mp hx with rfl | hx
      · rcases hLetter with rfl | rfl <;> simp
      · rcases hGap with rfl | rfl
        · cases hx
        · simp [List.mem_singleton.mp hx]

theorem Magnitude.mem {cs : List Char} {n : Nat} (h : Magnitude cs n) {x : Char} (hx : x ∈ cs) :
    x ∈ ['x', 'X', '_'] ∨ (∃ d, CountsAs x d) ∨ isNumberBlank x = true := by
  obtain ⟨hAnnouncement, hFirst, hMore, hAfter⟩ := h
  rcases List.mem_append.mp hx with hx | hx
  · rcases List.mem_append.mp hx with hx | hx
    · exact (hAnnouncement.mem hx).imp_right .inl
    rcases List.mem_cons.mp hx with rfl | hx
    · exact .inr (.inl ⟨_, hFirst⟩)
    · rcases hMore.mem hx with rfl | hDigit
      · exact .inl (by simp)
      · exact .inr (.inl hDigit)
  · exact .inr (.inr (hAfter x hx))

theorem slash_not_mem_magnitude {cs : List Char} {n : Nat} (h : Magnitude cs n) : '/' ∉ cs := by
  intro hSlash
  rcases h.mem hSlash with hMark | ⟨d, hDigit⟩ | hBlank
  · revert hMark
    decide
  · exact not_countsAs (by decide) d hDigit
  · cases hBlank

theorem slash_not_mem_numeral {cs : List Char} {n : Int} (h : Numeral cs n) : '/' ∉ cs := by
  have hBlanks {before : List Char} (hBefore : ∀ c ∈ before, isNumberBlank c = true) :
      '/' ∉ before := fun hMem => by cases hBefore _ hMem
  cases h with
  | unsigned hBefore hMagnitude =>
    exact List.not_mem_append (hBlanks hBefore) (slash_not_mem_magnitude hMagnitude)
  | positive hBefore hMagnitude | negative hBefore hMagnitude =>
    exact List.not_mem_append (hBlanks hBefore)
      (List.not_mem_cons_of_ne_of_not_mem (by decide) (slash_not_mem_magnitude hMagnitude))

/-! ## What is written is read -/

theorem digits_of_hex {cs : List Char} (h : ∀ c ∈ cs, (hexDigit? c).isSome) :
    Digits cs (cs.map fun c => (hexDigit? c).getD 0) := by
  induction cs with
  | nil => exact .nil
  | cons c cs ih =>
    obtain ⟨d, hd⟩ := Option.isSome_iff_exists.mp (h c List.mem_cons_self)
    have hDigit : CountsAs c ((hexDigit? c).getD 0) := by
      rw [hd]
      exact .inl hd
    exact .digit hDigit (ih fun c hc => h c (List.mem_cons_of_mem _ hc))

theorem magnitude_hexValue {cs : List Char} (hNonempty : cs ≠ [])
    (h : ∀ c ∈ cs, (hexDigit? c).isSome) : Magnitude cs (hexValue cs) := by
  obtain ⟨c, rest, rfl⟩ := List.exists_cons_of_ne_nil hNonempty
  obtain ⟨d, hd⟩ := Option.isSome_iff_exists.mp (h c List.mem_cons_self)
  have hMore := digits_of_hex fun c hc => h c (List.mem_cons_of_mem _ hc)
  have hWhole := Magnitude.mk .none (.inl hd) hMore fun c (hc : c ∈ []) => by cases hc
  rw [List.append_nil, List.nil_append] at hWhole
  rw [hexValue, List.map_reverse, List.map_cons, hd]
  exact hWhole

theorem magnitude_upperDigits (n : Nat) : Magnitude (upperDigits n) n := by
  have hCanonical := canonical_upperDigits n
  have h := magnitude_hexValue hCanonical.nonempty hCanonical.isSome
  rwa [hexValue_upperDigits] at h

end ReplicaBootstrap.Number
