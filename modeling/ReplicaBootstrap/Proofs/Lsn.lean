import Mathlib.Data.Int.Bitwise
import Mathlib.Data.List.Basic
import ReplicaBootstrap.Proofs.Action
import ReplicaBootstrap.Proofs.Number.Numeral
import ReplicaBootstrap.Proofs.Text.Pieces
import ReplicaBootstrap.Slot.Provision

/-! # Texts of log positions

A position has two halves of 32 bits, written in hexadecimal with a slash between them. Whatever is
written is read again. Much that no server writes is read as well: only a text that is strict, with no
more than eight digits to a half, is read as a position of 64 bits.
-/

namespace ReplicaBootstrap.Lsn

open Number Text ReplicaBootstrap.Action

/-! ## Halves put together -/

theorem and_add_ldiff (n m : Nat) : (m &&& n) + Nat.ldiff n m = n := by
  induction n using Nat.binaryRec' generalizing m with
  | zero => simp [Nat.ldiff]
  | bit a n _ ih =>
    rw [← Nat.bit_bodd_div2 m, Nat.land_bit, Nat.ldiff_bit]
    have ih := ih m.div2
    cases a <;> cases m.bodd <;> simp [Nat.bit_val] <;> omega

theorem orInt_eq_lor (a b : Int) : orInt a b = a.lor b := by
  have hLdiff (m n : Nat) : n - (m &&& n) = Nat.ldiff n m := by
    have := and_add_ldiff n m
    omega
  cases a with
  | ofNat m =>
    cases b with
    | ofNat n => rfl
    | negSucc n => exact congrArg Int.negSucc (hLdiff m n)
  | negSucc m =>
    cases b with
    | ofNat n =>
      rw [orInt, Nat.land_comm]
      exact congrArg Int.negSucc (hLdiff n m)
    | negSucc n => rfl

/-- The low half only fills bits that the high half leaves free. -/
theorem lor_low (high : Int) {low : Nat} (h : low < 2 ^ 32) :
    (high * 2 ^ 32).lor low = high * 2 ^ 32 + low := by
  cases high with
  | ofNat m =>
    have hAdd := Nat.two_pow_add_eq_or_of_lt h m
    change ((m * 2 ^ 32 ||| low : Nat) : Int) = (m : Int) * 2 ^ 32 + low
    rw [Nat.mul_comm, ← hAdd]
    push_cast
    ring
  | negSucc m =>
    -- below the sign, all of the low bits are set, so those of the low half are taken away
    have hMask : low &&& 2 ^ 32 * m + (2 ^ 32 - 1) = low := by
      apply Nat.eq_of_testBit_eq
      intro i
      rw [Nat.testBit_land, Nat.testBit_two_pow_mul_add m (by decide)]
      by_cases hi : i < 32
      · rw [if_pos hi, Nat.testBit_two_pow_sub_one, decide_eq_true hi, Bool.and_true]
      · have hHigh : low.testBit i = false :=
          Nat.testBit_lt_two_pow (h.trans_le (Nat.pow_le_pow_right (by decide) (not_lt.mp hi)))
        rw [hHigh, Bool.false_and]
    have hLdiff := and_add_ldiff (2 ^ 32 * m + (2 ^ 32 - 1)) low
    have hHigh : Int.negSucc m * 2 ^ 32 = Int.negSucc (2 ^ 32 * m + (2 ^ 32 - 1)) := by
      rw [Int.negSucc_eq, Int.negSucc_eq]
      push_cast
      ring
    rw [hMask] at hLdiff
    rw [hHigh]
    change Int.negSucc (Nat.ldiff (2 ^ 32 * m + (2 ^ 32 - 1)) low) = _
    rw [Int.negSucc_eq, Int.negSucc_eq]
    omega

/-! ## What is read -/

/-- A text that is read as the position `v`: two numerals with a slash between them, put together bit
by bit. -/
inductive Reads : String → Int → Prop
  | mk {s : String} {a b : List Char} {high low : Int} (hText : s.toList = a ++ '/' :: b)
      (hHigh : Numeral a high) (hLow : Numeral b low) : Reads s ((high * 2 ^ 32).lor low)

theorem parsePart_eq_ok_iff {s : String} {v : Int} : parsePart s = .ok v ↔ Numeral s.toList v := by
  rw [parsePart, ← readInt_eq_ok_iff]
  cases readInt 16 s <;> simp [Except.mapError]

theorem parse_eq_ok_iff {s : String} {v : Int} : parse s = .ok v ↔ Reads s v := by
  constructor
  · intro h
    unfold parse at h
    split at h
    · rename_i high low hSplit
      obtain ⟨a, rest, hPieces, rfl, hRest⟩ := List.map_eq_cons_iff.mp hSplit
      obtain ⟨b, rest, rfl, rfl, hNoMore⟩ := List.map_eq_cons_iff.mp hRest
      rw [List.map_eq_nil_iff.mp hNoMore] at hPieces
      obtain ⟨-, -, hText⟩ := splitChars_eq_pair_iff.mp hPieces
      obtain ⟨h, hHigh, hParts⟩ := ok_of_bind h
      obtain ⟨l, hLow, hParts⟩ := ok_of_bind hParts
      cases hParts
      rw [parsePart_eq_ok_iff, String.toList_ofList] at hHigh hLow
      rw [orInt_eq_lor]
      exact .mk hText hHigh hLow
    · cases h
    · cases h
  · rintro ⟨hText, hHigh, hLow⟩
    rename_i a b high low
    have hSplit : split '/' s = [String.ofList a, String.ofList b] := by
      rw [split, splitChars_eq_pair_iff.mpr
        ⟨slash_not_mem_numeral hHigh, slash_not_mem_numeral hLow, hText⟩]
      rfl
    have hPart {cs : List Char} {n : Int} (h : Numeral cs n) :
        parsePart (String.ofList cs) = .ok n := by
      rw [parsePart_eq_ok_iff, String.toList_ofList]
      exact h
    rw [parse, hSplit]
    dsimp only
    rw [hPart hHigh, hPart hLow]
    exact congrArg Except.ok (orInt_eq_lor _ _)

/-! ## Positions -/

/-- Half of a position: one to eight hexadecimal digits. -/
structure IsHalf (cs : List Char) : Prop where
  digits : ∀ c ∈ cs, (hexDigit? c).isSome
  nonempty : cs ≠ []
  short : cs.length ≤ 8

instance (cs : List Char) : Decidable (IsHalf cs) :=
  decidable_of_iff (cs.all (fun c => (hexDigit? c).isSome) = true ∧ cs ≠ [] ∧ cs.length ≤ 8)
    ⟨fun ⟨hDigits, hNonempty, hShort⟩ => ⟨List.all_eq_true.mp hDigits, hNonempty, hShort⟩,
      fun h => ⟨List.all_eq_true.mpr h.digits, h.nonempty, h.short⟩⟩

/-- The text of a position of 64 bits as servers write it, and the position. -/
inductive Denotes : String → Nat → Prop
  | mk {high low : List Char} (hHigh : IsHalf high) (hLow : IsHalf low) :
      Denotes (String.ofList (high ++ '/' :: low)) (hexValue high * 2 ^ 32 + hexValue low)

theorem IsHalf.lt {cs : List Char} (h : IsHalf cs) : hexValue cs < 2 ^ 32 :=
  calc
    hexValue cs < 16 ^ cs.length := hexValue_lt cs
    _ ≤ 16 ^ 8 := Nat.pow_le_pow_right (by decide) h.short
    _ = 2 ^ 32 := by decide

theorem Denotes.lt {s : String} {p : Nat} (h : Denotes s p) : p < 2 ^ 64 := by
  obtain ⟨hHigh, hLow⟩ := h
  have hHigh := hHigh.lt
  have hLow := hLow.lt
  omega

theorem numeral_hexValue {cs : List Char} (hNonempty : cs ≠ []) (h : ∀ c ∈ cs, (hexDigit? c).isSome) :
    Numeral cs (hexValue cs) := by
  change Numeral ([] ++ cs) _
  exact .unsigned (fun _ hc => by cases hc) (magnitude_hexValue hNonempty h)

theorem Denotes.reads {s : String} {p : Nat} (h : Denotes s p) : Reads s p := by
  obtain ⟨hHigh, hLow⟩ := h
  have hRead := Reads.mk String.toList_ofList (numeral_hexValue hHigh.nonempty hHigh.digits)
    (numeral_hexValue hLow.nonempty hLow.digits)
  rw [lor_low _ hLow.lt] at hRead
  exact_mod_cast hRead

/-- Only digits and slashes, and no more than eight digits in a row. -/
def Strict (s : String) : Prop :=
  ∀ part ∈ splitChars '/' s.toList, part.length ≤ 8 ∧ ∀ c ∈ part, (hexDigit? c).isSome

instance (s : String) : Decidable (Strict s) :=
  decidable_of_iff
    (∀ part ∈ splitChars '/' s.toList, part.length ≤ 8 ∧ part.all (fun c => (hexDigit? c).isSome) = true)
    (by simp [Strict])

theorem IsHalf.slash_not_mem {cs : List Char} (h : IsHalf cs) : '/' ∉ cs := fun hMem => by
  cases h.digits _ hMem

theorem Denotes.strict {s : String} {p : Nat} (h : Denotes s p) : Strict s := by
  obtain ⟨hHigh, hLow⟩ := h
  intro part hPart
  rw [splitChars_eq_pair_iff.mpr ⟨hHigh.slash_not_mem, hLow.slash_not_mem, String.toList_ofList⟩]
    at hPart
  rcases List.mem_cons.mp hPart with rfl | hPart
  · exact ⟨hHigh.short, hHigh.digits⟩
  · rw [List.mem_singleton.mp hPart]
    exact ⟨hLow.short, hLow.digits⟩

theorem denotes_of_strict {s : String} {v : Int} (h : Reads s v) (hStrict : Strict s) :
    ∃ p, Denotes s p := by
  obtain ⟨hText, hHigh, hLow⟩ := h
  rename_i a b high low
  have hSplit := splitChars_eq_pair_iff.mpr
    ⟨slash_not_mem_numeral hHigh, slash_not_mem_numeral hLow, hText⟩
  have ha := hStrict a (by simp [hSplit])
  have hb := hStrict b (by simp [hSplit])
  have hDenotes := Denotes.mk ⟨ha.2, hHigh.ne_nil, ha.1⟩ ⟨hb.2, hLow.ne_nil, hb.1⟩
  rw [← hText, String.ofList_toList] at hDenotes
  exact ⟨_, hDenotes⟩

/-! ## What is written -/

def signText (v : Int) : List Char := if v < 0 then ['-'] else []

theorem toList_format (v : Int) : (format v).toList =
    signText (v / 2 ^ 32) ++ upperDigits (v / 2 ^ 32).natAbs ++
      '/' :: upperDigits (v % 2 ^ 32).toNat := by
  have hHigh : v.fdiv halfRange = v / 2 ^ 32 := Int.fdiv_eq_ediv_of_nonneg v (by decide)
  have hLow : v.fmod halfRange = v % 2 ^ 32 := Int.fmod_eq_emod_of_nonneg v (by decide)
  rw [format, hHigh, hLow, signText]
  split <;> simp [toList_hexUpper]

theorem numeral_signed (v : Int) : Numeral (signText v ++ upperDigits v.natAbs) v := by
  have hMagnitude := magnitude_upperDigits v.natAbs
  rw [← List.nil_append (signText v ++ _), signText]
  split
  · have hRead : Numeral ([] ++ '-' :: upperDigits v.natAbs) (-v.natAbs) :=
      .negative (fun _ hc => by cases hc) hMagnitude
    rwa [show -(v.natAbs : Int) = v by omega] at hRead
  · have hRead : Numeral ([] ++ upperDigits v.natAbs) v.natAbs :=
      .unsigned (fun _ hc => by cases hc) hMagnitude
    rwa [show (v.natAbs : Int) = v by omega] at hRead

theorem parse_format (v : Int) : parse (format v) = .ok v := by
  have hLow : (v % 2 ^ 32).toNat < 2 ^ 32 := by omega
  have hRead := Reads.mk (toList_format v) (numeral_signed (v / 2 ^ 32))
    (numeral_hexValue (canonical_upperDigits _).nonempty (canonical_upperDigits _).isSome)
  rw [hexValue_upperDigits, lor_low _ hLow] at hRead
  have hWhole : v / 2 ^ 32 * 2 ^ 32 + ((v % 2 ^ 32).toNat : Int) = v := by omega
  rw [hWhole] at hRead
  exact parse_eq_ok_iff.mpr hRead

theorem format_halves {high low : Nat} (h : low < 2 ^ 32) :
    format (high * 2 ^ 32 + low : Nat) = String.ofList (upperDigits high ++ '/' :: upperDigits low) := by
  have hHigh : ((high * 2 ^ 32 + low : Nat) : Int) / 2 ^ 32 = high := by omega
  have hLow : ((high * 2 ^ 32 + low : Nat) : Int) % 2 ^ 32 = low := by omega
  rw [← String.toList_inj, String.toList_ofList, toList_format, hHigh, hLow, signText,
    if_neg (by omega), Int.natAbs_natCast, Int.toNat_natCast, List.nil_append]

/-- The one text of a position: two halves without idle zeros, the low one of 32 bits. -/
inductive Written : String → Nat → Prop
  | mk {high low : List Char} (hHigh : Canonical high) (hLow : Canonical low)
      (hRange : hexValue low < 2 ^ 32) :
      Written (String.ofList (high ++ '/' :: low)) (hexValue high * 2 ^ 32 + hexValue low)

theorem Written.reads {s : String} {p : Nat} (h : Written s p) : Reads s p := by
  obtain ⟨hHigh, hLow, hRange⟩ := h
  have hRead := Reads.mk String.toList_ofList (numeral_hexValue hHigh.nonempty hHigh.isSome)
    (numeral_hexValue hLow.nonempty hLow.isSome)
  rw [lor_low _ hRange] at hRead
  exact_mod_cast hRead

theorem Written.format_eq {s : String} {p : Nat} (h : Written s p) : format p = s := by
  obtain ⟨hHigh, hLow, hRange⟩ := h
  rw [format_halves hRange, upperDigits_hexValue hHigh, upperDigits_hexValue hLow]

theorem isHalf_of_canonical {cs : List Char} (h : Canonical cs) (hRange : hexValue cs < 2 ^ 32) :
    IsHalf cs where
  digits := h.isSome
  nonempty := h.nonempty
  short := by
    rw [← upperDigits_hexValue h, length_upperDigits_le_iff (by decide)]
    exact hRange

theorem Written.denotes {s : String} {p : Nat} (h : Written s p) (hp : p < 2 ^ 64) : Denotes s p := by
  obtain ⟨hHigh, hLow, hRange⟩ := h
  exact .mk (isHalf_of_canonical hHigh (by omega)) (isHalf_of_canonical hLow hRange)

theorem written_format (p : Nat) : Written (format p) p := by
  have hp : p / 2 ^ 32 * 2 ^ 32 + p % 2 ^ 32 = p := Nat.div_add_mod' p (2 ^ 32)
  have hRange : p % 2 ^ 32 < 2 ^ 32 := Nat.mod_lt p (by decide)
  have hWritten := Written.mk (canonical_upperDigits (p / 2 ^ 32)) (canonical_upperDigits (p % 2 ^ 32))
    (by rwa [hexValue_upperDigits])
  rwa [hexValue_upperDigits, hexValue_upperDigits, ← format_halves hRange, hp] at hWritten

/-! ## Round trips -/

/-- Whatever is written is read again; a text in its one form is written as it was read; and what was
read and written once stays as it is. -/
theorem round_trips :
    (∀ v : Int, parse (format v) = .ok v) ∧
      (∀ s p, Written s p → (parse s).map format = .ok s) ∧
      ∀ s t, (parse s).map format = .ok t → (parse t).map format = .ok t := by
  refine ⟨parse_format, fun s p h => ?_, fun s t h => ?_⟩
  · rw [parse_eq_ok_iff.mpr h.reads]
    exact congrArg Except.ok h.format_eq
  · cases hParse : parse s with
    | error e =>
      rw [hParse] at h
      cases h
    | ok v =>
      rw [hParse] at h
      cases h
      rw [parse_format]
      rfl

theorem round_trips_high :
    Written "16/B374D848" (0x16 * 2 ^ 32 + 0xB374D848) ∧
      (parse "16/B374D848").map format = .ok "16/B374D848" ∧
      (parse " 0x1_6/b374d848").map format = .ok "16/B374D848" := by
  have hWritten : Written "16/B374D848" (0x16 * 2 ^ 32 + 0xB374D848) :=
    @Written.mk ['1', '6'] ['B', '3', '7', '4', 'D', '8', '4', '8'] (by decide) (by decide) (by decide)
  exact ⟨hWritten, round_trips.2.1 _ _ hWritten, by decide +kernel⟩

/-! ## Slots at positions -/

/-- The position that a row names is taken as far as it is read, in its one form. -/
theorem slotOfRow_text (query plugin s : String) (name snapshot : Value) (rest : List Value) :
    SlotProvision.slotOfRow query plugin (name :: .text s :: snapshot :: rest) =
      match parse s with
      | .ok v => .ok {
          name, lsn := format v, snapshot, outputPlugin := rest.head?.getD (.text plugin) }
      | .error _ => .error (.init .slotCreation
          s!"replication command \"{query}\" returned invalid LSN {(Value.text s).quoted}") := by
  cases hParse : parse s <;>
    simp [SlotProvision.slotOfRow, SlotProvision.canonicalLsn, Session.column, hParse, bind, Except.bind,
      pure, Except.pure, List.head?_eq_getElem?]

/-- Every position is read. Other texts are read as well, unless they are strict: those with signs,
announcements, underscores, blanks, digits of other scripts or a half of more than eight digits. A row
with a text that is read gives a slot, any other text is refused. -/
theorem accepts_iff (s : String) :
    (∀ v, parse s = .ok v ↔ Reads s v) ∧
      (∀ p, Denotes s p → parse s = .ok p ∧ p < 2 ^ 64) ∧
      (((∃ v, parse s = .ok v) ↔ ∃ p, Denotes s p) ↔ ∀ v, Reads s v → Strict s) ∧
      ∀ query plugin name snapshot rest,
        (∃ v slot, Reads s v ∧ slot.lsn = format v ∧
          SlotProvision.slotOfRow query plugin (name :: .text s :: snapshot :: rest) = .ok slot) ∨
        (¬ ∃ v, Reads s v) ∧ ∃ text,
          SlotProvision.slotOfRow query plugin (name :: .text s :: snapshot :: rest) =
            .error (.init .slotCreation text) := by
  refine ⟨fun v => parse_eq_ok_iff, fun p h => ⟨parse_eq_ok_iff.mpr h.reads, h.lt⟩, ?_, ?_⟩
  · simp only [parse_eq_ok_iff]
    constructor
    · intro h v hReads
      obtain ⟨p, hDenotes⟩ := h.mp ⟨v, hReads⟩
      exact hDenotes.strict
    · intro h
      constructor
      · rintro ⟨v, hReads⟩
        exact denotes_of_strict hReads (h v hReads)
      · rintro ⟨p, hDenotes⟩
        exact ⟨p, hDenotes.reads⟩
  · intro query plugin name snapshot rest
    rw [slotOfRow_text]
    cases hParse : parse s with
    | ok v => exact .inl ⟨v, _, parse_eq_ok_iff.mp hParse, rfl, rfl⟩
    | error e =>
      refine .inr ⟨?_, _, rfl⟩
      rintro ⟨v, hReads⟩
      rw [parse_eq_ok_iff.mpr hReads] at hParse
      cases hParse

theorem accepts_iff_lowerCase :
    Denotes "16/b374d848" (0x16 * 2 ^ 32 + 0xb374d848) ∧
      parse "16/b374d848" = .ok (0x16 * 2 ^ 32 + 0xb374d848) ∧
      0x16 * 2 ^ 32 + 0xb374d848 < 2 ^ 64 := by
  have hDenotes : Denotes "16/b374d848" (0x16 * 2 ^ 32 + 0xb374d848) :=
    @Denotes.mk ['1', '6'] ['b', '3', '7', '4', 'd', '8', '4', '8'] (by decide) (by decide)
  exact ⟨hDenotes, (accepts_iff "16/b374d848").2.1 _ hDenotes⟩

/-- The digits of a low half that are too many run into the high half. -/
theorem overlong_accepted :
    (¬ ∃ p, Denotes "1/FFFFFFFFF" p) ∧ parse "1/FFFFFFFFF" = .ok 0xFFFFFFFFF ∧
      format 0xFFFFFFFFF = "F/FFFFFFFF" := by
  have hLong : ¬ Strict "1/FFFFFFFFF" := by decide +kernel
  exact ⟨fun ⟨_, hDenotes⟩ => hLong hDenotes.strict, by decide +kernel⟩

end ReplicaBootstrap.Lsn
