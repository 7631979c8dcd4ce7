import Mathlib.Data.List.Induction
import Mathlib.Data.Nat.Digits.Defs
import ReplicaBootstrap.Number.Radix

/-! # Hexadecimal digits

A number is written as its one numeral of upper-case digits without leading zeros.
-/

namespace ReplicaBootstrap.Number

/-! ## Digits -/

def hexAlphabet : List Char :=
  ['0', '1', '2', '3', '4', '5', '6', '7', '8', '9', 'A', 'B', 'C', 'D', 'E', 'F']

/-- The value of a hexadecimal digit of ASCII, a letter in either case. -/
def hexDigit? (c : Char) : Option Nat := hexAlphabet.idxOf? c.toUpper

/-- The number that digits denote, the first one being the highest. -/
def hexValue (cs : List Char) : Nat := Nat.ofDigits 16 (cs.reverse.map fun c => (hexDigit? c).getD 0)

theorem ascii_forall {P : Char → Prop} (h : ∀ n < 128, P (Char.ofNat n)) {c : Char}
    (hc : c.toNat < 128) : P c := by
  rw [← Char.ofNat_toNat c]
  exact h c.toNat hc

theorem hexDigit?_lt {c : Char} {d : Nat} (h : hexDigit? c = some d) : d < 16 :=
  (List.idxOf?_eq_some_iff.mp h).1

theorem hexDigit?_of_not_ascii {c : Char} (hc : ¬ c.toNat < 128) : hexDigit? c = none := by
  have hUpper : c.toUpper = c := by
    apply dif_neg
    rintro ⟨-, hLast⟩
    have hLast : c.toNat ≤ 122 := UInt32.le_iff_toNat_le.mp hLast
    omega
  have hAscii : hexAlphabet.all (·.toNat < 128) = true := by decide
  rw [hexDigit?, hUpper, List.idxOf?_eq_none_iff]
  exact fun hMem => hc (of_decide_eq_true (List.all_eq_true.mp hAscii c hMem))

theorem hexDigit?_hexAlphabet {d : Nat} (h : d < 16) : hexDigit? (hexAlphabet.get ⟨d, h⟩) = some d := by
  revert d
  decide

theorem exists_of_mem_hexAlphabet {c : Char} (h : c ∈ hexAlphabet) :
    ∃ d, ∃ hd : d < 16, c = hexAlphabet.get ⟨d, hd⟩ := by
  obtain ⟨d, hd, rfl⟩ := List.getElem_of_mem h
  exact ⟨d, hd, rfl⟩

theorem hexValue_append (cs : List Char) (c : Char) :
    hexValue (cs ++ [c]) = 16 * hexValue cs + (hexDigit? c).getD 0 := by
  rw [hexValue, List.reverse_append, List.reverse_singleton, List.singleton_append, List.map_cons,
    Nat.ofDigits_cons, Nat.add_comm, hexValue]

theorem hexValue_lt (cs : List Char) : hexValue cs < 16 ^ cs.length := by
  rw [hexValue, ← List.length_reverse, ← List.length_map (fun c => (hexDigit? c).getD 0)]
  apply Nat.ofDigits_lt_base_pow_length (by decide)
  intro d hd
  obtain ⟨c, -, rfl⟩ := List.mem_map.mp hd
  cases hc : hexDigit? c with
  | none => decide
  | some d => exact hexDigit?_lt hc

/-! ## Writing numbers -/

/-- The one numeral of a number: upper-case digits, and none of them is an idle zero. -/
structure Canonical (cs : List Char) : Prop where
  digits : ∀ c ∈ cs, c ∈ hexAlphabet
  nonempty : cs ≠ []
  shortest : cs.head? = some '0' → cs = ['0']

instance (cs : List Char) : Decidable (Canonical cs) :=
  decidable_of_iff
    (cs.all hexAlphabet.contains = true ∧ cs ≠ [] ∧ (cs.head? = some '0' → cs = ['0']))
    ⟨fun ⟨hDigits, hNonempty, hShortest⟩ => ⟨by simpa using hDigits, hNonempty, hShortest⟩,
      fun h => ⟨by simpa using h.digits, h.nonempty, h.shortest⟩⟩

theorem Canonical.isSome {cs : List Char} (h : Canonical cs) : ∀ c ∈ cs, (hexDigit? c).isSome := by
  intro c hc
  obtain ⟨d, hd, rfl⟩ := exists_of_mem_hexAlphabet (h.digits c hc)
  rw [hexDigit?_hexAlphabet hd]
  rfl

def upperDigits (n : Nat) : List Char := (Nat.toDigits 16 n).map Char.toUpper

theorem toList_hexUpper (n : Nat) : (hexUpper n).toList = upperDigits n := String.toList_ofList

theorem upperDigits_of_lt {n : Nat} (h : n < 16) : upperDigits n = [hexAlphabet.get ⟨n, h⟩] := by
  rw [upperDigits, Nat.toDigits_of_lt_base h]
  revert n
  decide

/-- The last digit comes off the end. -/
theorem upperDigits_append {n d : Nat} (hn : 0 < n) (hd : d < 16) :
    upperDigits (16 * n + d) = upperDigits n ++ upperDigits d := by
  rw [upperDigits, ← Nat.toDigits_append_toDigits (by decide) hn hd, List.map_append]
  rfl

theorem hexValue_upperDigits (n : Nat) : hexValue (upperDigits n) = n := by
  induction n using Nat.strongRecOn with
  | ind n ih =>
    by_cases hn : n < 16
    · rw [upperDigits_of_lt hn, ← List.nil_append [_], hexValue_append, hexDigit?_hexAlphabet hn]
      exact Nat.zero_add n
    · have hLast : n % 16 < 16 := Nat.mod_lt n (by decide)
      rw [← Nat.div_add_mod n 16, upperDigits_append (by omega) hLast, upperDigits_of_lt hLast,
        hexValue_append, hexDigit?_hexAlphabet hLast, ih (n / 16) (by omega)]
      rfl

theorem canonical_upperDigits (n : Nat) : Canonical (upperDigits n) := by
  induction n using Nat.strongRecOn with
  | ind n ih =>
    by_cases hn : n < 16
    · rw [upperDigits_of_lt hn]
      refine ⟨fun c hc => ?_, List.cons_ne_nil _ _, fun hHead => ?_⟩
      · rw [List.mem_singleton.mp hc]
        exact List.getElem_mem _
      · rw [Option.some.inj hHead]
    · have hLast : n % 16 < 16 := Nat.mod_lt n (by decide)
      have hFront := ih (n / 16) (by omega)
      rw [← Nat.div_add_mod n 16, upperDigits_append (by omega) hLast, upperDigits_of_lt hLast]
      refine ⟨fun c hc => ?_, by simp, fun hHead => ?_⟩
      · rcases List.mem_append.mp hc with hc | hc
        · exact hFront.digits c hc
        · rw [List.mem_singleton.mp hc]
          exact List.getElem_mem _
      · -- the front would be a zero on its own, but the number has more than one digit
        have hHead : (upperDigits (n / 16)).head? = some '0' := by
          obtain ⟨c, rest, hCons⟩ := List.exists_cons_of_ne_nil hFront.nonempty
          rw [hCons] at hHead ⊢
          exact hHead
        have hValue := hexValue_upperDigits (n / 16)
        rw [hFront.shortest hHead] at hValue
        have hZero : n / 16 = 0 := hValue.symm.trans (by decide)
        omega

theorem upperDigits_hexValue {cs : List Char} (h : Canonical cs) : upperDigits (hexValue cs) = cs := by
  induction cs using List.reverseRecOn with
  | nil => exact absurd rfl h.nonempty
  | append_singleton cs c ih =>
    obtain ⟨d, hd, rfl⟩ := exists_of_mem_hexAlphabet (h.digits c (by simp))
    rw [hexValue_append, hexDigit?_hexAlphabet hd, Option.getD_some]
    by_cases hEmpty : cs = []
    · subst hEmpty
      rw [List.nil_append, ← upperDigits_of_lt hd]
      exact congrArg upperDigits (Nat.zero_add d)
    · have hHead : cs.head? ≠ some '0' := by
        intro hZero
        have hWhole := h.shortest (by rw [List.head?_append, hZero, Option.some_or])
        simp [List.append_eq_singleton_iff, hEmpty] at hWhole
      have hFront : Canonical cs :=
        ⟨fun c hc => h.digits c (List.mem_append_left _ hc), hEmpty, fun hZero => absurd hZero hHead⟩
      have hPositive : 0 < hexValue cs := by
        rw [Nat.pos_iff_ne_zero]
        intro hZero
        rw [← ih hFront, hZero] at hHead
        exact hHead rfl
      rw [upperDigits_append hPositive hd, ih hFront, upperDigits_of_lt hd]

theorem length_upperDigits_le_iff {n k : Nat} (hk : 0 < k) :
    (upperDigits n).length ≤ k ↔ n < 16 ^ k := by
  rw [upperDigits, List.length_map]
  exact Nat.length_toDigits_le_iff (by decide) hk

end ReplicaBootstrap.Number
