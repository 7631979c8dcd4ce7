import ReplicaBootstrap.Proofs.Number.Numeral

/-! # Decimal numerals

Digits alone are read as the number that they denote, whatever scripts they are of, unless there are
too many of them.
-/

namespace ReplicaBootstrap.Number

open Text

/-- The number that decimal digits denote, the first one being the highest. -/
def decimalValue (cs : List Char) : Nat :=
  Nat.ofDigits 10 (cs.reverse.map fun c => (digitValue? c).getD 0)

/-- Nothing but decimal digits, and at least one. -/
structure IsDecimal (cs : List Char) : Prop where
  nonempty : cs ≠ []
  digits : ∀ c ∈ cs, isDigit c = true

theorem digitBelow?_plainDigit {c : Char} {d : Nat} (h : digitValue? c = some d) :
    digitBelow? 10 (plainDigit c) = some d := by
  have hDigits : ∀ d < 10, digitBelow? 10 (Char.ofNat (48 + d)) = some d := by decide
  rw [plainDigit, h]
  exact hDigits d (toNat_of_digitValue? h).1

theorem digitRun_plain {cs : List Char} (h : ∀ c ∈ cs, isDigit c = true) :
    digitRun 10 (cs.map plainDigit) = (cs.map fun c => (digitValue? c).getD 0, []) := by
  induction cs with
  | nil => rfl
  | cons c cs ih =>
    obtain ⟨d, hd⟩ := Option.isSome_iff_exists.mp (h c List.mem_cons_self)
    have hc : plainDigit c ≠ '_' := by
      intro hGap
      rw [(plainDigit_eq_iff (by decide)).mp hGap] at hd
      cases hd
    have hRest := ih fun c hc => h c (List.mem_cons_of_mem _ hc)
    rw [List.map_cons, digitRun.eq_def]
    split
    · contradiction
    · rename_i hCons
      exact absurd (List.cons.inj hCons).1 hc
    · rename_i hCons
      cases hCons
      rw [digitBelow?_plainDigit hd, hRest, List.map_cons, hd]
      rfl

theorem dropPrefix_ten (cs : List Char) : dropPrefix 10 cs = cs := by
  unfold dropPrefix
  split <;> rfl

theorem readMagnitude_plain {cs : List Char} (h : IsDecimal cs) :
    readMagnitude 10 (cs.map plainDigit) =
      if cs.length ≤ maxDecimalDigits then .ok (decimalValue cs)
      else .error (.tooLong cs.length) := by
  have hValue : ofDigits 10 (cs.map fun c => (digitValue? c).getD 0) = decimalValue cs := by
    rw [ofDigits_eq, ← List.map_reverse]
    rfl
  obtain ⟨c, rest, rfl⟩ := List.exists_cons_of_ne_nil h.nonempty
  obtain ⟨d, hd⟩ := Option.isSome_iff_exists.mp (h.digits c List.mem_cons_self)
  rw [readMagnitude, dropPrefix_ten]
  split
  · rename_i hCons
    rw [List.map_cons] at hCons
    rw [(plainDigit_eq_iff (by decide)).mp (List.cons.inj hCons).1] at hd
    cases hd
  · rw [digitRun_plain h.digits]
    dsimp only
    rw [hValue, List.length_map]
    by_cases hLength : (c :: rest).length ≤ maxDecimalDigits
    · rw [if_pos hLength, if_neg (by simp), if_neg (by omega), if_pos (by rfl)]
    · rw [if_neg hLength, if_neg (by simp), if_pos ⟨rfl, by omega⟩]

theorem readInt_of_isDecimal {cs : List Char} (h : IsDecimal cs) :
    readInt 10 (String.ofList cs) =
      if cs.length ≤ maxDecimalDigits then .ok (decimalValue cs : Int)
      else .error (.tooLong cs.length) := by
  have hMagnitude := readMagnitude_plain h
  obtain ⟨c, rest, rfl⟩ := List.exists_cons_of_ne_nil h.nonempty
  obtain ⟨d, hd⟩ := Option.isSome_iff_exists.mp (h.digits c List.mem_cons_self)
  have hBlank : isNumberBlank c = false := by
    rw [Bool.eq_false_iff]
    intro hBlank
    rw [digitValue?_of_isNumberBlank hBlank] at hd
    cases hd
  have hSign {x : Char} (hx : digitValue? x = none) : plainDigit c ≠ x := by
    intro h
    rw [(plainDigit_eq_iff hx).mp h, hx] at hd
    cases hd
  rw [readInt, String.toList_ofList, List.dropWhile_cons_of_neg (by simp [hBlank])]
  split
  · rename_i hCons
    exact absurd (List.cons.inj hCons).1 (hSign (by decide))
  · rename_i hCons
    exact absurd (List.cons.inj hCons).1 (hSign (by decide))
  · rw [hMagnitude]
    split <;> rfl

end ReplicaBootstrap.Number
