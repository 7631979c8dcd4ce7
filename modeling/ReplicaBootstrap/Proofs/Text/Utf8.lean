import Mathlib.Tactic.SplitIfs
import ReplicaBootstrap.Text.Utf8

/-! # Zero characters in UTF-8

Reading and writing bytes neither makes nor loses a zero character: a text that was read from bytes
other than zero has none, and only a zero character is written as a zero byte.
-/

namespace ReplicaBootstrap.Text

theorem ofNat_ne_nul {n : Nat} (hn : n ≠ 0) (hValid : n.isValidChar) : Char.ofNat n ≠ '\x00' := by
  intro h
  have hVal : (Char.ofNat n).toNat = 0 := congrArg Char.toNat h
  rw [Char.ofNat, dif_pos hValid] at hVal
  exact hn hVal

theorem secondByteFits_bounds {lead second : UInt8} (h : secondByteFits lead second = true) :
    (lead.toNat = 0xe0 → 0xa0 ≤ second.toNat) ∧ (lead.toNat = 0xed → second.toNat ≤ 0x9f) ∧
      (lead.toNat = 0xf0 → 0x90 ≤ second.toNat) ∧ (lead.toNat = 0xf4 → second.toNat ≤ 0x8f) ∧
      0x80 ≤ second.toNat ∧ second.toNat ≤ 0xbf := by
  simp only [secondByteFits, beq_iff_eq, ← UInt8.toNat_inj, UInt8.le_iff_toNat_le,
    UInt8.reduceToNat] at h
  split_ifs at h <;> simp at h <;> omega

/-- A good sequence has a byte that fits after its first one, if it has more than that. -/
theorem take_of_good {lead : UInt8} {rest : List UInt8} {missing : Nat} (hMissing : missing ≠ 0)
    (hGood : goodContinuations lead missing rest = missing) :
    ∃ second more, rest.take missing = second :: more ∧ secondByteFits lead second = true ∧
      more.length + 1 = missing := by
  unfold goodContinuations at hGood
  split at hGood
  · exact absurd hGood.symm hMissing
  · rename_i second more hTake
    split at hGood
    · rename_i hFits
      refine ⟨second, more, hTake, hFits, ?_⟩
      have hLength := congrArg List.length hTake
      rw [List.length_take, List.length_cons] at hLength
      have hWhile := (List.takeWhile_sublist isContinuation (l := more)).length_le
      omega
    · exact absurd hGood.symm hMissing

/-- A good sequence stands for no zero character, unless it is a zero byte. -/
theorem assemble_ne_nul {lead : UInt8} {rest : List UInt8} {length : Nat} (hLead : lead ≠ 0)
    (hLength : sequenceLength? lead = some length)
    (hGood : goodContinuations lead (length - 1) rest + 1 = length) :
    assemble lead (rest.take (length - 1)) ≠ '\x00' := by
  have hLeadNat : lead.toNat ≠ 0 := fun h => hLead (UInt8.toNat_inj.mp h)
  simp only [sequenceLength?, UInt8.lt_iff_toNat_lt, Bool.and_eq_true, decide_eq_true_eq, UInt8.le_iff_toNat_le,
    UInt8.reduceToNat] at hLength
  split_ifs at hLength with h₁ h₂ h₃ h₄ <;> cases hLength
  · exact ofNat_ne_nul hLeadNat (.inl (by simp; omega))
  all_goals
    obtain ⟨second, more, hTake, hFits, hMore⟩ := take_of_good (by decide) (Nat.succ.inj hGood)
    have hBounds := secondByteFits_bounds hFits
    rw [hTake]
  · match more, hMore with
    | [], _ =>
      apply ofNat_ne_nul <;> simp [Nat.isValidChar] <;> omega
  · match more, hMore with
    | [third], _ =>
      apply ofNat_ne_nul <;> simp [Nat.isValidChar] <;> omega
  · match more, hMore with
    | [third, fourth], _ =>
      apply ofNat_ne_nul <;> simp [Nat.isValidChar] <;> omega

theorem nul_not_mem_decodeUtf8From {position : Nat} {bytes : List UInt8} {cs : List Char}
    (hBytes : ∀ b ∈ bytes, b ≠ 0) (h : decodeUtf8From position bytes = .ok cs) : '\x00' ∉ cs := by
  fun_induction decodeUtf8From position bytes generalizing cs with
  | case1 =>
    cases h
    exact List.not_mem_nil
  | case2 => cases h
  | case3 position lead rest length hLength good hGood cs' hRest =>
    rename_i ih
    cases h
    rw [List.mem_cons, not_or]
    constructor
    · exact (assemble_ne_nul (hBytes lead (List.mem_cons_self ..)) hLength hGood).symm
    · apply ih _ hRest
      intro b hb
      exact hBytes b (List.mem_cons_of_mem _ (List.mem_of_mem_drop hb))
  | case4 => cases h
  | case5 => cases h
  | case6 => cases h

theorem nul_not_mem_decodeUtf8 {bytes : List UInt8} {s : String} (hBytes : ∀ b ∈ bytes, b ≠ 0)
    (h : decodeUtf8 bytes = .ok s) : '\x00' ∉ s.toList := by
  unfold decodeUtf8 at h
  cases hDecode : decodeUtf8From 0 bytes with
  | error e =>
    rw [hDecode] at h
    cases h
  | ok cs =>
    rw [hDecode] at h
    cases h
    rw [String.toList_ofList]
    exact nul_not_mem_decodeUtf8From hBytes hDecode

theorem mem_data_of_mem_loop {bs : ByteArray} {i : Nat} {r : List UInt8} {b : UInt8}
    (h : b ∈ ByteArray.toList.loop bs i r) : b ∈ r ∨ b ∈ bs.data := by
  induction i, r using ByteArray.toList.loop.induct bs with
  | case1 i r hi ih =>
    rw [ByteArray.toList.loop.eq_def, if_pos hi] at h
    rcases ih h with h | h
    · rcases List.mem_cons.mp h with rfl | h
      · right
        have hGet : bs.get! i = bs.data[i] := by
          cases bs
          exact getElem!_pos _ i hi
        rw [hGet]
        exact Array.getElem_mem hi
      · exact .inl h
    · exact .inr h
  | case2 i r hi =>
    rw [ByteArray.toList.loop.eq_def, if_neg hi] at h
    exact .inl (List.mem_reverse.mp h)

theorem ne_zero_of_mem_encodeUtf8 {c : Char} (hc : c ≠ '\x00') {b : UInt8}
    (h : b ∈ encodeUtf8 (String.singleton c)) : b ≠ 0 := by
  have hData : b ∈ String.utf8EncodeChar c := by
    rcases mem_data_of_mem_loop h with h | h
    · cases h
    · simpa [List.utf8Encode] using h
  have hNat : c.val.toNat ≠ 0 := by
    intro h
    apply hc
    apply Char.ext
    exact UInt32.toNat_inj.mp h
  have hByte {n : Nat} (hn : n % 256 ≠ 0) : UInt8.ofNat n ≠ 0 := by
    intro h
    apply hn
    rw [← UInt8.toNat_ofNat', h]
    rfl
  unfold String.utf8EncodeChar at hData
  dsimp only at hData
  split_ifs at hData <;> simp only [List.mem_cons, List.not_mem_nil, or_false] at hData
  · subst hData
    apply hByte
    omega
  · rcases hData with rfl | rfl <;> apply hByte <;> omega
  · rcases hData with rfl | rfl | rfl <;> apply hByte <;> omega
  · rcases hData with rfl | rfl | rfl | rfl <;> apply hByte <;> omega

end ReplicaBootstrap.Text
