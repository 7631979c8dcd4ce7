import Mathlib.Data.List.Infix
import ReplicaBootstrap.Slot.Name

/-! # Shortened names

A limit that leaves room for the digest is kept. A smaller one is not: what it is short of the digest is
dropped from the end of the name instead, so a long name comes out longer than the limit, and even
longer than it was.
-/

namespace ReplicaBootstrap.SlotName

variable {name : String} {limit : Nat}

theorem length_digest (name : String) : (digest name).length = 8 := by
  simp [digest, Md5.hexDigest_length]

theorem shorten_of_length_le (h : name.length ≤ limit) : shorten name limit = name :=
  if_pos (Int.ofNat_le.mpr h)

/-- What stays of a long name before the digest. -/
def kept (name : String) (limit : Nat) : List Char := takeSigned (limit - 8) name.toList

theorem kept_eq_take (name : String) (limit : Nat) :
    kept name limit =
      name.toList.take (if 8 ≤ limit then limit - 8 else name.length - (8 - limit)) := by
  rw [kept, takeSigned, String.length_toList]
  by_cases hRoom : 8 ≤ limit
  · rw [if_pos hRoom, if_pos (by omega)]
    congr 1
    omega
  · rw [if_neg hRoom, if_neg (by omega)]
    congr 2
    omega

theorem toList_shorten (h : limit < name.length) :
    (shorten name limit).toList = kept name limit ++ digest name := by
  rw [shorten, if_neg (by omega), String.toList_ofList, kept]

theorem length_shorten_of_lt (h : limit < name.length) :
    (shorten name limit).length = if 8 ≤ limit then limit else max 8 (name.length + limit) := by
  rw [← String.length_toList, toList_shorten h, List.length_append, length_digest, kept_eq_take,
    List.length_take, String.length_toList]
  by_cases hRoom : 8 ≤ limit
  · rw [if_pos hRoom, if_pos hRoom]
    omega
  · rw [if_neg hRoom, if_neg hRoom]
    omega

theorem length_shorten (name : String) (h : 8 ≤ limit) :
    (shorten name limit).length = min name.length limit := by
  by_cases hShort : name.length ≤ limit
  · rw [shorten_of_length_le hShort, Nat.min_eq_left hShort]
  · rw [length_shorten_of_lt (Nat.lt_of_not_le hShort), if_pos h]
    omega

theorem length_shorten_le_iff :
    (shorten name limit).length ≤ limit ↔ name.length ≤ limit ∨ 8 ≤ limit := by
  by_cases hShort : name.length ≤ limit
  · rw [shorten_of_length_le hShort]
    exact ⟨.inl, fun _ => hShort⟩
  · rw [length_shorten_of_lt (Nat.lt_of_not_le hShort)]
    split <;> omega

/-- Only under the limit zero can the digest of a long name be the end of the name already. -/
theorem shorten_eq_self_iff :
    shorten name limit = name ↔ name.length ≤ limit ∨ limit = 0 ∧ digest name <:+ name.toList := by
  by_cases hShort : name.length ≤ limit
  · exact iff_of_true (shorten_of_length_le hShort) (.inl hShort)
  have hLong := Nat.lt_of_not_le hShort
  by_cases hZero : limit = 0
  · subst hZero
    have hKept : kept name 0 = name.toList.take (name.toList.length - (digest name).length) := by
      rw [kept_eq_take, length_digest, String.length_toList]
      rfl
    rw [← String.toList_inj, toList_shorten hLong, hKept, ← List.suffix_iff_eq_append]
    simp [hShort]
  · have hLength := length_shorten_of_lt hLong
    have hOther : shorten name limit ≠ name := by
      intro h
      rw [h] at hLength
      split at hLength <;> omega
    simp [hOther, hShort, hZero]

theorem suffix_shorten_iff {other : String} (h : limit < name.length) :
    digest other <:+ (shorten name limit).toList ↔ digest other = digest name := by
  rw [toList_shorten h]
  constructor
  · intro hSuffix
    have hEnd : digest name <:+ kept name limit ++ digest name := List.suffix_append _ _
    have hLength : (digest other).length = (digest name).length := by
      rw [length_digest, length_digest]
    exact (List.suffix_of_suffix_length_le hSuffix hEnd hLength.le).eq_of_length hLength
  · intro hSame
    rw [hSame]
    exact List.suffix_append _ _

/-- A shortened name keeps within the limit just if the name does or the limit leaves room for the
digest. It is the name itself just if the name keeps within the limit, and just what keeps within the
limit is not changed by shortening it again; under the limit zero alone, digests that agree by chance
may leave a longer name unchanged. -/
theorem shorten_fits_iff (name : String) (limit : Nat) :
    ((shorten name limit).length ≤ limit ↔ name.length ≤ limit ∨ 8 ≤ limit) ∧
      (shorten name limit = name ↔
        name.length ≤ limit ∨ limit = 0 ∧ digest name <:+ name.toList) ∧
      (shorten (shorten name limit) limit = shorten name limit ↔
        name.length ≤ limit ∨ 8 ≤ limit ∨
          limit = 0 ∧ digest (shorten name limit) = digest name) := by
  refine ⟨length_shorten_le_iff, shorten_eq_self_iff, ?_⟩
  rw [shorten_eq_self_iff, length_shorten_le_iff, or_assoc]
  by_cases hShort : name.length ≤ limit
  · simp only [hShort, true_or]
  · rw [suffix_shorten_iff (Nat.lt_of_not_le hShort)]

/-- Under the limit four, eight characters become twelve, and sixteen when they are shortened again. -/
theorem shorten_overruns :
    (shorten "abcdefgh" 4).length = 12 ∧ ¬ (shorten "abcdefgh" 4).length ≤ 4 ∧
      shorten (shorten "abcdefgh" 4) 4 ≠ shorten "abcdefgh" 4 := by
  have hLength : (shorten "abcdefgh" 4).length = 12 := @length_shorten_of_lt "abcdefgh" 4 (by decide)
  refine ⟨hLength, ?_, ?_⟩
  · rw [hLength]
    decide
  · intro hAgain
    rcases (@shorten_eq_self_iff (shorten "abcdefgh" 4) 4).mp hAgain with h | ⟨h, -⟩
    · rw [hLength] at h
      exact absurd h (by decide)
    · cases h

end ReplicaBootstrap.SlotName
