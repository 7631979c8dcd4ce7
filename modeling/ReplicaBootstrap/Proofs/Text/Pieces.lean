import Mathlib.Data.List.Basic
import ReplicaBootstrap.Text.Blank

/-! # Texts in pieces

A text is the pieces between its separators put together again, and no piece holds a separator.
-/

namespace ReplicaBootstrap.Text

variable {sep : Char} {cs : List Char}

theorem splitChars_cons_of_ne {c : Char} (hc : c ≠ sep) (cs : List Char) :
    ∃ piece pieces, splitChars sep cs = piece :: pieces ∧
      splitChars sep (c :: cs) = (c :: piece) :: pieces := by
  obtain ⟨piece, pieces, hCons⟩ := List.exists_cons_of_ne_nil (splitChars_ne_nil sep cs)
  refine ⟨piece, pieces, hCons, ?_⟩
  rw [splitChars, if_neg hc, hCons]

theorem splitChars_of_not_mem (h : sep ∉ cs) : splitChars sep cs = [cs] := by
  induction cs with
  | nil => rfl
  | cons c cs ih =>
    rw [List.mem_cons, not_or] at h
    rw [splitChars, if_neg (Ne.symm h.1), ih h.2]

/-- The first piece ends at the first separator. -/
theorem splitChars_append {piece : List Char} (h : sep ∉ piece) (rest : List Char) :
    splitChars sep (piece ++ sep :: rest) = piece :: splitChars sep rest := by
  induction piece with
  | nil => rw [List.nil_append, splitChars, if_pos rfl]
  | cons c piece ih =>
    rw [List.mem_cons, not_or] at h
    rw [List.cons_append, splitChars, if_neg (Ne.symm h.1), ih h.2]

theorem not_mem_of_mem_splitChars {piece : List Char} (h : piece ∈ splitChars sep cs) :
    sep ∉ piece := by
  induction cs generalizing piece with
  | nil =>
    rw [splitChars, List.mem_singleton] at h
    rw [h]
    exact List.not_mem_nil
  | cons c cs ih =>
    by_cases hc : c = sep
    · rw [splitChars, if_pos hc] at h
      rcases List.mem_cons.mp h with rfl | h
      · exact List.not_mem_nil
      · exact ih h
    · obtain ⟨first, pieces, hRest, hWhole⟩ := splitChars_cons_of_ne hc cs
      rw [hRest] at ih
      rw [hWhole] at h
      rcases List.mem_cons.mp h with rfl | h
      · exact List.not_mem_cons_of_ne_of_not_mem (Ne.symm hc) (ih List.mem_cons_self)
      · exact ih (List.mem_cons_of_mem _ h)

theorem intercalate_splitChars (sep : Char) (cs : List Char) :
    [sep].intercalate (splitChars sep cs) = cs := by
  induction cs with
  | nil => rfl
  | cons c cs ih =>
    by_cases hc : c = sep
    · obtain ⟨piece, pieces, hCons⟩ := List.exists_cons_of_ne_nil (splitChars_ne_nil sep cs)
      rw [hCons] at ih
      rw [splitChars, if_pos hc, hCons, List.intercalate_cons_cons, ih, hc]
      rfl
    · obtain ⟨piece, pieces, hRest, hWhole⟩ := splitChars_cons_of_ne hc cs
      rw [hRest] at ih
      rw [hWhole]
      cases pieces with
      | nil => simpa using ih
      | cons piece' pieces =>
        rw [List.intercalate_cons_cons] at ih ⊢
        rw [List.cons_append, List.cons_append, ih]

theorem splitChars_eq_splitOn (sep : Char) (cs : List Char) : splitChars sep cs = cs.splitOn sep := by
  induction cs with
  | nil => rfl
  | cons c cs ih =>
    rw [List.splitOn, List.splitOnP_cons_eq_if_modifyHead, ← List.splitOn, ← ih]
    by_cases hc : c = sep
    · rw [splitChars, if_pos hc, if_pos (beq_iff_eq.mpr hc)]
    · obtain ⟨piece, pieces, hRest, hWhole⟩ := splitChars_cons_of_ne hc cs
      rw [hRest, hWhole, if_neg (by simpa using hc)]
      rfl

/-- Two pieces stand around the only separator. -/
theorem splitChars_eq_pair_iff {a b : List Char} :
    splitChars sep cs = [a, b] ↔ sep ∉ a ∧ sep ∉ b ∧ cs = a ++ sep :: b := by
  constructor
  · intro h
    have hPieces {piece : List Char} (hPiece : piece ∈ [a, b]) : sep ∉ piece :=
      not_mem_of_mem_splitChars (h ▸ hPiece)
    refine ⟨hPieces (by simp), hPieces (by simp), ?_⟩
    rw [← intercalate_splitChars sep cs, h]
    simp [List.intercalate]
  · rintro ⟨ha, hb, rfl⟩
    rw [splitChars_append ha, splitChars_of_not_mem hb]

end ReplicaBootstrap.Text
