import Mathlib.Data.List.Induction
import Mathlib.Data.List.TakeWhile
import ReplicaBootstrap.Text.Blank

/-! # Words

The words of a text stand between its blanks. Blanks around a text make no difference to them.
-/

namespace ReplicaBootstrap.Text

variable {cs : List Char}

def words (cs : List Char) : List (List Char) := (cs.splitOnP isBlank).filter (!·.isEmpty)

@[simp] theorem words_nil : words [] = [] := rfl

theorem words_blank_cons {c : Char} (hc : isBlank c = true) (cs : List Char) :
    words (c :: cs) = words cs := by
  have hSplit := List.splitOnP_append_cons (p := isBlank) [] cs hc
  rw [List.nil_append] at hSplit
  rw [words, hSplit, List.filter_append]
  rfl

theorem words_append_blank {c : Char} (hc : isBlank c = true) (cs : List Char) :
    words (cs ++ [c]) = words cs := by
  rw [words, List.splitOnP_append_cons cs [] hc, List.filter_append]
  exact List.append_nil _

theorem words_dropWhile (cs : List Char) : words (cs.dropWhile isBlank) = words cs := by
  induction cs with
  | nil => rfl
  | cons c cs ih =>
    by_cases hc : isBlank c = true
    · rw [List.dropWhile_cons_of_pos hc, ih, words_blank_cons hc]
    · rw [List.dropWhile_cons_of_neg hc]

theorem words_trimChars (cs : List Char) : words (trimChars isBlank cs) = words cs := by
  rw [← words_dropWhile cs, trimChars]
  induction cs.dropWhile isBlank using List.reverseRecOn with
  | nil => rfl
  | append_singleton cs c ih =>
    rw [List.reverse_append, List.reverse_singleton, List.singleton_append]
    by_cases hc : isBlank c = true
    · rw [List.dropWhile_cons_of_pos hc, ih, words_append_blank hc]
    · rw [List.dropWhile_cons_of_neg hc, List.reverse_cons, List.reverse_reverse]

/-! ## The first word -/

/-- A text that does not begin with a blank. -/
def Unled (cs : List Char) : Prop := ∀ c ∈ cs.head?, isBlank c = false

theorem unled_dropWhile (cs : List Char) : Unled (cs.dropWhile isBlank) := by
  intro c hc
  have hHead := List.head?_dropWhile_not isBlank cs
  rw [Option.mem_def.mp hc] at hHead
  exact hHead

theorem trimChars_isPrefix (cs : List Char) : trimChars isBlank cs <+: cs.dropWhile isBlank := by
  rw [← List.reverse_suffix, trimChars, List.reverse_reverse]
  exact List.dropWhile_suffix isBlank

theorem trimChars_isInfix (cs : List Char) : trimChars isBlank cs <:+: cs :=
  (trimChars_isPrefix cs).isInfix.trans (List.dropWhile_suffix isBlank).isInfix

theorem unled_trimChars (cs : List Char) : Unled (trimChars isBlank cs) := by
  intro c hc
  obtain ⟨rest, hRest⟩ := trimChars_isPrefix cs
  apply unled_dropWhile cs c
  rw [← hRest, List.head?_append, Option.mem_def.mp hc]
  rfl

/-- What stands before the first blank. -/
abbrev firstWord (cs : List Char) : List Char := cs.takeWhile (!isBlank ·)

/-- What follows the first word, from the second one on. -/
abbrev afterWord (cs : List Char) : List Char :=
  (cs.drop (firstWord cs).length).dropWhile isBlank

theorem firstWord_append_drop (cs : List Char) :
    firstWord cs ++ cs.drop (firstWord cs).length = cs :=
  List.prefix_iff_eq_append.mp (List.takeWhile_prefix _)

/-- What follows the first word begins with a blank, if there is anything. -/
theorem isBlank_of_mem_head?_drop {c : Char} (hc : c ∈ (cs.drop (firstWord cs).length).head?) :
    isBlank c = true := by
  have hDrop : cs.drop (firstWord cs).length = cs.dropWhile (!isBlank ·) := by
    have hWhole : firstWord cs ++ cs.drop (firstWord cs).length =
        firstWord cs ++ cs.dropWhile (!isBlank ·) := by
      rw [firstWord_append_drop, List.takeWhile_append_dropWhile]
    exact List.append_cancel_left hWhole
  have hHead := List.head?_dropWhile_not (!isBlank ·) cs
  rw [← hDrop, Option.mem_def.mp hc] at hHead
  simpa using hHead

theorem words_word {word : List Char} (hWord : ∀ c ∈ word, isBlank c = false) (hNonempty : word ≠ []) :
    words word = [word] := by
  rw [words, List.splitOnP_eq_singleton hWord, List.filter_cons_of_pos (by simpa using hNonempty),
    List.filter_nil]

theorem words_eq_cons (hStart : Unled cs) (hNonempty : cs ≠ []) :
    words cs = firstWord cs :: words (afterWord cs) := by
  have hWord : ∀ c ∈ firstWord cs, isBlank c = false := by
    intro c hc
    simpa using List.mem_takeWhile_imp hc
  have hFirst : firstWord cs ≠ [] := by
    obtain ⟨c, rest, rfl⟩ := List.exists_cons_of_ne_nil hNonempty
    rw [firstWord, List.takeWhile_cons_of_pos (by simpa using hStart c rfl)]
    exact List.cons_ne_nil _ _
  rw [afterWord, words_dropWhile]
  conv_lhs => rw [← firstWord_append_drop cs]
  cases hRest : cs.drop (firstWord cs).length with
  | nil => rw [List.append_nil, words_word hWord hFirst, words_nil]
  | cons c rest =>
    have hc : isBlank c = true := isBlank_of_mem_head?_drop (by rw [hRest]; rfl)
    have hSplit : words (firstWord cs ++ c :: rest) = words (firstWord cs) ++ words rest := by
      rw [words, List.splitOnP_append_cons _ rest hc, List.filter_append]
      rfl
    rw [hSplit, words_word hWord hFirst, words_blank_cons hc, List.singleton_append]

end ReplicaBootstrap.Text
