import Mathlib.Data.List.Basic
import ReplicaBootstrap.Proofs.Slot.Shorten

/-! # What a slot name tells

A name spells its three parts one after the other. Two characters of a name come from one character of
a part only for the capital I with a dot, so such parts can make a name too long; and a name tells the
words of its parts, but not where one part ends.
-/

namespace ReplicaBootstrap.SlotName

/-! ## Spelling -/

/-- How a character of a part is spelled in a name. -/
def spellChar (c : Char) : List Char :=
  (Text.lowerCaseChar c).map fun c => if isSlotChar c then c else '_'

def spell (part : String) : List Char := part.toList.flatMap spellChar

/-- The characters that the server takes in the name of a slot. -/
def Allowed (c : Char) : Prop := ('a' ≤ c ∧ c ≤ 'z') ∨ ('0' ≤ c ∧ c ≤ '9') ∨ c = '_'

theorem isSlotChar_iff {c : Char} : isSlotChar c = true ↔ Allowed c := by
  simp [isSlotChar, Allowed, or_assoc]

theorem allowed_of_mem_spellChar {c d : Char} (h : d ∈ spellChar c) : Allowed d := by
  obtain ⟨e, -, rfl⟩ := List.mem_map.mp h
  by_cases he : isSlotChar e = true
  · rw [if_pos he]
    exact isSlotChar_iff.mp he
  · rw [if_neg he]
    exact .inr (.inr rfl)

theorem allowed_of_mem_spell {part : String} {d : Char} (h : d ∈ spell part) : Allowed d := by
  obtain ⟨c, -, hd⟩ := List.mem_flatMap.mp h
  exact allowed_of_mem_spellChar hd

theorem length_spellChar (c : Char) :
    (spellChar c).length = 1 + if c = '\u0130' then 1 else 0 := by
  unfold spellChar Text.lowerCaseChar
  split <;> rfl

/-- A capital I with a dot takes up two characters, any other character one. -/
theorem length_spell (part : String) :
    (spell part).length = part.length + part.toList.count '\u0130' := by
  rw [← String.length_toList]
  unfold spell
  induction part.toList with
  | nil => rfl
  | cons c rest ih =>
    rw [List.flatMap_cons, List.length_append, ih, length_spellChar, List.length_cons,
      List.count_cons]
    simp only [beq_iff_eq]
    omega

theorem toList_sanitize (s : String) :
    (sanitize s).toList = (s.toList.take (nameLimit - 1)).flatMap spellChar := by
  simp only [sanitize, Text.lowerCase, String.toList_ofList, List.map_flatMap]
  rfl

/-! ## The parts of a name -/

/-- How many characters of a name a part takes up. -/
def width (part : String) : Nat :=
  (shorten part partLimit).length + (shorten part partLimit).toList.count '\u0130'

/-- A name spells its parts between underscores, if they fit in. -/
theorem toList_join {database origin target : String}
    (hFits : database.length + origin.length + target.length + 6 ≤ nameLimit - 1) :
    (join database origin target).toList = "pgl_".toList ++
      (spell database ++ '_' :: (spell origin ++ '_' :: spell target)) := by
  have hJoined : ("pgl_" ++ database ++ "_" ++ origin ++ "_" ++ target).toList = "pgl_".toList ++
      (database.toList ++ '_' :: (origin.toList ++ '_' :: target.toList)) := by
    simp [String.toList_append]
  have hLength : ("pgl_" ++ database ++ "_" ++ origin ++ "_" ++ target).toList.length ≤
      nameLimit - 1 := by
    rw [String.length_toList]
    simp only [String.length_append]
    have : "pgl_".length = 4 ∧ "_".length = 1 := by decide
    omega
  change (sanitize ("pgl_" ++ database ++ "_" ++ origin ++ "_" ++ target)).toList = _
  rw [toList_sanitize, List.take_of_length_le hLength, hJoined]
  simp only [List.flatMap_append, List.flatMap_cons]
  rfl

theorem toList_ofTexts (database origin target : String) :
    (ofTexts database origin target).toList = "pgl_".toList ++
      (spell (shorten database partLimit) ++
        '_' :: (spell (shorten origin partLimit) ++ '_' :: spell (shorten target partLimit))) := by
  have hPart (part : String) : (shorten part partLimit).length ≤ 16 := by
    rw [length_shorten part (by decide)]
    exact Nat.min_le_right _ _
  apply toList_join
  have := hPart database
  have := hPart origin
  have := hPart target
  have : nameLimit - 1 = 63 := rfl
  omega

theorem generate_ofTexts (database o t : String) (origin target : Node) :
    generate (.text database) { origin with name := .text o } { target with name := .text t } =
      .ok (ofTexts database o t) :=
  generate_text rfl rfl

/-! ## What the server asks of a name -/

theorem length_ofTexts (database origin target : String) :
    (ofTexts database origin target).length = 6 + width database + width origin + width target := by
  rw [← String.length_toList, toList_ofTexts]
  simp only [List.length_append, List.length_cons, length_spell, width]
  have : "pgl_".toList.length = 4 := by decide
  omega

theorem allowed_of_mem_ofTexts {database origin target : String} {c : Char}
    (h : c ∈ (ofTexts database origin target).toList) : Allowed c := by
  have hUnderscore : Allowed '_' := .inr (.inr rfl)
  have hFront : ∀ d ∈ "pgl_".toList, Allowed d := by simp [Allowed]
  rw [toList_ofTexts] at h
  simp only [List.mem_append, List.mem_cons] at h
  rcases h with h | h | rfl | h | rfl | h
  · exact hFront c h
  · exact allowed_of_mem_spell h
  · exact hUnderscore
  · exact allowed_of_mem_spell h
  · exact hUnderscore
  · exact allowed_of_mem_spell h

/-- Every name begins as it should and holds only characters that the server takes; it has at most 63
characters just when its parts leave room for it. -/
theorem generate_fits_iff (database o t : String) (origin target : Node) :
    ∃ name, generate (.text database) { origin with name := .text o }
        { target with name := .text t } = .ok name ∧
      "pgl_".toList <+: name.toList ∧ (∀ c ∈ name.toList, Allowed c) ∧
      (name.length ≤ 63 ↔ width database + width o + width t ≤ 57) := by
  refine ⟨ofTexts database o t, generate_ofTexts database o t origin target, ?_, ?_, ?_⟩
  · rw [toList_ofTexts]
    exact List.prefix_append _ _
  · exact fun c => allowed_of_mem_ofTexts
  · rw [length_ofTexts]
    omega

/-- Sixteen capital I with a dot. -/
def dotted : String := String.ofList (List.replicate 16 '\u0130')

theorem generate_dotted_overflows :
    ∃ name, generate (.text dotted) { id := .int 1, name := .text dotted }
        { id := .int 2, name := .text dotted } = .ok name ∧ name.length = 102 ∧
      ¬ name.length ≤ 63 := by
  have hWidth : width dotted = 32 := by decide
  have hLength : (ofTexts dotted dotted dotted).length = 102 := by
    rw [length_ofTexts, hWidth]
  exact ⟨ofTexts dotted dotted dotted, rfl, hLength, by rw [hLength]; decide⟩

/-! ## What tells two names apart -/

/-- What stands between the underscores of a part as it is spelled. -/
def words (part : String) : List (List Char) := (spell part).splitOn '_'

/-- Only small letters and digits. -/
def Plain (part : String) : Prop :=
  ∀ c ∈ part.toList, ('a' ≤ c ∧ c ≤ 'z') ∨ ('0' ≤ c ∧ c ≤ '9')

instance (part : String) : Decidable (Plain part) :=
  List.decidableBAll (fun c => ('a' ≤ c ∧ c ≤ 'z') ∨ ('0' ≤ c ∧ c ≤ '9')) part.toList

theorem splitOn_toList_ofTexts (database origin target : String) :
    (ofTexts database origin target).toList.splitOn '_' = "pgl".toList ::
      (words (shorten database partLimit) ++ (words (shorten origin partLimit) ++
        words (shorten target partLimit))) := by
  have hFront : "pgl_".toList = "pgl".toList ++ ['_'] := by decide
  rw [toList_ofTexts, hFront, List.append_assoc, List.singleton_append,
    List.splitOn_append_cons_self, List.splitOn_append_cons_self, List.splitOn_append_cons_self,
    List.splitOn_eq_singleton (by decide), List.singleton_append]
  rfl

theorem splitOn_injective {xs ys : List Char} (h : xs.splitOn '_' = ys.splitOn '_') : xs = ys := by
  have hBack (zs : List Char) : ['_'].intercalate (zs.splitOn '_') = zs :=
    List.intercalate_splitOn '_'
  rw [← hBack xs, h, hBack]

theorem ofTexts_eq_iff {d o t d' o' t' : String} :
    ofTexts d o t = ofTexts d' o' t' ↔
      words (shorten d partLimit) ++ (words (shorten o partLimit) ++ words (shorten t partLimit)) =
        words (shorten d' partLimit) ++
          (words (shorten o' partLimit) ++ words (shorten t' partLimit)) := by
  constructor
  · intro h
    have hSplit := splitOn_toList_ofTexts d o t
    rw [h, splitOn_toList_ofTexts] at hSplit
    exact (List.cons.inj hSplit).2.symm
  · intro h
    apply String.toList_inj.mp
    apply splitOn_injective
    rw [splitOn_toList_ofTexts, splitOn_toList_ofTexts, h]

theorem spellChar_of_plain {c : Char} (h : ('a' ≤ c ∧ c ≤ 'z') ∨ ('0' ≤ c ∧ c ≤ '9')) :
    spellChar c = [c] := by
  have hSmall : c.toNat < 128 ∧ ¬ (65 ≤ c.toNat ∧ c.toNat ≤ 90) := by
    simp only [Char.le_def, UInt32.le_iff_toNat_le] at h
    change (97 ≤ c.toNat ∧ c.toNat ≤ 122) ∨ (48 ≤ c.toNat ∧ c.toNat ≤ 57) at h
    omega
  have hUnlike : c ≠ '\u0130' := by
    rintro rfl
    exact absurd hSmall.1 (by decide)
  have hCapital : ¬ (c.val ≥ 'A'.val ∧ c.val ≤ 'Z'.val) := by
    simp only [ge_iff_le, UInt32.le_iff_toNat_le]
    exact hSmall.2
  have hLower : Text.lowerCaseChar c = [c] := by
    have hKept : c.toLower = c := dif_neg hCapital
    rw [Text.lowerCaseChar, if_neg hUnlike, Text.lowerCaseOne, if_pos hSmall.1, hKept]
  have hSlot : isSlotChar c = true := isSlotChar_iff.mpr (h.imp_right .inl)
  simp [spellChar, hLower, hSlot]

theorem spell_of_plain {part : String} (h : Plain part) : spell part = part.toList := by
  rw [spell, List.flatMap_congr fun c hc => spellChar_of_plain (h c hc)]
  exact List.flatMap_singleton' part.toList

theorem words_of_plain {part : String} (h : Plain part) : words part = [part.toList] := by
  have hUnderscore : '_' ∉ part.toList := fun hMem =>
    absurd (h '_' hMem) (by decide)
  rw [words, spell_of_plain h, List.splitOn_eq_singleton hUnderscore]

/-- Names of short parts are the same just when their parts hold the same words in the same order. So
parts of small letters and digits, each a word of its own, are told apart. -/
theorem generate_eq_iff (d o t d' o' t' : String) (origin target origin' target' : Node)
    (hShort : ∀ part ∈ [d, o, t, d', o', t'], part.length ≤ 16) :
    ∃ name name',
      generate (.text d) { origin with name := .text o } { target with name := .text t } =
        .ok name ∧
      generate (.text d') { origin' with name := .text o' } { target' with name := .text t' } =
        .ok name' ∧
      (name = name' ↔ words d ++ words o ++ words t = words d' ++ words o' ++ words t') ∧
      ((∀ part ∈ [d, o, t, d', o', t'], Plain part) → (d, o, t) ≠ (d', o', t') →
        name ≠ name') := by
  have hWhole : ∀ part ∈ [d, o, t, d', o', t'], shorten part partLimit = part :=
    fun part hPart => shorten_of_length_le (hShort part hPart)
  have hNames : ofTexts d o t = ofTexts d' o' t' ↔
      words d ++ words o ++ words t = words d' ++ words o' ++ words t' := by
    rw [ofTexts_eq_iff]
    simp only [List.forall_mem_cons] at hWhole
    obtain ⟨hd, ho, ht, hd', ho', ht', -⟩ := hWhole
    rw [hd, ho, ht, hd', ho', ht', List.append_assoc, List.append_assoc]
  refine ⟨ofTexts d o t, ofTexts d' o' t', generate_ofTexts d o t origin target,
    generate_ofTexts d' o' t' origin' target', hNames, ?_⟩
  intro hPlain hDiffer hSame
  have hWords := hNames.mp hSame
  simp only [List.forall_mem_cons] at hPlain
  obtain ⟨hd, ho, ht, hd', ho', ht', -⟩ := hPlain
  rw [words_of_plain hd, words_of_plain ho, words_of_plain ht, words_of_plain hd',
    words_of_plain ho', words_of_plain ht'] at hWords
  simp only [List.cons_append, List.nil_append, List.cons.injEq, String.toList_inj, and_true]
    at hWords
  obtain ⟨rfl, rfl, rfl⟩ := hWords
  exact hDiffer rfl

theorem generate_fan_differs :
    ∃ name name',
      generate (.text "db") { id := .int 1, name := .text "provider" }
        { id := .int 2, name := .text "sub1" } = .ok name ∧
      generate (.text "db") { id := .int 1, name := .text "provider" }
        { id := .int 3, name := .text "sub2" } = .ok name' ∧ name ≠ name' := by
  have hPlain : ∀ part ∈ ["db", "provider", "sub1", "db", "provider", "sub2"], Plain part := by
    decide
  obtain ⟨name, name', h, h', -, hDiffer⟩ :=
    generate_eq_iff "db" "provider" "sub1" "db" "provider" "sub2" ⟨.int 1, "", "", .subscriber, .init⟩
      ⟨.int 2, "", "", .subscriber, .init⟩ ⟨.int 1, "", "", .subscriber, .init⟩
      ⟨.int 3, "", "", .subscriber, .init⟩ (by decide)
  exact ⟨name, name', h, h', hDiffer hPlain (by decide)⟩

/-- A hyphen is spelled as an underscore, and an underscore of a part is not told from the end of the
part. -/
theorem generate_confuses :
    (generate (.text "db") { id := .int 1, name := .text "node-1" }
        { id := .int 2, name := .text "sub" } = .ok "pgl_db_node_1_sub" ∧
      generate (.text "db") { id := .int 1, name := .text "node_1" }
        { id := .int 2, name := .text "sub" } = .ok "pgl_db_node_1_sub") ∧
    generate (.text "a_b") { id := .int 1, name := .text "c" }
        { id := .int 2, name := .text "d" } = .ok "pgl_a_b_c_d" ∧
      generate (.text "a") { id := .int 1, name := .text "b_c" }
        { id := .int 2, name := .text "d" } = .ok "pgl_a_b_c_d" := by
  refine ⟨⟨?_, ?_⟩, ?_, ?_⟩
  all_goals
    apply (generate_text rfl rfl).trans
    apply congrArg
    decide

end ReplicaBootstrap.SlotName
