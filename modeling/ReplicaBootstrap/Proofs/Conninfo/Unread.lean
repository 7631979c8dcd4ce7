import ReplicaBootstrap.Proofs.Conninfo.Arranged
import ReplicaBootstrap.Proofs.Conninfo.Masked

/-! # Values that are no text

A string that is well formed can set values that are no text. It can then be neither extended nor
masked, and what is said of it is said of the first such value. Strings that differ in a password only
are read alike as long as that is not the password's.
-/

namespace ReplicaBootstrap.Conninfo

open ReplicaBootstrap.Action

/-- What is said of the first value that is no text. -/
def complaint? (es : List Entry) : Option String :=
  es.findSome? fun e =>
    match e.2 with
    | .ok _ => none
    | .error error => some (utf8Message error)

def AlikeEntries (es es' : List Entry) : Prop :=
  List.Forall₂ (fun e e' => e.1 = e'.1 ∧ (e.1 ≠ "password" → e.2 = e'.2)) es es'

def Worded (es : List Entry) : Prop := ∀ e ∈ es, e.1 = "password" → ∃ v, e.2 = .ok v

variable {es es' : List Entry} {dsn dsn' : String}

theorem mapM_asText_or (es : List Entry) :
    (∃ e, complaint? es = some (utf8Message e) ∧ es.mapM asText = .error (.notText e)) ∨
      complaint? es = none ∧ ∃ ps, es.mapM asText = .ok ps := by
  induction es with
  | nil => exact .inr ⟨rfl, [], rfl⟩
  | cons entry rest ih =>
    obtain ⟨k, v⟩ := entry
    cases v with
    | error e => exact .inl ⟨e, rfl, rfl⟩
    | ok v =>
      rcases ih with ⟨e, hComplaint, hRest⟩ | ⟨hNone, ps, hRest⟩
      · refine .inl ⟨e, hComplaint, ?_⟩
        rw [List.mapM_cons, hRest]
        rfl
      · refine .inr ⟨hNone, (k, v) :: ps, ?_⟩
        rw [List.mapM_cons, hRest]
        rfl

theorem AlikeEntries.params {ps ps' : Params} (h : AlikeEntries es es')
    (hRead : es.mapM asText = .ok ps) (hRead' : es'.mapM asText = .ok ps') : Alike ps ps' := by
  rw [eq_plainEntry_of_mapM hRead, eq_plainEntry_of_mapM hRead', AlikeEntries,
    List.forall₂_map_left_iff, List.forall₂_map_right_iff] at h
  exact h.imp fun _ _ hPair => ⟨hPair.1, fun hOther => Except.ok.inj (hPair.2 hOther)⟩

theorem AlikeEntries.complaint?_eq (h : AlikeEntries es es') (hWorded : Worded es)
    (hWorded' : Worded es') : complaint? es = complaint? es' := by
  induction h with
  | nil => rfl
  | @cons entry entry' rest rest' hHead hRest ih =>
    have ih := ih (fun e he => hWorded e (List.mem_cons_of_mem _ he))
      fun e he => hWorded' e (List.mem_cons_of_mem _ he)
    obtain ⟨k, v⟩ := entry
    obtain ⟨k', v'⟩ := entry'
    obtain ⟨rfl, hOther⟩ : k = k' ∧ (k ≠ "password" → v = v') := hHead
    by_cases hk : k = "password"
    · obtain ⟨text, rfl⟩ : ∃ text, v = .ok text := hWorded _ List.mem_cons_self hk
      obtain ⟨text', rfl⟩ : ∃ text', v' = .ok text' := hWorded' _ List.mem_cons_self hk
      exact ih
    · obtain rfl := hOther hk
      cases v with
      | error e => rfl
      | ok text => exact ih

/-! ## Strings that are read alike -/

/-- Two strings are read as parameters that are alike but for the passwords, or fail to be read for a
value that is no text, with the same words. -/
inductive ReadAlike (dsn dsn' : String) : Prop
  | read {ps ps' : Params} (hParse : parse dsn = .ok ps) (hParse' : parse dsn' = .ok ps')
      (hAlike : Alike ps ps')
  | unread {e e' : Text.Utf8Error} (hParse : parse dsn = .error (.notText e))
      (hParse' : parse dsn' = .error (.notText e')) (hWords : utf8Message e = utf8Message e')

theorem parse_or (h : entries dsn = .ok es) :
    (∃ e, complaint? (latest es) = some (utf8Message e) ∧ parse dsn = .error (.notText e)) ∨
      complaint? (latest es) = none ∧ ∃ ps, parse dsn = .ok ps := by
  rw [parse_eq_collect h, collect_eq]
  exact mapM_asText_or (latest es)

theorem readAlike_of_complaint? (hEntries : entries dsn = .ok es) (hEntries' : entries dsn' = .ok es')
    (hAlike : AlikeEntries (latest es) (latest es'))
    (h : complaint? (latest es) = complaint? (latest es')) : ReadAlike dsn dsn' := by
  rcases parse_or hEntries with ⟨e, hSome, hParse⟩ | ⟨hNone, ps, hParse⟩
  · rcases parse_or hEntries' with ⟨e', hSome', hParse'⟩ | ⟨hNone', -⟩
    · rw [hSome, hSome', Option.some.injEq] at h
      exact .unread hParse hParse' h
    · rw [hSome, hNone'] at h
      cases h
  · rcases parse_or hEntries' with ⟨e', hSome', -⟩ | ⟨-, ps', hParse'⟩
    · rw [hNone, hSome'] at h
      cases h
    · have hRead := hParse
      have hRead' := hParse'
      rw [parse_eq_collect hEntries, collect_eq] at hRead
      rw [parse_eq_collect hEntries', collect_eq] at hRead'
      exact .read hParse hParse' (hAlike.params hRead hRead')

theorem ReadAlike.mask_eq (h : ReadAlike dsn dsn') : mask dsn = mask dsn' := by
  cases h with
  | read hParse hParse' hAlike =>
    obtain ⟨shown, hMask, hMask'⟩ := mask_alike hParse hParse' hAlike
    rw [hMask, hMask']
  | @unread e e' hParse hParse' hWords =>
    have hFault : (Error.notText e).fault = (Error.notText e').fault :=
      congrArg (Fault.host .badEncoding) hWords
    rw [mask, mask, hParse, hParse']
    exact congrArg Except.error hFault

theorem extend_unread {e : Text.Utf8Error} (h : parse dsn = .error (.notText e)) (news : Params) :
    extend (.text dsn) news = .error (.host .badEncoding (utf8Message e)) := by
  have hSome : ¬ dsn.isEmpty = true := by
    intro hEmpty
    rw [String.isEmpty_iff.mp hEmpty, parse_empty] at h
    cases h
  rw [extend_eq, baseOf_text, if_neg hSome, h]
  rfl

end ReplicaBootstrap.Conninfo
