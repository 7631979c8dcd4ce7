import ReplicaBootstrap.Proofs.Conninfo.Arranged
import ReplicaBootstrap.Proofs.Conninfo.Masked
import ReplicaBootstrap.Proofs.Copy.NodeData
import ReplicaBootstrap.Proofs.Session.Refusal

/-! # What a connection is asked for

The string that a connection is asked for with sets what the given string sets, with the name of the
application and the mode of replication laid over it.
-/

namespace ReplicaBootstrap.Session

open ReplicaBootstrap.Action Site

variable {purpose : Purpose} {application : String} {ps ps' : Conninfo.Params}

structure Overlaid (purpose : Purpose) (application : String) (ps ps' : Conninfo.Params) : Prop where
  once : (ps'.map Prod.fst).Nodup
  name : ps'.lookup "fallback_application_name" = some application
  mode : ps'.lookup "replication" =
    match purpose with
    | .queries => ps.lookup "replication"
    | .replication => some "database"
  others : ∀ k, k ≠ "fallback_application_name" → k ≠ "replication" → ps'.lookup k = ps.lookup k

def AsksOverlaid (purpose : Purpose) (dsn application : String) (ps : Conninfo.Params) (w : Site) :
    Prop :=
  ∃ conninfo r ps',
    (outcome (connect purpose (.text dsn) application) w).2.talk =
      w.talk ++ [.exchange (.connect w.connections conninfo true) r] ∧
    Conninfo.parse conninfo = .ok ps' ∧ Overlaid purpose application ps ps'

theorem lookup_overlay_params (purpose : Purpose) (application : String) (ps : Conninfo.Params)
    (k : String) :
    (Conninfo.overlay ps (purpose.params application)).lookup k =
      if k = "fallback_application_name" then some application
      else if purpose = .replication ∧ k = "replication" then some "database" else ps.lookup k := by
  cases purpose with
  | queries =>
    change (Conninfo.set _ _ ps).lookup k = _
    rw [Conninfo.lookup_set]
    simp
  | replication =>
    change (Conninfo.set _ _ (Conninfo.set _ _ ps)).lookup k = _
    rw [Conninfo.lookup_set, Conninfo.lookup_set]
    simp

theorem overlaid_of_lookup (hOnce : (ps'.map Prod.fst).Nodup)
    (h : ∀ k, ps'.lookup k = (Conninfo.overlay ps (purpose.params application)).lookup k) :
    Overlaid purpose application ps ps' := by
  simp only [lookup_overlay_params] at h
  constructor
  case once => exact hOnce
  case name => rw [h, if_pos rfl]
  case mode =>
    rw [h, if_neg (by decide)]
    cases purpose <;> simp
  case others =>
    intro k hName hMode
    rw [h, if_neg hName, if_neg fun h => hMode h.2]

theorem extend_overlaid (purpose : Purpose) {dsn : String} (hParse : Conninfo.parse dsn = .ok ps)
    (hName : '\x00' ∉ application.toList) :
    ∃ conninfo ps', Conninfo.extend (.text dsn) (purpose.params application) = .ok conninfo ∧
      Conninfo.parse conninfo = .ok ps' ∧ Overlaid purpose application ps ps' := by
  have hSound := (Conninfo.parse_sound hParse).overlay (sound_params purpose hName)
  have hOnce := Conninfo.once_overlay (Conninfo.parse_once hParse) (purpose.params application)
  have hArranged := Conninfo.parse_write_arranged hSound hOnce
  refine ⟨_, _, ?_, hArranged, overlaid_of_lookup (Conninfo.parse_once hArranged)
    (Conninfo.lookup_arranged hSound.known)⟩
  rw [Conninfo.extend_known (known_params purpose application), Conninfo.baseOf_parse hParse]
  change ((Conninfo.readBack _).mapError _).map _ = _
  rw [Conninfo.readBack_sound hSound]
  rfl

theorem Overlaid.name_clean {conninfo : String} (h : Overlaid purpose application ps ps')
    (hParse : Conninfo.parse conninfo = .ok ps') : '\x00' ∉ application.toList :=
  (Conninfo.parse_sound hParse _ (Conninfo.mem_of_lookup h.name)).2

/-- One connection is asked for, with a string that sets what the given one sets and, over it, the
name of the application and the mode of replication. Only a name that no such string can hold spoils
this. -/
theorem connect_overlays_iff (purpose : Purpose) {dsn : String} {ps : Conninfo.Params}
    (hParse : Conninfo.parse dsn = .ok ps) (application : String) (w : Site) :
    AsksOverlaid purpose dsn application ps w ↔ '\x00' ∉ application.toList := by
  constructor
  · rintro ⟨conninfo, r, ps', -, hParse', hOverlaid⟩
    exact hOverlaid.name_clean hParse'
  · intro hName
    obtain ⟨conninfo, ps', hExtend, hParse', hOverlaid⟩ := extend_overlaid purpose hParse hName
    let asked (v : Site) : Prop :=
      ∃ r, v.talk = w.talk ++ [.exchange (.connect w.connections conninfo true) r]
    have hAsks : Meets (Stands w.talk w.connections (fun conn => (w.server conn).copying) [])
        (connect purpose (.text dsn) application) (fun _ => asked) (fun _ => asked) := by
      apply (Copy.stands_connect_extended hExtend).weaken (fun _ h => h)
      · rintro conn v ⟨-, r, -, h⟩
        exact ⟨r, h.talk⟩
      · rintro f v ⟨r, -, h⟩
        exact ⟨r, h.talk⟩
    obtain ⟨r, hTalk⟩ := hAsks.reaches (stands_self w)
    exact ⟨conninfo, r, ps', hTalk, hParse', hOverlaid⟩

theorem connect_overlays_quoted :
    Conninfo.parse "host=a password='it\\'s a \\\\ secret' sslcert='' application_name=x" = .ok
        [("password", "it's a \\ secret"), ("host", "a"), ("application_name", "x"),
          ("sslcert", "")] ∧
      AsksOverlaid .replication
        "host=a password='it\\'s a \\\\ secret' sslcert='' application_name=x" "set up"
        [("password", "it's a \\ secret"), ("host", "a"), ("application_name", "x"),
          ("sslcert", "")] closed := by
  have hParse : Conninfo.parse
      "host=a password='it\\'s a \\\\ secret' sslcert='' application_name=x" = .ok
        [("password", "it's a \\ secret"), ("host", "a"), ("application_name", "x"),
          ("sslcert", "")] := by
    decide +kernel
  exact ⟨hParse, (connect_overlays_iff .replication hParse "set up" closed).mpr (by decide +kernel)⟩

/-- A name with a zero character is cut there, and what stands after it in the string is lost with
it; if the name holds a blank, nothing is asked for at all. A value that is no text is not laid over
either. -/
theorem connect_cuts_name :
    Conninfo.parse "fallback_application_name=x sslmode=require" =
        .ok [("fallback_application_name", "x"), ("sslmode", "require")] ∧
      (¬ AsksOverlaid .queries "fallback_application_name=x sslmode=require" "a\x00b"
        [("fallback_application_name", "x"), ("sslmode", "require")] closed) ∧
      Conninfo.extend (.text "fallback_application_name=x sslmode=require")
          (Purpose.queries.params "a\x00b") = .ok "fallback_application_name=a\x00b sslmode=require" ∧
      Conninfo.parse "fallback_application_name=a\x00b sslmode=require" =
        .ok [("fallback_application_name", "a")] ∧
      (outcome (connect .queries (.text "host=a") "a b\x00c") closed).2.journal.toList.length = 0 ∧
      (∃ es, Conninfo.entries "postgresql://%ff@a" = .ok es) ∧
      (outcome (connect .queries (.text "postgresql://%ff@a") "setup") closed).2.journal.toList.length =
        0 := by
  refine ⟨by decide +kernel, ?_, by decide +kernel, by decide +kernel, by decide +kernel, ?_,
    by decide +kernel⟩
  · rintro ⟨conninfo, r, ps', -, hParse, hOverlaid⟩
    exact absurd (hOverlaid.name_clean hParse) (by decide +kernel)
  · exact ok_of_isOk (by decide +kernel)

end ReplicaBootstrap.Session
