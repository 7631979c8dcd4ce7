import ReplicaBootstrap.Catalog
import ReplicaBootstrap.Proofs.Conninfo.Readable
import ReplicaBootstrap.Proofs.Copy.Relay
import ReplicaBootstrap.Proofs.Faults.Accounts
import ReplicaBootstrap.Tool.Schema

/-! # Orderly partners

Servers fail with faults of the driver and tools with faults of the system, and a server answers a
query with rows of the shape that it asks for. What sessions and the catalog make of such replies.
-/

namespace ReplicaBootstrap

open ReplicaBootstrap.Action

def firstCell? (rows : List (List Value)) : Option Value := rows.head?.bind List.head?

def namesTable : List Value → Bool
  | .text _ :: .text _ :: _ => true
  | _ => false

/-- A slot's row names its position in a text, not in bytes. -/
def describesSlot : List Value → Bool
  | _ :: .bytes _ :: _ => false
  | row => 3 ≤ row.length

/-- The shapes of rows, each with the words that the queries for it begin with. -/
def rowShapes : List (String × (List (List Value) → Bool)) := [
    ("SELECT node_status FROM ", fun rows => rows.all (!·.isEmpty)),
    ("SELECT current_database()", fun rows => ((firstCell? rows).bind Value.text?).isSome),
    ("SHOW server_version_num", fun rows => (firstCell? rows).any (Catalog.wholeNumber · |>.isOk)),
    ("SELECT pg_replication_origin_create(", fun rows => (firstCell? rows).isSome),
    ("CREATE_REPLICATION_SLOT ", fun rows => rows.all describesSlot),
    ("SELECT nspname, relname FROM ", fun rows => rows.all namesTable)]

def hasShape (query : String) (rows : List (List Value)) : Bool :=
  rowShapes.all fun (words, shape) => !words.toList.isPrefixOf query.toList || shape rows

theorem shape_of_hasShape {query words : String} {shape : List (List Value) → Bool}
    {rows : List (List Value)} (h : hasShape query rows = true) (hMem : (words, shape) ∈ rowShapes)
    (hWords : words.toList <+: query.toList) : shape rows = true := by
  have := List.all_eq_true.mp h _ hMem
  simpa [List.isPrefixOf_iff_prefix.mpr hWords] using this

def Entry.isOrderly : Entry → Bool
  | .exchange e r =>
    match r.fault, e with
    | some f, .run _ => f.isSystem
    | some f, _ => f.isDriver
    | none, .execute _ query _ => hasShape query r.rows
    | none, _ => true
  | _ => true

theorem isDriver_of_isOrderly {e : Event} {r : Reply} {f : Fault}
    (h : (Entry.exchange e r).isOrderly = true) (hServer : e.isRun = false)
    (hFault : r.fault = some f) : f.isDriver = true := by
  cases e <;> simp_all [Entry.isOrderly, Event.isRun]

theorem isSystem_of_isOrderly {command : List String} {r : Reply} {f : Fault}
    (h : (Entry.exchange (.run command) r).isOrderly = true) (hFault : r.fault = some f) :
    f.isSystem = true := by
  simpa [Entry.isOrderly, hFault] using h

theorem hasShape_of_isOrderly {conn : Nat} {query : String} {params : Option (List Value)}
    {r : Reply} (h : (Entry.exchange (.execute conn query params) r).isOrderly = true)
    (hFault : r.fault = none) : hasShape query r.rows = true := by
  simpa [Entry.isOrderly, hFault] using h

namespace Site

/-- Which faults are let through: those of the transaction around a new origin, which begins once the
slot is there and is committed once the origin is advanced, and that of a version that cannot be read. -/
inductive LetThrough (conn : Nat) (f : Fault) : List Entry → Prop
  | begin {server : Nat} {query : String} {params : Option (List Value)} {r r' : Reply}
      (hSlot : "CREATE_REPLICATION_SLOT ".toList <+: query.toList) (hFault : r'.fault = some f) :
      LetThrough conn f
        [.exchange (.execute server query params) r, .exchange (.beginTransaction conn) r']
  | commit {params : Option (List Value)} {r r' : Reply} (hFault : r'.fault = some f) :
      LetThrough conn f
        [.exchange (.execute conn "SELECT pg_replication_origin_advance(%s, %s::pg_lsn)" params) r,
          .exchange (.commit conn) r']
  | version {path digits : String} {r : Reply} {e : Number.RadixError}
      (hVersion : Version.parseTool r.stdout = .error (e, digits))
      (hText : f = .host .badValue (e.message 10 digits)) :
      LetThrough conn f [.exchange (.run [path, "-V"]) r]

/-- The terms on which `conn` serves as the local connection, once some connections have been asked
for. -/
def terms (conn floor : Nat) : Terms Site where
  said := talk
  holds w := floor ≤ w.connections
  orderly x := x.isOrderly = true
  lets := LetThrough conn

/-- Faults of the initialisation, and those of connection strings with values that are no text. -/
inductive Allowed (dsns : List String) (f : Fault) : Prop
  | init (h : f.isInit = true)
  | endless (h : f = Copy.endless)
  | notText {dsn : String} {e : Text.Utf8Error} (hDsn : dsn ∈ dsns)
      (hParse : Conninfo.parse dsn = .error (.notText e)) (h : f = (Conninfo.Error.notText e).fault)

variable {α : Type} {conn floor : Nat} {before : List Entry} {P : Prop} {allowed : Fault → Prop}
  {dsns : List String}

theorem tells_of_stands {good : α → List Entry → Prop} {x : Action Site α}
    (h : ∀ base n c, Meets (Stands base n c []) x
      (fun a w => ∃ c' talk, Stands base n c' talk w ∧
        (P → (∀ y ∈ talk, y.isOrderly = true) → good a (before ++ talk)))
      (fun f w => ∃ c' talk, Stands base n c' talk w ∧
        (P → (∀ y ∈ talk, y.isOrderly = true) →
          allowed f ∨ (terms conn floor).LetsThrough (before ++ talk) f))) :
    Tells (terms conn floor) before P x good allowed := by
  intro w hw
  have hEnd := h _ _ _ w (stands_self w)
  rcases hx : outcome x w with ⟨r, w'⟩
  rw [hx] at hEnd
  cases r with
  | ok a =>
    obtain ⟨c', talk, h, hGood⟩ := hEnd
    exact ⟨talk, h.talk, hw.trans h.connections.ge, hGood⟩
  | error f =>
    obtain ⟨c', talk, h, hFault⟩ := hEnd
    exact ⟨talk, h.talk, hw.trans h.connections.ge, hFault⟩

/-! ## Single steps -/

theorem tells_emit (e : Event) :
    Tells (terms conn floor) before P (emit e) (fun _ said => said = before) allowed := by
  apply tells_of_stands
  intro base n c
  exact (stands_emit e).imp_good fun _ _ h => ⟨c, [], h, fun _ _ => List.append_nil _⟩

theorem accounts_emit (e : Event) :
    Accounts (terms conn floor) P (emit e) (fun _ => True) allowed :=
  (tells_emit e).weaken id (fun _ _ _ _ => trivial) (fun _ _ h => h)

theorem accounts_log (level : Level) (text : String) :
    Accounts (terms conn floor) P (log level text) (fun _ => True) allowed :=
  accounts_emit _

theorem accounts_checkInterrupts :
    Accounts (terms conn floor) P checkInterrupts (fun _ => True) (Allowed dsns) := by
  apply tells_of_stands
  intro base n c
  apply stands_checkInterrupts.weaken (fun _ h => h)
  · exact fun _ _ h => ⟨c, _, h, fun _ _ => trivial⟩
  · rintro _ _ ⟨rfl, h⟩
    exact ⟨c, _, h, fun _ _ => .inl (.init rfl)⟩

theorem accounts_request (server : Nat) {e : Event} (text : String) (hServer : e.isRun = false) :
    Accounts (terms conn floor) P (request server e text)
      (fun r => r.fault = none ∧ (Entry.exchange e r).isOrderly = true)
      (fun f => f.isDriver = true) := by
  apply tells_of_stands
  intro base n c
  apply (stands_request server e text).weaken (fun _ h => h)
  · rintro r w ⟨hFault, h⟩
    exact ⟨c, _, h, fun _ hOrderly => ⟨hFault, hOrderly _ List.mem_cons_self⟩⟩
  · rintro f w ⟨r, hFault, h⟩
    refine ⟨c, _, h, fun _ hOrderly => .inl ?_⟩
    exact isDriver_of_isOrderly (hOrderly _ List.mem_cons_self) hServer hFault

/-- A request after which its faults are let through. -/
theorem tells_request (server : Nat) (e : Event) (text : String)
    (hLet : ∀ r f, P → r.fault = some f →
      (terms conn floor).LetsThrough (before ++ [.exchange e r]) f) :
    Tells (terms conn floor) before P (request server e text) (fun _ _ => True) allowed := by
  apply tells_of_stands
  intro base n c
  apply (stands_request server e text).weaken (fun _ h => h)
  · exact fun r w h => ⟨c, _, h.2, fun _ _ => trivial⟩
  · rintro f w ⟨r, hFault, h⟩
    exact ⟨c, _, h, fun hP _ => .inr (hLet r f hP hFault)⟩

theorem tells_execute_explained (server : Nat) (query : String) (params : Option (List Value))
    {explain : Fault → Fault} (hExplain : ∀ f, (explain f).isInit = true) :
    Tells (terms conn floor) before P ((Session.execute server query params).onDriverFault explain)
      (fun r said => hasShape query r.rows = true ∧
        said = before ++ [.exchange (.execute server query params) r])
      (Allowed dsns) := by
  apply tells_of_stands
  intro base n c
  apply (Copy.stands_explained (.execute server query params) query hExplain).weaken (fun _ h => h)
  · rintro r w ⟨hFault, h⟩
    refine ⟨c, _, h, fun _ hOrderly => ⟨?_, rfl⟩⟩
    exact hasShape_of_isOrderly (hOrderly _ List.mem_cons_self) hFault
  · rintro f w ⟨r, -, hAnswer, h⟩
    refine ⟨c, _, h, fun _ hOrderly => .inl (.init ?_)⟩
    rcases hAnswer with hInit | ⟨hFault, hOther⟩
    · exact hInit
    · have := isDriver_of_isOrderly (hOrderly _ List.mem_cons_self) rfl hFault
      rw [hOther] at this
      cases this

end Site

end ReplicaBootstrap
