import ReplicaBootstrap.Proofs.Outcomes.Truthful
import ReplicaBootstrap.Proofs.Resumption

/-! # Who learns of readiness, and when

A run lets the origin know that the target is ready only after the local catalog has kept it. Over any
number of runs, cut off wherever, the origin is therefore never ahead of the local catalog.
-/

namespace ReplicaBootstrap

open ReplicaBootstrap.Action Rehearsal Outcomes

variable {tool : Type}

namespace Readiness

/-! ## The calls of a run -/

/-- What must have been done before a call of a run. -/
def Permitted (i : Initialiser) (before : List (Exchange tool)) : Request tool → Prop
  | .setRemoteNodeStatus conn name status =>
    name = i.pair.target.name ∧ status = .ready ∧ i.pair.target.role = .subscriber ∧
      ∃ earlier, before = earlier ++
        [⟨.setNodeStatus i.pair.target.id .ready, .ok ()⟩,
          ⟨.connect .queries i.pair.origin.dsn i.settings.initApplicationName, .ok conn⟩]
  | .connect .queries _ _ | .setNodeStatus _ .connectBack | .setNodeStatus _ .ready =>
    i.pair.target.role = .subscriber
  | _ => True

def Gated (i : Initialiser) (xs : List (Exchange tool)) : Prop :=
  ∀ before e after, xs = before ++ e :: after → Permitted i before e.request

variable {i : Initialiser} {xs : List (Exchange tool)} {e : Exchange tool}

theorem Gated.concat (h : Gated i xs) (he : Permitted i xs e.request) : Gated i (xs ++ [e]) := by
  intro before d after hList
  rcases last_or_earlier hList with ⟨rfl, rfl⟩ | ⟨rest, rfl⟩
  · exact he
  · exact h before d rest rfl

theorem gated_ask {q : Request tool} (hq : ∀ xs, Gated i xs → Permitted i xs q) :
    Keeps (Having (Gated i)) (ask q) :=
  having_ask (fun _ xs h => h.concat (hq xs h)) (fun _ xs h => h.concat (hq xs h))

theorem permitted_of_prepares {q : Request tool} (h : q.prepares = true) : Permitted i xs q := by
  cases q <;> trivial

theorem gated_closeQuietly {conn : Nat} :
    Keeps (Having (Gated i)) (Initialiser.closeQuietly (services tool) conn) :=
  having_closeQuietly (fun _ _ h => h.concat trivial) (fun _ _ h => h.concat trivial)

theorem gated_initNode : Keeps (Having (Gated i)) (i.initNode (services tool)) := by
  apply Initialiser.meets_initNode_parts (O := fun _ => Having (Gated i))
    (G := fun _ => Having (Gated i)) (C := fun _ _ => Having (Gated i)) i
  · intro q hq
    exact gated_ask fun _ _ => permitted_of_prepares hq
  · exact fun _ _ _ _ h => h
  · exact gated_ask fun _ _ => trivial
  · intro t conn name
    have hPrepare (q : Request tool) (hq : q.prepares = true) :
        Keeps (Having (Gated i)) (ask q) := gated_ask fun _ _ => permitted_of_prepares hq
    exact Initialiser.meets_transfer_parts i t conn name hPrepare (fun _ h => h) hPrepare
      (gated_ask fun _ _ => trivial) (fun _ => gated_ask fun _ _ => trivial)
      (fun _ _ => gated_ask fun _ _ => trivial)
  · exact fun _ => gated_closeQuietly
  · exact fun _ _ => gated_closeQuietly

/-- A permitted status is set, if it may follow the one in memory. -/
theorem gated_advance (i : Initialiser) (status : NodeStatus)
    (hSet : ∀ xs : List (Exchange tool), Permitted i xs (.setNodeStatus i.pair.target.id status)) :
    Meets (Having (Gated i)) (i.advance (services tool) .target status)
      (fun _ => Having fun xs => Gated i xs ∧
        ∃ earlier, xs = earlier ++ [⟨.setNodeStatus i.pair.target.id status, .ok ()⟩])
      (fun _ => Having (Gated i)) := by
  apply Initialiser.meets_advance i (fun _ _ _ h => h)
  have hAsk : Meets (Having (Gated i)) (ask (.setNodeStatus i.pair.target.id status))
      (fun _ => Having fun xs => Gated i xs ∧
        ∃ earlier, xs = earlier ++ [⟨.setNodeStatus i.pair.target.id status, .ok ()⟩])
      (fun _ => Having (Gated i)) :=
    having_ask (fun _ xs h => ⟨h.concat (hSet xs), xs, rfl⟩) (fun _ xs h => h.concat (hSet xs))
  exact hAsk.imp_pre fun _ h => h.2

theorem keeps_gated_advance (i : Initialiser) (status : NodeStatus)
    (hSet : ∀ xs : List (Exchange tool), Permitted i xs (.setNodeStatus i.pair.target.id status)) :
    Keeps (Having (Gated i)) (i.advance (services tool) .target status) :=
  (gated_advance i status hSet).imp_good fun _ _ h => h.1

/-- After readiness was kept, the origin is told of it. -/
theorem gated_connectBack (hRole : i.pair.target.role = .subscriber) :
    Meets (Having fun xs => Gated i xs ∧
        ∃ earlier, xs = earlier ++ [⟨.setNodeStatus i.pair.target.id .ready, .ok ()⟩])
      (i.connectBack (services tool)) (fun _ => Having (Gated i))
      (fun _ => Having (Gated i)) := by
  apply Initialiser.meets_connectBack_parts i
    (O := fun conn => Having fun xs => Gated i xs ∧
      Permitted i xs (.setRemoteNodeStatus conn i.pair.target.name .ready))
    (G := fun _ => Having (Gated i)) (C := fun _ _ => Having (Gated i))
  · apply having_ask
    · rintro conn _ ⟨h, earlier, rfl⟩
      refine ⟨h.concat hRole, rfl, rfl, hRole, earlier, ?_⟩
      rw [List.append_assoc]
      rfl
    · rintro f xs ⟨h, -⟩
      exact h.concat hRole
  · intro conn
    exact having_ask (fun _ _ h => h.1.concat h.2) (fun _ _ h => h.1.concat h.2)
  · exact fun _ => gated_closeQuietly
  · exact fun _ _ => gated_closeQuietly

theorem gated_subscriber {work : Step (Rehearsal tool) Unit}
    (h : i.pair.target.role = .subscriber → Keeps (Having (Gated i)) work) :
    Keeps (Having (Gated i)) (i.checkTargetRole >>= fun _ => work) := by
  by_cases hRole : i.pair.target.role = .subscriber
  · exact keeps_bind (Initialiser.meets_checkTargetRole (fun _ _ h => h) (fun _ _ h => h))
      fun _ => h hRole
  · apply meets_bind (m := fun _ _ => False)
    · exact Initialiser.meets_checkTargetRole (fun h => absurd h hRole) (fun _ _ h => h)
    · exact fun _ _ h => h.elim

theorem gated_complete : Keeps (Having (Gated i)) (i.complete (services tool)) := by
  apply gated_subscriber
  intro hRole
  apply meets_bind (gated_advance i .ready fun _ => hRole)
  intro _
  apply meets_bind (gated_connectBack hRole)
  intro _
  exact silent_log _ _

theorem gated_stage {start : NodeStatus} {work : Step (Rehearsal tool) Unit}
    (h : Keeps (Having (Gated i)) work) :
    Keeps (Having (Gated i)) (Initialiser.stage start work) :=
  Initialiser.meets_stage (h.imp_pre fun _ h => h.2) (fun _ _ h => h)

theorem gated_run : Keeps (Having (Gated i)) (i.run (services tool)) := by
  unfold Initialiser.run
  apply keeps_bind (Initialiser.meets_begin i (gated_ask fun _ _ => trivial) (fun _ _ _ h => h)
    (fun _ _ _ h => h))
  intro _
  apply keeps_bind
  · apply gated_stage
    exact keeps_bind gated_initNode fun _ => keeps_gated_advance i .slots fun _ => trivial
  intro _
  apply keeps_bind
  · apply gated_stage
    exact keeps_bind (gated_ask fun _ _ => trivial) fun _ =>
      keeps_gated_advance i .catchup fun _ => trivial
  intro _
  apply keeps_bind
  · apply gated_stage
    exact gated_subscriber fun hRole => keeps_gated_advance i .connectBack fun _ => hRole
  intro _
  exact gated_stage gated_complete

end Readiness

/-! ## The catalogs during a run -/

/-- The catalogs after calls that ended like this. -/
def Catalogs.after (c : Catalogs) (ds : List (Deed tool)) : Catalogs :=
  ds.foldl (fun c d => c.settled d.request d.outcome) c

theorem Catalogs.after_concat (c : Catalogs) (ds : List (Deed tool)) (d : Deed tool) :
    c.after (ds ++ [d]) = (c.after ds).settled d.request d.outcome := List.foldl_concat ..

theorem Chronicle.after_eq {x : Circumstances tool} {c c' : Catalogs} {ds : List (Deed tool)}
    {i : Interrupts} (h : Chronicle x c ds i c') : c' = c.after ds := by
  induction h with
  | nil => rfl
  | snoc _ _ _ ih => rw [Catalogs.after_concat, ← ih]

namespace Catalogs

variable {id : Value} {s t : NodeStatus} {c : Catalogs} {ds : List (Deed tool)} {d : Deed tool}

theorem stored_settled (h : Moves id s d t) (hStored : Bench.get? id c.stored = some s) :
    Bench.get? id (c.settled d.request d.outcome).stored = some t := by
  cases h with
  | @foreign q outcome _ _ hq =>
    cases outcome with
    | error f => exact hStored
    | ok a => cases q <;> first | exact hStored | cases hq
  | written => exact Bench.get?_put_of_isSome t (by rw [hStored]; rfl)
  | refused => exact hStored

theorem stored_after (h : Trail id s ds t) (hStored : Bench.get? id c.stored = some s) :
    Bench.get? id (c.after ds).stored = some t := by
  induction ds generalizing s c with
  | nil =>
    cases h
    exact hStored
  | cons d rest ih =>
    obtain ⟨u, hMoves, hRest⟩ := h
    exact ih hRest (stored_settled hMoves hStored)

theorem remote_settled (c : Catalogs) (d : Deed tool) :
    (∃ conn name status, d.exchange = ⟨.setRemoteNodeStatus conn name status, .ok ()⟩) ∨
      (c.settled d.request d.outcome).remote = c.remote := by
  obtain ⟨q, outcome, memory, kept⟩ := d
  cases outcome with
  | error f => exact .inr rfl
  | ok a =>
    cases q with
    | setRemoteNodeStatus conn name status => exact .inl ⟨conn, name, status, rfl⟩
    | _ => exact .inr rfl

/-- What the origin knows changes only if it is told. -/
theorem remote_after (c : Catalogs) (ds : List (Deed tool)) :
    (∃ conn name status, ⟨.setRemoteNodeStatus conn name status, .ok ()⟩ ∈ ds.map Deed.exchange) ∨
      (c.after ds).remote = c.remote := by
  induction ds generalizing c with
  | nil => exact .inr rfl
  | cons d rest ih =>
    rcases remote_settled c d with ⟨conn, name, status, hTold⟩ | hSame
    · exact .inl ⟨conn, name, status, List.mem_cons.mpr (.inl hTold.symm)⟩
    · rcases ih (c.settled d.request d.outcome) with ⟨conn, name, status, hTold⟩ | hRest
      · exact .inl ⟨conn, name, status, List.mem_cons_of_mem _ hTold⟩
      · exact .inr (hRest.trans hSame)

/-- If the origin knows that the target is ready, the local catalog keeps it. -/
def Agreed (id name : Value) (c : Catalogs) : Prop :=
  Bench.get? name c.remote = some .ready → Bench.get? id c.stored = some .ready

end Catalogs

theorem Trail.split {id : Value} {s u : NodeStatus} {ds es : List (Deed tool)}
    (h : Trail id s (ds ++ es) u) : ∃ t, Trail id s ds t ∧ Trail id t es u := by
  induction ds generalizing s with
  | nil => exact ⟨s, rfl, h⟩
  | cons d rest ih =>
    obtain ⟨v, hMoves, hRest⟩ := h
    obtain ⟨t, hFront, hBack⟩ := ih hRest
    exact ⟨t, ⟨v, hMoves, hFront⟩, hBack⟩

namespace Attempt

variable {a : Attempt tool} {attempts : List (Attempt tool)} {c : Catalogs} {id name : Value}
  {s : NodeStatus} {ds : List (Deed tool)}

theorem gated_exchanges (a : Attempt tool) (c : Catalogs) :
    Readiness.Gated a.initialiser (a.exchanges c) := by
  apply Readiness.gated_run.reaches (P := Having (Readiness.Gated a.initialiser)) (s := a.start c)
  intro before e after h
  cases before <;> cases h

theorem leave_eq_after (a : Attempt tool) (c : Catalogs) : a.leave c = c.after (a.deeds c) :=
  (recorded_run a c).chronicle.after_eq

/-- At every point of a run the catalog keeps the last of what was set so far. -/
theorem written_of_prefix (hTarget : a.initialiser.pair.target.id = id)
    (hStored : Bench.get? id c.stored = some s) (h : ds <+: a.deeds c) :
    ∃ t, Bench.get? id (c.after ds).stored = some t ∧
      List.IsChain NodeStatus.Precedes (s :: writtenBy ds) ∧
      (s :: writtenBy ds).getLast? = some t := by
  obtain ⟨first, rest, t, hDeeds, hFirst, hTrail, -⟩ := (stopped_run hTarget hStored).deeds
  obtain ⟨es, hList⟩ := h
  rw [deeds, hDeeds] at hList
  cases ds with
  | nil => exact ⟨s, hStored, List.isChain_singleton s, rfl⟩
  | cons d ds =>
    obtain ⟨rfl, rfl⟩ := List.cons.inj hList
    obtain ⟨u, hFront, -⟩ := hTrail.split
    obtain ⟨q, outcome, memory, kept⟩ := d
    cases hFirst
    have hSame : c.settled (.nodeStatus id) outcome = c := by cases outcome <;> rfl
    refine ⟨u, ?_, hFront.isChain_writtenBy⟩
    change Bench.get? id ((c.settled (.nodeStatus id) outcome).after ds).stored = some u
    rw [hSame]
    exact Catalogs.stored_after hFront hStored

/-- Once the origin was told in a run, the run has kept readiness. -/
theorem ready_written_of_told (h : ds <+: a.deeds c) {conn : Nat} {key : Value}
    {status : NodeStatus}
    (hTold : ⟨.setRemoteNodeStatus conn key status, .ok ()⟩ ∈ ds.map Deed.exchange) :
    .ready ∈ writtenBy ds := by
  obtain ⟨before, after, hList⟩ := List.append_of_mem hTold
  obtain ⟨es, hDeeds⟩ := h
  have hCalls : a.exchanges c = before ++
      ⟨.setRemoteNodeStatus conn key status, .ok ()⟩ :: (after ++ es.map Deed.exchange) := by
    rw [exchanges, ← hDeeds, List.map_append, hList, List.append_assoc, List.cons_append]
  obtain ⟨-, -, -, earlier, rfl⟩ := gated_exchanges a c _ _ _ hCalls
  have hSet : ⟨.setNodeStatus a.initialiser.pair.target.id .ready, .ok ()⟩ ∈
      ds.map Deed.exchange := by
    rw [hList]
    simp
  obtain ⟨⟨q, outcome, memory, kept⟩, hd, hExchange⟩ := List.mem_map.mp hSet
  cases hExchange
  exact List.mem_filterMap.mpr ⟨_, hd, rfl⟩

theorem agreed_of_prefix (hTarget : a.initialiser.pair.target.id = id)
    (hStored : Bench.get? id c.stored = some s) (hAgreed : c.Agreed id name)
    (h : ds <+: a.deeds c) : (c.after ds).Agreed id name := by
  obtain ⟨t, hKept, hChain, hLast⟩ := written_of_prefix hTarget hStored h
  intro hKnown
  have hReady : .ready ∈ s :: writtenBy ds := by
    rcases Catalogs.remote_after c ds with ⟨conn, key, status, hTold⟩ | hSame
    · exact List.mem_cons_of_mem s (ready_written_of_told h hTold)
    · rw [hSame] at hKnown
      cases hStored.symm.trans (hAgreed hKnown)
      exact List.mem_cons_self
  rw [hKept, ← hLast]
  exact getLast?_of_ready_mem hChain hReady

theorem agreed_of_mem_history (hStored : Bench.get? id c.stored = some s)
    (hTarget : ∀ a ∈ attempts, a.initialiser.pair.target.id = id) (hAgreed : c.Agreed id name)
    {found : Catalogs} (h : (a, found) ∈ history attempts c) (hPrefix : ds <+: a.deeds found) :
    (found.after ds).Agreed id name := by
  induction attempts generalizing s c with
  | nil => cases h
  | cons b rest ih =>
    have hFirst := hTarget b List.mem_cons_self
    rcases List.mem_cons.mp h with h | h
    · cases h
      exact agreed_of_prefix hFirst hStored hAgreed hPrefix
    · obtain ⟨t, hLeft, -⟩ := written_of_prefix hFirst hStored (List.prefix_refl (b.deeds c))
      have hLeftAgreed := agreed_of_prefix hFirst hStored hAgreed (List.prefix_refl (b.deeds c))
      rw [← leave_eq_after] at hLeft hLeftAgreed
      exact ih hLeft (fun e he => hTarget e (List.mem_cons_of_mem _ he)) hLeftAgreed h

/-- The catalogs as they are at some point of the attempts. -/
def Reaches (attempts : List (Attempt tool)) (c c' : Catalogs) : Prop :=
  c' = c ∨ ∃ a found ds, (a, found) ∈ history attempts c ∧ ds <+: a.deeds found ∧
    c' = found.after ds

/-- Who learns over any number of attempts that the target is ready, and when. -/
structure Gatekept (id name : Value) (attempts : List (Attempt tool)) (c : Catalogs) : Prop where
  /-- all that the origin is told is the readiness of a subscriber, through a connection that was
  opened right after the same run had kept it -/
  told : ∀ a found, (a, found) ∈ history attempts c →
    ∀ before conn key status outcome later,
      a.exchanges found = before ++ ⟨.setRemoteNodeStatus conn key status, outcome⟩ :: later →
      let { origin, target, .. } := a.initialiser.pair
      key = target.name ∧ status = .ready ∧ target.role = .subscriber ∧
        ∃ earlier, before = earlier ++
          [⟨.setNodeStatus target.id .ready, .ok ()⟩,
            ⟨.connect .queries origin.dsn a.initialiser.settings.initApplicationName, .ok conn⟩]
  /-- for any other node the last statuses are not even set, nor is the origin connected to -/
  barred : ∀ a found, (a, found) ∈ history attempts c →
    a.initialiser.pair.target.role ≠ .subscriber → ∀ e ∈ a.exchanges found,
      (∀ key status, e.request = .setNodeStatus key status →
        status ≠ .connectBack ∧ status ≠ .ready) ∧
      ∀ dsn application, e.request ≠ .connect .queries dsn application
  agreed : Bench.get? name c.remote ≠ some .ready → ∀ c', Reaches attempts c c' →
    Bench.get? name c'.remote = some .ready → Bench.get? id c'.stored = some .ready

/-- Whatever the catalog keeps at first, whatever role the target has at each run, whatever disturbs
the calls and whenever signals come. -/
theorem gatekept (attempts : List (Attempt tool)) (c : Catalogs) (id name : Value) (s : NodeStatus)
    (hStored : Bench.get? id c.stored = some s)
    (hTarget : ∀ a ∈ attempts, a.initialiser.pair.target.id = id) :
    Gatekept id name attempts c := by
  constructor
  case told =>
    intro a found _ before conn key status outcome later hCalls
    exact gated_exchanges a found before _ later hCalls
  case barred =>
    intro a found _ hRole e he
    obtain ⟨before, later, hCalls⟩ := List.append_of_mem he
    have hPermitted := gated_exchanges a found before e later hCalls
    constructor
    · rintro key status hSet
      rw [hSet] at hPermitted
      constructor <;> rintro rfl <;> exact hRole hPermitted
    · intro dsn application hConnect
      rw [hConnect] at hPermitted
      exact hRole hPermitted
  case agreed =>
    intro hUnknown c' hReached
    have hAgreed : c.Agreed id name := fun h => absurd h hUnknown
    rcases hReached with rfl | ⟨a, found, ds, hRun, hPrefix, rfl⟩
    · exact hAgreed
    · exact agreed_of_mem_history hStored hTarget hAgreed hRun hPrefix

/-- A plain attempt that takes the target for a provider. -/
def ofProvider : Attempt Unit :=
  let { initialiser, origin, target, circumstances } := plain fun _ => false
  let { pair, settings } := initialiser
  { initialiser := { pair := { pair with target := { pair.target with role := .provider } }, settings }
    origin, target, circumstances }

/-- Cut off while the target catches up, then taken for a provider, at last a subscriber. -/
def mixedRoles : List (Attempt Unit) := [plain (sets .connectBack), ofProvider, plain fun _ => false]

theorem gatekept_mixedRoles :
    Bench.get? (.int 2) Catalogs.plain.stored = some .init ∧
      (∀ a ∈ mixedRoles, a.initialiser.pair.target.id = .int 2) ∧
      (mixedRoles.map fun a => a.initialiser.pair.target.role) =
        [.subscriber, .provider, .subscriber] ∧
      Bench.get? "subscriber" (leaveAll mixedRoles .plain).remote = some .ready ∧
      Gatekept (.int 2) "subscriber" mixedRoles .plain := by
  have hTarget : ∀ a ∈ mixedRoles, a.initialiser.pair.target.id = .int 2 := by
    unfold mixedRoles
    simp only [List.forall_mem_cons]
    exact ⟨rfl, rfl, rfl, List.forall_mem_nil _⟩
  exact ⟨rfl, hTarget, rfl, rfl, gatekept mixedRoles .plain (.int 2) "subscriber" .init rfl hTarget⟩

end Attempt

end ReplicaBootstrap
