import ReplicaBootstrap.Proofs.Copy.Aside
import ReplicaBootstrap.Proofs.Copy.NodeData

/-! # The commit of a copy

The target is asked to commit once at most, and only when every listed table has been copied whole.
-/

namespace ReplicaBootstrap.Copy

open ReplicaBootstrap.Action Site

variable {base talk : List Entry} {n : Nat} {c : Nat → Option String} {origin target : Nat}

/-! ## How a copy ends -/

/-- How a copy can end, with what was said. -/
inductive Ending (K : List Table → List Entry → Prop) (target : Nat) :
    Except Fault (List Table) → List Entry → Prop
  | muted {f : Fault} {talk : List Entry} (hQuiet : Quiet target talk) :
      Ending K target (.error f) talk
  | refused {f : Fault} {ts : List Table} {before after : List Entry} {r : Reply}
      (hBefore : K ts before) (hRefused : r.fault ≠ none) (hAfter : Quiet target after) :
      Ending K target (.error f)
        (before ++ .exchange (.execute target "COMMIT" none) r :: after)
  | unclosed {f : Fault} {ts : List Table} {before after : List Entry} {r : Reply}
      (hBefore : K ts before) (hAfter : Quiet target after) (hUnclosed : Unclosed after) :
      Ending K target (.error f)
        (before ++ .exchange (.execute target "COMMIT" none) r :: after)
  | committed {ts : List Table} {before after : List Entry} {r : Reply} (hBefore : K ts before)
      (hCommit : r.fault = none) (hAfter : Quiet target after) :
      Ending K target (.ok ts)
        (before ++ .exchange (.execute target "COMMIT" none) r :: after)

theorem Course.ending {pair : NodePair} {snapshot : Value} {extension application : String}
    {result : Except Fault (List Table)} (hConn : origin ≠ target)
    (h : Course pair snapshot extension application origin target result talk) :
    Ending (Committable pair snapshot extension application origin target) target result talk := by
  cases h with
  | unconnected hSource =>
    have hAside : Aside origin target talk := hSource.aside
    exact .muted hAside.quiet
  | unprepared hSource hCut hClosing =>
    have hAside : Aside origin target _ := (hSource.aside.append hCut.aside).append hClosing.aside
    exact .muted hAside.quiet
  | untransferred hSource hPrepared hCut hClosing =>
    have hOpen : Aside origin target _ := hSource.aside.append hPrepared.aside
    exact .muted ((hOpen.quiet.append (hCut.quiet hConn)).append (quiet_closings hClosing))
  | uncommitted hBefore hCommit hClosing => exact .refused hBefore hCommit (quiet_closings hClosing)
  | unclosed hBefore _ hClosing hUnclosed =>
    exact .unclosed hBefore (quiet_closings hClosing) hUnclosed
  | completed hBefore hCommit =>
    exact .committed hBefore hCommit (quiet_closings ((closings_nil.cons _ _).cons _ _))

theorem Quiet.countP (h : Quiet target talk) : talk.countP (Entry.isCommitOn target) = 0 := by
  rw [List.countP_eq_zero]
  intro x hx
  rw [h x hx]
  exact Bool.false_ne_true

/-- An origin with a table of two chunks and an empty one. -/
def twoTables : Site where
  servers := [{ script := [{ replies := .inTurn [{}, {},
    { rows := [["public", "a"], ["public", "b"]] }, {}, {}, { data := [1, 2] }, { data := [3] }] }] }]

def twoTablesPair : NodePair where
  origin := { id := .int 1, name := "provider", dsn := "host=a" }
  target := { id := .int 2, name := "subscriber", dsn := "host=b" }
  replicationSets := ["default"]

/-- The queries of a talk, each with its connection. -/
def queries (talk : List Entry) : List (Nat × String) :=
  talk.filterMap fun
    | .exchange (.execute conn query _) _ => some (conn, query)
    | _ => none

end ReplicaBootstrap.Copy
