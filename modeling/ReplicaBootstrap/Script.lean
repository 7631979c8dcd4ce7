import ReplicaBootstrap.Fault
import ReplicaBootstrap.Text.Lines
import ReplicaBootstrap.Value

/-! # Scripted partners

A server or a command answers from a script. A rule names a text that a request has to contain; it
answers for ever with one reply, or with some replies in turn until they are used up.
-/

namespace ReplicaBootstrap

/-- What a partner answers: first a signal may arrive, then the request may fail, else the rest of
the reply is the result. -/
structure Reply where
  signal : Option Int := none
  fault : Option Fault := none
  rows : List (List Value) := []
  rowCount : Int := 1
  data : List UInt8 := []
  exitCode : Int := 0
  stdout : String := ""
  stderr : String := ""
  deriving Repr, Inhabited

inductive Replies where
  | standing (reply : Reply)
  | inTurn (replies : List Reply)
  deriving Repr, Inhabited

structure Rule where
  pattern : String := ""
  replies : Replies
  deriving Repr, Inhabited

abbrev Script := List Rule

namespace Script

/-- The reply to a request, and the script after it. A request that no rule answers gets an empty
reply. -/
def answer (request : String) : Script → Reply × Script
  | [] => ({}, [])
  | rule :: rest =>
    let later := let (reply, rest') := answer request rest; (reply, rule :: rest')
    if Text.contains request rule.pattern then
      match rule.replies with
      | .standing reply => (reply, rule :: rest)
      | .inTurn (reply :: more) => (reply, { rule with replies := .inTurn more } :: rest)
      | .inTurn [] => later
    else later

def pending : Script → Nat
  | [] => 0
  | rule :: rest =>
    match rule.replies with
    | .standing _ => pending rest
    | .inTurn replies => replies.length + pending rest

theorem pending_cons_le_iff {rule : Rule} {script rest : Script} :
    pending (rule :: script) ≤ pending (rule :: rest) ↔ pending script ≤ pending rest := by
  simp only [pending]
  split
  · exact Iff.rfl
  · exact Nat.add_le_add_iff_left

theorem pending_answer_le (request : String) (script : Script) :
    pending (answer request script).2 ≤ pending script := by
  induction script with
  | nil => exact Nat.le_refl _
  | cons rule rest ih =>
    simp only [answer]
    split
    · split
      · exact Nat.le_refl _
      · rename_i reply more h
        simp only [pending, h, List.length_cons]
        omega
      · exact pending_cons_le_iff.mpr ih
    · exact pending_cons_le_iff.mpr ih

end Script

end ReplicaBootstrap
