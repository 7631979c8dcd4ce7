import ReplicaBootstrap.Copy.Stream

/-! # Copying a table

The chunks of a table are moved one by one from a stream of the origin into a stream of the target.
-/

namespace ReplicaBootstrap.Copy

structure Stats where
  chunks : Nat := 0
  bytes : Nat := 0
  deriving DecidableEq, Repr, Inhabited

def Stats.add (s : Stats) (data : List UInt8) : Stats :=
  ⟨s.chunks + 1, s.bytes + data.length⟩

/-- A relay that uses up no reply in a round is in the same state after it and never ends. -/
def endless : Fault := .host .endless "the source of the copy has no end"

def relayFor (origin target : Nat) : (rounds : Nat) → Stats → Action Site Stats
  | 0, _ => throw endless
  | rounds + 1, stats => do
    let data ← nextChunk origin
    if data.isEmpty then return stats
    writeChunk target data
    checkInterrupts
    relayFor origin target rounds (stats.add data)

/-- Moves all chunks. Every round but the last uses up a reply, if the origin's copy has an end. -/
def relay (origin target : Nat) : Action Site Stats := do
  let rounds := (← get).pending + 1
  let stats ← relayFor origin target rounds {}
  finish origin
  return stats

/-- Opens both streams; when the target's fails, the origin's is given up. -/
def openBoth (origin target : Nat) (t : Table) : Action Site Unit := do
  start origin .fromServer t
  match ← Action.attempt (start target .toServer t) with
  | .ok _ => return
  | .error f =>
    abort origin f
    throw f

/-- Copies a table. On a fault both streams are given up, the origin's first. -/
def table (origin target : Nat) (t : Table) : Action Site Stats := do
  log .info s!"copying table {t.text}"
  let begun ← readClock
  openBoth origin target t
  match ← Action.attempt (relay origin target) with
  | .error f =>
    abort origin f
    abort target f
    throw f
  | .ok stats =>
    finish target
    let ended ← readClock
    let seconds := (ended.since begun).fixed 1
    log .info
      s!"finish copying {t.text}, {stats.chunks} chunks, {stats.bytes} bytes in {seconds}s"
    return stats

end ReplicaBootstrap.Copy
