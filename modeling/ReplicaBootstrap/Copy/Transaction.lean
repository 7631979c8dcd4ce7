import ReplicaBootstrap.Session

/-! # Transactions of the data copy

Both sides copy in one long transaction. The one on the origin reads the exported snapshot and is
rolled back at the end; the one on the target is committed.
-/

namespace ReplicaBootstrap.Copy

open Session

/-- Settings under which data has the same text on both sides, without time limits. -/
def sessionSettings : String :=
  "SET DATESTYLE = ISO;\nSET INTERVALSTYLE = POSTGRES;\nSET extra_float_digits TO 3;\n" ++
    "SET statement_timeout = 0;\nSET lock_timeout = 0;\n"

def originSetup (snapshot : String) : String :=
  "\nBEGIN TRANSACTION ISOLATION LEVEL REPEATABLE READ, READ ONLY;\n" ++
    s!"SET TRANSACTION SNAPSHOT {snapshot};\n" ++ sessionSettings

def targetSetup : String :=
  "\nBEGIN TRANSACTION ISOLATION LEVEL READ COMMITTED;\n" ++ sessionSettings

def setupFailed (side : String) (f : Fault) : Fault :=
  .init .transactionSetup s!"BEGIN on {side} node failed: {f.text}"

def beginOrigin (conn : Nat) (snapshot : Value) : Action Site Unit := do
  let started : Action Site Reply := do
    let literal ← Action.ofExcept (Sql.literal snapshot)
    execute conn (originSetup literal)
  let _ ← started.onDriverFault (setupFailed "origin")
  log .debug s!"origin transaction started with snapshot {snapshot.plain}"

def beginTarget (conn : Nat) : Action Site Unit := do
  let _ ← (execute conn targetSetup).onDriverFault (setupFailed "target")
  log .debug "target transaction started"

/-- Ends the transaction that only read; a complaint of the driver is only logged. -/
def finishOrigin (conn : Nat) : Action Site Unit :=
  Action.tolerating (do let _ ← execute conn "ROLLBACK") fun f =>
    log .warning s!"ROLLBACK on origin node failed: {f.text}"

def finishTarget (conn : Nat) : Action Site Unit := do
  let _ ← (execute conn "COMMIT").onDriverFault fun f =>
    .init .copy s!"COMMIT on target node failed: {f.text}"

end ReplicaBootstrap.Copy
