import ReplicaBootstrap.Fault
import ReplicaBootstrap.Value

/-! # Events

What happens at a site, in order: requests to servers and commands, signals, log records and printed
lines.
-/

namespace ReplicaBootstrap

inductive Level where
  | debug
  | info
  | warning
  | error
  | critical
  deriving DecidableEq, Repr

namespace Level

def all : List Level := [debug, info, warning, error, critical]

def severity : Level → Nat
  | debug => 10
  | info => 20
  | warning => 30
  | error => 40
  | critical => 50

def label : Level → String
  | debug => "DEBUG"
  | info => "INFO"
  | warning => "WARNING"
  | error => "ERROR"
  | critical => "CRITICAL"

def setting : Level → String
  | debug => "debug"
  | info => "info"
  | warning => "warning"
  | error => "error"
  | critical => "critical"

def ofSetting? (s : String) : Option Level :=
  all.find? (·.setting == s)

end Level

/-- A log record; `cause` is the fault that it reports in full. -/
structure LogRecord where
  level : Level
  text : String
  cause : Option Fault := none
  logger : String := "bootstrap"
  deriving DecidableEq, Repr

def rootLogger : String := "root"

inductive Event where
  | openedFile (name : String)
  | connect (conn : Nat) (conninfo : String) (autocommit : Bool)
  | execute (conn : Nat) (query : String) (params : Option (List Value))
  | beginTransaction (conn : Nat)
  | commit (conn : Nat)
  | rollback (conn : Nat)
  | openCursor (conn : Nat)
  | closeCursor (conn : Nat)
  | startCopy (conn : Nat) (query : String)
  | endCopy (conn : Nat)
  | abortCopy (conn : Nat) (cause : FaultKind)
  | read (conn : Nat)
  | write (conn : Nat) (data : List UInt8)
  | close (conn : Nat)
  | run (command : List String)
  | signal (number : Int)
  | log (record : LogRecord)
  | printed (line : String)
  deriving Repr

end ReplicaBootstrap
