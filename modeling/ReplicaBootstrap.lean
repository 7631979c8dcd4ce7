import ReplicaBootstrap.Initialiser.Bench
import ReplicaBootstrap.Main
import ReplicaBootstrap.Initialiser.Rehearsal
import ReplicaBootstrap.Proofs.Action
import ReplicaBootstrap.Proofs.Rehearsal
import ReplicaBootstrap.Proofs.Initialiser
import ReplicaBootstrap.Proofs.Site
import ReplicaBootstrap.Proofs.Trail
import ReplicaBootstrap.Proofs.StatusOrder
import ReplicaBootstrap.Proofs.Resumption
import ReplicaBootstrap.Proofs.Pipeline
import ReplicaBootstrap.Proofs.Copy.Rounds
import ReplicaBootstrap.Proofs.Copy.Course
import ReplicaBootstrap.Proofs.Copy.Stream
import ReplicaBootstrap.Proofs.Copy.Relay
import ReplicaBootstrap.Proofs.Copy.NodeData
import ReplicaBootstrap.Proofs.Copy.Aside
import ReplicaBootstrap.Proofs.Copy.Commit
import ReplicaBootstrap.Proofs.Copy.Faithful
import ReplicaBootstrap.Proofs.Sql
import ReplicaBootstrap.Proofs.Copy.Statement
import ReplicaBootstrap.Proofs.Copy.TableList
import ReplicaBootstrap.Proofs.Conninfo.Written
import ReplicaBootstrap.Proofs.Text.Utf8
import ReplicaBootstrap.Proofs.Conninfo.Readable
import ReplicaBootstrap.Proofs.Faults.Accounts
import ReplicaBootstrap.Proofs.Faults.Orderly
import ReplicaBootstrap.Proofs.Faults.Services
import ReplicaBootstrap.Proofs.Faults.Copy
import ReplicaBootstrap.Proofs.Faults.Run
import ReplicaBootstrap.Proofs.Chronicle
import ReplicaBootstrap.Proofs.Outcomes.Fates
import ReplicaBootstrap.Proofs.Outcomes.Truthful
import ReplicaBootstrap.Proofs.Outcomes.Readiness
import ReplicaBootstrap.Proofs.Slot.Shorten
import ReplicaBootstrap.Proofs.Slot.Name
import ReplicaBootstrap.Proofs.Connections.Use
import ReplicaBootstrap.Proofs.Connections.Ledger
import ReplicaBootstrap.Proofs.Connections.Run
import ReplicaBootstrap.Proofs.Session.Refusal
import ReplicaBootstrap.Proofs.Conninfo.Masked
import ReplicaBootstrap.Proofs.Secrecy
import ReplicaBootstrap.Proofs.Copy.Brackets
import ReplicaBootstrap.Proofs.Copy.Watch
import ReplicaBootstrap.Proofs.Copy.Remainder
import ReplicaBootstrap.Proofs.Copy.Cancellation
import ReplicaBootstrap.Proofs.Number.Hexadecimal
import ReplicaBootstrap.Proofs.Number.Numeral
import ReplicaBootstrap.Proofs.Text.Pieces
import ReplicaBootstrap.Proofs.Lsn
import ReplicaBootstrap.Proofs.Session.Transaction
import ReplicaBootstrap.Proofs.Slot.Provision
import ReplicaBootstrap.Proofs.Conninfo.Arranged
import ReplicaBootstrap.Proofs.Conninfo.Hidden
import ReplicaBootstrap.Proofs.Session.Overlay
import ReplicaBootstrap.Proofs.Text.Words
import ReplicaBootstrap.Proofs.Number.Decimal
import ReplicaBootstrap.Proofs.Tool.Version
import ReplicaBootstrap.Proofs.Tool.Find
import ReplicaBootstrap.Proofs.Tool.Calls
import ReplicaBootstrap.Proofs.Settings
import ReplicaBootstrap.Proofs.Settings.History
import ReplicaBootstrap.Proofs.Catalog
