import Locking.Main
import Locking.Name.Steps
import Locking.Proofs.Desk
import Locking.Proofs.Ledger.Effects
import Locking.Proofs.Ledger.Sound
import Locking.Proofs.Ledger.Tidy
import Locking.Proofs.Resource.Audit
import Locking.Proofs.Resource.Orderly
import Locking.Proofs.Resource.Persistence
import Locking.Proofs.Resource.Promotion
import Locking.Proofs.Roster.Basic
import Locking.Proofs.Roster.History
import Locking.Proofs.Roster.Refinement
import Locking.Proofs.Roster.Roll
import Locking.Proofs.Service.Drain
import Locking.Proofs.Service.Fate
import Locking.Proofs.Service.Notices
import Locking.Proofs.Service.Order
import Locking.Proofs.Service.Pending
import Locking.Proofs.Service.Run
import Locking.Proofs.Service.Sound
import Locking.Resource.Desk
import Locking.Scenario
import Locking.Proofs.Resource.Queue
import Locking.Proofs.Service.Arrival
import Locking.Proofs.Service.Return
import Locking.Proofs.Service.Mirror
import Locking.Proofs.Ledger.Audits
import Locking.Proofs.Ledger.Muted
import Locking.Proofs.Ledger.Visits
import Locking.Proofs.Service.Audits
import Locking.Proofs.Service.Closing
import Locking.Proofs.Resource.Confluence
import Locking.Proofs.Service.Releases
import Locking.Proofs.Resource.Renumbering
import Locking.Proofs.Service.Projection
import Locking.Proofs.Service.Isolation
import Locking.Proofs.Text.Utf8
import Locking.Proofs.Text.Cut
import Locking.Proofs.Name.Vocabulary
import Locking.Proofs.Name.Sound
import Locking.Proofs.Name.Run
import Locking.Proofs.Name.Canonical
import Locking.Proofs.Name.Encoding
import Locking.Proofs.Service.Anonymous
import Locking.Proofs.Notice
import Locking.Proofs.Resource.Greedy
import Locking.Proofs.Desk.Lines
import Locking.Proofs.Desk.Sweep
import Locking.Proofs.Ledger.Traceless
import Locking.Proofs.Service.Traceless
import Locking.Proofs.Service.Holder
import Locking.Proofs.Name.Sharing
import Locking.Proofs.Service.Queueing
import Locking.Proofs.Service.Monotone
import Locking.Proofs.Name.Inventory
import Locking.Proofs.Desk.Signals
import Locking.Proofs.Name.Spelling
import Locking.Proofs.Text.Faults
import Locking.Proofs.Name.Decoding
import Locking.Proofs.Name.Cut
import Locking.Proofs.Cancellation.Lineage
import Locking.Proofs.Name.Exhaustion
