import Locking.Ledger.Listing
import Locking.Name.Qualified
import Locking.Service.Settle

namespace Locking

/-!
A demonstration with two sessions: a reader waits while a writer changes the description of a table,
and gets its lock when the writer leaves.
-/

namespace Handover

def key : Key :=
  let (name, registry) :=
    QualifiedName.intern .fresh ⟨⟨"db", false⟩, ⟨"public", false⟩, ⟨"tbl1", false⟩⟩
  name.key registry

def writer : Locker := ⟨1, "writer"⟩

def reader : Locker := ⟨2, "reader"⟩

def waiting : Service :=
  ((Service.start .standard).run
    [.lock writer key .metadataModify .never, .lock reader key .rowModify .never]).2

def handedOver : List (Ticket × Outcome) × Service :=
  (waiting.step (.release writer)).2.settle

def dumpAll (records : List Record) : String :=
  "[" ++ ", ".intercalate (records.map Record.dump) ++ "]"

def lines : List String :=
  let (returned, service) := handedOver
  let final := (service.step (.release reader)).2
  waiting.ledger.records.map Record.dump ++
    (returned.filter (fun (_, outcome) => outcome == .ok)).map (fun _ => "reader granted") ++
    [dumpAll final.ledger.records]

end Handover

end Locking
