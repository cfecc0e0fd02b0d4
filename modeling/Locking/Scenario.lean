import Locking.Ledger.Listing
import Locking.Service.Settle

namespace Locking

/-!
Scenarios: scripts for the lock service, in which lockers and tables are given by their places in a
list and cancellation handles by names. After each step every call that can return does so.
-/

structure Scenario where
  service : Service
  /-- The lockers now in use, and the keys of the tables. -/
  lockers : List Locker
  tables : List Key
  nextLocker : LockerId

namespace Scenario

inductive Step where
  | lock (locker table : Nat) (level : Level) (handle : Option String)
  /-- The handles named in `race` fire while the release is under way, and take effect after it. -/
  | release (locker : Nat) (race : List String)
  | cancel (name : String)
  | close
  | isClosed
  | holds (locker table : Nat)
  | keys (locker : Nat)
  /-- A new locker of the same name takes a place; the one before it goes on by itself. -/
  | renew (locker : Nat)
deriving DecidableEq, Repr

inductive Result where
  /-- A lock call, and how it has ended if it has. -/
  | requested (ticket : Ticket) (outcome : Option Outcome)
  | ended (outcome : Outcome)
  | flag (value : Bool)
  | held (level : Option Level)
  | keys (keys : List Key)
  | nothing
  | breached (message : String)
deriving DecidableEq, Repr

structure StepReport where
  result : Result
  /-- The earlier calls that returned because of the step. -/
  woken : List (Ticket × Outcome)
  records : List Record
deriving DecidableEq, Repr

structure LockerReport where
  name : String
  released : Bool
  keys : List Key
deriving DecidableEq, Repr

structure Report where
  steps : List StepReport
  lockers : List LockerReport
  pending : List Ticket
deriving DecidableEq, Repr

/-- Lockers are numbered in the order in which they come into use. -/
def start (names : List String) (tables : List Key) (options : Ledger.Options) : Scenario where
  service := .start options
  lockers := names.mapIdx (fun index name => ⟨index + 1, name⟩)
  tables
  nextLocker := names.length + 1

def report (scenario : Scenario) (result : Result) (woken : List (Ticket × Outcome)) :
    StepReport :=
  ⟨result, woken, scenario.service.ledger.listing⟩

/-- The step is over when no call can return any more. -/
def settled (scenario : Scenario) (result : Result) : StepReport × Scenario :=
  let (woken, service) := scenario.service.settle
  let scenario := { scenario with service }
  (scenario.report result woken, scenario)

def observed (scenario : Scenario) (result : Result) : StepReport × Scenario :=
  (scenario.report result [], scenario)

/-- The handle under a name; its pair is made when the name is used for the first time. -/
def handleOf (scenario : Scenario) : Option String → Handle × Scenario
  | none => (.never, scenario)
  | some name =>
      match scenario.service.board.handle? name with
      | some handle => (handle, scenario)
      | none =>
          let service := (scenario.service.step (.cancellation (.create name))).2
          ((service.board.handle? name).getD .never, { scenario with service })

def lock (scenario : Scenario) (locker : Locker) (key : Key) (level : Level)
    (handle : Option String) : StepReport × Scenario :=
  let (handle, scenario) := scenario.handleOf handle
  match scenario.service.step (.lock locker key level handle) with
  | (.waiting ticket _, service) =>
      let (returned, service) := service.settle
      let scenario := { scenario with service }
      (scenario.report (.requested ticket (returned.lookup ticket))
        (returned.filter (fun (other, _) => other != ticket)), scenario)
  | (.returned ticket outcome, service) =>
      ({ scenario with service } : Scenario).settled (.requested ticket (some outcome))
  | (.breached message, service) =>
      ({ scenario with service } : Scenario).observed (.breached message)
  | (_, service) => ({ scenario with service } : Scenario).observed .nothing

def fire (scenario : Scenario) (name : String) : Bool × Scenario :=
  (scenario.service.board.cancellers.contains name,
    { scenario with service := (scenario.service.step (.cancellation (.cancel name))).2 })

def release (scenario : Scenario) (locker : Locker) (race : List String) :
    StepReport × Scenario :=
  let (answer, service) := scenario.service.step (.release locker)
  let fired := race.foldl (fun scenario name => (scenario.fire name).2) { scenario with service }
  match answer with
  | .released outcome => fired.settled (.ended outcome)
  | .breached message => fired.observed (.breached message)
  | _ => fired.observed .nothing

def close (scenario : Scenario) : StepReport × Scenario :=
  let service := (scenario.service.step .close).2
  ({ scenario with service } : Scenario).settled (.flag service.ledger.closed)

def renew (scenario : Scenario) (index : Nat) (locker : Locker) : Scenario :=
  { scenario with
    lockers := scenario.lockers.set index { locker with id := scenario.nextLocker }
    nextLocker := scenario.nextLocker + 1 }

/-- A place that is not in its list names nothing, and the step does nothing. -/
def step (scenario : Scenario) : Step → StepReport × Scenario
  | .lock locker table level handle =>
      match scenario.lockers[locker]?, scenario.tables[table]? with
      | some locker, some key => scenario.lock locker key level handle
      | _, _ => scenario.observed .nothing
  | .release locker race =>
      match scenario.lockers[locker]? with
      | some locker => scenario.release locker race
      | none => scenario.observed .nothing
  | .cancel name =>
      let (fired, scenario) := scenario.fire name
      scenario.settled (.flag fired)
  | .close => scenario.close
  | .isClosed => scenario.observed (.flag scenario.service.ledger.closed)
  | .holds locker table =>
      match scenario.lockers[locker]?, scenario.tables[table]? with
      | some locker, some key =>
          scenario.observed (.held (scenario.service.ledger.holds? locker.id key))
      | _, _ => scenario.observed .nothing
  | .keys locker =>
      match scenario.lockers[locker]? with
      | some locker => scenario.observed (.keys (scenario.service.ledger.keysOf locker.id))
      | none => scenario.observed .nothing
  | .renew index =>
      match scenario.lockers[index]? with
      | some locker => (scenario.renew index locker).observed .nothing
      | none => scenario.observed .nothing

def steps (scenario : Scenario) : List Step → List StepReport × Scenario
  | [] => ([], scenario)
  | step :: rest =>
      let (report, after) := scenario.step step
      let (reports, final) := after.steps rest
      (report :: reports, final)

def lockerReport (scenario : Scenario) (locker : Locker) : LockerReport where
  name := locker.name
  released := scenario.service.ledger.isReleased locker.id
  keys := scenario.service.ledger.keysOf locker.id

def run (scenario : Scenario) (script : List Step) : Report :=
  let (steps, final) := scenario.steps script
  ⟨steps, final.lockers.map final.lockerReport, final.service.pending⟩

end Scenario

end Locking
