import Locking.Service.Settle

namespace Locking

/-!
A crew of workers that use one lock service side by side. The workers take turns, one action each;
one that waits for a lock is passed over until its call has returned.
-/

inductive Action where
  /-- Goes on as a new locker. -/
  | enter (name : String)
  | lock (key : Key) (level : Level)
  /-- Writes down which level it holds. -/
  | look (key : Key)
  | release
deriving DecidableEq, Repr

structure Worker where
  number : Nat
  session : Locker
  /-- The call that it waits for. -/
  waiting : Option Ticket
  todo : List Action
  /-- What it has written down, the latest first. -/
  seen : List (Option Level)
deriving DecidableEq, Repr

structure Crew where
  service : Service
  /-- The workers in the order of their next turns. -/
  workers : List Worker
  nextLocker : LockerId
  /-- Some worker's call was refused. -/
  failed : Bool

namespace Worker

def isReady (worker : Worker) : Bool :=
  worker.waiting.isNone && !worker.todo.isEmpty

def isDone (worker : Worker) : Bool :=
  worker.waiting.isNone && worker.todo.isEmpty

/-- A worker goes on when the call that it waits for has returned. -/
def resume (returned : List (Ticket × Outcome)) (worker : Worker) : Worker :=
  match worker.waiting with
  | some ticket =>
      if (returned.lookup ticket).isSome then { worker with waiting := none } else worker
  | none => worker

end Worker

namespace Crew

def start (options : Ledger.Options) (scripts : List (List Action)) : Crew where
  service := .start options
  workers := scripts.mapIdx (fun number todo => ⟨number, ⟨number, ""⟩, none, todo, []⟩)
  nextLocker := scripts.length
  failed := false

def settle (crew : Crew) : Crew :=
  let (returned, service) := crew.service.settle
  { crew with
    service
    workers := crew.workers.map (·.resume returned)
    failed := crew.failed || returned.any (fun (_, outcome) => outcome != .ok) }

def rejoin (crew : Crew) (worker : Worker) : Crew :=
  { crew with workers := crew.workers ++ [worker] }

/-- The first action of a worker that is taken out of the line for its turn. -/
def perform (crew : Crew) (worker : Worker) : Action → Crew
  | .enter name =>
      { crew with nextLocker := crew.nextLocker + 1 }.rejoin
        { worker with session := ⟨crew.nextLocker, name⟩ }
  | .lock key level =>
      match crew.service.step (.lock worker.session key level .never) with
      | (.returned _ .ok, service) => { crew with service }.rejoin worker
      | (.waiting ticket _, service) =>
          { crew with service }.rejoin { worker with waiting := some ticket }
      | (_, service) => { crew with service, failed := true }.rejoin worker
  | .look key =>
      let level := crew.service.ledger.holds? worker.session.id key
      crew.rejoin { worker with seen := level :: worker.seen }
  | .release =>
      match crew.service.step (.release worker.session) with
      | (.released .ok, service) => ({ crew with service }.rejoin worker).settle
      | (_, service) => { crew with service, failed := true }.rejoin worker

/-- Takes the first worker that can do something out of the line; those before it stay in front of
those after it. -/
def next? : List Worker → Option (Worker × List Worker)
  | [] => none
  | worker :: rest =>
      if worker.isReady then some (worker, rest)
      else (next? rest).map (fun (found, others) => (found, worker :: others))

def turn? (crew : Crew) : Option Crew :=
  match next? crew.workers with
  | none => none
  | some (worker, others) =>
      match worker.todo with
      | [] => none
      | action :: todo =>
          some ({ crew with workers := others }.perform { worker with todo } action)

/-- At most this many turns; a refusal stops the crew. -/
def turns (crew : Crew) : Nat → Crew
  | 0 => crew
  | count + 1 =>
      if crew.failed then crew
      else
        match crew.turn? with
        | none => crew
        | some after => after.turns count

def remaining (crew : Crew) : Nat :=
  crew.workers.foldl (fun total worker => total + worker.todo.length) 0

/-- Lets the crew work until nobody can do anything. Each turn does one action. -/
def run (crew : Crew) : Crew :=
  crew.turns crew.remaining

/-- All work is done, no call was refused, and nothing is held or waited for. -/
def hasSucceeded (crew : Crew) : Bool :=
  !crew.failed && crew.workers.all Worker.isDone && crew.service.ledger.records.isEmpty

end Crew

end Locking
