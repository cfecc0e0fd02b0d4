import Locking.Ledger.Basic

namespace Locking

/-!
What can be done to the ledger: locking, releasing everything, taking a queued request back, closing
for good, and finding out why a request is no longer queued.
-/

namespace Ledger

def lock (ledger : Ledger) (locker : Locker) (key : Key) (level : Level) (ticket : Ticket) :
    Except Refusal Reply × Ledger :=
  if ledger.isReleased locker.id then (.error (.releasedLocker locker.name), ledger)
  else if ledger.closed then (.error .closed, ledger)
  else
    let ledger := ledger.openEntry key
    match (ledger.resource key).request key locker level ticket with
    | .error refusal => (.error refusal, ledger)
    | .ok (reply, resource) =>
        (.ok reply, ((ledger.store key resource).inspect key).note locker.id key)

/-- A locker leaves one resource, and whoever can advance does. -/
def vacate (ledger : Ledger) (listening : Ticket → Bool) (id : LockerId) (key : Key) :
    Ledger × List Notice :=
  match ledger.resources[key]? with
  | none => (ledger, [])
  | some resource =>
      let (ledger, notices) := (ledger.store key (resource.dismiss id)).sweep listening key
      (ledger, (resource.ticketOf? id).toList.map .dropped ++ notices)

def vacateAll (ledger : Ledger) (listening : Ticket → Bool) (id : LockerId) :
    List Key → Ledger × List Notice
  | [] => (ledger, [])
  | key :: rest =>
      let (ledger, notices) := ledger.vacate listening id key
      let (ledger, later) := ledger.vacateAll listening id rest
      (ledger, notices ++ later)

/-- A locker gives up all that it holds or waits for, visiting its keys in the order given. -/
def releaseVisiting (ledger : Ledger) (listening : Ticket → Bool) (locker : Locker)
    (keys : List Key) : Except Refusal Unit × Ledger × List Notice :=
  if ledger.isReleased locker.id then (.error (.releasedLocker locker.name), ledger, [])
  else
    (.ok (), (ledger.setStanding locker.id .departed).vacateAll listening locker.id keys)

def release (ledger : Ledger) (listening : Ticket → Bool) (locker : Locker) :
    Except Refusal Unit × Ledger × List Notice :=
  ledger.releaseVisiting listening locker (ledger.keysOf locker.id)

/-- Takes back the request that a locker has queued under a key, if it is still there. -/
def withdraw? (ledger : Ledger) (listening : Ticket → Bool) (id : LockerId) (key : Key) :
    Option (Ledger × List Notice) :=
  match ledger.resources[key]? with
  | none => none
  | some resource =>
      if resource.isQueued id then
        let struck := (ledger.store key (resource.withdraw id)).strike id key
        let (ledger, notices) := struck.sweep listening key
        some (ledger, (resource.ticketOf? id).toList.map .dropped ++ notices)
      else none

/-- Why a request left its queue without being granted: its locker was released, or the ledger was
closed. In the second case the locker no longer appears under the key. -/
def abandon (ledger : Ledger) (locker : Locker) (key : Key) : Refusal × Ledger :=
  if ledger.isReleased locker.id then (.releasedLocker locker.name, ledger)
  else (.closed, ledger.strike locker.id key)

/-- The resource as it is after everybody in its queue has been sent away, if anything is left. -/
def dispersed? (resource : Resource) : Option Resource :=
  if resource.disperse.isVacant then none else some resource.disperse

/-- Sends every waiter away and takes no new requests from now on. What is held stays held. -/
def close (ledger : Ledger) : Ledger × List Notice :=
  if ledger.closed then (ledger, [])
  else
    ({ ledger with
        closed := true
        resources := ledger.resources.filterMap (fun _ resource => dispersed? resource) },
      ledger.resources.toList.flatMap
        (fun (_, resource) => resource.queue.map (fun waiter => .dropped waiter.ticket)))

end Ledger

end Locking
