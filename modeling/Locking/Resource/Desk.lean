import Locking.Resource.Audit
import Locking.Resource.Line

namespace Locking

/-!
One resource served at a desk, one step at a time. Nothing is granted from the queue unless a step
asks for it. A locker whose request is queued keeps the receiver of its line until it drops it or
gets another one.
-/

structure Desk where
  key : Key
  resource : Resource
  /-- The lines that still have a receiver. -/
  lines : Std.ExtTreeMap Ticket Line
  /-- The ticket whose receiver a locker keeps. -/
  receivers : Std.ExtTreeMap LockerId Ticket
  nextTicket : Ticket

namespace Desk

inductive Step where
  | request (locker : Locker) (level : Level)
  | grant
  | dismiss (id : LockerId)
  | withdraw (id : LockerId)
  | disperse
  | holding (id : LockerId)
  | isQueued (id : LockerId)
  | isVacant
  | poll (id : LockerId)
  | dropReceiver (id : LockerId)
  | audit
deriving DecidableEq, Repr

inductive Answer where
  | refused (refusal : Refusal)
  | granted
  | queued (place : Nat)
  | swept (ids : List LockerId)
  | flag (value : Bool)
  | count (value : Nat)
  | held (level : Option Level)
  | polled (found : Option Poll)
  | sound
  | breached (message : String)
deriving DecidableEq, Repr

def opened (key : Key) : Desk where
  key
  resource := .vacant
  lines := ∅
  receivers := ∅
  nextTicket := 0

def listening (desk : Desk) (ticket : Ticket) : Bool :=
  desk.lines.contains ticket

def notify (desk : Desk) (notice : Notice) : Desk :=
  { desk with lines := desk.lines.modify notice.ticket (·.after notice) }

def dropReceiver (desk : Desk) (id : LockerId) : Desk :=
  match desk.receivers[id]? with
  | some ticket =>
      { desk with lines := desk.lines.erase ticket, receivers := desk.receivers.erase id }
  | none => desk

def takeReceiver (desk : Desk) (id : LockerId) : Desk :=
  let desk := desk.dropReceiver id
  { desk with
    lines := desk.lines.insert desk.nextTicket .fresh
    receivers := desk.receivers.insert id desk.nextTicket
    nextTicket := desk.nextTicket + 1 }

def request (desk : Desk) (locker : Locker) (level : Level) : Answer × Desk :=
  match desk.resource.request desk.key locker level desk.nextTicket with
  | .error refusal => (.refused refusal, desk)
  | .ok (.granted, resource) => (.granted, { desk with resource })
  | .ok (.queued place, resource) =>
      (.queued place, ({ desk with resource } : Desk).takeReceiver locker.id)

def grant (desk : Desk) : Answer × Desk :=
  let (granted, resource) := desk.resource.sweep desk.listening
  (.swept (granted.map (·.locker.id)),
    granted.foldl (fun desk waiter => desk.notify (.granted waiter.ticket))
      { desk with resource })

def cutLines (desk : Desk) (tickets : List Ticket) : Desk :=
  tickets.foldl (fun desk ticket => desk.notify (.dropped ticket)) desk

def dismiss (desk : Desk) (id : LockerId) : Answer × Desk :=
  let present := (desk.resource.holding? id).isSome || desk.resource.isQueued id
  (.flag present,
    ({ desk with resource := desk.resource.dismiss id } : Desk).cutLines
      (desk.resource.ticketOf? id).toList)

def withdraw (desk : Desk) (id : LockerId) : Answer × Desk :=
  (.flag (desk.resource.isQueued id),
    ({ desk with resource := desk.resource.withdraw id } : Desk).cutLines
      (desk.resource.ticketOf? id).toList)

def disperse (desk : Desk) : Answer × Desk :=
  (.count desk.resource.queue.length,
    ({ desk with resource := desk.resource.disperse } : Desk).cutLines
      (desk.resource.queue.map (·.ticket)))

def poll (desk : Desk) (id : LockerId) : Answer × Desk :=
  match desk.receivers[id]? with
  | none => (.polled none, desk)
  | some ticket =>
      match desk.lines[ticket]? with
      | none => (.polled none, desk)
      | some line =>
          let (found, line) := line.poll
          (.polled (some found), { desk with lines := desk.lines.insert ticket line })

def audit (desk : Desk) : Answer :=
  match desk.resource.breach? with
  | none => .sound
  | some breach => .breached (breach.message desk.key)

def step (desk : Desk) : Step → Answer × Desk
  | .request locker level => desk.request locker level
  | .grant => desk.grant
  | .dismiss id => desk.dismiss id
  | .withdraw id => desk.withdraw id
  | .disperse => desk.disperse
  | .holding id => (.held (desk.resource.holding? id), desk)
  | .isQueued id => (.flag (desk.resource.isQueued id), desk)
  | .isVacant => (.flag desk.resource.isVacant, desk)
  | .poll id => desk.poll id
  | .dropReceiver id => (.flag (desk.receivers.contains id), desk.dropReceiver id)
  | .audit => (desk.audit, desk)

def records (desk : Desk) : List Record :=
  desk.resource.records desk.key

def run (desk : Desk) : List Step → List (Answer × List Record)
  | [] => []
  | step :: rest =>
      let (answer, after) := desk.step step
      (answer, after.records) :: after.run rest

end Desk

end Locking
