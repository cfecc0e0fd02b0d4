import Locking.Refusal

namespace Locking

/-!
One resource: the locks granted on it, and the requests that wait for one in the order in which
they came. Nobody overtakes a waiting request, even where the levels would allow it.
-/

abbrev LockerId := Nat

/-- Lockers are told apart by their number; the name is for messages and listings. -/
structure Locker where
  id : LockerId
  name : String
deriving DecidableEq, Repr

/-- The number of a request, by which its caller learns what becomes of it. -/
abbrev Ticket := Nat

structure Holding where
  locker : Locker
  level : Level
deriving DecidableEq, Repr

structure Waiter where
  locker : Locker
  level : Level
  ticket : Ticket
deriving DecidableEq, Repr

def Waiter.holding (waiter : Waiter) : Holding :=
  ⟨waiter.locker, waiter.level⟩

/-- A line in a listing of locks. A granted lock has place 0, a waiting request its place in the
queue, counted from 1. -/
structure Record where
  key : Key
  locker : String
  level : Level
  place : Nat
deriving DecidableEq, Repr

structure Resource where
  holdings : List Holding
  queue : List Waiter
deriving DecidableEq, Repr

inductive Reply where
  | granted
  | queued (place : Nat)
deriving DecidableEq, Repr

namespace Resource

def vacant : Resource := ⟨[], []⟩

def isVacant (resource : Resource) : Bool :=
  resource.holdings.isEmpty && resource.queue.isEmpty

def holding? (resource : Resource) (id : LockerId) : Option Level :=
  (resource.holdings.find? (fun holding => holding.locker.id == id)).map (·.level)

def isQueued (resource : Resource) (id : LockerId) : Bool :=
  resource.queue.any (fun waiter => waiter.locker.id == id)

/-- Whether `level` goes with every one of these holdings. -/
def admits (holdings : List Holding) (level : Level) : Bool :=
  holdings.all (fun holding => holding.level.compatible level)

def othersOf (id : LockerId) (holdings : List Holding) : List Holding :=
  holdings.filter (fun holding => holding.locker.id != id)

/-- A locker can raise the level that it holds if the new level goes with everything that others
hold or wait for. -/
def canRaise (resource : Resource) (id : LockerId) (level : Level) : Bool :=
  admits (othersOf id resource.holdings) level &&
    resource.queue.all (fun waiter => waiter.level.compatible level)

/-- The first holding of the locker is raised, and the others stay as they are. -/
def raise (id : LockerId) (level : Level) : List Holding → List Holding
  | [] => []
  | holding :: rest =>
      if holding.locker.id = id then { holding with level } :: rest
      else holding :: raise id level rest

def enter (resource : Resource) (locker : Locker) (level : Level) : Resource :=
  { resource with holdings := resource.holdings ++ [⟨locker, level⟩] }

def enqueue (resource : Resource) (waiter : Waiter) : Resource :=
  { resource with queue := resource.queue ++ [waiter] }

/-- Asks for a level. A holder is never queued: what it holds already is granted again, more is
granted at once or refused. Anybody else is granted the level if nobody waits and it goes with
all holdings, and otherwise waits at the end of the queue, where a locker has one place at most. -/
def request (resource : Resource) (key : Key) (locker : Locker) (level : Level)
    (ticket : Ticket) : Except Refusal (Reply × Resource) :=
  match resource.holding? locker.id with
  | some held =>
      if level ≤ held then .ok (.granted, resource)
      else if resource.canRaise locker.id level then
        .ok (.granted, { resource with holdings := raise locker.id level resource.holdings })
      else .error (.conflictingUpgrade key held level)
  | none =>
      if resource.isQueued locker.id then .error (.alreadyQueued key)
      else if resource.queue.isEmpty && admits (othersOf locker.id resource.holdings) level then
        .ok (.granted, resource.enter locker level)
      else
        .ok (.queued (resource.queue.length + 1), resource.enqueue ⟨locker, level, ticket⟩)

/-- Grants from the head of the queue for as long as the head goes with all holdings, those just
granted included. A waiter to whom nobody listens any more leaves the queue without a lock. -/
def promote (listening : Ticket → Bool) (holdings : List Holding) :
    List Waiter → List Waiter × Resource
  | [] => ([], ⟨holdings, []⟩)
  | waiter :: rest =>
      if admits holdings waiter.level then
        if listening waiter.ticket then
          let (granted, after) := promote listening (holdings ++ [waiter.holding]) rest
          (waiter :: granted, after)
        else promote listening holdings rest
      else ([], ⟨holdings, waiter :: rest⟩)

/-- The waiters that are granted their requests now, in the order of the queue, and what is left. -/
def sweep (listening : Ticket → Bool) (resource : Resource) : List Waiter × Resource :=
  promote listening resource.holdings resource.queue

/-- The first request of the locker is taken out of the queue. -/
def withdraw (resource : Resource) (id : LockerId) : Resource :=
  { resource with queue := resource.queue.eraseP (fun waiter => waiter.locker.id == id) }

def dismiss (resource : Resource) (id : LockerId) : Resource where
  holdings := othersOf id resource.holdings
  queue := resource.queue.eraseP (fun waiter => waiter.locker.id == id)

def disperse (resource : Resource) : Resource :=
  { resource with queue := [] }

/-- The ticket of the request that is taken out of the queue when the locker leaves it. -/
def ticketOf? (resource : Resource) (id : LockerId) : Option Ticket :=
  (resource.queue.find? (fun waiter => waiter.locker.id == id)).map (·.ticket)

/-- The granted locks in the order of granting, then the queue. -/
def records (resource : Resource) (key : Key) : List Record :=
  resource.holdings.map (fun holding => ⟨key, holding.locker.name, holding.level, 0⟩) ++
    resource.queue.mapIdx
      (fun index waiter => ⟨key, waiter.locker.name, waiter.level, index + 1⟩)

@[simp] theorem promote_nil (listening : Ticket → Bool) (holdings : List Holding) :
    promote listening holdings [] = ([], ⟨holdings, []⟩) := rfl

theorem promote_granted {listening : Ticket → Bool} {holdings : List Holding} {waiter : Waiter}
    {rest : List Waiter} (fits : admits holdings waiter.level = true)
    (heard : listening waiter.ticket = true) :
    promote listening holdings (waiter :: rest) =
      (waiter :: (promote listening (holdings ++ [waiter.holding]) rest).1,
        (promote listening (holdings ++ [waiter.holding]) rest).2) := by
  simp only [promote, fits, heard, if_true]

theorem promote_unheard {listening : Ticket → Bool} {holdings : List Holding} {waiter : Waiter}
    {rest : List Waiter} (fits : admits holdings waiter.level = true)
    (unheard : listening waiter.ticket = false) :
    promote listening holdings (waiter :: rest) = promote listening holdings rest := by
  simp [promote, fits, unheard]

theorem promote_blocked {listening : Ticket → Bool} {holdings : List Holding} {waiter : Waiter}
    {rest : List Waiter} (blocked : admits holdings waiter.level = false) :
    promote listening holdings (waiter :: rest) = ([], ⟨holdings, waiter :: rest⟩) := by
  simp [promote, blocked]

end Resource

end Locking
