import Locking.Cancellation.Board
import Locking.Ledger.Operations

namespace Locking

/-!
The lock service: the ledger together with the lock calls that have not returned yet. What callers
and the machine do is a sequence of events. A waiting call returns in one of two ways: its grant
line wakes it up, or its cancellation handle has fired and it gives up. Which one is tried, and
when, is left to the events.
-/

inductive Outcome where
  | ok
  | refused (refusal : Refusal)
deriving DecidableEq, Repr

def Outcome.ofExcept : Except Refusal Unit → Outcome
  | .ok _ => .ok
  | .error refusal => .refused refusal

structure Call where
  locker : Locker
  key : Key
  level : Level
  handle : Handle
  line : Line
deriving DecidableEq, Repr

structure Service where
  ledger : Ledger
  board : Board
  calls : Std.ExtTreeMap Ticket Call
  /-- The number of the next lock call. -/
  nextTicket : Ticket

inductive Event where
  | lock (locker : Locker) (key : Key) (level : Level) (handle : Handle)
  /-- The call looks at its grant line. -/
  | wake (ticket : Ticket)
  /-- The call sees that its handle has fired. -/
  | giveUp (ticket : Ticket)
  | release (locker : Locker)
  | close
  | cancellation (step : Board.Step)
deriving DecidableEq, Repr

inductive Answer where
  /-- A lock call has returned. -/
  | returned (ticket : Ticket) (outcome : Outcome)
  | waiting (ticket : Ticket) (place : Nat)
  | released (outcome : Outcome)
  | done
  /-- The event cannot happen in this state. -/
  | impossible
  /-- An audit has failed, and nothing is answered any more. -/
  | breached (message : String)
deriving DecidableEq, Repr

namespace Service

def start (options : Ledger.Options) : Service where
  ledger := .empty options
  board := .empty
  calls := ∅
  nextTicket := 0

/-- Whether the call with this ticket is still there to hear of a grant. -/
def listening (service : Service) (ticket : Ticket) : Bool :=
  service.calls.contains ticket

def notify (service : Service) (notice : Notice) : Service :=
  { service with
    calls := service.calls.modify notice.ticket
      (fun call => { call with line := call.line.after notice }) }

def notifyAll (service : Service) (notices : List Notice) : Service :=
  notices.foldl notify service

def pending (service : Service) : List Ticket :=
  service.calls.keys

def hasFired (service : Service) (handle : Handle) : Bool :=
  service.board.pairs.hasFired handle

def finish (service : Service) (ticket : Ticket) (outcome : Outcome) : Answer × Service :=
  (.returned ticket outcome, { service with calls := service.calls.erase ticket })

end Service

end Locking
