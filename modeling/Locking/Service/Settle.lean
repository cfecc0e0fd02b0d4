import Locking.Service.Step

namespace Locking

/-!
Letting every call return that can.
-/

namespace Service

/-- How a waiting call could return now: its grant line comes first. -/
def way? (service : Service) (ticket : Ticket) (call : Call) : Option Event :=
  if call.line.isReady then some (.wake ticket)
  else if service.hasFired call.handle then some (.giveUp ticket)
  else none

def nextReturn? (service : Service) : Option Event :=
  service.calls.toList.findSome? (fun (ticket, call) => service.way? ticket call)

/-- Lets at most `count` calls return, the earliest of those that can each time. -/
def settleUpTo (service : Service) : Nat → List (Ticket × Outcome) × Service
  | 0 => ([], service)
  | count + 1 =>
      match service.nextReturn? with
      | none => ([], service)
      | some event =>
          match service.step event with
          | (.returned ticket outcome, after) =>
              let (later, final) := after.settleUpTo count
              ((ticket, outcome) :: later, final)
          | (_, after) => ([], after)

/-- The calls that returned, by ticket. No call returns twice, so there are no more returns than
calls. -/
def settle (service : Service) : List (Ticket × Outcome) × Service :=
  let (returned, after) := service.settleUpTo service.calls.size
  (returned.mergeSort (fun first second => first.1 ≤ second.1), after)

end Service

end Locking
