import Locking.Service.Basic

namespace Locking

/-!
What each event does to the service.
-/

namespace Service

def lock (service : Service) (locker : Locker) (key : Key) (level : Level) (handle : Handle) :
    Answer × Service :=
  let ticket := service.nextTicket
  let (reply, ledger) := service.ledger.lock locker key level ticket
  let service := { service with ledger, nextTicket := ticket + 1 }
  match reply with
  | .error refusal => (.returned ticket (.refused refusal), service)
  | .ok .granted => (.returned ticket .ok, service)
  | .ok (.queued place) =>
      (.waiting ticket place,
        { service with
          calls := service.calls.insert ticket ⟨locker, key, level, handle, .fresh⟩ })

/-- A call that finds no signal on its line, and no request of its own in the queue. -/
def abandon (service : Service) (ticket : Ticket) (call : Call) : Answer × Service :=
  let (refusal, ledger) := service.ledger.abandon call.locker call.key
  ({ service with ledger } : Service).finish ticket (.refused refusal)

def wake (service : Service) (ticket : Ticket) : Answer × Service :=
  match service.calls[ticket]? with
  | none => (.impossible, service)
  | some call =>
      match call.line.poll.1 with
      | .granted => service.finish ticket .ok
      | .disconnected => service.abandon ticket call
      | .empty => (.impossible, service)

/-- A call whose handle has fired takes its request back. If the request has left the queue before,
the line tells how. -/
def giveUp (service : Service) (ticket : Ticket) : Answer × Service :=
  match service.calls[ticket]? with
  | none => (.impossible, service)
  | some call =>
      if service.hasFired call.handle then
        match service.ledger.withdraw? service.listening call.locker.id call.key with
        | some (ledger, notices) =>
            (({ service with ledger } : Service).notifyAll notices).finish ticket
              (.refused (.cancelled call.key))
        | none =>
            match call.line.poll.1 with
            | .granted => service.finish ticket .ok
            | .empty | .disconnected => service.abandon ticket call
      else (.impossible, service)

def release (service : Service) (locker : Locker) : Answer × Service :=
  let (outcome, ledger, notices) := service.ledger.release service.listening locker
  (.released (.ofExcept outcome), ({ service with ledger } : Service).notifyAll notices)

def close (service : Service) : Answer × Service :=
  let (ledger, notices) := service.ledger.close
  (.done, ({ service with ledger } : Service).notifyAll notices)

def cancellation (service : Service) (step : Board.Step) : Answer × Service :=
  (.done, { service with board := service.board.step step })

/-- The effect of an event as long as no audit has failed. -/
def act (service : Service) : Event → Answer × Service
  | .lock locker key level handle => service.lock locker key level handle
  | .wake ticket => service.wake ticket
  | .giveUp ticket => service.giveUp ticket
  | .release locker => service.release locker
  | .close => service.close
  | .cancellation step => service.cancellation step

/-- A failed audit is answered instead of the event, and nothing moves after it. -/
def step (service : Service) (event : Event) : Answer × Service :=
  match service.ledger.alarm with
  | some message => (.breached message, service)
  | none =>
      let (answer, after) := service.act event
      match after.ledger.alarm with
      | some message => (.breached message, after)
      | none => (answer, after)

def run (service : Service) : List Event → List Answer × Service
  | [] => ([], service)
  | event :: rest =>
      let (answer, after) := service.step event
      let (answers, final) := after.run rest
      (answer :: answers, final)

end Service

end Locking
