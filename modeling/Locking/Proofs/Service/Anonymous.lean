import Locking.Proofs.Ledger.Anonymous
import Locking.Proofs.Service.Run

namespace Locking

/-!
A service without the names of lockers. A run of it is the run of the service itself, told without
names. So two runs that differ in names only are one run to it.
-/

def Outcome.anonymous : Outcome → Outcome
  | .refused refusal => .refused refusal.anonymous
  | .ok => .ok

def Answer.anonymous : Answer → Answer
  | .returned ticket outcome => .returned ticket outcome.anonymous
  | .released outcome => .released outcome.anonymous
  | answer => answer

def Event.anonymous : Event → Event
  | .lock locker key level handle => .lock locker.anonymous key level handle
  | .release locker => .release locker.anonymous
  | event => event

def Call.anonymous (call : Call) : Call :=
  { call with locker := call.locker.anonymous }

section Parts

variable (call : Call)

@[simp] theorem Call.locker_anonymous : call.anonymous.locker = call.locker.anonymous := rfl

@[simp] theorem Call.key_anonymous : call.anonymous.key = call.key := rfl

@[simp] theorem Call.handle_anonymous : call.anonymous.handle = call.handle := rfl

@[simp] theorem Call.line_anonymous : call.anonymous.line = call.line := rfl

end Parts

theorem Outcome.ofExcept_mapError (reply : Except Refusal Unit) :
    Outcome.ofExcept (reply.mapError Refusal.anonymous) = (Outcome.ofExcept reply).anonymous := by
  cases reply <;> rfl

namespace Service

def anonymous (service : Service) : Service :=
  { service with
    ledger := service.ledger.anonymous
    calls := service.calls.map (fun _ => Call.anonymous) }

/-- Services in which the same lockers hold and wait for the same, under whatever names. -/
structure SameButNames (first second : Service) : Prop where
  /-- The lockers that were released, and the keys under which the others appear. -/
  lockers : first.ledger.lockers = second.ledger.lockers
  /-- Who holds and who waits under a key, at which level and in which order. -/
  resources : ∀ key, (first.ledger.resource key).anonymous = (second.ledger.resource key).anonymous
  /-- The lines of a listing, with their places. -/
  records : first.ledger.records.map Record.anonymous = second.ledger.records.map Record.anonymous
  closed : first.ledger.closed = second.ledger.closed
  /-- The calls that wait, and what is on their lines. -/
  calls : ∀ ticket : Ticket,
    first.calls[ticket]?.map Call.anonymous = second.calls[ticket]?.map Call.anonymous
  board : first.board = second.board
  nextTicket : first.nextTicket = second.nextTicket

section Parts

variable (service : Service) (ticket : Ticket)

@[simp] theorem ledger_anonymous : service.anonymous.ledger = service.ledger.anonymous := rfl

@[simp] theorem nextTicket_anonymous : service.anonymous.nextTicket = service.nextTicket := rfl

@[simp] theorem hasFired_anonymous (handle : Handle) :
    service.anonymous.hasFired handle = service.hasFired handle := rfl

@[simp] theorem getElem?_anonymous :
    service.anonymous.calls[ticket]? = service.calls[ticket]?.map Call.anonymous :=
  Std.ExtTreeMap.getElem?_map

@[simp] theorem listening_anonymous : service.anonymous.listening = service.listening := by
  funext ticket
  exact Std.ExtTreeMap.contains_map

theorem sameButNames_of_anonymous_eq {first second : Service}
    (same : first.anonymous = second.anonymous) : first.SameButNames second where
  lockers := congrArg (·.ledger.lockers) same
  resources key := by
    simpa using congrArg (·.ledger.resource key) same
  records := by
    simpa [Ledger.records_anonymous] using congrArg (·.ledger.records) same
  closed := congrArg (·.ledger.closed) same
  calls ticket := by
    simpa using congrArg (·.calls[ticket]?) same
  board := congrArg (·.board) same
  nextTicket := congrArg (·.nextTicket) same

theorem finish_anonymous (outcome : Outcome) :
    service.anonymous.finish ticket outcome.anonymous =
      ((service.finish ticket outcome).1.anonymous,
        (service.finish ticket outcome).2.anonymous) := by
  simp [finish, anonymous, Answer.anonymous, map_erase]

theorem notifyAll_anonymous (notices : List Notice) :
    service.anonymous.notifyAll notices = (service.notifyAll notices).anonymous := by
  induction notices generalizing service with
  | nil => rfl
  | cons notice rest ih =>
      have told : service.anonymous.notify notice = (service.notify notice).anonymous := by
        simp only [notify, anonymous]
        rw [map_modify]
        intro call
        rfl
      simp only [notifyAll, List.foldl_cons, told]
      exact ih (service.notify notice)

end Parts

theorem lock_anonymous (service : Service) (locker : Locker) (key : Key) (level : Level)
    (handle : Handle) :
    service.anonymous.lock locker.anonymous key level handle =
      ((service.lock locker key level handle).1.anonymous,
        (service.lock locker key level handle).2.anonymous) := by
  simp only [lock, ledger_anonymous, nextTicket_anonymous, Ledger.lock_anonymous]
  generalize service.ledger.lock locker key level service.nextTicket = result
  obtain ⟨reply, after⟩ := result
  cases reply with
  | error refusal => rfl
  | ok reply =>
      cases reply with
      | granted => rfl
      | queued place =>
          dsimp only [mapError_ok, anonymous, Answer.anonymous]
          rw [map_insert]
          rfl

theorem abandon_anonymous (service : Service) (ticket : Ticket) (call : Call) :
    service.anonymous.abandon ticket call.anonymous =
      ((service.abandon ticket call).1.anonymous, (service.abandon ticket call).2.anonymous) := by
  simp only [abandon, ledger_anonymous, Call.locker_anonymous, Call.key_anonymous,
    Ledger.abandon_anonymous]
  exact finish_anonymous { service with ledger := _ } ticket (.refused _)

theorem wake_anonymous (service : Service) (ticket : Ticket) :
    service.anonymous.wake ticket =
      ((service.wake ticket).1.anonymous, (service.wake ticket).2.anonymous) := by
  simp only [wake, getElem?_anonymous]
  cases service.calls[ticket]? with
  | none => rfl
  | some call =>
      simp only [Option.map_some, Call.line_anonymous]
      cases call.line.poll.1 with
      | granted => exact service.finish_anonymous ticket .ok
      | disconnected => exact service.abandon_anonymous ticket call
      | empty => rfl

theorem giveUp_anonymous (service : Service) (ticket : Ticket) :
    service.anonymous.giveUp ticket =
      ((service.giveUp ticket).1.anonymous, (service.giveUp ticket).2.anonymous) := by
  simp only [giveUp, getElem?_anonymous]
  cases service.calls[ticket]? with
  | none => rfl
  | some call =>
      simp only [Option.map_some, Call.handle_anonymous, Call.locker_anonymous,
        Locker.id_anonymous, Call.key_anonymous, Call.line_anonymous, hasFired_anonymous,
        ledger_anonymous, listening_anonymous, Ledger.withdraw?_anonymous]
      by_cases fired : service.hasFired call.handle = true
      case neg =>
        simp only [fired, Bool.false_eq_true, if_false]
        rfl
      simp only [fired, if_true]
      cases service.ledger.withdraw? service.listening call.locker.id call.key with
      | none =>
          dsimp only [Option.map_none]
          cases call.line.poll.1 with
          | granted => exact service.finish_anonymous ticket .ok
          | disconnected => exact service.abandon_anonymous ticket call
          | empty => exact service.abandon_anonymous ticket call
      | some result =>
          have told := notifyAll_anonymous { service with ledger := result.1 } result.2
          dsimp only [Option.map_some]
          exact (congrArg (finish · ticket _) told).trans
            (finish_anonymous _ ticket (.refused (.cancelled call.key)))

theorem act_anonymous (service : Service) (event : Event) :
    service.anonymous.act event.anonymous =
      ((service.act event).1.anonymous, (service.act event).2.anonymous) := by
  cases event with
  | lock locker key level handle => exact service.lock_anonymous locker key level handle
  | wake ticket => exact service.wake_anonymous ticket
  | giveUp ticket => exact service.giveUp_anonymous ticket
  | release locker =>
      simp only [act, Event.anonymous, release, ledger_anonymous, listening_anonymous,
        Ledger.release_anonymous, Outcome.ofExcept_mapError]
      exact congrArg (Prod.mk _) (notifyAll_anonymous { service with ledger := _ } _)
  | close =>
      simp only [act, Event.anonymous, close, ledger_anonymous, Ledger.close_anonymous]
      exact congrArg (Prod.mk _) (notifyAll_anonymous { service with ledger := _ } _)
  | cancellation step => rfl

variable {service : Service}

/-- No audit of a sound service stops it, so that it can do without them. -/
theorem Sound.step_anonymous (sound : service.Sound) (event : Event) :
    service.anonymous.step event.anonymous =
      ((service.step event).1.anonymous, (service.step event).2.anonymous) := by
  rw [sound.step_eq]
  have silent (other : Service) : other.anonymous.ledger.alarm = none := rfl
  unfold Service.step
  rw [silent, act_anonymous]
  dsimp only
  rw [silent]

theorem Sound.run_anonymous (sound : service.Sound) (events : List Event) :
    service.anonymous.run (events.map Event.anonymous) =
      ((service.run events).1.map Answer.anonymous, (service.run events).2.anonymous) := by
  induction events generalizing service with
  | nil => rfl
  | cons event rest ih =>
      simp only [List.map_cons, Service.run, sound.step_anonymous, ih (sound.step event)]

/-- Without names both runs are the same run. -/
theorem runs_anonymous_eq (options : Ledger.Options) {first second : List Event}
    (same : first.map Event.anonymous = second.map Event.anonymous) :
    ((start options).run first).1.map Answer.anonymous =
        ((start options).run second).1.map Answer.anonymous ∧
      ((start options).run first).2.anonymous = ((start options).run second).2.anonymous := by
  have one := (start_sound options).run_anonymous first
  have other := (start_sound options).run_anonymous second
  rw [same] at one
  exact Prod.mk.inj (one.symm.trans other)

/-- Names never decide anything. Two runs of the same lockers that differ in names only, which may
repeat or be empty, answer the same up to the name of a locker that was released before; and after
each event the same lockers hold and wait for the same, in the same places. -/
theorem names_decide_nothing (options : Ledger.Options) {first second : List Event}
    (same : first.map Event.anonymous = second.map Event.anonymous) :
    ((start options).run first).1.map Answer.anonymous =
        ((start options).run second).1.map Answer.anonymous ∧
      ∀ count, SameButNames ((start options).run (first.take count)).2
        ((start options).run (second.take count)).2 := by
  refine ⟨(runs_anonymous_eq options same).1, fun count => ?_⟩
  have earlier :
      (first.take count).map Event.anonymous = (second.take count).map Event.anonymous := by
    rw [List.map_take, List.map_take, same]
  exact sameButNames_of_anonymous_eq (runs_anonymous_eq options earlier).2

/-- A locker hands a lock over to another one that waits for it, and asks again. -/
def handover (giver taker : String) : List Event :=
  [.lock ⟨1, giver⟩ "users" .exclusive .never, .lock ⟨2, taker⟩ "users" .exclusive .never,
    .release ⟨1, giver⟩, .wake 1, .lock ⟨1, giver⟩ "users" .access .never]

/-- Two lockers without a name are told apart like any other two. -/
theorem handover_between_nameless :
    (handover "ann" "bob").map Event.anonymous = (handover "" "").map Event.anonymous ∧
      (((start .standard).run (handover "ann" "bob")).1.map Answer.anonymous =
          ((start .standard).run (handover "" "")).1.map Answer.anonymous ∧
        ∀ count, SameButNames ((start .standard).run ((handover "ann" "bob").take count)).2
          ((start .standard).run ((handover "" "").take count)).2) ∧
      ((start .standard).run (handover "" "")).1 =
        [.returned 0 .ok, .waiting 1 1, .released .ok, .returned 1 .ok,
          .returned 2 (.refused (.releasedLocker ""))] :=
  ⟨rfl, names_decide_nothing .standard rfl, by decide +kernel⟩

end Service

end Locking
