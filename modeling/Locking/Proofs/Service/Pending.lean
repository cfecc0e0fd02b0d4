import Locking.Proofs.Service.Run

namespace Locking

/-!
The calls that are pending after a run are those that were answered with a place in a queue and have
not returned since. None is forgotten, and none returns twice.
-/

def Call.request (call : Call) : Event :=
  .lock call.locker call.key call.level call.handle

theorem Call.eq_of_request_eq {first second : Call} (requests : first.request = second.request)
    (lines : first.line = second.line) : first = second := by
  obtain ⟨lockers, keys, levels, handles⟩ := Event.lock.inj requests
  obtain ⟨⟩ := first
  simp only at lockers keys levels handles lines
  rw [lockers, keys, levels, handles, lines]

/-- The key that a lock call is for. -/
def Event.lockKey? : Event → Option Key
  | .lock _ key _ _ => some key
  | _ => none

/-- The call that an event is about, if the next lock call has this number. -/
def Event.ticket? (next : Ticket) : Event → Option Ticket
  | .lock .. => some next
  | .wake ticket | .giveUp ticket => some ticket
  | _ => none

/-- The call that an answer is about. -/
def Answer.ticket? : Answer → Option Ticket
  | .returned ticket _ | .waiting ticket _ => some ticket
  | _ => none

theorem Event.ticket?_of_lockKey? {event : Event} {key : Key} {next : Ticket}
    (made : event.lockKey? = some key) : event.ticket? next = some next := by
  cases event with
  | lock => rfl
  | wake => contradiction
  | giveUp => contradiction
  | release => contradiction
  | close => contradiction
  | cancellation => contradiction

/-- How an event can be answered: of the call that it is about, or of no call. -/
inductive Event.Answered (next : Ticket) (event : Event) : Answer → Prop
  | returned {ticket : Ticket} {outcome : Outcome} (about : event.ticket? next = some ticket) :
      Answered next event (.returned ticket outcome)
  | waiting {place : Nat} {key : Key} (asked : event.lockKey? = some key) :
      Answered next event (.waiting next place)
  | other {answer : Answer} (nothing : answer.ticket? = none) : Answered next event answer

/-- Which call waits with which request after an event has been answered. -/
def Answer.book (event : Event) (asked : Ticket → Option Event) (ticket : Ticket) :
    Answer → Option Event
  | .waiting added _ => if added = ticket then some event else asked ticket
  | .returned gone _ => if gone = ticket then none else asked ticket
  | _ => asked ticket

theorem Answer.book_of_no_ticket {answer : Answer} {event : Event}
    {asked : Ticket → Option Event} {ticket : Ticket} (nothing : answer.ticket? = none) :
    answer.book event asked ticket = asked ticket := by
  cases answer with
  | returned => contradiction
  | waiting => contradiction
  | released => rfl
  | done => rfl
  | impossible => rfl
  | breached => rfl

namespace Service

def asked (service : Service) (ticket : Ticket) : Option Event :=
  service.calls[ticket]?.map Call.request

/-- What an event does to the calls that are pending, as its answer tells. -/
inductive Booked (service : Service) (event : Event) : Answer × Service → Prop
  | waiting {place : Nat} {after : Service} (number : after.nextTicket = service.nextTicket + 1)
      (entry : ∀ ticket, after.asked ticket =
        if service.nextTicket = ticket then some event else service.asked ticket) :
      Booked service event (.waiting service.nextTicket place, after)
  | returned {ticket : Ticket} {outcome : Outcome} {after : Service}
      (used : ticket < after.nextTicket) (number : service.nextTicket ≤ after.nextTicket)
      (entry : ∀ other, after.asked other =
        if ticket = other then none else service.asked other) :
      Booked service event (.returned ticket outcome, after)
  | other {answer : Answer} {after : Service}
      (unqueued : ∀ ticket place, answer ≠ .waiting ticket place)
      (unreturned : ∀ ticket outcome, answer ≠ .returned ticket outcome)
      (number : after.nextTicket = service.nextTicket)
      (entry : ∀ ticket, after.asked ticket = service.asked ticket) :
      Booked service event (answer, after)

variable {service : Service} {ticket : Ticket} {call : Call} {locker : Locker} {key : Key}
  {level : Level} {handle : Handle} {event : Event} {place : Nat}

@[simp] theorem asked_notifyAll (service : Service) (notices : List Notice) (ticket : Ticket) :
    (service.notifyAll notices).asked ticket = service.asked ticket := by
  induction notices generalizing service with
  | nil => rfl
  | cons notice rest ih =>
      refine (ih (service.notify notice)).trans ?_
      unfold asked
      rw [calls_notify]
      split
      · rw [Option.map_map]
        rfl
      · rfl

theorem Sound.unasked (sound : service.Sound) : service.asked service.nextTicket = none := by
  simp [asked, sound.unused]

theorem asked_finish (service : Service) (ticket other : Ticket) (outcome : Outcome) :
    (service.finish ticket outcome).2.asked other =
      if ticket = other then none else service.asked other := by
  unfold asked
  rw [calls_finish]
  split <;> rfl

theorem Booked.nextTicket_le {result : Answer × Service} (booked : Booked service event result) :
    service.nextTicket ≤ result.2.nextTicket := by
  cases booked with
  | waiting number => exact Nat.le_of_lt (Nat.lt_of_lt_of_eq (Nat.lt_succ_self _) number.symm)
  | returned _ number => exact number
  | other _ _ number => exact Nat.le_of_eq number.symm

theorem booked_impossible (service : Service) (event : Event) :
    Booked service event (.impossible, service) :=
  .other (by simp) (by simp) rfl (fun _ => rfl)

theorem Sound.lock_booked (sound : service.Sound) (locker : Locker) (key : Key) (level : Level)
    (handle : Handle) : Booked service (.lock locker key level handle)
      (service.lock locker key level handle) := by
  have entry (other : Ticket) : service.asked other =
      if service.nextTicket = other then none else service.asked other := by
    split
    · rename_i same
      rw [← same, sound.unasked]
    · rfl
  have done := sound.locked locker key level handle
  generalize service.lock locker key level handle = result at done
  cases done with
  | released => exact .returned (Nat.lt_succ_self _) (Nat.le_succ _) entry
  | closed => exact .returned (Nat.lt_succ_self _) (Nat.le_succ _) entry
  | refused => exact .returned (Nat.lt_succ_self _) (Nat.le_succ _) entry
  | granted => exact .returned (Nat.lt_succ_self _) (Nat.le_succ _) entry
  | queued =>
      refine .waiting rfl (fun other => ?_)
      by_cases same : service.nextTicket = other <;>
        simp [asked, Std.ExtTreeMap.getElem?_insert, same, Call.request]

theorem Sound.finish_booked (sound : service.Sound) (pending : service.calls[ticket]? = some call)
    (after : Service) (number : after.nextTicket = service.nextTicket)
    (entry : ∀ other, after.asked other = service.asked other) (outcome : Outcome) :
    Booked service event (after.finish ticket outcome) := by
  have used := sound.numbered ticket call pending
  refine .returned (number ▸ used) (Nat.le_of_eq number.symm) (fun other => ?_)
  exact (asked_finish after ticket other outcome).trans (by rw [entry])

theorem Sound.wake_booked (sound : service.Sound) (ticket : Ticket) :
    Booked service event (service.wake ticket) := by
  cases pending : service.calls[ticket]? with
  | none =>
      simp only [Service.wake, pending]
      exact booked_impossible service event
  | some call =>
      cases sound.fate ticket call pending with
      | waiting line =>
          rw [wake_of_waiting pending line]
          exact booked_impossible service event
      | granted line =>
          rw [wake_of_granted pending line]
          exact sound.finish_booked pending service rfl (fun _ => rfl) _
      | dropped line =>
          rw [wake_of_dropped pending line]
          exact sound.finish_booked pending
            { service with ledger := (service.ledger.abandon call.locker call.key).2 }
            rfl (fun _ => rfl) _

theorem Sound.giveUp_booked (sound : service.Sound) (ticket : Ticket) :
    Booked service event (service.giveUp ticket) := by
  have done := sound.gaveUp ticket
  generalize service.giveUp ticket = result at done
  cases done with
  | impossible => exact booked_impossible service event
  | @inTime call pending =>
      exact sound.finish_booked pending (service.withdrawn call) (nextTicket_notifyAll _ _)
        (fun other => asked_notifyAll _ _ other) _
  | late => exact sound.wake_booked ticket

theorem Sound.booked (sound : service.Sound) (event : Event) :
    Booked service event (service.step event) := by
  rw [sound.step_eq]
  cases event with
  | lock locker key level handle => exact sound.lock_booked locker key level handle
  | wake ticket => exact sound.wake_booked ticket
  | giveUp ticket => exact sound.giveUp_booked ticket
  | release locker =>
      exact .other (by simp) (by simp) (nextTicket_notifyAll _ _) (fun _ => asked_notifyAll _ _ _)
  | close =>
      exact .other (by simp) (by simp) (nextTicket_notifyAll _ _) (fun _ => asked_notifyAll _ _ _)
  | cancellation step => exact .other (by simp) (by simp) rfl (fun _ => rfl)

theorem Booked.asked_eq {result : Answer × Service} (booked : Booked service event result)
    (ticket : Ticket) : result.2.asked ticket = result.1.book event service.asked ticket := by
  cases booked with
  | waiting _ entry => exact entry ticket
  | returned _ _ entry => exact entry ticket
  | @other answer after unqueued unreturned _ entry =>
      cases answer with
      | waiting added place => exact absurd rfl (unqueued added place)
      | returned gone outcome => exact absurd rfl (unreturned gone outcome)
      | released => exact entry ticket
      | done => exact entry ticket
      | impossible => exact entry ticket
      | breached => exact entry ticket

theorem Sound.answered (sound : service.Sound) (event : Event) :
    event.Answered service.nextTicket (service.step event).1 := by
  rw [sound.step_eq]
  cases event with
  | lock locker key level handle =>
      have done := sound.locked locker key level handle
      simp only [Service.act]
      generalize service.lock locker key level handle = result at done
      cases done with
      | queued => exact .waiting rfl
      | released => exact .returned rfl
      | closed => exact .returned rfl
      | refused => exact .returned rfl
      | granted => exact .returned rfl
  | wake ticket =>
      simp only [Service.act, Service.wake, Service.finish, Service.abandon]
      split
      · exact .other rfl
      · split
        · exact .returned rfl
        · exact .returned rfl
        · exact .other rfl
  | giveUp ticket =>
      simp only [Service.act, Service.giveUp, Service.finish, Service.abandon]
      split
      · exact .other rfl
      · split
        · split
          · exact .returned rfl
          · split <;> exact .returned rfl
        · exact .other rfl
  | release locker => exact .other rfl
  | close => exact .other rfl
  | cancellation step => exact .other rfl

theorem Sound.waiting_of_run (sound : service.Sound) {events : List Event}
    (queued : (event, .waiting ticket place) ∈ events.zip (service.run events).1) :
    service.nextTicket ≤ ticket := by
  induction events generalizing service with
  | nil => simp at queued
  | cons first rest ih =>
      have booked := sound.booked first
      have soundAfter := sound.step first
      simp only [Service.run] at queued
      generalize service.step first = result at booked soundAfter queued
      rcases List.mem_cons.mp queued with now | later
      · cases booked with
        | waiting => exact Nat.le_of_eq (Answer.waiting.inj (congrArg Prod.snd now)).1.symm
        | returned => simp at now
        | other unqueued => exact absurd (congrArg Prod.snd now).symm (unqueued _ _)
      · exact Nat.le_trans booked.nextTicket_le (ih soundAfter later)

/-- The pending calls of a run are those it has queued and not let return. -/
theorem Sound.asked_run (sound : service.Sound) (events : List Event) (ticket : Ticket)
    (event : Event) :
    (service.run events).2.asked ticket = some event ↔
      (service.asked ticket = some event ∨
        ∃ place, (event, .waiting ticket place) ∈ events.zip (service.run events).1) ∧
      ∀ outcome, Answer.returned ticket outcome ∉ (service.run events).1 := by
  induction events generalizing service with
  | nil => simp [Service.run]
  | cons first rest ih =>
      have booked := sound.booked first
      have soundAfter := sound.step first
      simp only [Service.run]
      generalize service.step first = result at booked soundAfter
      rw [ih soundAfter]
      cases booked with
      | waiting number entry =>
          have unasked := sound.unasked
          simp only [entry]
          by_cases mine : service.nextTicket = ticket
          · subst mine
            simp only [if_true, unasked, reduceCtorEq, false_or, List.zip_cons_cons, List.mem_cons,
              Prod.mk.injEq, Answer.waiting.injEq, true_and, exists_or, Option.some.injEq]
            simp [eq_comm]
          · simp [mine, Ne.symm mine]
      | @returned gone outcome after used number entry =>
          simp only [entry]
          by_cases mine : gone = ticket
          · subst mine
            have never (place : Nat) : (event, .waiting gone place) ∉
                rest.zip (after.run rest).1 :=
              fun later => Nat.lt_irrefl _ (Nat.lt_of_lt_of_le used (soundAfter.waiting_of_run later))
            constructor
            · intro known
              rcases known.1 with pending | ⟨place, later⟩
              · simp at pending
              · exact absurd later (never place)
            · intro known
              exact absurd List.mem_cons_self (known.2 outcome)
          · simp [mine, Ne.symm mine]
      | other unqueued unreturned number entry =>
          simp only [entry]
          simp [(unqueued _ _).symm, (unreturned _ _).symm]

end Service

end Locking
