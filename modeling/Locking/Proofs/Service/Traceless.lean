import Locking.Proofs.Ledger.Traceless
import Locking.Proofs.Service.Mirror

namespace Locking

/-!
Failed calls leave no trace. A call that is refused changes nothing, and a call whose handle has
fired before it is made either is granted its lock at once or leaves everything as it was, although
its request has been queued and withdrawn.
-/

namespace Resource

variable {resource : Resource} {id : LockerId}

theorem not_involves_of_absent (unheld : resource.holding? id = none)
    (unqueued : resource.isQueued id = false) : ¬ resource.Involves id := by
  rintro (⟨holding, member, owner⟩ | ⟨waiter, member, owner⟩)
  · exact holding?_eq_none_iff.mp unheld holding member owner
  · exact isQueued_eq_false_iff.mp unqueued waiter member owner

end Resource

namespace Service

open Resource

/-- A lock call while nothing else goes on: it returns, or it waits, unless its handle has fired. -/
def attempt (service : Service) (locker : Locker) (key : Key) (level : Level) (handle : Handle) :
    Answer × Service :=
  match service.step (.lock locker key level handle) with
  | (.waiting ticket place, queued) =>
      if queued.hasFired handle then queued.step (.giveUp ticket)
      else (.waiting ticket place, queued)
  | result => result

/-- The service after a call that has changed nothing. Its number has been used. -/
def called (service : Service) : Service :=
  { service with nextTicket := service.nextTicket + 1 }

variable {service : Service} {event : Event} {events : List Event} {key : Key}
  {locker : Locker} {level : Level} {handle : Handle} {ticket : Ticket} {call : Call}
  {resource : Resource} {place : Nat}

/-! The record of lockers in every run. -/

theorem Sound.concise_wake (sound : service.Sound) (concise : service.ledger.Concise)
    (ticket : Ticket) : (service.wake ticket).2.ledger.Concise := by
  cases pending : service.calls[ticket]? with
  | none => simpa only [Service.wake, pending] using concise
  | some call =>
      cases sound.fate ticket call pending with
      | waiting line => rwa [wake_of_waiting pending line]
      | granted line => rwa [wake_of_granted pending line]
      | dropped line =>
          rw [wake_of_dropped pending line]
          exact concise.abandon call.locker call.key

theorem Sound.concise_step (sound : service.Sound) (concise : service.ledger.Concise)
    (event : Event) : (service.step event).2.ledger.Concise := by
  rw [sound.step_eq]
  cases event with
  | lock locker key level handle =>
      have done := sound.locked locker key level handle
      rw [Service.act]
      generalize service.lock locker key level handle = result at done
      cases done with
      | released => exact concise
      | closed => exact concise
      | refused => exact concise
      | granted => exact (concise.put key _).note locker.id key
      | queued => exact (concise.put key _).note locker.id key
  | wake ticket => exact sound.concise_wake concise ticket
  | giveUp ticket =>
      have done := sound.gaveUp ticket
      rw [Service.act]
      generalize service.giveUp ticket = result at done
      cases done with
      | impossible => exact concise
      | @inTime call =>
          change (service.withdrawn call).ledger.Concise
          rw [ledger_withdrawn]
          exact concise.withdrawn service.listening call.locker.id call.key
      | late => exact sound.concise_wake concise ticket
  | release locker =>
      rw [Service.act, ledger_release]
      exact concise.release sound.ledger.toTidy service.listening locker
  | close =>
      rw [Service.act, ledger_close]
      exact concise.close
  | cancellation step => exact concise

theorem Sound.concise_run (sound : service.Sound) (concise : service.ledger.Concise)
    (events : List Event) : (service.run events).2.ledger.Concise := by
  induction events generalizing service with
  | nil => exact concise
  | cons event rest ih => exact ih (sound.step event) (sound.concise_step concise event)

theorem run_concise (options : Ledger.Options) (events : List Event) :
    ((start options).run events).2.ledger.Concise :=
  (start_sound options).concise_run (Ledger.empty_concise options) events

/-- While the service is open, a locker is on record with the keys under which it appears. -/
theorem Mirrored.mem_keys_iff {id : LockerId} (mirrored : service.Mirrored)
    (sound : service.Sound) (serving : service.ledger.closed = false)
    (present : service.ledger.isReleased id = false) :
    key ∈ (service.ledger.standing id).keys ↔ (service.ledger.resource key).Involves id :=
  (sound.mirrors_iff serving present).mp (mirrored.noted id present) key

/-! Calls that fail. -/

theorem Sound.eq_called_of_refused {refusal : Refusal} {after : Service} (sound : service.Sound)
    (refused : service.step (.lock locker key level handle) =
      (.returned ticket (.refused refusal), after)) : after = service.called := by
  rw [sound.step_eq, Service.act] at refused
  have done := sound.locked locker key level handle
  rw [refused] at done
  cases done <;> rfl

theorem Sound.eq_self_of_unreleased {refusal : Refusal} {after : Service} (sound : service.Sound)
    (refused : service.step (.release locker) = (.released (.refused refusal), after)) :
    after = service := by
  rw [sound.step_eq, Service.act] at refused
  have done := sound.freed locker
  rw [refused] at done
  cases done
  rfl

/-- The call that has been queued last is told that it has been dropped, and returns. -/
theorem calls_forgotten (unused : service.calls[ticket]? = none) (call : Call) (notice : Notice)
    (mine : notice.ticket = ticket) :
    ((service.calls.insert ticket call).modify notice.ticket (hearing notice)).erase ticket =
      service.calls := by
  subst mine
  apply Std.ExtTreeMap.ext_getElem?
  intro other
  rw [Std.ExtTreeMap.getElem?_erase]
  split
  · rename_i same
    rw [← Std.LawfulEqOrd.eq_of_compare same, unused]
  · rename_i different
    have apart : notice.ticket ≠ other := fun same => different (by simp [same])
    rw [getElem?_modify_notice, if_neg apart, Std.ExtTreeMap.getElem?_insert, if_neg different]

/-- The service after this call has come in and its request has gone to the end of the queue. -/
def enqueued (service : Service) (call : Call) : Service :=
  { service with
    ledger := (service.ledger.put call.key ((service.ledger.resource call.key).enqueue
      (call.waiter service.nextTicket))).note call.locker.id call.key
    calls := service.calls.insert service.nextTicket call
    nextTicket := service.nextTicket + 1 }

/-- A request that is withdrawn as soon as it is queued leaves nothing behind. -/
theorem Sound.finish_withdrawn_enqueued (sound : service.Sound) (concise : service.ledger.Concise)
    (absent : ¬ (service.ledger.resource call.key).Involves call.locker.id)
    (unnoted : call.key ∉ (service.ledger.standing call.locker.id).keys) (outcome : Outcome) :
    ((service.enqueued call).withdrawn call).finish service.nextTicket outcome =
      (.returned service.nextTicket outcome, service.called) := by
  have notices : ((service.enqueued call).ledger.resource call.key).leaveNotices
      (service.enqueued call).listening call.locker.id = [.dropped service.nextTicket] := by
    rw [enqueued, Ledger.resource_note, Ledger.resource_put_self]
    exact leaveNotices_enqueue (sound.ledger.settled call.key) absent _
  have ledger : (service.enqueued call).ledger.withdrawn (service.enqueued call).listening
      call.locker.id call.key = service.ledger :=
    sound.ledger.toTidy.withdrawn_enqueued concise absent unnoted _
  have calls : ((service.enqueued call).calls.modify service.nextTicket
      (hearing (.dropped service.nextTicket))).erase service.nextTicket = service.calls :=
    calls_forgotten sound.unused call (.dropped service.nextTicket) rfl
  rw [Service.withdrawn, notices, ledger]
  change (_, ({ service with
    calls := ((service.enqueued call).calls.modify service.nextTicket
      (hearing (.dropped service.nextTicket))).erase service.nextTicket
    nextTicket := service.nextTicket + 1 } : Service)) = _
  rw [calls]
  rfl

/-- Where nothing happens in between, a call that is queued under a handle that has fired can do
nothing but take its request back, and that leaves no trace. -/
theorem Sound.withdrawn_at_once {queued : Service} (sound : service.Sound)
    (mirrored : service.Mirrored) (concise : service.ledger.Concise)
    (fired : service.hasFired handle = true)
    (waits : service.step (.lock locker key level handle) = (.waiting ticket place, queued)) :
    queued.step (.wake ticket) = (.impossible, queued) ∧ queued.hasFired handle = true ∧
      queued.step (.giveUp ticket) =
        (.returned ticket (.refused (.cancelled key)), service.called) := by
  have soundAfter := sound.step (.lock locker key level handle)
  rw [waits] at soundAfter
  rw [sound.step_eq, Service.act] at waits
  have done := sound.locked locker key level handle
  rw [waits] at done
  cases done with
  | queued present serving asked =>
      obtain ⟨rfl, _, unheld, unqueued⟩ := request_queued asked
      have absent := not_involves_of_absent unheld unqueued
      have unnoted : key ∉ (service.ledger.standing locker.id).keys :=
        fun noted => absent ((mirrored.mem_keys_iff sound serving present).mp noted)
      change (service.enqueued ⟨locker, key, level, handle, .fresh⟩).Sound at soundAfter
      have pending : (service.enqueued ⟨locker, key, level, handle, .fresh⟩).calls[
          service.nextTicket]? = some ⟨locker, key, level, handle, .fresh⟩ :=
        Std.ExtTreeMap.getElem?_insert_self
      refine ⟨?_, fired, ?_⟩
      · exact (soundAfter.step_eq _).trans (wake_of_waiting pending rfl)
      · have waiting := soundAfter.queued_of_fresh pending rfl
        refine (soundAfter.step_eq _).trans ?_
        refine (soundAfter.giveUp_of_waiting pending fired waiting).trans ?_
        exact sound.finish_withdrawn_enqueued concise absent unnoted _

theorem attempt_of_returned {outcome : Outcome} {after : Service}
    (returned : service.step (.lock locker key level handle) = (.returned ticket outcome, after)) :
    service.attempt locker key level handle = (.returned ticket outcome, after) := by
  simp only [attempt, returned]

theorem Sound.attempt_of_waiting {queued : Service} (sound : service.Sound)
    (mirrored : service.Mirrored) (concise : service.ledger.Concise)
    (fired : service.hasFired handle = true)
    (waits : service.step (.lock locker key level handle) = (.waiting ticket place, queued)) :
    service.attempt locker key level handle =
      (.returned ticket (.refused (.cancelled key)), service.called) := by
  obtain ⟨_, stillFired, withdrawn⟩ := sound.withdrawn_at_once mirrored concise fired waits
  simp only [attempt, waits, stillFired, if_true, withdrawn]

/-- A call returns at once, or it waits. -/
theorem Sound.step_lock_cases (sound : service.Sound) (locker : Locker) (key : Key) (level : Level)
    (handle : Handle) :
    (∃ outcome after, service.step (.lock locker key level handle) =
        (.returned service.nextTicket outcome, after)) ∨
      ∃ place queued, service.step (.lock locker key level handle) =
        (.waiting service.nextTicket place, queued) := by
  rw [sound.step_eq, Service.act]
  have done := sound.locked locker key level handle
  generalize service.lock locker key level handle = result at done
  cases done with
  | released => exact .inl ⟨_, _, rfl⟩
  | closed => exact .inl ⟨_, _, rfl⟩
  | refused => exact .inl ⟨_, _, rfl⟩
  | granted => exact .inl ⟨_, _, rfl⟩
  | queued => exact .inr ⟨_, _, rfl⟩

/-- The handle plays no part in whether a lock is granted at once. -/
theorem Sound.granted_at_once_iff {after : Service} (sound : service.Sound)
    (handle other : Handle) :
    service.step (.lock locker key level handle) = (.returned ticket .ok, after) ↔
      service.step (.lock locker key level other) = (.returned ticket .ok, after) := by
  rw [sound.step_eq, sound.step_eq]
  simp only [Service.act, Service.lock]
  split <;> simp

/-- What failed calls and releases leave of the service, which is all of it, and what a call can
come to whose handle has fired before. -/
structure FailsWithoutTrace (service : Service) : Prop where
  refused : ∀ locker key level handle ticket refusal after,
    service.step (.lock locker key level handle) = (.returned ticket (.refused refusal), after) →
      after = service.called
  released : ∀ locker refusal after,
    service.step (.release locker) = (.released (.refused refusal), after) → after = service
  /-- A call that is queued in spite of its handle cannot but give up. -/
  withdrawn : ∀ locker key level handle ticket place queued, service.hasFired handle = true →
    service.step (.lock locker key level handle) = (.waiting ticket place, queued) →
      queued.step (.wake ticket) = (.impossible, queued) ∧
        queued.step (.giveUp ticket) =
          (.returned ticket (.refused (.cancelled key)), service.called)
  /-- It does not wait, whatever it comes to. -/
  failed : ∀ locker key level handle, service.hasFired handle = true →
    ∃ outcome after, service.attempt locker key level handle =
      (.returned service.nextTicket outcome, after) ∧ (outcome ≠ .ok → after = service.called)
  /-- It is granted what can be granted at once. -/
  granted : ∀ locker key level handle after, service.hasFired handle = true →
    (service.attempt locker key level handle = (.returned service.nextTicket .ok, after) ↔
      service.step (.lock locker key level .never) = (.returned service.nextTicket .ok, after))

/-- In every run, nothing that fails at once changes anything, and neither does a call whose handle
has fired before it is made, unless its lock is granted at once. -/
theorem failed_calls_leave_no_trace (options : Ledger.Options) (events : List Event) :
    ((start options).run events).2.FailsWithoutTrace := by
  have sound := run_sound options events
  have mirrored := (start_mirrored options).run (start_sound options) events
  have concise := run_concise options events
  generalize ((start options).run events).2 = service at sound mirrored concise ⊢
  refine ⟨?_, ?_, ?_, ?_, ?_⟩
  · intro locker key level handle ticket refusal after refused
    exact sound.eq_called_of_refused refused
  · intro locker refusal after refused
    exact sound.eq_self_of_unreleased refused
  · intro locker key level handle ticket place queued fired waits
    obtain ⟨unwoken, _, withdrawn⟩ := sound.withdrawn_at_once mirrored concise fired waits
    exact ⟨unwoken, withdrawn⟩
  · intro locker key level handle fired
    rcases sound.step_lock_cases locker key level handle with
      ⟨outcome, after, returned⟩ | ⟨_, _, waits⟩
    · refine ⟨outcome, after, attempt_of_returned returned, fun failed => ?_⟩
      cases outcome with
      | ok => contradiction
      | refused refusal => exact sound.eq_called_of_refused returned
    · exact ⟨_, _, sound.attempt_of_waiting mirrored concise fired waits, fun _ => rfl⟩
  · intro locker key level handle after fired
    rw [← sound.granted_at_once_iff handle .never]
    refine ⟨fun granted => ?_, attempt_of_returned⟩
    rcases sound.step_lock_cases locker key level handle with ⟨_, _, returned⟩ | ⟨_, _, waits⟩
    · rwa [attempt_of_returned returned, ← returned] at granted
    · rw [sound.attempt_of_waiting mirrored concise fired waits] at granted
      cases granted

/-- Under a handle that has fired the index job does not wait for the users, but can have the orders
at once. -/
example :
    let loading := ((start .standard).run
      [.cancellation (.discarded "stop"),
        .lock ⟨1, "load"⟩ "users" .rowModify .never]).2
    (loading.attempt ⟨2, "index"⟩ "users" .exclusive (.of 0)).1 =
        .returned 1 (.refused (.cancelled "users")) ∧
      (loading.attempt ⟨2, "index"⟩ "orders" .exclusive (.of 0)).1 = .returned 1 .ok := by
  constructor <;> rfl

end Service

end Locking
