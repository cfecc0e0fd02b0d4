import Locking.Proofs.Service.Pending

namespace Locking

/-!
What becomes of a call that has been queued. Until it returns it is in one of three stages, which
its places in the queues and its line tell apart, and the stage alone decides what it returns.
-/

def Ledger.places (ledger : Ledger) (key : Key) (ticket : Ticket) : Nat :=
  ((ledger.resource key).queue.map (·.ticket)).count ticket

namespace Call

inductive Stage where
  | waiting
  | granted
  | dropped
deriving DecidableEq, Repr

def Stage.line : Stage → Line
  | .waiting => ⟨0, true⟩
  | .granted => ⟨1, false⟩
  | .dropped => ⟨0, false⟩

structure Waits (ledger : Ledger) (ticket : Ticket) (call : Call) : Prop where
  line : call.line = Stage.waiting.line
  queued : call.waiter ticket ∈ (ledger.resource call.key).queue
  places : ∀ key, ledger.places key ticket = if key = call.key then 1 else 0
  empty : ledger.holds? call.locker.id call.key = none

structure HasGrant (ledger : Ledger) (ticket : Ticket) (call : Call) : Prop where
  line : call.line = Stage.granted.line
  places : ∀ key, ledger.places key ticket = 0
  holds : ledger.isReleased call.locker.id = true ∨
    ∃ level, ledger.holds? call.locker.id call.key = some level ∧ call.level ≤ level

structure IsDropped (ledger : Ledger) (ticket : Ticket) (call : Call) : Prop where
  line : call.line = Stage.dropped.line
  places : ∀ key, ledger.places key ticket = 0
  ended : ledger.isReleased call.locker.id = true ∨ ledger.closed = true

def In (ledger : Ledger) (ticket : Ticket) (call : Call) : Stage → Prop
  | .waiting => call.Waits ledger ticket
  | .granted => call.HasGrant ledger ticket
  | .dropped => call.IsDropped ledger ticket

def Stage.outcome (ledger : Ledger) (call : Call) : Stage → Outcome
  | .waiting => .refused (.cancelled call.key)
  | .granted => .ok
  | .dropped =>
      .refused (if ledger.isReleased call.locker.id then .releasedLocker call.locker.name
        else .closed)

/-- The events by which a call returns from a stage. While its request waits it must be cancelled;
later it can also be woken. -/
def Stage.EndsBy (service : Service) (ticket : Ticket) (call : Call) (event : Event) :
    Stage → Prop
  | .waiting => event = .giveUp ticket ∧ service.hasFired call.handle = true
  | .granted | .dropped =>
      event = .wake ticket ∨ event = .giveUp ticket ∧ service.hasFired call.handle = true

variable {ledger : Ledger} {ticket : Ticket} {call : Call} {stage : Stage}

theorem Stage.eq_of_line_eq {first second : Stage} (same : first.line = second.line) :
    first = second := by
  revert same
  cases first <;> cases second <;> decide

theorem In.line (stands : call.In ledger ticket stage) : call.line = stage.line := by
  cases stage with
  | waiting => exact Waits.line stands
  | granted => exact HasGrant.line stands
  | dropped => exact IsDropped.line stands

theorem In.unique {first second : Stage} (one : call.In ledger ticket first)
    (other : call.In ledger ticket second) : first = second :=
  Stage.eq_of_line_eq (one.line.symm.trans other.line)

end Call

namespace Service

open Resource Call

variable {service : Service} {ticket other : Ticket} {call : Call} {key : Key} {stage : Stage}
  {outcome : Outcome} {event : Event}

theorem Sound.places_of_queued (sound : service.Sound) {waiter : Waiter}
    (queued : waiter ∈ (service.ledger.resource key).queue) (other : Key) :
    service.ledger.places other waiter.ticket = if other = key then 1 else 0 := by
  unfold Ledger.places
  split
  · rename_i same
    subst same
    exact List.count_eq_one_of_mem (List.pairwise_map.mpr (sound.tickets_distinct other))
      (List.mem_map_of_mem queued)
  · rename_i different
    refine List.count_eq_zero_of_not_mem (fun member => different ?_)
    obtain ⟨again, elsewhere, same⟩ := List.mem_map.mp member
    exact (sound.ticket_unique elsewhere queued same).1

theorem Sound.places_of_heard (sound : service.Sound)
    (pending : service.calls[ticket]? = some call) (line : call.line ≠ .fresh) (key : Key) :
    service.ledger.places key ticket = 0 := by
  refine List.count_eq_zero_of_not_mem (fun member => line ?_)
  obtain ⟨waiter, queued, rfl⟩ := List.mem_map.mp member
  obtain ⟨owner, found, _, fresh, _⟩ := sound.owned key waiter queued
  obtain rfl := Option.some.inj (pending.symm.trans found)
  exact fresh

theorem Sound.exists_stage (sound : service.Sound)
    (pending : service.calls[ticket]? = some call) :
    ∃ stage, call.In service.ledger ticket stage := by
  cases sound.fate ticket call pending with
  | waiting line queued =>
      exact ⟨.waiting, line, queued, sound.places_of_queued queued,
        sound.ledger.holds?_of_queued queued⟩
  | granted line kept =>
      have heard : call.line ≠ .fresh := by
        rw [line]
        decide
      exact ⟨.granted, line, sound.places_of_heard pending heard, kept⟩
  | dropped line ended =>
      have heard : call.line ≠ .fresh := by
        rw [line]
        decide
      exact ⟨.dropped, line, sound.places_of_heard pending heard, ended⟩

theorem Sound.owner_unique (sound : service.Sound) {waiter : Waiter}
    (queued : waiter ∈ (service.ledger.resource key).queue) :
    ∃! owner : Ticket × Call, service.calls[owner.1]? = some owner.2 ∧
      owner.2.In service.ledger owner.1 .waiting ∧ owner.2.key = key ∧
      owner.2.waiter owner.1 = waiter := by
  obtain ⟨call, found, sameKey, line, same⟩ := sound.owned key waiter queued
  obtain ⟨stage, stands⟩ := sound.exists_stage found
  obtain rfl : Stage.waiting = stage := Stage.eq_of_line_eq (line.symm.trans stands.line)
  refine ⟨(waiter.ticket, call), ⟨found, stands, sameKey, same⟩, ?_⟩
  intro rival owns
  obtain ⟨ticket, other⟩ := rival
  obtain ⟨pending, _, _, rfl⟩ := owns
  rw [Option.some.inj (found.symm.trans pending)]
  rfl

/-! Returning. -/

/-- Nothing makes a queued call return but its waking up or its giving up. -/
theorem Sound.event_of_returned (sound : service.Sound) (used : ticket < service.nextTicket)
    (returns : (service.act event).1 = .returned ticket outcome) :
    event = .wake ticket ∨ event = .giveUp ticket := by
  have answered := sound.answered event
  rw [sound.step_eq, returns] at answered
  cases answered with
  | other nothing => contradiction
  | returned about =>
      cases event with
      | lock =>
          -- A call that returns at once has a ticket that was in nobody's hands.
          exact absurd (Option.some.inj about) (Nat.ne_of_gt used)
      | wake => exact .inl (congrArg _ (Option.some.inj about))
      | giveUp => exact .inr (congrArg _ (Option.some.inj about))
      | release => contradiction
      | close => contradiction
      | cancellation => contradiction

theorem Sound.pending_of_returned (sound : service.Sound) (used : ticket < service.nextTicket)
    (returns : (service.act event).1 = .returned ticket outcome) :
    ∃ call, service.calls[ticket]? = some call := by
  cases pending : service.calls[ticket]? with
  | some call => exact ⟨call, rfl⟩
  | none =>
      rcases sound.event_of_returned used returns with rfl | rfl
      · simp [Service.act, Service.wake, pending] at returns
      · simp [Service.act, Service.giveUp, pending] at returns

theorem wake_of_stage (pending : service.calls[ticket]? = some call)
    (stands : call.In service.ledger ticket stage) :
    (service.wake ticket).1 =
      if stage = .waiting then .impossible
      else .returned ticket (stage.outcome service.ledger call) := by
  cases stage with
  | waiting => rw [wake_of_waiting pending stands.line, if_pos rfl]
  | granted =>
      rw [wake_of_granted pending stands.line]
      rfl
  | dropped =>
      rw [wake_of_dropped pending stands.line]
      simp only [abandon, Ledger.abandon, finish, Stage.outcome]
      split <;> rfl

theorem Sound.giveUp_of_stage (sound : service.Sound)
    (pending : service.calls[ticket]? = some call)
    (fired : service.hasFired call.handle = true)
    (stands : call.In service.ledger ticket stage) :
    (service.giveUp ticket).1 = .returned ticket (stage.outcome service.ledger call) := by
  by_cases waits : stage = .waiting
  · subst waits
    rw [sound.giveUp_of_waiting pending fired stands.queued]
    rfl
  · have line : call.line ≠ .fresh := fun fresh =>
      waits (Stage.eq_of_line_eq (stands.line.symm.trans fresh))
    rw [sound.giveUp_of_not_waiting pending fired line, wake_of_stage pending stands,
      if_neg waits]

/-- The stage of a call decides by which events it returns, and what. -/
theorem Sound.returned_iff (sound : service.Sound)
    (pending : service.calls[ticket]? = some call)
    (stands : call.In service.ledger ticket stage) (event : Event) (outcome : Outcome) :
    (service.step event).1 = .returned ticket outcome ↔
      stage.EndsBy service ticket call event ∧ outcome = stage.outcome service.ledger call := by
  rw [sound.step_eq]
  have woken := wake_of_stage pending stands
  constructor
  · intro returns
    rcases sound.event_of_returned (sound.numbered ticket call pending) returns with rfl | rfl
    · rw [Service.act, woken] at returns
      cases stage with
      | waiting => contradiction
      | granted => exact ⟨.inl rfl, (Answer.returned.inj returns).2.symm⟩
      | dropped => exact ⟨.inl rfl, (Answer.returned.inj returns).2.symm⟩
    · cases fired : service.hasFired call.handle with
      | false =>
          rw [Service.act, giveUp_of_unfired pending fired] at returns
          contradiction
      | true =>
          rw [Service.act, sound.giveUp_of_stage pending fired stands] at returns
          have same := (Answer.returned.inj returns).2.symm
          cases stage with
          | waiting => exact ⟨⟨rfl, fired⟩, same⟩
          | granted => exact ⟨.inr ⟨rfl, fired⟩, same⟩
          | dropped => exact ⟨.inr ⟨rfl, fired⟩, same⟩
  · intro ending
    obtain ⟨ends, rfl⟩ := ending
    have byWaking (heard : stage ≠ .waiting) :
        (service.act (.wake ticket)).1 =
          .returned ticket (stage.outcome service.ledger call) := by
      rw [Service.act, woken, if_neg heard]
    cases stage with
    | waiting =>
        obtain ⟨rfl, fired⟩ := ends
        exact sound.giveUp_of_stage pending fired stands
    | granted =>
        rcases ends with rfl | ⟨rfl, fired⟩
        · exact byWaking (by decide)
        · exact sound.giveUp_of_stage pending fired stands
    | dropped =>
        rcases ends with rfl | ⟨rfl, fired⟩
        · exact byWaking (by decide)
        · exact sound.giveUp_of_stage pending fired stands

theorem Sound.poll_of_not_withdrawn (sound : service.Sound)
    (pending : service.calls[ticket]? = some call)
    (taken : service.ledger.withdraw? service.listening call.locker.id call.key = none) :
    call.line.poll.1 ≠ .empty := by
  obtain ⟨stage, stands⟩ := sound.exists_stage pending
  cases stage with
  | waiting =>
      have queued := (sound.queued_iff_waiting pending).mpr stands.queued
      rw [sound.ledger.withdraw?, queued] at taken
      contradiction
  | granted =>
      rw [stands.line]
      decide
  | dropped =>
      rw [stands.line]
      decide

theorem Sound.ended_of_disconnected (sound : service.Sound)
    (pending : service.calls[ticket]? = some call)
    (disconnected : call.line.poll.1 = .disconnected) :
    service.ledger.isReleased call.locker.id = true ∨ service.ledger.closed = true := by
  obtain ⟨stage, stands⟩ := sound.exists_stage pending
  rw [stands.line] at disconnected
  cases stage with
  | waiting => contradiction
  | granted => contradiction
  | dropped => exact stands.ended

/-- No request is lost, and no call is told anything untrue of its request. -/
structure Accountable (service : Service) : Prop where
  stage : ∀ (ticket : Ticket) (call : Call), service.calls[ticket]? = some call →
    ∃! stage, call.In service.ledger ticket stage
  owner : ∀ (key : Key), ∀ waiter ∈ (service.ledger.resource key).queue,
    ∃! owner : Ticket × Call, service.calls[owner.1]? = some owner.2 ∧
      owner.2.In service.ledger owner.1 .waiting ∧ owner.2.key = key ∧
      owner.2.waiter owner.1 = waiter
  returned : ∀ (ticket : Ticket) (call : Call) (stage : Stage), service.calls[ticket]? = some call →
    call.In service.ledger ticket stage → ∀ event outcome,
      ((service.step event).1 = .returned ticket outcome ↔
        stage.EndsBy service ticket call event ∧ outcome = stage.outcome service.ledger call)
  /-- A sweep meets no waiter to whom nobody listens. -/
  heard : ∀ (key : Key), ∀ waiter ∈ (service.ledger.resource key).queue,
    service.listening waiter.ticket = true
  /-- A call that cannot take its request back has heard what became of it. -/
  told : ∀ (ticket : Ticket) (call : Call), service.calls[ticket]? = some call →
    service.ledger.withdraw? service.listening call.locker.id call.key = none →
      call.line.poll.1 ≠ .empty
  /-- No request leaves its queue without a grant for any other reason. -/
  reason : ∀ (ticket : Ticket) (call : Call), service.calls[ticket]? = some call →
    call.line.poll.1 = .disconnected →
      service.ledger.isReleased call.locker.id = true ∨ service.ledger.closed = true

/-- After every run, each call that was queued and has not returned is accounted for, and there are
no other calls. -/
theorem queued_calls_accounted_for (options : Ledger.Options) (events : List Event) :
    ((start options).run events).2.Accountable ∧
      ∀ (ticket : Ticket) (event : Event),
        ((start options).run events).2.asked ticket = some event ↔
          (∃ place, (event, .waiting ticket place) ∈ events.zip ((start options).run events).1) ∧
            ∀ outcome, Answer.returned ticket outcome ∉ ((start options).run events).1 := by
  have sound := run_sound options events
  constructor
  · refine ⟨?_, ?_, ?_, ?_, ?_, ?_⟩
    · intro ticket call pending
      obtain ⟨stage, stands⟩ := sound.exists_stage pending
      exact ⟨stage, stands, fun _ other => other.unique stands⟩
    · intro key waiter queued
      exact sound.owner_unique queued
    · intro ticket call stage pending stands event outcome
      exact sound.returned_iff pending stands event outcome
    · intro key
      exact sound.heard
    · intro ticket call pending
      exact sound.poll_of_not_withdrawn pending
    · intro ticket call pending
      exact sound.ended_of_disconnected pending
  · intro ticket event
    have nothing : (start options).asked ticket = none := by simp [start, asked]
    rw [(start_sound options).asked_run events ticket event, nothing]
    simp

end Service

end Locking
