import Locking.Proofs.Service.Change
import Locking.Proofs.Service.Fate

namespace Locking

/-!
The two ways to return. A call whose wait is over, and whose handle has fired as well, returns the
same and leaves the same behind whether it looks at its line or gives up. What it returns was
decided by the event that ended its wait.
-/

/-- What a call returns, by the event that ended its wait. If the service was closed, it may have
lost its locker since. -/
def Call.verdict (call : Call) (event : Event) (released : Bool) : Outcome :=
  match event with
  | .release locker =>
      if locker.id = call.locker.id then .refused (.releasedLocker call.locker.name) else .ok
  | .close => .refused (if released then .releasedLocker call.locker.name else .closed)
  | _ => .ok

theorem Call.verdict_eq_ok {call : Call} {event : Event} {released : Bool}
    (others : ∀ locker, event = .release locker → locker.id ≠ call.locker.id)
    (serving : event ≠ .close) : call.verdict event released = .ok := by
  unfold verdict
  split
  · exact if_neg (others _ rfl)
  · contradiction
  · rfl

theorem Call.Fate.isReady_iff {ledger : Ledger} {ticket : Ticket} {call : Call}
    (fate : call.Fate ledger ticket) : call.line.isReady = true ↔ call.line ≠ .fresh := by
  cases fate with
  | waiting line => rw [line]; decide
  | granted line => rw [line]; decide
  | dropped line => rw [line]; decide

namespace Service

open Resource

variable {service : Service} {ticket : Ticket} {call next : Call} {event : Event}
  {events : List Event} {key : Key} {waiter : Waiter}

theorem Sound.heard_of_ready (sound : service.Sound)
    (pending : service.calls[ticket]? = some call) (ready : call.line.isReady = true) :
    call.line ≠ .fresh :=
  (sound.fate ticket call pending).isReady_iff.mp ready

/-- A call loses its place in the queue without a grant only if its locker is released, or the
service is closed. -/
theorem Sound.cut_by (sound : service.Sound) (pending : service.calls[ticket]? = some call)
    (fresh : call.line = .fresh) (found : (service.step event).2.calls[ticket]? = some next)
    (cut : next.line = Line.fresh.cut) :
    (∃ locker, event = .release locker ∧ locker.id = call.locker.id) ∨ event = .close := by
  have queued := sound.queued_of_fresh pending fresh
  have flagged := sound.flagged event
  have same : next.locker = call.locker := by
    cases sound.moved_step pending found <;> rfl
  cases (sound.step event).fate ticket next found with
  | waiting line => rw [line] at cut; contradiction
  | granted line => rw [line] at cut; contradiction
  | dropped _ ended =>
      rw [same] at ended
      rcases ended with gone | shut
      · refine ((flagged.released _).mp gone).elim (fun before => ?_) .inl
        exact absurd (.inr ⟨_, queued, rfl⟩) (sound.ledger.absent_of_released before call.key)
      · refine (flagged.closed.mp shut).elim (fun before => ?_) .inr
        rw [sound.ledger.serving_of_queued queued] at before
        contradiction

/-- And in both cases it does. -/
theorem Sound.cut_of_released (sound : service.Sound) {locker : Locker}
    (pending : service.calls[ticket]? = some call) (fresh : call.line = .fresh)
    (own : locker.id = call.locker.id)
    (found : (service.step (.release locker)).2.calls[ticket]? = some next) :
    next.line = Line.fresh.cut := by
  have soundAfter := sound.step (.release locker)
  have gone := ((sound.flagged (.release locker)).released call.locker.id).mpr
    (.inr ⟨locker, rfl, own⟩)
  have absent := soundAfter.ledger.absent_of_released gone call.key
  cases sound.moved_step pending found with
  | still =>
      have queued := soundAfter.queued_of_fresh found fresh
      exact absurd (.inr ⟨_, queued, rfl⟩) absent
  | granted _ holds => exact absurd (.inl ⟨_, holds, rfl⟩) absent
  | dropped => rfl

theorem Sound.cut_of_closed (sound : service.Sound)
    (pending : service.calls[ticket]? = some call) (fresh : call.line = .fresh)
    (found : (service.step .close).2.calls[ticket]? = some next) :
    next.line = Line.fresh.cut := by
  have serving := sound.ledger.serving_of_queued (sound.queued_of_fresh pending fresh)
  rw [sound.step_eq, Service.act, sound.calls_close serving pending, if_pos fresh] at found
  rw [← Option.some.inj found]

/-- A call returns what the event that ended its wait has decided, however long it takes. -/
theorem Sound.verdict_of_ended (sound : service.Sound)
    (pending : service.calls[ticket]? = some call) (fresh : call.line = .fresh) {middle : Call}
    (ended : (service.step event).2.calls[ticket]? = some middle)
    (ready : middle.line.isReady = true)
    (found : (service.run (event :: events)).2.calls[ticket]? = some next) :
    ((service.run (event :: events)).2.step (.wake ticket)).1 =
      .returned ticket (call.verdict event
        ((service.run (event :: events)).2.ledger.isReleased call.locker.id)) := by
  have soundAfter := sound.run (event :: events)
  have heard := (sound.step event).heard_of_ready ended ready
  obtain rfl := (sound.step event).eq_of_heard ended heard found
  obtain ⟨stage, stands⟩ := soundAfter.exists_stage found
  have returns := wake_of_stage found stands
  rw [soundAfter.step_eq, Service.act, returns]
  cases sound.moved_step pending ended with
  | still => exact absurd fresh heard
  | granted =>
      obtain rfl : Call.Stage.granted = stage := Call.Stage.eq_of_line_eq stands.line
      have uncut : Line.fresh.signal ≠ Line.fresh.cut := by decide
      rw [Call.verdict_eq_ok]
      · rfl
      · rintro locker rfl own
        exact uncut (sound.cut_of_released pending fresh own ended)
      · rintro rfl
        exact uncut (sound.cut_of_closed pending fresh ended)
  | dropped =>
      obtain rfl : Call.Stage.dropped = stage := Call.Stage.eq_of_line_eq stands.line
      rcases sound.cut_by pending fresh ended rfl with ⟨locker, rfl, own⟩ | rfl
      · have gone : (service.run (.release locker :: events)).2.ledger.isReleased
            call.locker.id = true :=
          (sound.step (.release locker)).isReleased_run
            (((sound.flagged (.release locker)).released _).mpr (.inr ⟨locker, rfl, own⟩)) events
        simp [Call.verdict, own, Call.Stage.outcome, gone]
      · rfl

/-! What each way leaves behind. -/

theorem Sound.giveUp_eq_wake (sound : service.Sound)
    (pending : service.calls[ticket]? = some call) (ready : call.line.isReady = true)
    (fired : service.hasFired call.handle = true) :
    service.step (.giveUp ticket) = service.step (.wake ticket) := by
  rw [sound.step_eq, sound.step_eq]
  exact sound.giveUp_of_not_waiting pending fired (sound.heard_of_ready pending ready)

theorem Sound.wake_of_signal (sound : service.Sound)
    (pending : service.calls[ticket]? = some call) (signal : call.line.poll.1 = .granted) :
    service.step (.wake ticket) =
        (.returned ticket .ok, { service with calls := service.calls.erase ticket }) ∧
      (service.ledger.isReleased call.locker.id = true ∨
        ∃ level, service.ledger.holds? call.locker.id call.key = some level ∧
          call.level ≤ level) := by
  rw [sound.step_eq, Service.act]
  cases sound.fate ticket call pending with
  | waiting line => rw [line] at signal; contradiction
  | granted line kept => exact ⟨wake_of_granted pending line, kept⟩
  | dropped line => rw [line] at signal; contradiction

theorem Sound.wake_of_disconnected (sound : service.Sound)
    (pending : service.calls[ticket]? = some call)
    (disconnected : call.line.poll.1 = .disconnected) :
    service.step (.wake ticket) = service.abandon ticket call ∧
      (service.ledger.isReleased call.locker.id = true ∨ service.ledger.closed = true) := by
  rw [sound.step_eq, Service.act]
  cases sound.fate ticket call pending with
  | waiting line => rw [line] at disconnected; contradiction
  | granted line => rw [line] at disconnected; contradiction
  | dropped line ended => exact ⟨wake_of_dropped pending line, ended⟩

/-- Whoever waits under the key of a call in the name of its locker waits for this very call. -/
theorem Sound.slot_of_locker (sound : service.Sound)
    (pending : service.calls[ticket]? = some call)
    (queued : waiter ∈ (service.ledger.resource call.key).queue)
    (owner : waiter.locker.id = call.locker.id) : waiter = call.waiter ticket := by
  have present : (service.ledger.resource call.key).isQueued call.locker.id = true :=
    isQueued_iff.mpr ⟨waiter, queued, owner⟩
  have own := (sound.queued_iff_waiting pending).mp present
  exact (sound.ledger.orderly call.key).waiter_unique queued own owner

theorem Sound.withdraw_own (sound : service.Sound)
    (pending : service.calls[ticket]? = some call) :
    ((service.ledger.resource call.key).withdraw call.locker.id).queue =
      (service.ledger.resource call.key).queue.filter (fun waiter => waiter.ticket != ticket) := by
  refine (eraseP_eq_filter (sound.ledger.orderly call.key).queue _).trans
    (List.filter_congr fun waiter queued => ?_)
  have same : waiter.locker.id = call.locker.id ↔ waiter.ticket = ticket := by
    constructor
    · intro owner
      rw [sound.slot_of_locker pending queued owner]
      rfl
    · intro mine
      obtain ⟨owner, found, _, _, slot⟩ := sound.owned call.key waiter queued
      rw [mine, pending] at found
      obtain rfl := Option.some.inj found
      rw [← slot]
      rfl
  rw [Bool.eq_iff_iff, bne_iff_ne, bne_iff_ne, Ne, Ne, same]

/-- A call that gives up takes nobody else out of a queue, unless to a lock. -/
theorem Sound.spared (sound : service.Sound) (queued : waiter ∈ (service.ledger.resource key).queue)
    (other : waiter.ticket ≠ ticket) :
    waiter ∈ ((service.step (.giveUp ticket)).2.ledger.resource key).queue ∨
      waiter.holding ∈ ((service.step (.giveUp ticket)).2.ledger.resource key).holdings := by
  have shift := sound.shift (.giveUp ticket) key
  generalize (service.step (.giveUp ticket)).2.ledger.resource key = after at shift ⊢
  cases shift with
  | still => exact .inl queued
  | asked made => contradiction
  | released made => contradiction
  | closed made => contradiction
  | @withdrawn mine call made pending here own =>
      obtain rfl := Event.giveUp.inj made
      subst here
      rcases leave_cases (sound.ledger.orderly call.key) call.locker.id sound.heard queued with
        ⟨owner, _⟩ | ⟨_, _, holds⟩ | ⟨_, stays⟩
      · rw [sound.slot_of_locker pending queued owner] at other
        exact absurd rfl other
      · exact .inr holds
      · exact .inl stays

/-- The two ways to return, seen from a service with calls under way. -/
structure WaysAgree (service : Service) : Prop where
  /-- If a call can return either way, it returns the same and leaves the same service behind. -/
  same : ∀ (ticket : Ticket) (call : Call), service.calls[ticket]? = some call →
    call.line.isReady = true → service.hasFired call.handle = true →
      service.step (.giveUp ticket) = service.step (.wake ticket)
  /-- A call that has been granted its request keeps what it holds, if its locker has not given it
  up since. -/
  granted : ∀ (ticket : Ticket) (call : Call), service.calls[ticket]? = some call →
    call.line.poll.1 = .granted →
      service.step (.wake ticket) =
          (.returned ticket .ok, { service with calls := service.calls.erase ticket }) ∧
        (service.ledger.isReleased call.locker.id = true ∨
          ∃ level, service.ledger.holds? call.locker.id call.key = some level ∧
            call.level ≤ level)
  released : ∀ (ticket : Ticket) (call : Call), service.calls[ticket]? = some call →
    call.line.poll.1 = .disconnected → service.ledger.isReleased call.locker.id = true →
      service.step (.wake ticket) =
        (.returned ticket (.refused (.releasedLocker call.locker.name)),
          { service with calls := service.calls.erase ticket })
  closed : ∀ (ticket : Ticket) (call : Call), service.calls[ticket]? = some call →
    call.line.poll.1 = .disconnected → service.ledger.isReleased call.locker.id = false →
      service.ledger.closed = true ∧
        service.step (.wake ticket) =
          (.returned ticket (.refused .closed),
            { service with
              ledger := service.ledger.strike call.locker.id call.key
              calls := service.calls.erase ticket })
  /-- Whatever happens between the end of the wait and the return does not matter, but that a
  locker can still be released after the service was closed. -/
  verdict : ∀ (ticket : Ticket) (call middle next : Call) (event : Event) (later : List Event),
    service.calls[ticket]? = some call → call.line.isReady = false →
      (service.step event).2.calls[ticket]? = some middle → middle.line.isReady = true →
        (service.run (event :: later)).2.calls[ticket]? = some next →
          ((service.run (event :: later)).2.step (.wake ticket)).1 =
            .returned ticket (call.verdict event
              ((service.run (event :: later)).2.ledger.isReleased call.locker.id))
  /-- To withdraw by the locker is to withdraw the one request of the call. -/
  own : ∀ (ticket : Ticket) (call : Call), service.calls[ticket]? = some call →
    ((service.ledger.resource call.key).withdraw call.locker.id).queue =
      (service.ledger.resource call.key).queue.filter (fun waiter => waiter.ticket != ticket)
  spared : ∀ (ticket : Ticket) (key : Key), ∀ waiter ∈ (service.ledger.resource key).queue,
    waiter.ticket ≠ ticket →
      waiter ∈ ((service.step (.giveUp ticket)).2.ledger.resource key).queue ∨
        waiter.holding ∈ ((service.step (.giveUp ticket)).2.ledger.resource key).holdings

/-- In every run, it makes no difference by which of the two ways a call returns. -/
theorem ways_to_return_agree (options : Ledger.Options) (events : List Event) :
    ((start options).run events).2.WaysAgree := by
  have sound := run_sound options events
  refine ⟨?_, ?_, ?_, ?_, ?_, ?_, ?_⟩
  · intro ticket call pending ready fired
    exact sound.giveUp_eq_wake pending ready fired
  · intro ticket call pending signal
    exact sound.wake_of_signal pending signal
  · intro ticket call pending disconnected gone
    rw [(sound.wake_of_disconnected pending disconnected).1, abandon,
      Ledger.abandon_of_released gone]
    rfl
  · intro ticket call pending disconnected present
    obtain ⟨woken, ended⟩ := sound.wake_of_disconnected pending disconnected
    refine ⟨ended.resolve_left (by simp [present]), ?_⟩
    rw [woken, abandon, Ledger.abandon_of_present present]
    rfl
  · intro ticket call middle next event later pending unready ended ready found
    have fresh : call.line = .fresh := by
      by_contra heard
      rw [(sound.fate ticket call pending).isReady_iff.mpr heard] at unready
      contradiction
    exact sound.verdict_of_ended pending fresh ended ready found
  · intro ticket call pending
    exact sound.withdraw_own pending
  · intro ticket key waiter queued other
    exact sound.spared queued other

end Service

end Locking
