import Locking.Proofs.Roster.Refinement
import Locking.Proofs.Service.Change

namespace Locking

/-!
What a queued call returns in the end, told by the roster alone: it is granted exactly if its member
has come to stand in the granted part of its roll at some time since.
-/

namespace Service

open Resource

variable {service : Service} {roster : Roster} {ticket : Ticket} {call next : Call} {event : Event}
  {events : List Event}

theorem Sound.signal_of_granted (sound : service.Sound) (tracks : roster.Tracks service.ledger)
    (pending : service.calls[ticket]? = some call)
    (granted : (call.waiter ticket).holding ∈ Roll.granted (roster.rolls call.key)) :
    call.line = Line.fresh.signal := by
  rw [tracks.rolls, granted_roll (sound.ledger.orderly _) (sound.ledger.settled _)] at granted
  have holds : service.ledger.holds? call.locker.id call.key = some call.level :=
    (sound.ledger.orderly call.key).holding?_eq granted rfl
  cases sound.fate ticket call pending with
  | waiting _ queued =>
      have nothing := sound.ledger.holds?_of_queued queued
      rw [show (call.waiter ticket).locker = call.locker from rfl, holds] at nothing
      contradiction
  | granted line => exact line
  | dropped _ _ nothing =>
      rw [holds] at nothing
      contradiction

end Service

namespace Roster

theorem after_append (roster : Roster) (first second : List Deed) :
    roster.after (first ++ second) = (roster.after first).after second := by
  induction first generalizing roster with
  | nil => rfl
  | cons deed rest ih => exact ih (roster.step deed).2

/-- Why a call returns without its lock: it was cancelled while it waited, or it no longer waits. -/
def refusal (roster : Roster) (call : Call) : Refusal :=
  if Roll.names call.locker.id (Roll.waiting (roster.rolls call.key)) then .cancelled call.key
  else if roster.released call.locker.id then .releasedLocker call.locker.name
  else .closed

/-- The member has stood in the granted part of its roll after some of these events. -/
def Grants (roster : Roster) (service : Service) (events : List Event) (key : Key)
    (member : Holding) : Prop :=
  ∃ earlier later, events = earlier ++ later ∧
    member ∈ Roll.granted ((roster.after (service.deeds earlier)).rolls key)

end Roster

namespace Service

open Resource

variable {service : Service} {roster : Roster} {ticket : Ticket} {call next : Call} {event : Event}
  {events : List Event}

theorem Sound.grants_of_signal (sound : service.Sound) (tracks : roster.Tracks service.ledger)
    (pending : service.calls[ticket]? = some call) (fresh : call.line = .fresh)
    (found : (service.run events).2.calls[ticket]? = some next)
    (signal : next.line = Line.fresh.signal) :
    roster.Grants service events call.key (call.waiter ticket).holding := by
  induction events generalizing service roster call with
  | nil =>
      obtain rfl := Option.some.inj (found.symm.trans pending)
      rw [fresh] at signal
      contradiction
  | cons event rest ih =>
      have tracksAfter := sound.run_tracks tracks [event]
      obtain ⟨middle, here, moved⟩ := sound.moved pending found
      cases moved with
      | still =>
          obtain ⟨earlier, later, rfl, granted⟩ :=
            ih (sound.step event) tracksAfter here fresh found
          refine ⟨event :: earlier, later, rfl, ?_⟩
          rw [← Roster.after_append] at granted
          simpa [deeds] using granted
      | granted _ holds =>
          refine ⟨[event], rest, rfl, ?_⟩
          have soundAfter := (sound.step event).ledger
          rw [tracksAfter.rolls, show (service.run [event]).2 = (service.step event).2 from rfl,
            granted_roll (soundAfter.orderly _) (soundAfter.settled _)]
          exact holds
      | dropped =>
          have same := (sound.step event).eq_of_heard here
            (show Line.fresh.cut ≠ Line.fresh by decide) found
          rw [same] at signal
          change Line.fresh.cut = Line.fresh.signal at signal
          contradiction

theorem Sound.signal_iff (sound : service.Sound) (tracks : roster.Tracks service.ledger)
    (pending : service.calls[ticket]? = some call) (fresh : call.line = .fresh)
    (found : (service.run events).2.calls[ticket]? = some next) :
    next.line = Line.fresh.signal ↔
      roster.Grants service events call.key (call.waiter ticket).holding := by
  constructor
  · intro signal
    exact sound.grants_of_signal tracks pending fresh found signal
  · intro grants
    obtain ⟨earlier, later, rfl, granted⟩ := grants
    rw [run_append] at found
    obtain ⟨middle, here, same⟩ := sound.pending_between pending earlier later found
    obtain ⟨sameLocker, sameKey, sameLevel, _⟩ := Event.lock.inj same
    have signal : middle.line = Line.fresh.signal := by
      refine (sound.run earlier).signal_of_granted (sound.run_tracks tracks earlier) here ?_
      rw [Call.waiter, sameLocker, sameLevel, sameKey]
      exact granted
    rw [(sound.run earlier).eq_of_heard here (by rw [signal]; decide) found]
    exact signal

/-- A call that has waited and returns without its lock is refused for the reason on the roster. -/
theorem Sound.refused_of_ungranted (sound : service.Sound)
    (tracks : roster.Tracks service.ledger) (pending : service.calls[ticket]? = some call)
    {stage : Call.Stage} (stands : call.In service.ledger ticket stage)
    (ungranted : stage ≠ .granted) :
    stage.outcome service.ledger call = .refused (roster.refusal call) := by
  have named : Roll.names call.locker.id (Roll.waiting (roster.rolls call.key)) =
      (service.ledger.resource call.key).isQueued call.locker.id := by
    rw [tracks.rolls, waiting_roll (sound.ledger.orderly _) (sound.ledger.settled _), names_queue]
  simp only [Roster.refusal, named, tracks.released]
  cases stage with
  | waiting =>
      rw [if_pos ((sound.queued_iff_waiting pending).mpr stands.queued)]
      rfl
  | granted => exact absurd rfl ungranted
  | dropped =>
      have heard : call.line ≠ .fresh := by
        rw [stands.line]
        decide
      have unqueued : ¬ (service.ledger.resource call.key).isQueued call.locker.id = true := by
        rw [sound.queued_iff_waiting pending]
        exact fun queued => heard (sound.fresh_of_queued pending queued)
      rw [if_neg unqueued]
      rfl

theorem Sound.returned_of_roster (sound : service.Sound) (tracks : roster.Tracks service.ledger)
    (pending : service.calls[ticket]? = some call) (fresh : call.line = .fresh)
    (found : (service.run events).2.calls[ticket]? = some next) {outcome : Outcome}
    (returns : ((service.run events).2.step event).1 = .returned ticket outcome) :
    roster.Grants service events call.key ⟨call.locker, call.level⟩ ∧ outcome = .ok ∨
      ¬ roster.Grants service events call.key ⟨call.locker, call.level⟩ ∧
        outcome = .refused ((roster.after (service.deeds events)).refusal call) := by
  have soundAfter := sound.run events
  have signal := sound.signal_iff tracks pending fresh found
  obtain ⟨stage, stands⟩ := soundAfter.exists_stage found
  obtain ⟨_, rfl⟩ := (soundAfter.returned_iff found stands event outcome).mp returns
  by_cases granted : stage = .granted
  · subst granted
    exact .inl ⟨signal.mp stands.line, rfl⟩
  · refine .inr ⟨fun grants => granted ?_, ?_⟩
    · exact Call.Stage.eq_of_line_eq (stands.line.symm.trans (signal.mpr grants))
    · have refused := soundAfter.refused_of_ungranted (sound.run_tracks tracks events) found
        stands granted
      obtain ⟨middle, here, same⟩ := sound.pending_between pending events [] found
      obtain rfl := Option.some.inj (here.symm.trans found)
      obtain ⟨sameLocker, sameKey, _⟩ := Event.lock.inj same
      simpa only [Roster.refusal, sameLocker, sameKey] using refused

/-- The service in the words of the roster. -/
structure Refines (service : Service) (roster : Roster) : Prop where
  holdings : ∀ key, (service.ledger.resource key).holdings = Roll.granted (roster.rolls key)
  queue : ∀ key, (service.ledger.resource key).queue.map Waiter.holding =
    Roll.waiting (roster.rolls key)
  entries : ∀ key, key ∈ service.ledger.resources ↔ roster.rolls key ≠ []
  released : ∀ id, service.ledger.isReleased id = roster.released id
  closed : service.ledger.closed = roster.closed
  /-- Whatever happens next is answered as the roster answers it. -/
  answered : ∀ event deed, service.deed? event = some deed →
    (service.step event).1.Agrees (roster.step deed).1
  /-- A call that waits now returns with its lock just if the roster has granted it by then. -/
  returned : ∀ (ticket : Ticket) (call next : Call) (events : List Event) (event : Event)
    (outcome : Outcome), service.calls[ticket]? = some call → call.line = .fresh →
      (service.run events).2.calls[ticket]? = some next →
      ((service.run events).2.step event).1 = .returned ticket outcome →
        roster.Grants service events call.key ⟨call.locker, call.level⟩ ∧ outcome = .ok ∨
          ¬ roster.Grants service events call.key ⟨call.locker, call.level⟩ ∧
            outcome = .refused ((roster.after (service.deeds events)).refusal call)

/-- Every run of the service does what its deeds do to an empty roster. -/
theorem run_refines_roster (options : Ledger.Options) (events : List Event) :
    ((start options).run events).2.Refines (Roster.empty.after ((start options).deeds events)) := by
  have sound := run_sound options events
  have tracks := (start_sound options).run_tracks (start_tracks options) events
  refine ⟨?_, ?_, ?_, ?_, ?_, ?_, ?_⟩
  · intro key
    rw [tracks.rolls, granted_roll (sound.ledger.orderly key) (sound.ledger.settled key)]
  · intro key
    rw [tracks.rolls, waiting_roll (sound.ledger.orderly key) (sound.ledger.settled key)]
  · intro key
    rw [tracks.rolls, Ne, roll_eq_nil_iff, sound.ledger.mem_resources_iff, Bool.not_eq_true]
  · intro id
    exact (tracks.released id).symm
  · exact tracks.closed.symm
  · intro event deed known
    have simulates := sound.simulates tracks event
    rw [Simulates, known] at simulates
    exact simulates.1
  · intro ticket call next later event outcome pending fresh found returns
    exact sound.returned_of_roster tracks pending fresh found returns

end Service

end Locking
