import Locking.Proofs.Roster.Roll
import Locking.Proofs.Service.Fate

namespace Locking

/-!
The service does what the roster does. Its events are deeds done to a roster, but for those by which
calls look at their lines or handles fire; after each of them the two agree on who holds and who
waits, in which order, and on what is answered.
-/

/-- The roster and the ledger record the same. -/
structure Roster.Tracks (roster : Roster) (ledger : Ledger) : Prop where
  rolls : ∀ key, roster.rolls key = (ledger.resource key).roll
  released : ∀ id, roster.released id = ledger.isReleased id
  closed : roster.closed = ledger.closed

/-- An answer of the service says what the roster says. -/
inductive Answer.Agrees : Answer → Verdict → Prop
  | granted (ticket : Ticket) : Agrees (.returned ticket .ok) .granted
  | refused (ticket : Ticket) (refusal : Refusal) :
      Agrees (.returned ticket (.refused refusal)) (.refused refusal)
  | queued (ticket : Ticket) (place : Nat) : Agrees (.waiting ticket place) (.queued place)
  | released : Agrees (.released .ok) .done
  | releasedBefore (refusal : Refusal) :
      Agrees (.released (.refused refusal)) (.refused refusal)
  | closed : Agrees .done .done
  /-- A call that comes too late with its cancellation returns for some other reason. -/
  | late (ticket : Ticket) (outcome : Outcome)
      (uncancelled : ∀ key, outcome ≠ .refused (.cancelled key)) :
      Agrees (.returned ticket outcome) .late

namespace Service

open Resource

/-- What an event does to a roster. A call that gives up takes back the request of its locker. -/
def deed? (service : Service) : Event → Option Deed
  | .lock locker key level _ => some (.request locker key level)
  | .release locker => some (.release locker)
  | .close => some .close
  | .giveUp ticket =>
      match service.calls[ticket]? with
      | some call =>
          if service.hasFired call.handle then some (.cancel call.locker.id call.key) else none
      | none => none
  | .wake _ | .cancellation _ => none

def deeds (service : Service) : List Event → List Deed
  | [] => []
  | event :: rest => (service.deed? event).toList ++ (service.step event).2.deeds rest

variable {service : Service} {roster : Roster} {ticket : Ticket} {call : Call} {locker : Locker}
  {key : Key} {level : Level} {handle : Handle} {event : Event} {deed : Deed}

/-- The deed of an event, if it has one, is answered alike and has the same effect. -/
def Simulates (service : Service) (roster : Roster) (event : Event) (result : Answer × Service) :
    Prop :=
  match service.deed? event with
  | none => roster.Tracks result.2.ledger
  | some deed =>
      result.1.Agrees (roster.step deed).1 ∧ (roster.step deed).2.Tracks result.2.ledger

theorem tracks_put {after : Resource} (tracks : roster.Tracks service.ledger) :
    ({ roster with rolls := Function.update roster.rolls key after.roll } : Roster).Tracks
      ((service.ledger.put key after).note locker.id key) where
  rolls other := by
    rw [Ledger.resource_note, Ledger.resource_put]
    dsimp only
    rw [Function.update_apply]
    by_cases same : other = key
    · simp [same]
    · simp [same, Ne.symm same, tracks.rolls]
  released id := by
    rw [Ledger.isReleased_note, Ledger.isReleased_put]
    exact tracks.released id
  closed := tracks.closed.trans (Ledger.closed_put _ _ _).symm

theorem Sound.lock_simulates (sound : service.Sound) (tracks : roster.Tracks service.ledger)
    (locker : Locker) (key : Key) (level : Level) (handle : Handle) :
    service.Simulates roster (.lock locker key level handle)
      (service.lock locker key level handle) := by
  have same := request_roll (sound.ledger.orderly key) (sound.ledger.settled key) key locker level
    service.nextTicket
  rw [← tracks.rolls key] at same
  have unreleased (present : service.ledger.isReleased locker.id = false) :
      ¬ roster.released locker.id = true := by
    rw [tracks.released, present]
    exact Bool.false_ne_true
  have unclosed (serving : service.ledger.closed = false) : ¬ roster.closed = true := by
    rw [tracks.closed, serving]
    exact Bool.false_ne_true
  have done := sound.locked locker key level handle
  simp only [Simulates, deed?, Roster.step]
  generalize service.lock locker key level handle = result at done ⊢
  cases done with
  | released gone =>
      rw [if_pos ((tracks.released _).trans gone)]
      exact ⟨.refused _ _, tracks⟩
  | closed present shut =>
      rw [if_neg (unreleased present), if_pos (tracks.closed.trans shut)]
      exact ⟨.refused _ _, tracks⟩
  | refused present serving asked =>
      rw [asked] at same
      rw [if_neg (unreleased present), if_neg (unclosed serving), same]
      refine ⟨.refused _ _, ?_⟩
      dsimp only
      rw [Function.update_eq_self]
      exact tracks
  | granted present serving asked =>
      rw [asked] at same
      rw [if_neg (unreleased present), if_neg (unclosed serving), same]
      exact ⟨.granted _, tracks_put tracks⟩
  | queued present serving asked =>
      rw [asked] at same
      rw [if_neg (unreleased present), if_neg (unclosed serving), same]
      exact ⟨.queued _ _, tracks_put tracks⟩

theorem wake_tracks (tracks : roster.Tracks service.ledger) (ticket : Ticket) :
    roster.Tracks (service.wake ticket).2.ledger := by
  obtain ⟨resource, released, closed⟩ := wake_frame service ticket
  exact ⟨fun key => by rw [resource]; exact tracks.rolls key,
    fun id => by rw [released]; exact tracks.released id, by rw [closed]; exact tracks.closed⟩

theorem Sound.withdrawn_tracks (sound : service.Sound) (tracks : roster.Tracks service.ledger)
    (call : Call) :
    ({ roster with
        rolls := Function.update roster.rolls call.key
          (Roll.without call.locker.id (roster.rolls call.key)) } : Roster).Tracks
      (service.withdrawn call).ledger where
  rolls other := by
    have left := service.ledger.left_withdrawn service.listening call.locker.id call.key
    rw [ledger_withdrawn, left.resource]
    dsimp only
    rw [Function.update_apply]
    by_cases same : other = call.key
    · rw [if_pos same, same, if_pos (List.mem_singleton.mpr rfl), 
        leave_roll (sound.ledger.orderly call.key) sound.heard, tracks.rolls]
    · rw [if_neg same, if_neg (fun member => same (List.mem_singleton.mp member)), tracks.rolls]
  released id := by
    rw [ledger_withdrawn, Ledger.isReleased_withdrawn]
    exact tracks.released id
  closed := by
    rw [ledger_withdrawn, Ledger.closed_withdrawn]
    exact tracks.closed

theorem Sound.giveUp_simulates (sound : service.Sound) (tracks : roster.Tracks service.ledger)
    (ticket : Ticket) :
    service.Simulates roster (.giveUp ticket) (service.giveUp ticket) := by
  have waits {call : Call} (pending : service.calls[ticket]? = some call) :
      Roll.names call.locker.id (Roll.waiting (roster.rolls call.key)) = true ↔
        call.waiter ticket ∈ (service.ledger.resource call.key).queue := by
    rw [tracks.rolls, waiting_roll (sound.ledger.orderly _) (sound.ledger.settled _), names_queue,
      sound.queued_iff_waiting pending]
  have done := sound.gaveUp ticket
  simp only [Simulates]
  generalize service.giveUp ticket = result at done ⊢
  cases done with
  | impossible unfired =>
      cases pending : service.calls[ticket]? with
      | none => simpa only [deed?, pending] using tracks
      | some call =>
          simp only [deed?, pending, unfired call pending, Bool.false_eq_true, if_false]
          exact tracks
  | @inTime call pending fired queued =>
      simp only [deed?, pending, fired, if_true, Roster.step]
      rw [if_pos ((waits pending).mpr queued)]
      exact ⟨.refused _ _, sound.withdrawn_tracks tracks call⟩
  | @late call pending fired heard =>
      have unqueued : ¬ call.waiter ticket ∈ (service.ledger.resource call.key).queue :=
        fun queued => heard (sound.fresh_of_queued pending queued)
      obtain ⟨stage, stands⟩ := sound.exists_stage pending
      have informed : stage ≠ .waiting := by
        intro waiting
        subst waiting
        exact heard stands.line
      simp only [deed?, pending, fired, if_true, Roster.step]
      rw [if_neg (fun named => unqueued ((waits pending).mp named)), wake_of_stage pending stands,
        if_neg informed]
      refine ⟨.late _ _ ?_, wake_tracks tracks ticket⟩
      intro key cancelled
      cases stage with
      | waiting => exact informed rfl
      | granted => contradiction
      | dropped =>
          simp only [Call.Stage.outcome, Outcome.refused.injEq] at cancelled
          split at cancelled <;> contradiction

theorem Sound.release_simulates (sound : service.Sound) (tracks : roster.Tracks service.ledger)
    (locker : Locker) :
    service.Simulates roster (.release locker) (service.release locker) := by
  have done := sound.freed locker
  simp only [Simulates, deed?, Roster.step, tracks.released]
  generalize service.release locker = result at done ⊢
  cases done with
  | before gone =>
      rw [if_pos gone]
      exact ⟨.releasedBefore _, tracks⟩
  | now present released =>
      rw [present, if_neg Bool.false_ne_true]
      refine ⟨.released, ?_, ?_, ?_⟩
      · intro key
        rw [ledger_notifyAll, released.everywhere,
          leave_roll (sound.ledger.orderly key) sound.heard, ← tracks.rolls]
      · intro id
        rw [ledger_notifyAll, Bool.eq_iff_iff, released.isReleased_iff]
        dsimp only
        rw [Function.update_apply]
        by_cases same : id = locker.id
        · simp [same]
        · simp [same, tracks.released]
      · rw [ledger_notifyAll, released.closed]
        exact tracks.closed

theorem Sound.close_simulates (sound : service.Sound) (tracks : roster.Tracks service.ledger) :
    service.Simulates roster .close service.close := by
  have granted (key : Key) : Roll.granted (roster.rolls key) =
      (service.ledger.resource key).holdings := by
    rw [tracks.rolls, granted_roll (sound.ledger.orderly key) (sound.ledger.settled key)]
  simp only [Simulates, deed?, Roster.step, Service.close, ledger_notifyAll]
  refine ⟨.closed, fun key => ?_, fun id => ?_, ?_⟩
  · dsimp only
    rw [granted]
    cases serving : service.ledger.closed with
    | true =>
        rw [Ledger.close_of_closed serving, roll, sound.ledger.silent serving, List.map_nil,
          List.append_nil]
    | false => rw [Ledger.resource_close serving, disperse_roll]
  · rw [Ledger.isReleased_close]
    exact tracks.released id
  · exact (Ledger.closed_close _).symm

theorem Sound.simulates (sound : service.Sound) (tracks : roster.Tracks service.ledger)
    (event : Event) : service.Simulates roster event (service.step event) := by
  rw [sound.step_eq]
  cases event with
  | lock locker key level handle => exact sound.lock_simulates tracks locker key level handle
  | wake ticket => exact wake_tracks tracks ticket
  | giveUp ticket => exact sound.giveUp_simulates tracks ticket
  | release locker => exact sound.release_simulates tracks locker
  | close => exact sound.close_simulates tracks
  | cancellation step => exact tracks

theorem start_tracks (options : Ledger.Options) : Roster.empty.Tracks (start options).ledger where
  rolls key := by simp [Roster.empty, start, roll, vacant]
  released id := by simp [Roster.empty, start, Ledger.isReleased, Standing.fresh]
  closed := rfl

theorem Sound.run_tracks (sound : service.Sound) (tracks : roster.Tracks service.ledger)
    (events : List Event) :
    (roster.after (service.deeds events)).Tracks (service.run events).2.ledger := by
  induction events generalizing service roster with
  | nil => exact tracks
  | cons event rest ih =>
      have simulates := sound.simulates tracks event
      simp only [Simulates] at simulates
      simp only [deeds, Service.run]
      cases known : service.deed? event with
      | none =>
          rw [known] at simulates
          exact ih (sound.step event) simulates
      | some deed =>
          rw [known] at simulates
          exact ih (sound.step event) simulates.2

end Service

end Locking
