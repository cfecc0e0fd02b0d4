import Locking.Proofs.Resource.Renumbering
import Locking.Proofs.Service.Pending

namespace Locking

/-!
What one event changes: in the resource under a key, in what is known of a locker and of the service
as a whole, in the numbering of calls, and in a call that is still pending after it.
-/

/-- What an event does to a call that is still pending after it. -/
inductive Call.Moved (ledger : Ledger) (ticket : Ticket) (call : Call) : Call → Prop
  | still : Moved ledger ticket call call
  | granted (line : call.line = .fresh)
      (holds : (call.waiter ticket).holding ∈ (ledger.resource call.key).holdings) :
      Moved ledger ticket call { call with line := Line.fresh.signal }
  | dropped (line : call.line = .fresh) :
      Moved ledger ticket call { call with line := Line.fresh.cut }

/-- What is left of the board after an event. -/
def Event.onBoard (board : Board) : Event → Board
  | .cancellation step => board.step step
  | _ => board

namespace Service

open Resource

/-- What an event makes of the resource under a key. -/
inductive Shift (service : Service) (event : Event) (key : Key) : Resource → Prop
  | still : Shift service event key (service.ledger.resource key)
  | asked {locker : Locker} {level : Level} {handle : Handle} {reply : Reply} {after : Resource}
      (made : event = .lock locker key level handle)
      (present : service.ledger.isReleased locker.id = false)
      (serving : service.ledger.closed = false)
      (accepted : (service.ledger.resource key).request key locker level service.nextTicket =
        .ok (reply, after)) :
      Shift service event key after
  | released {locker : Locker} (made : event = .release locker)
      (present : service.ledger.isReleased locker.id = false) :
      Shift service event key ((service.ledger.resource key).leave service.listening locker.id)
  | withdrawn {ticket : Ticket} {call : Call} (made : event = .giveUp ticket)
      (pending : service.calls[ticket]? = some call) (here : call.key = key)
      (queued : call.waiter ticket ∈ (service.ledger.resource key).queue) :
      Shift service event key
        ((service.ledger.resource key).leave service.listening call.locker.id)
  | closed (made : event = .close) (serving : service.ledger.closed = false) :
      Shift service event key (service.ledger.resource key).disperse

variable {service : Service} {ticket : Ticket} {call next : Call} {event : Event}
  {events : List Event} {key : Key} {id : LockerId} {locker : Locker} {level : Level}
  {handle : Handle}

theorem Sound.lock_shift (sound : service.Sound) (locker : Locker) (key : Key) (level : Level)
    (handle : Handle) (other : Key) :
    Shift service (.lock locker key level handle) other
      ((service.lock locker key level handle).2.ledger.resource other) := by
  have accepted {reply : Reply} {resource : Resource}
      (present : service.ledger.isReleased locker.id = false)
      (serving : service.ledger.closed = false)
      (asked : (service.ledger.resource key).request key locker level service.nextTicket =
        .ok (reply, resource)) :
      Shift service (.lock locker key level handle) other
        (((service.ledger.put key resource).note locker.id key).resource other) := by
    rw [Ledger.resource_note, Ledger.resource_put]
    split
    · rename_i same
      subst same
      exact .asked rfl present serving asked
    · exact .still
  have done := sound.locked locker key level handle
  generalize service.lock locker key level handle = result at done
  cases done with
  | released => exact .still
  | closed => exact .still
  | refused => exact .still
  | granted present serving asked => exact accepted present serving asked
  | queued present serving asked => exact accepted present serving asked

theorem Sound.giveUp_shift (sound : service.Sound) (ticket : Ticket) (key : Key) :
    Shift service (.giveUp ticket) key ((service.giveUp ticket).2.ledger.resource key) := by
  have done := sound.gaveUp ticket
  generalize service.giveUp ticket = result at done
  cases done with
  | impossible => exact .still
  | @inTime call pending _ queued =>
      change Shift service (.giveUp ticket) key ((service.withdrawn call).ledger.resource key)
      rw [ledger_withdrawn,
        (service.ledger.left_withdrawn service.listening call.locker.id call.key).resource key]
      split
      · rename_i visited
        obtain rfl := List.mem_singleton.mp visited
        exact .withdrawn rfl pending rfl queued
      · exact .still
  | late =>
      rw [(wake_frame service ticket).1]
      exact .still

theorem Sound.shift (sound : service.Sound) (event : Event) (key : Key) :
    Shift service event key ((service.step event).2.ledger.resource key) := by
  rw [sound.step_eq]
  cases event with
  | lock locker asked level handle => exact sound.lock_shift locker asked level handle key
  | wake ticket =>
      rw [Service.act, (wake_frame service ticket).1]
      exact .still
  | giveUp ticket => exact sound.giveUp_shift ticket key
  | release locker =>
      have done := sound.freed locker
      simp only [Service.act]
      generalize service.release locker = result at done
      cases done with
      | before => exact .still
      | now present released =>
          rw [ledger_notifyAll, released.everywhere]
          exact .released rfl present
  | close =>
      rw [Service.act, ledger_close]
      cases serving : service.ledger.closed with
      | true =>
          rw [Ledger.close_of_closed serving]
          exact .still
      | false =>
          rw [Ledger.resource_close serving]
          exact .closed rfl serving
  | cancellation step => exact .still

/-! What is known of a locker, and of the service. -/

/-- Which lockers have been released and whether the service is closed, after an event. -/
structure Flagged (service : Service) (event : Event) (after : Ledger) : Prop where
  released : ∀ id, after.isReleased id = true ↔
    service.ledger.isReleased id = true ∨ ∃ locker, event = .release locker ∧ locker.id = id
  closed : after.closed = true ↔ service.ledger.closed = true ∨ event = .close

theorem Sound.flagged (sound : service.Sound) (event : Event) :
    service.Flagged event (service.step event).2.ledger := by
  have unmoved {event : Event} {after : Ledger} (unreleased : ∀ locker, event ≠ .release locker)
      (unclosed : event ≠ .close)
      (released : ∀ id, after.isReleased id = service.ledger.isReleased id)
      (closed : after.closed = service.ledger.closed) : service.Flagged event after := by
    refine ⟨fun id => ?_, ?_⟩
    · simp [released, unreleased]
    · simp [closed, unclosed]
  have woken (ticket : Ticket) {event : Event} (unreleased : ∀ locker, event ≠ .release locker)
      (unclosed : event ≠ .close) : service.Flagged event (service.wake ticket).2.ledger :=
    unmoved unreleased unclosed (wake_frame service ticket).2.1 (wake_frame service ticket).2.2
  rw [sound.step_eq]
  cases event with
  | lock locker key level handle =>
      have accepted (resource : Resource) : service.Flagged (.lock locker key level handle)
          ((service.ledger.put key resource).note locker.id key) := by
        refine unmoved (by simp) (by simp) (fun id => ?_) (Ledger.closed_put _ _ _)
        rw [Ledger.isReleased_note, Ledger.isReleased_put]
      have done := sound.locked locker key level handle
      simp only [Service.act]
      generalize service.lock locker key level handle = result at done
      cases done with
      | released => exact unmoved (by simp) (by simp) (fun _ => rfl) rfl
      | closed => exact unmoved (by simp) (by simp) (fun _ => rfl) rfl
      | refused => exact unmoved (by simp) (by simp) (fun _ => rfl) rfl
      | granted => exact accepted _
      | queued => exact accepted _
  | wake ticket => exact woken ticket (by simp) (by simp)
  | giveUp ticket =>
      have done := sound.gaveUp ticket
      simp only [Service.act]
      generalize service.giveUp ticket = result at done
      cases done with
      | impossible => exact unmoved (by simp) (by simp) (fun _ => rfl) rfl
      | @inTime call =>
          change service.Flagged (.giveUp ticket) (service.withdrawn call).ledger
          rw [ledger_withdrawn]
          exact unmoved (by simp) (by simp) (fun _ => Ledger.isReleased_withdrawn _ _ _ _ _)
            (Ledger.closed_withdrawn _ _ _ _)
      | late => exact woken ticket (by simp) (by simp)
  | release locker =>
      have done := sound.freed locker
      simp only [Service.act]
      generalize service.release locker = result at done
      cases done with
      | before gone =>
          refine ⟨fun id => ⟨.inl, fun known => ?_⟩, by simp⟩
          rcases known with known | ⟨_, made, rfl⟩
          · exact known
          · obtain rfl := Event.release.inj made
            exact gone
      | now _ released =>
          rw [ledger_notifyAll]
          refine ⟨fun id => ?_, by simp [released.closed]⟩
          rw [released.isReleased_iff, or_comm, eq_comm (a := id)]
          simp
  | close =>
      rw [Service.act, ledger_close]
      exact ⟨fun id => by simp, by simp⟩
  | cancellation step => exact unmoved (by simp) (by simp) (fun _ => rfl) rfl

/-- Whoever has been released stays so. -/
theorem Sound.isReleased_run (sound : service.Sound)
    (gone : service.ledger.isReleased id = true) (events : List Event) :
    (service.run events).2.ledger.isReleased id = true := by
  induction events generalizing service with
  | nil => exact gone
  | cons event rest ih =>
      exact ih (sound.step event) (((sound.flagged event).released id).mpr (.inl gone))

/-! The numbering of calls, and the board. -/

@[simp] theorem board_notifyAll (service : Service) (notices : List Notice) :
    (service.notifyAll notices).board = service.board := by
  induction notices generalizing service with
  | nil => rfl
  | cons notice rest ih => exact ih (service.notify notice)

theorem wake_clerical (service : Service) (ticket : Ticket) :
    (service.wake ticket).2.nextTicket = service.nextTicket ∧
      (service.wake ticket).2.board = service.board := by
  unfold wake
  split
  · exact ⟨rfl, rfl⟩
  · split <;> exact ⟨rfl, rfl⟩

theorem giveUp_clerical (service : Service) (ticket : Ticket) :
    (service.giveUp ticket).2.nextTicket = service.nextTicket ∧
      (service.giveUp ticket).2.board = service.board := by
  unfold giveUp
  split
  · exact ⟨rfl, rfl⟩
  · split
    · split
      · exact ⟨nextTicket_notifyAll _ _, board_notifyAll _ _⟩
      · split <;> exact ⟨rfl, rfl⟩
    · exact ⟨rfl, rfl⟩

/-- Only a lock call uses up a number, and only what happens to handles touches the board. -/
theorem Sound.clerical (sound : service.Sound) (event : Event) :
    (service.step event).2.nextTicket = service.nextTicket + event.lockKey?.toList.length ∧
      (service.step event).2.board = event.onBoard service.board := by
  rw [sound.step_eq]
  cases event with
  | lock locker key level handle =>
      have done := sound.locked locker key level handle
      simp only [Service.act]
      generalize service.lock locker key level handle = result at done
      cases done <;> exact ⟨rfl, rfl⟩
  | wake ticket => exact service.wake_clerical ticket
  | giveUp ticket => exact service.giveUp_clerical ticket
  | release locker => exact ⟨nextTicket_notifyAll _ _, board_notifyAll _ _⟩
  | close => exact ⟨nextTicket_notifyAll _ _, board_notifyAll _ _⟩
  | cancellation step => exact ⟨rfl, rfl⟩

/-! A call that is still pending. -/

theorem Sound.moved_of_left {after : Ledger} {id : LockerId} {keys : List Key}
    {notices : List Notice} (sound : service.Sound)
    (left : Ledger.Left service.listening id keys service.ledger after notices)
    (pending : service.calls[ticket]? = some call)
    (found : (({ service with ledger := after } : Service).notifyAll notices).calls[ticket]? =
      some next) :
    call.Moved after ticket next := by
  obtain ⟨same, here, turn⟩ := sound.turn left pending
  obtain rfl := Option.some.inj (here.symm.trans found)
  cases turn with
  | untouched => exact .still
  | stays => exact .still
  | dropped line => exact .dropped line
  | granted line _ holds => exact .granted line holds

theorem calls_wake {other : Ticket} (found : (service.wake other).2.calls[ticket]? = some next) :
    service.calls[ticket]? = some next := by
  unfold wake at found
  split at found
  · exact found
  · split at found
    · exact (pending_of_finish found).2
    · exact (pending_of_finish found).2
    · exact found

theorem Sound.moved_of_act (sound : service.Sound) (pending : service.calls[ticket]? = some call)
    (found : (service.act event).2.calls[ticket]? = some next) :
    call.Moved (service.act event).2.ledger ticket next := by
  have unmoved {ledger : Ledger} (found : service.calls[ticket]? = some next) :
      call.Moved ledger ticket next := by
    obtain rfl := Option.some.inj (pending.symm.trans found)
    exact .still
  cases event with
  | lock locker key level handle =>
      have different : service.nextTicket ≠ ticket :=
        Nat.ne_of_gt (sound.numbered ticket call pending)
      have done := sound.locked locker key level handle
      simp only [Service.act] at found ⊢
      generalize service.lock locker key level handle = result at done found ⊢
      cases done with
      | released => exact unmoved found
      | closed => exact unmoved found
      | refused => exact unmoved found
      | granted => exact unmoved found
      | queued => exact unmoved (by simpa [Std.ExtTreeMap.getElem?_insert, different] using found)
  | wake other => exact unmoved (calls_wake found)
  | giveUp other =>
      have done := sound.gaveUp other
      simp only [Service.act] at found ⊢
      generalize service.giveUp other = result at done found ⊢
      cases done with
      | impossible => exact unmoved found
      | @inTime caller =>
          have left := service.ledger.left_withdrawn service.listening caller.locker.id caller.key
          have moved := sound.moved_of_left left pending (pending_of_finish found).2
          change call.Moved (service.withdrawn caller).ledger ticket next
          rwa [ledger_withdrawn]
      | late => exact unmoved (calls_wake found)
  | release locker =>
      have done := sound.freed locker
      simp only [Service.act] at found ⊢
      generalize service.release locker = result at done found ⊢
      cases done with
      | before => exact unmoved found
      | now _ released =>
          rw [ledger_notifyAll]
          exact sound.moved_of_left released.left pending found
  | close =>
      simp only [Service.act] at found ⊢
      cases serving : service.ledger.closed with
      | true => exact unmoved (by rwa [close_of_closed serving] at found)
      | false =>
          rw [sound.calls_close serving pending] at found
          obtain rfl := Option.some.inj found
          split
          · exact .dropped ‹_›
          · exact .still
  | cancellation step => exact unmoved found

theorem Sound.moved_step (sound : service.Sound) (pending : service.calls[ticket]? = some call)
    (found : (service.step event).2.calls[ticket]? = some next) :
    call.Moved (service.step event).2.ledger ticket next := by
  rw [sound.step_eq] at found ⊢
  exact sound.moved_of_act pending found

/-- A release takes no request away but those of its locker. -/
theorem Sound.call_of_release (sound : service.Sound)
    (pending : service.calls[ticket]? = some call) (other : call.line = .fresh → locker.id ≠ call.locker.id) :
    ∃ next, (service.step (.release locker)).2.calls[ticket]? = some next ∧
      next.request = call.request ∧ (call.line ≠ Line.fresh.cut → next.line ≠ Line.fresh.cut) := by
  have done := sound.freed locker
  rw [sound.step_eq, Service.act]
  generalize service.release locker = result at done
  cases done with
  | before => exact ⟨call, pending, rfl, id⟩
  | now _ released =>
      obtain ⟨next, found, turn⟩ := sound.turn released.left pending
      refine ⟨next, found, ?_⟩
      cases turn with
      | untouched => exact ⟨rfl, id⟩
      | stays => exact ⟨rfl, id⟩
      | dropped line own => exact absurd own.symm (other line)
      | granted =>
          refine ⟨rfl, fun _ => ?_⟩
          change Line.fresh.signal ≠ Line.fresh.cut
          decide

theorem Sound.pending_before (sound : service.Sound) {next : Call}
    (found : (service.step event).2.calls[ticket]? = some next) :
    (∃ call, service.calls[ticket]? = some call ∧ call.request = next.request) ∨
      ticket = service.nextTicket ∧ event = next.request := by
  have before (known : service.asked ticket = some next.request) :
      ∃ call, service.calls[ticket]? = some call ∧ call.request = next.request :=
    Option.map_eq_some_iff.mp known
  have known : (service.step event).2.asked ticket = some next.request := by
    simp [asked, found]
  have booked := sound.booked event
  generalize service.step event = result at booked known
  cases booked with
  | waiting _ entry =>
      rw [entry] at known
      split at known
      · rename_i new
        exact .inr ⟨new.symm, Option.some.inj known⟩
      · exact .inl (before known)
  | returned _ _ entry =>
      rw [entry] at known
      split at known
      · contradiction
      · exact .inl (before known)
  | other _ _ _ entry =>
      rw [entry] at known
      exact .inl (before known)

/-- A call that has heard of its request was pending before. -/
theorem Sound.pending_of_step (sound : service.Sound)
    (found : (service.step event).2.calls[ticket]? = some next) (heard : next.line ≠ .fresh) :
    ∃ call, service.calls[ticket]? = some call ∧
      call.Moved (service.step event).2.ledger ticket next := by
  rcases sound.pending_before found with ⟨call, pending, _⟩ | ⟨rfl, rfl⟩
  · exact ⟨call, pending, sound.moved_step pending found⟩
  · have done := sound.locked next.locker next.key next.level next.handle
    rw [sound.step_eq] at found
    simp only [Call.request, Service.act] at found
    generalize service.lock next.locker next.key next.level next.handle = result at done found
    have unused := sound.unused
    cases done with
    | released => rw [unused] at found; contradiction
    | closed => rw [unused] at found; contradiction
    | refused => rw [unused] at found; contradiction
    | granted => rw [unused] at found; contradiction
    | queued =>
        rw [Std.ExtTreeMap.getElem?_insert_self] at found
        exact absurd (congrArg Call.line (Option.some.inj found)).symm heard

theorem run_append (service : Service) (first second : List Event) :
    (service.run (first ++ second)).2 = ((service.run first).2.run second).2 := by
  induction first generalizing service with
  | nil => rfl
  | cons event rest ih => exact ih (service.step event).2

theorem Sound.pending_of_run (sound : service.Sound) (used : ticket < service.nextTicket)
    (found : (service.run events).2.calls[ticket]? = some next) :
    ∃ call, service.calls[ticket]? = some call ∧ call.request = next.request := by
  have asked : (service.run events).2.asked ticket = some next.request := by
    simp [Service.asked, found]
  obtain ⟨before | ⟨place, later⟩, _⟩ := (sound.asked_run events ticket next.request).mp asked
  · exact Option.map_eq_some_iff.mp before
  · exact absurd used (Nat.not_lt.mpr (sound.waiting_of_run later))

theorem Sound.nextTicket_le_run (sound : service.Sound) (events : List Event) :
    service.nextTicket ≤ (service.run events).2.nextTicket := by
  induction events generalizing service with
  | nil => exact Nat.le_refl _
  | cons event rest ih =>
      exact Nat.le_trans (sound.booked event).nextTicket_le (ih (sound.step event))

/-- A call that is pending at both ends of a run is pending, and the same, all along. -/
theorem Sound.pending_between (sound : service.Sound)
    (pending : service.calls[ticket]? = some call) (earlier later : List Event)
    (found : ((service.run earlier).2.run later).2.calls[ticket]? = some next) :
    ∃ middle, (service.run earlier).2.calls[ticket]? = some middle ∧
      middle.request = call.request := by
  have used := sound.numbered ticket call pending
  obtain ⟨middle, here, _⟩ := (sound.run earlier).pending_of_run
    (Nat.lt_of_lt_of_le used (sound.nextTicket_le_run earlier)) found
  obtain ⟨before, waiting, same⟩ := sound.pending_of_run used here
  obtain rfl := Option.some.inj (pending.symm.trans waiting)
  exact ⟨middle, here, same.symm⟩

theorem Sound.moved (sound : service.Sound) (pending : service.calls[ticket]? = some call)
    (found : ((service.step event).2.run events).2.calls[ticket]? = some next) :
    ∃ middle, (service.step event).2.calls[ticket]? = some middle ∧
      call.Moved (service.step event).2.ledger ticket middle := by
  obtain ⟨middle, here, _⟩ := sound.pending_between pending [event] events found
  exact ⟨middle, here, sound.moved_step pending here⟩

theorem Sound.eq_of_heard (sound : service.Sound) (pending : service.calls[ticket]? = some call)
    (line : call.line ≠ .fresh) (found : (service.run events).2.calls[ticket]? = some next) :
    next = call := by
  induction events generalizing service call with
  | nil => exact Option.some.inj (found.symm.trans pending)
  | cons event rest ih =>
      obtain ⟨middle, here, moved⟩ := sound.moved pending found
      cases moved with
      | still => exact ih (sound.step event) here line found
      | granted fresh => exact absurd fresh line
      | dropped fresh => exact absurd fresh line

/-- The resource tells whether a request still waits, whatever number its call has. -/
theorem Sound.fresh_iff_of_renumbered {whole part : Service} {number : Ticket → Ticket}
    (soundWhole : whole.Sound) (soundPart : part.Sound)
    (resource : part.ledger.resource call.key =
      (whole.ledger.resource call.key).renumbered number)
    (found : whole.calls[ticket]? = some call) (foundPart : part.calls[number ticket]? = some next)
    (request : next.request = call.request) : next.line = .fresh ↔ call.line = .fresh := by
  obtain ⟨sameLocker, sameKey, sameLevel, _⟩ := Event.lock.inj request
  have waiter : next.waiter (number ticket) = (call.waiter ticket).renumbered number := by
    simp only [Call.waiter, Waiter.renumbered, sameLocker, sameLevel]
  have queue : (part.ledger.resource call.key).queue =
      (whole.ledger.resource call.key).queue.map (Waiter.renumbered number) := by
    rw [resource]
    rfl
  constructor
  · intro fresh
    have queued := soundPart.queued_of_fresh foundPart fresh
    rw [sameKey, queue] at queued
    obtain ⟨waiting, member, same⟩ := List.mem_map.mp queued
    have owner : waiting.locker.id = call.locker.id := by
      rw [← sameLocker]
      exact congrArg (fun waiter => waiter.locker.id) same
    exact soundWhole.fresh_of_queued found
      ((soundWhole.queued_iff_waiting found).mp (isQueued_iff.mpr ⟨waiting, member, owner⟩))
  · intro fresh
    have queued : next.waiter (number ticket) ∈ (part.ledger.resource call.key).queue := by
      rw [waiter, queue]
      exact List.mem_map_of_mem (soundWhole.queued_of_fresh found fresh)
    exact soundPart.fresh_of_queued foundPart queued

end Service

end Locking
