import Locking.Proofs.Service.Projection

namespace Locking.Service

open Resource

/-!
Keys do not interfere. A run from which the lock calls for other keys are left out, with all that
becomes of them, does to one key what the whole run does.
-/

/-- The call is one of the run that the view is of. -/
structure Foretold (view : View) (ticket : Ticket) (call : Call) : Prop where
  key : view.keys[ticket]? = some call.key
  handle : call.key = view.key → call.handle ∈ view.handles

/-- A service that has seen only the part of a run that concerns one key stands to that key as the
service that has seen all of it. -/
structure Reflects (view : View) (whole part : Service) : Prop where
  numbered : part.nextTicket = view.number whole.nextTicket
  board : Board.Agree view.handles whole.board part.board
  released : ∀ id, part.ledger.isReleased id = whole.ledger.isReleased id
  closed : part.ledger.closed = whole.ledger.closed
  resource : part.ledger.resource view.key =
    (whole.ledger.resource view.key).renumbered view.number
  pending : ∀ ticket, view.keys[ticket]? = some view.key →
    part.calls[view.number ticket]? = whole.calls[ticket]?
  foretold : ∀ (ticket : Ticket) (call : Call), whole.calls[ticket]? = some call →
    Foretold view ticket call

/-- Whoever has heard of a request after an event either knew before or has been told by it. -/
def Recalls (before after : Service) : Prop :=
  ∀ (ticket : Ticket) (next : Call), after.calls[ticket]? = some next → next.line ≠ .fresh →
    ∃ call, before.calls[ticket]? = some call ∧ call.Moved after.ledger ticket next

/-- What the services of the whole run and of the part make of an event that both see. -/
structure Agrees (view : View) (whole part : Answer × Service) : Prop where
  answer : part.1 = whole.1.renumbered view.number
  resource : part.2.ledger.resource view.key =
    (whole.2.ledger.resource view.key).renumbered view.number

variable {service whole part wholeAfter partAfter : Service} {view : View}
  {ticket : Ticket} {call next : Call} {event seen : Event} {number : Ticket → Ticket}

theorem Sound.recalls (sound : service.Sound) (event : Event) :
    service.Recalls (service.step event).2 :=
  fun _ _ found heard => sound.pending_of_step found heard

theorem recalls_self (service : Service) : service.Recalls service :=
  fun _ next found _ => ⟨next, found, .still⟩

/-! What has become of a request can be read off the resource and what was known before. -/

theorem Sound.line_ne_cut (sound : service.Sound) (pending : service.calls[ticket]? = some call)
    {holding : Holding} (holds : holding ∈ (service.ledger.resource call.key).holdings)
    (own : holding.locker.id = call.locker.id) : call.line ≠ Line.fresh.cut := by
  intro cut
  cases sound.fate ticket call pending with
  | waiting fresh => rw [fresh] at cut; contradiction
  | granted signalled => rw [signalled] at cut; contradiction
  | dropped _ _ nothing => exact holding?_eq_none_iff.mp nothing holding holds own

theorem Sound.call_eq_of_recalls (soundWhole : wholeAfter.Sound) (soundPart : partAfter.Sound)
    (resource : partAfter.ledger.resource call.key =
      (wholeAfter.ledger.resource call.key).renumbered number)
    (before : part.calls[number ticket]? = whole.calls[ticket]?)
    (recallsWhole : whole.Recalls wholeAfter) (recallsPart : part.Recalls partAfter)
    (found : wholeAfter.calls[ticket]? = some call)
    (foundPart : partAfter.calls[number ticket]? = some next)
    (request : next.request = call.request) : next = call := by
  refine Call.eq_of_request_eq request ?_
  obtain ⟨sameLocker, sameKey, _⟩ := Event.lock.inj request
  have fresh := soundWhole.fresh_iff_of_renumbered soundPart resource found foundPart request
  by_cases heard : call.line = .fresh
  case pos => rw [heard, fresh.mpr heard]
  have heardPart : next.line ≠ .fresh := fun line => heard (fresh.mp line)
  obtain ⟨earlier, pending, moved⟩ := recallsWhole ticket call found heard
  obtain ⟨same, pendingPart, movedPart⟩ := recallsPart (number ticket) next foundPart heardPart
  obtain rfl := Option.some.inj (pending.symm.trans (before.symm.trans pendingPart))
  -- A grant on one side leaves a holding on both, and then nothing has been dropped.
  cases moved with
  | still =>
      cases movedPart with
      | still => rfl
      | granted line => exact absurd line heard
      | dropped line => exact absurd line heard
  | granted line holds =>
      cases movedPart with
      | still => exact absurd line heardPart
      | granted => rfl
      | dropped =>
          rw [← holdings_renumbered number, ← resource] at holds
          exact absurd rfl (soundPart.line_ne_cut foundPart holds rfl)
  | dropped line =>
      cases movedPart with
      | still => exact absurd line heardPart
      | granted _ holds =>
          rw [resource] at holds
          exact absurd rfl (soundWhole.line_ne_cut found holds rfl)
      | dropped => rfl

/-! An event that has nothing to do with the key. -/

theorem Reflects.foretold_step (reflects : Reflects view whole part) (sound : whole.Sound)
    (expects : view.Expects whole.nextTicket event)
    (found : (whole.step event).2.calls[ticket]? = some next) : Foretold view ticket next := by
  rcases sound.pending_before found with ⟨call, pending, request⟩ | ⟨rfl, rfl⟩
  · obtain ⟨_, sameKey, _, sameHandle⟩ := Event.lock.inj request
    obtain ⟨key, handle⟩ := reflects.foretold ticket call pending
    rw [sameKey] at key handle
    exact ⟨key, sameHandle ▸ handle⟩
  · exact ⟨expects.key next.key rfl, fun same => expects.handle next.handle (if_pos same)⟩

theorem Reflects.asked_eq (reflects : Reflects view whole part)
    (shown : view.keys[ticket]? = some view.key) :
    part.asked (view.number ticket) = whole.asked ticket := by
  rw [asked, reflects.pending ticket shown, asked]

/-- The calls for the key are the same if they are the same requests. -/
theorem Reflects.pending_after (reflects : Reflects view whole part)
    (soundWhole : wholeAfter.Sound) (soundPart : partAfter.Sound)
    (resource : partAfter.ledger.resource view.key =
      (wholeAfter.ledger.resource view.key).renumbered view.number)
    (recallsWhole : whole.Recalls wholeAfter) (recallsPart : part.Recalls partAfter)
    (foretold : ∀ call, wholeAfter.calls[ticket]? = some call → Foretold view ticket call)
    (shown : view.keys[ticket]? = some view.key)
    (asked : partAfter.asked (view.number ticket) = wholeAfter.asked ticket) :
    partAfter.calls[view.number ticket]? = wholeAfter.calls[ticket]? := by
  unfold Service.asked at asked
  cases found : wholeAfter.calls[ticket]? with
  | none => simpa [found] using asked
  | some call =>
      rw [found, Option.map_some] at asked
      obtain ⟨next, foundPart, request⟩ := Option.map_eq_some_iff.mp asked
      have same := Option.some.inj (shown.symm.trans (foretold call found).key)
      rw [same] at resource
      rw [foundPart, soundWhole.call_eq_of_recalls soundPart resource
        (reflects.pending ticket shown) recallsWhole recallsPart found foundPart request]

theorem Reflects.resource_unseen (reflects : Reflects view whole part) (sound : whole.Sound)
    (hidden : view.see? whole.board event = none) :
    (whole.step event).2.ledger.resource view.key = whole.ledger.resource view.key := by
  have foreign := View.foreign_of_hidden hidden
  have shift := sound.shift event view.key
  generalize (whole.step event).2.ledger.resource view.key = after at shift
  cases shift with
  | still => rfl
  | asked made =>
      subst made
      exact absurd rfl foreign.asked
  | released made => exact absurd made (foreign.unreleased _)
  | withdrawn made pending here =>
      subst made
      have shown := (reflects.foretold _ _ pending).key
      simp [View.see?, shown, here] at hidden
  | closed made => exact absurd made foreign.unclosed

theorem Reflects.step_unseen (reflects : Reflects view whole part) (soundWhole : whole.Sound)
    (soundPart : part.Sound)
    (expects : view.Expects whole.nextTicket event)
    (hidden : view.see? whole.board event = none) : Reflects view (whole.step event).2 part := by
  have foreign := View.foreign_of_hidden hidden
  have flagged := soundWhole.flagged event
  obtain ⟨nextTicket, board⟩ := soundWhole.clerical event
  have resource : part.ledger.resource view.key =
      ((whole.step event).2.ledger.resource view.key).renumbered view.number := by
    rw [reflects.resource_unseen soundWhole hidden, reflects.resource]
  have foretold {ticket : Ticket} (call : Call)
      (found : (whole.step event).2.calls[ticket]? = some call) : Foretold view ticket call :=
    reflects.foretold_step soundWhole expects found
  refine ⟨?_, ?_, ?_, ?_, resource, ?_, fun _ => foretold⟩
  · rw [nextTicket, foreign.number_after expects, reflects.numbered]
  · rw [board]
    exact foreign.board _ reflects.board
  · intro id
    rw [reflects.released, Bool.eq_iff_iff, flagged.released]
    simp [foreign.unreleased]
  · rw [reflects.closed, Bool.eq_iff_iff, flagged.closed]
    simp [foreign.unclosed]
  · intro ticket shown
    refine reflects.pending_after (soundWhole.step event) soundPart resource
      (soundWhole.recalls event) part.recalls_self foretold shown ?_
    rw [(soundWhole.booked event).asked_eq, reflects.asked_eq shown,
      View.book_of_hidden hidden expects (soundWhole.answered event) shown]

/-! An event that the service of the part sees as well. -/

theorem Reflects.step_seen (reflects : Reflects view whole part) (soundWhole : whole.Sound)
    (soundPart : part.Sound)
    (expects : view.Expects whole.nextTicket event)
    (kept : view.see? whole.board event = some seen)
    (agrees : Agrees view (whole.step event) (part.step seen)) :
    Reflects view (whole.step event).2 (part.step seen).2 := by
  have alike := View.alike_of_seen kept
  have flagged := soundWhole.flagged event
  have flaggedPart := soundPart.flagged seen
  obtain ⟨nextTicket, board⟩ := soundWhole.clerical event
  obtain ⟨nextTicketPart, boardPart⟩ := soundPart.clerical seen
  have foretold {ticket : Ticket} (call : Call)
      (found : (whole.step event).2.calls[ticket]? = some call) : Foretold view ticket call :=
    reflects.foretold_step soundWhole expects found
  refine ⟨?_, ?_, ?_, ?_, agrees.resource, ?_, fun _ => foretold⟩
  · rw [nextTicketPart, reflects.numbered, nextTicket, View.number_after kept expects]
  · rw [boardPart, alike.board, board]
    exact View.agree_onBoard reflects.board event
  · intro id
    rw [Bool.eq_iff_iff, flaggedPart.released, reflects.released, flagged.released]
    simp only [alike.released]
  · rw [Bool.eq_iff_iff, flaggedPart.closed, reflects.closed, flagged.closed, alike.closed]
  · intro ticket shown
    refine reflects.pending_after (soundWhole.step event) (soundPart.step seen) agrees.resource
      (soundWhole.recalls event) (soundPart.recalls seen) foretold shown ?_
    rw [(soundPart.booked seen).asked_eq, (soundWhole.booked event).asked_eq, agrees.answer]
    exact View.book_of_seen kept expects (soundWhole.answered event) shown
      (reflects.asked_eq shown)

/-! What is answered, and what becomes of the resource. -/

theorem Reflects.response (reflects : Reflects view whole part) (locker : Locker)
    (level : Level) :
    part.ledger.response locker view.key level part.nextTicket =
      (whole.ledger.response locker view.key level whole.nextTicket).map
        (Prod.map id (renumbered view.number)) := by
  unfold Ledger.response
  rw [reflects.released, reflects.closed, reflects.resource, reflects.numbered, request_renumbered]
  split
  · rfl
  · split <;> rfl

theorem Reflects.lock (reflects : Reflects view whole part) (soundWhole : whole.Sound)
    (soundPart : part.Sound) (locker : Locker) (level : Level) (handle : Handle) :
    Agrees view (whole.lock locker view.key level handle) (part.lock locker view.key level handle) := by
  obtain ⟨answer, resource⟩ := soundWhole.lock_response locker view.key level handle
  obtain ⟨answerPart, resourcePart⟩ := soundPart.lock_response locker view.key level handle
  rw [reflects.response] at answerPart resourcePart
  rw [reflects.numbered] at answerPart
  rw [reflects.resource] at resourcePart
  constructor
  · rw [answer, answerPart]
    match whole.ledger.response locker view.key level whole.nextTicket with
    | .error _ => rfl
    | .ok (.granted, _) => rfl
    | .ok (.queued _, _) => rfl
  · rw [resource, resourcePart]
    match whole.ledger.response locker view.key level whole.nextTicket with
    | .error _ => rfl
    | .ok (_, _) => rfl

theorem Reflects.wake (reflects : Reflects view whole part)
    (shown : view.keys[ticket]? = some view.key) :
    Agrees view (whole.wake ticket) (part.wake (view.number ticket)) := by
  constructor
  · unfold Service.wake
    rw [reflects.pending ticket shown]
    cases whole.calls[ticket]? with
    | none => rfl
    | some call =>
        dsimp only
        cases call.line.poll.1 with
        | granted => rfl
        | empty => rfl
        | disconnected =>
            simp only [Service.abandon, Ledger.abandon, reflects.released]
            split <;> rfl
  · rw [(part.wake_frame _).1, (whole.wake_frame _).1, reflects.resource]

theorem Reflects.leave (reflects : Reflects view whole part) (soundWhole : whole.Sound)
    (soundPart : part.Sound) (id : LockerId) :
    (part.ledger.resource view.key).leave part.listening id =
      ((whole.ledger.resource view.key).leave whole.listening id).renumbered
        view.number := by
  rw [reflects.resource]
  refine leave_renumbered (fun waiter queued => ?_) id
  have queuedPart : waiter.renumbered view.number ∈
      (part.ledger.resource view.key).queue := by
    rw [reflects.resource]
    exact List.mem_map_of_mem queued
  rw [soundWhole.heard waiter queued]
  exact soundPart.heard _ queuedPart

theorem Reflects.giveUp (reflects : Reflects view whole part) (soundWhole : whole.Sound)
    (soundPart : part.Sound) (shown : view.keys[ticket]? = some view.key) :
    Agrees view (whole.giveUp ticket) (part.giveUp (view.number ticket)) := by
  have same := reflects.pending ticket shown
  have impossible : Agrees view (.impossible, whole) (.impossible, part) :=
    ⟨rfl, reflects.resource⟩
  cases pending : whole.calls[ticket]? with
  | none =>
      rw [pending] at same
      simpa only [Service.giveUp, pending, same] using impossible
  | some call =>
      rw [pending] at same
      obtain ⟨key, handle⟩ := reflects.foretold ticket call pending
      have here := Option.some.inj (key.symm.trans shown)
      have heeded : part.hasFired call.handle = whole.hasFired call.handle :=
        reflects.board.fired call.handle (handle here)
      cases fired : whole.hasFired call.handle with
      | false =>
          rw [giveUp_of_unfired pending fired, giveUp_of_unfired same (heeded.trans fired)]
          exact impossible
      | true =>
          have firedPart := heeded.trans fired
          by_cases line : call.line = .fresh
          · rw [soundWhole.giveUp_of_waiting pending fired
                (soundWhole.queued_of_fresh pending line),
              soundPart.giveUp_of_waiting same firedPart (soundPart.queued_of_fresh same line)]
            refine ⟨rfl, ?_⟩
            change (part.withdrawn call).ledger.resource view.key =
              ((whole.withdrawn call).ledger.resource view.key).renumbered view.number
            rw [ledger_withdrawn, ledger_withdrawn, (Ledger.left_withdrawn ..).resource,
              (Ledger.left_withdrawn ..).resource, if_pos (by simp [here]),
              if_pos (by simp [here])]
            exact reflects.leave soundWhole soundPart call.locker.id
          · rw [soundWhole.giveUp_of_not_waiting pending fired line,
              soundPart.giveUp_of_not_waiting same firedPart line]
            exact reflects.wake shown

theorem Reflects.release (reflects : Reflects view whole part) (soundWhole : whole.Sound)
    (soundPart : part.Sound) (locker : Locker) :
    Agrees view (whole.release locker) (part.release locker) := by
  cases gone : whole.ledger.isReleased locker.id with
  | true =>
      rw [release_of_released gone, release_of_released ((reflects.released _).trans gone)]
      exact ⟨rfl, reflects.resource⟩
  | false =>
      obtain ⟨after, notices, result, released⟩ := soundWhole.release_of_present gone
      obtain ⟨afterPart, noticesPart, resultPart, releasedPart⟩ :=
        soundPart.release_of_present ((reflects.released _).trans gone)
      rw [result, resultPart]
      refine ⟨rfl, ?_⟩
      rw [ledger_notifyAll, ledger_notifyAll, released.everywhere, releasedPart.everywhere]
      exact reflects.leave soundWhole soundPart locker.id

theorem Reflects.close (reflects : Reflects view whole part) :
    Agrees view whole.close part.close := by
  refine ⟨rfl, ?_⟩
  rw [ledger_close, ledger_close]
  cases serving : whole.ledger.closed with
  | true =>
      rw [Ledger.close_of_closed serving, Ledger.close_of_closed (reflects.closed.trans serving)]
      exact reflects.resource
  | false =>
      rw [Ledger.resource_close serving, Ledger.resource_close (reflects.closed.trans serving),
        reflects.resource, disperse_renumbered]

theorem Reflects.agrees (reflects : Reflects view whole part) (soundWhole : whole.Sound)
    (soundPart : part.Sound) (kept : view.see? whole.board event = some seen) :
    Agrees view (whole.step event) (part.step seen) := by
  rw [soundWhole.step_eq, soundPart.step_eq]
  cases event with
  | lock locker asked level handle =>
      obtain ⟨rfl, same⟩ := Option.ite_none_right_eq_some.mp kept
      obtain rfl := Option.some.inj same
      exact reflects.lock soundWhole soundPart locker level handle
  | wake ticket =>
      obtain ⟨shown, same⟩ := Option.ite_none_right_eq_some.mp kept
      obtain rfl := Option.some.inj same
      exact reflects.wake shown
  | giveUp ticket =>
      obtain ⟨shown, same⟩ := Option.ite_none_right_eq_some.mp kept
      obtain rfl := Option.some.inj same
      exact reflects.giveUp soundWhole soundPart shown
  | release locker =>
      obtain rfl := Option.some.inj kept
      exact reflects.release soundWhole soundPart locker
  | close =>
      obtain rfl := Option.some.inj kept
      exact reflects.close
  | cancellation step =>
      obtain ⟨_, same⟩ := Option.ite_none_right_eq_some.mp kept
      obtain rfl := Option.some.inj same
      exact ⟨rfl, reflects.resource⟩

/-! Runs. -/

theorem Reflects.run {events : List Event} (reflects : Reflects view whole part)
    (soundWhole : whole.Sound) (soundPart : part.Sound)
    (expects : view.ExpectsAll whole.nextTicket events) :
    (part.run ((view.watch whole.board (events.zip (whole.run events).1)).map (·.1))).1 =
        (view.watch whole.board (events.zip (whole.run events).1)).map (·.2) ∧
      Reflects view (whole.run events).2
        (part.run ((view.watch whole.board (events.zip (whole.run events).1)).map (·.1))).2 := by
  induction events generalizing whole part with
  | nil => exact ⟨rfl, reflects⟩
  | cons event rest ih =>
      obtain ⟨nextTicket, board⟩ := soundWhole.clerical event
      have later := expects.tail
      rw [← nextTicket] at later
      simp only [Service.run, List.zip_cons_cons, View.watch, ← board]
      cases kept : view.see? whole.board event with
      | none =>
          exact ih (reflects.step_unseen soundWhole soundPart expects.head kept)
            (soundWhole.step event) soundPart later
      | some seen =>
          have agrees := reflects.agrees soundWhole soundPart kept
          obtain ⟨answers, final⟩ :=
            ih (reflects.step_seen soundWhole soundPart expects.head kept agrees)
              (soundWhole.step event) (soundPart.step seen) later
          simp only [List.map_cons, Service.run]
          exact ⟨by rw [agrees.answer, answers], final⟩

theorem start_reflects (options : Ledger.Options) (view : View) :
    Reflects view (start options) (start options) where
  numbered := view.number_zero.symm
  board := .refl _ _
  released _ := rfl
  closed := rfl
  resource := by simp [start]
  pending ticket _ := by simp [start]
  foretold ticket call pending := by simp [start] at pending

theorem zip_answers_isPrefix (service : Service) (first second : List Event) :
    first.zip (service.run first).1 <+:
      (first ++ second).zip (service.run (first ++ second)).1 := by
  induction first generalizing service with
  | nil => exact List.nil_prefix
  | cons event rest ih => exact (List.prefix_cons_inj _).mpr (ih (service.step event).2)

/-- The events that are seen of a run do to the key what the run does. -/
structure Undisturbed (view : View) (whole part : List Answer × Service)
    (seen : List (Event × Answer)) : Prop where
  answers : part.1 = seen.map (·.2)
  entry : part.2.ledger.resources[view.key]? =
    (whole.2.ledger.resources[view.key]?).map (renumbered view.number)
  pending : ∀ ticket, view.keys[ticket]? = some view.key →
    part.2.calls[view.number ticket]? = whole.2.calls[ticket]?

/-- Let only that part of a run happen which is seen by those who follow one key. At every point of
the run, when the events before it have happened, that part has been answered as it is in the run, and
it has left the same entry under the key and the same calls for it, but for the numbers of calls. -/
theorem keys_do_not_interfere (options : Ledger.Options) (key : Key) (earlier later : List Event) :
    let view := View.of key (earlier ++ later)
    let seen := view.watch .empty (earlier.zip ((start options).run earlier).1)
    seen <+: view.watch .empty ((earlier ++ later).zip ((start options).run (earlier ++ later)).1) ∧
      Undisturbed view ((start options).run earlier) ((start options).run (seen.map (·.1))) seen := by
  intro view seen
  refine ⟨view.watch_isPrefix _ (zip_answers_isPrefix _ _ _), ?_⟩
  have sound := start_sound options
  obtain ⟨answers, reflects⟩ := (start_reflects options view).run sound sound
    (View.expectsAll_of key earlier later)
  have tidy := (sound.run earlier).ledger.toTidy
  have tidyPart := (sound.run (seen.map (·.1))).ledger.toTidy
  refine ⟨answers, ?_, reflects.pending⟩
  have resource : ((start options).run (seen.map (·.1))).2.ledger.resource view.key =
      (((start options).run earlier).2.ledger.resource view.key).renumbered view.number :=
    reflects.resource
  rw [tidyPart.getElem?_resources, tidy.getElem?_resources, resource, isVacant_renumbered]
  split <;> rfl

/-- Who follows the orders sees nothing of the users, and counts their own calls from 0. -/
example :
    let events : List Event :=
      [.lock ⟨1, "load"⟩ "users" .exclusive .never, .lock ⟨2, "report"⟩ "users" .access .never,
        .lock ⟨1, "load"⟩ "orders" .exclusive .never, .lock ⟨3, "audit"⟩ "orders" .access .never,
        .release ⟨1, "load"⟩, .wake 1, .wake 3]
    (View.of "orders" events).watch .empty (events.zip ((start .standard).run events).1) =
      [(.lock ⟨1, "load"⟩ "orders" .exclusive .never, .returned 0 .ok),
        (.lock ⟨3, "audit"⟩ "orders" .access .never, .waiting 1 1),
        (.release ⟨1, "load"⟩, .released .ok), (.wake 1, .returned 1 .ok)] := by
  rfl

end Locking.Service
