import Locking.Proofs.Service.Mirror
import Locking.Proofs.Service.Tenure

namespace Locking

/-!
The closing of a service. It sends away all who wait and takes nothing from those who hold. From
then on the service only winds down: nobody is let in, and locks go as their lockers are released.
-/

/-- The event is a release of the locker. -/
def Event.releases (id : LockerId) : Event → Bool
  | .release locker => locker.id == id
  | _ => false

/-- What a call is told that was sent away when the service was closed. -/
def Call.dismissal (call : Call) (released : Bool) : Outcome :=
  .refused (if released then .releasedLocker call.locker.name else .closed)

namespace Service

open Resource

variable {service : Service} {event : Event} {events later : List Event} {key : Key}
  {id : LockerId} {level : Level} {locker : Locker} {handle : Handle} {ticket : Ticket}
  {call : Call}

/-! The closing itself. -/

theorem Sound.entry_close (sound : service.Sound) (key : Key) :
    (service.step .close).2.ledger.resources[key]? =
      (service.ledger.resources[key]?).bind fun resource =>
        if resource.holdings = [] then none else some ⟨resource.holdings, []⟩ := by
  rw [sound.step_eq, Service.act, ledger_close]
  cases serving : service.ledger.closed with
  | true =>
      -- Nobody waits in a closed service, so its entries are what closing would make of them.
      rw [Ledger.close_of_closed serving]
      cases stored : service.ledger.resources[key]? with
      | none => rfl
      | some resource =>
          have occupied := sound.ledger.occupied key resource stored
          have nobody := sound.ledger.silent serving key
          rw [Ledger.resource_of_entry stored] at nobody
          obtain ⟨holdings, queue⟩ := resource
          obtain rfl : queue = [] := nobody
          have held : holdings ≠ [] := by
            rintro rfl
            contradiction
          simp [held]
  | false =>
      simp [Ledger.close, serving, Ledger.dispersed?, isVacant, disperse]

theorem Sound.holdings_close (sound : service.Sound) (key : Key) :
    ((service.step .close).2.ledger.resource key).holdings =
      (service.ledger.resource key).holdings := by
  rw [Ledger.resource, sound.entry_close]
  cases stored : service.ledger.resources[key]? with
  | none => rw [Ledger.resource_of_no_entry stored]; rfl
  | some resource =>
      rw [Ledger.resource_of_entry stored, Option.bind_some]
      split
      · rename_i nothing
        exact nothing.symm
      · rfl

/-! Winding down. -/

theorem Sound.closed_run (sound : service.Sound) (shut : service.ledger.closed = true)
    (events : List Event) : (service.run events).2.ledger.closed = true := by
  induction events generalizing service with
  | nil => exact shut
  | cons event rest ih => exact ih (sound.step event) ((sound.flagged event).closed.mpr (.inl shut))

theorem Sound.closed_since (sound : service.Sound) (events : List Event) :
    (service.run (.close :: events)).2.ledger.closed = true :=
  (sound.step .close).closed_run ((sound.flagged .close).closed.mpr (.inr rfl)) events

theorem Sound.isReleased_run_iff (sound : service.Sound) :
    (service.run events).2.ledger.isReleased id = true ↔
      service.ledger.isReleased id = true ∨ events.any (Event.releases id) = true := by
  induction events generalizing service with
  | nil => simp [Service.run]
  | cons event rest ih =>
      have now : (∃ locker, event = .release locker ∧ locker.id = id) ↔
          event.releases id = true := by
        cases event <;> simp [Event.releases]
      refine (ih (sound.step event)).trans ?_
      rw [(sound.flagged event).released id, now, List.any_cons, Bool.or_eq_true, or_assoc]

theorem Sound.lock_of_closed (sound : service.Sound) (shut : service.ledger.closed = true)
    (locker : Locker) (key : Key) (level : Level) (handle : Handle) :
    service.step (.lock locker key level handle) =
      (.returned service.nextTicket (.refused
          (if service.ledger.isReleased locker.id then .releasedLocker locker.name else .closed)),
        { service with nextTicket := service.nextTicket + 1 }) := by
  rw [sound.step_eq]
  cases gone : service.ledger.isReleased locker.id <;>
    simp [Service.act, Service.lock, Ledger.lock, gone, shut]

/-- Nobody holds a lock whose locker has been released. -/
theorem Sound.holdings_present (sound : service.Sound) (key : Key) :
    (service.ledger.resource key).holdings.filter
        (fun holding => !service.ledger.isReleased holding.locker.id) =
      (service.ledger.resource key).holdings := by
  refine List.filter_eq_self.mpr (fun holding member => ?_)
  rw [sound.ledger.present_of_involves (.inl ⟨holding, member, rfl⟩)]
  rfl

/-- In a closed service an event takes away the holdings of those whom it releases, and no others. -/
theorem Sound.holdings_step (sound : service.Sound) (shut : service.ledger.closed = true)
    (event : Event) (key : Key) :
    ((service.step event).2.ledger.resource key).holdings =
      (service.ledger.resource key).holdings.filter
        (fun holding => !(service.step event).2.ledger.isReleased holding.locker.id) := by
  have present := (sound.step event).holdings_present key
  have flagged := sound.flagged event
  have silent := sound.ledger.silent shut key
  have shift := sound.shift event key
  generalize (service.step event).2.ledger.resource key = after at shift present ⊢
  cases shift with
  | still => exact present.symm
  | asked _ _ serving =>
      rw [shut] at serving
      contradiction
  | @released locker made =>
      subst made
      have left : (service.ledger.resource key).leave service.listening locker.id =
          ⟨othersOf locker.id (service.ledger.resource key).holdings, []⟩ := by
        simp [leave, dismiss, silent, sweep]
      rw [left]
      refine List.filter_congr (fun holding member => ?_)
      have before := sound.ledger.present_of_involves (.inl ⟨holding, member, rfl⟩)
      rw [Bool.eq_iff_iff, bne_iff_ne, Bool.not_eq_true', ← Bool.not_eq_true,
        flagged.released, before]
      simp [eq_comm]
  | withdrawn _ _ _ queued =>
      rw [silent] at queued
      contradiction
  | closed _ serving =>
      rw [shut] at serving
      contradiction

theorem Sound.holdings_run (sound : service.Sound) (shut : service.ledger.closed = true)
    (events : List Event) (key : Key) :
    ((service.run events).2.ledger.resource key).holdings =
      (service.ledger.resource key).holdings.filter
        (fun holding => !(service.run events).2.ledger.isReleased holding.locker.id) := by
  induction events generalizing service with
  | nil => exact (sound.holdings_present key).symm
  | cons event rest ih =>
      have soundAfter := sound.step event
      have stillShut := (sound.flagged event).closed.mpr (.inl shut)
      refine (ih soundAfter stillShut).trans ?_
      rw [sound.holdings_step shut, List.filter_filter]
      refine List.filter_congr (fun holding _ => ?_)
      -- Whoever is released by the event stays so until the end.
      cases middle : (service.step event).2.ledger.isReleased holding.locker.id with
      | false => simp [Service.run]
      | true => simp [Service.run, soundAfter.isReleased_run middle rest]

/-- After the closing, a resource holds what it held then, but for the lockers released since. -/
theorem Sound.holdings_since (sound : service.Sound) (events : List Event) (key : Key) :
    ((service.run (.close :: events)).2.ledger.resource key).holdings =
      (service.ledger.resource key).holdings.filter
        (fun holding => !events.any (Event.releases holding.locker.id)) := by
  have soundAfter := sound.step .close
  have shut := (sound.flagged .close).closed.mpr (.inr rfl)
  refine (soundAfter.holdings_run shut events key).trans ?_
  rw [sound.holdings_close]
  refine List.filter_congr (fun holding member => ?_)
  have before := sound.ledger.present_of_involves (.inl ⟨holding, member, rfl⟩)
  have closing := (sound.flagged .close).released holding.locker.id
  rw [Bool.eq_iff_iff, Bool.not_eq_true', Bool.not_eq_true', ← Bool.not_eq_true,
    ← Bool.not_eq_true, soundAfter.isReleased_run_iff, closing, before]
  simp

theorem Sound.resource_since (sound : service.Sound) (events : List Event) (key : Key) :
    (service.run (.close :: events)).2.ledger.resource key =
      ⟨(service.ledger.resource key).holdings.filter
        (fun holding => !events.any (Event.releases holding.locker.id)), []⟩ := by
  have held := sound.holdings_since events key
  have silent := (sound.run (.close :: events)).ledger.silent (sound.closed_since events) key
  generalize (service.run (.close :: events)).2.ledger.resource key = after at held silent ⊢
  obtain ⟨holdings, queue⟩ := after
  rw [← held, ← show queue = [] from silent]

theorem Sound.resources_eq_empty_iff (sound : service.Sound) :
    service.ledger.resources = ∅ ↔ ∀ key, service.ledger.resource key = vacant := by
  rw [Std.ExtTreeMap.eq_empty_iff_forall_not_mem]
  refine forall_congr' (fun key => ?_)
  rw [sound.ledger.mem_resources_iff, Bool.not_eq_false, isVacant_iff]

/-- The table is empty once all who held a lock at the closing have been released, and not before. -/
theorem Sound.empty_since_iff (sound : service.Sound) (events : List Event) :
    (service.run (.close :: events)).2.ledger.resources = ∅ ↔
      ∀ key, ∀ holding ∈ (service.ledger.resource key).holdings,
        events.any (Event.releases holding.locker.id) = true := by
  rw [(sound.run _).resources_eq_empty_iff]
  refine forall_congr' (fun key => ?_)
  rw [sound.resource_since, vacant, Resource.mk.injEq, List.filter_eq_nil_iff]
  simp

/-! Those who are sent away. -/

theorem Sound.dropped_since (sound : service.Sound) (pending : service.calls[ticket]? = some call)
    (queued : call.waiter ticket ∈ (service.ledger.resource call.key).queue) {next : Call}
    (found : (service.run (.close :: events)).2.calls[ticket]? = some next) :
    next.In (service.run (.close :: events)).2.ledger ticket .dropped ∧
      Call.Stage.dropped.outcome (service.run (.close :: events)).2.ledger next =
        call.dismissal (events.any (Event.releases call.locker.id)) := by
  have cut := sound.cut_of_sentAway ⟨[], events, call, rfl, pending, queued⟩ found
  obtain ⟨stage, stands⟩ := (sound.run (.close :: events)).exists_stage found
  obtain rfl : Call.Stage.dropped = stage := Call.Stage.eq_of_line_eq (cut.symm.trans stands.line)
  refine ⟨stands, ?_⟩
  have used := sound.numbered ticket call pending
  obtain ⟨before, waiting, same⟩ := sound.pending_of_run used found
  obtain rfl := Option.some.inj (pending.symm.trans waiting)
  obtain ⟨sameLocker, _⟩ := Event.lock.inj same
  have present : service.ledger.isReleased call.locker.id = false :=
    sound.ledger.present_of_involves (.inr ⟨_, queued, rfl⟩)
  have released : (service.run (.close :: events)).2.ledger.isReleased call.locker.id =
      events.any (Event.releases call.locker.id) := by
    rw [Bool.eq_iff_iff, sound.isReleased_run_iff, present]
    simp [Event.releases]
  rw [Call.Stage.outcome, ← sameLocker, released, Call.dismissal]

/-- What becomes of a service that is closed. -/
structure WindsDown (service : Service) : Prop where
  /-- Closing leaves the holdings of every resource as they are, sends away all who wait, and forgets
  the entries in which nothing is left. -/
  entries : ∀ key : Key, (service.step .close).2.ledger.resources[key]? =
    (service.ledger.resources[key]?).bind fun resource =>
      if resource.holdings = [] then none else some ⟨resource.holdings, []⟩
  again : ∀ later, (service.run (.close :: later)).2.step .close =
    (.done, (service.run (.close :: later)).2)
  /-- Later nobody waits, and a resource holds what it held at the closing, but for the lockers
  released since. -/
  resource : ∀ later key, (service.run (.close :: later)).2.ledger.resource key =
    ⟨(service.ledger.resource key).holdings.filter
      (fun holding => !later.any (Event.releases holding.locker.id)), []⟩
  empty : ∀ later, (service.run (.close :: later)).2.ledger.resources = ∅ ↔
    ∀ key, ∀ holding ∈ (service.ledger.resource key).holdings,
      later.any (Event.releases holding.locker.id) = true
  /-- No lock call made later succeeds or changes anything. -/
  refused : ∀ later locker key level handle,
    (service.run (.close :: later)).2.step (.lock locker key level handle) =
      (.returned (service.run (.close :: later)).2.nextTicket (.refused
          (if (service.run (.close :: later)).2.ledger.isReleased locker.id then
            .releasedLocker locker.name else .closed)),
        { (service.run (.close :: later)).2 with
          nextTicket := (service.run (.close :: later)).2.nextTicket + 1 })
  /-- A call that waited at the closing is told so, or that its locker has been released since, by
  whatever event it returns. -/
  told : ∀ ticket call, service.calls[ticket]? = some call →
    call.waiter ticket ∈ (service.ledger.resource call.key).queue → ∀ later event outcome,
      ((service.run (.close :: later)).2.step event).1 = .returned ticket outcome →
        outcome = call.dismissal (later.any (Event.releases call.locker.id))
  /-- And until it has returned it can do so. -/
  returns : ∀ (ticket : Ticket) (call : Call), service.calls[ticket]? = some call →
    call.waiter ticket ∈ (service.ledger.resource call.key).queue → ∀ later,
      (∀ outcome, Answer.returned ticket outcome ∉ (service.run (.close :: later)).1) →
        ((service.run (.close :: later)).2.step (.wake ticket)).1 =
          .returned ticket (call.dismissal (later.any (Event.releases call.locker.id)))

/-- In every run, to close the service sends away those who wait and keeps what is held, for good. -/
theorem closing_keeps_the_held (options : Ledger.Options) (events : List Event) :
    ((start options).run events).2.WindsDown := by
  have sound := run_sound options events
  refine ⟨?_, ?_, ?_, ?_, ?_, ?_, ?_⟩
  · exact sound.entry_close
  · intro later
    rw [(sound.run _).step_eq, Service.act, close_of_closed (sound.closed_since later)]
  · exact sound.resource_since
  · exact sound.empty_since_iff
  · intro later
    exact (sound.run _).lock_of_closed (sound.closed_since later)
  · intro ticket call pending queued later event outcome returns
    have soundAfter := sound.run (.close :: later)
    have used := Nat.lt_of_lt_of_le (sound.numbered ticket call pending)
      (sound.nextTicket_le_run (.close :: later))
    have acted := returns
    rw [soundAfter.step_eq] at acted
    obtain ⟨next, found⟩ := soundAfter.pending_of_returned used acted
    obtain ⟨stands, told⟩ := sound.dropped_since pending queued found
    rw [← told]
    exact ((soundAfter.returned_iff found stands event outcome).mp returns).2
  · intro ticket call pending queued later unreturned
    have soundAfter := sound.run (.close :: later)
    have known : ((start options).run events).2.asked ticket = some call.request := by
      simp [asked, pending]
    have asked := (sound.asked_run (.close :: later) ticket call.request).mpr
      ⟨.inl known, unreturned⟩
    obtain ⟨next, found, _⟩ := Option.map_eq_some_iff.mp asked
    obtain ⟨stands, told⟩ := sound.dropped_since pending queued found
    rw [← told]
    exact (soundAfter.returned_iff found stands _ _).mpr ⟨.inl rfl, rfl⟩

/-- A cancellation that comes after the closing changes nothing about the answer. -/
example :
    ((start .standard).run
      [.cancellation (.create "audit"), .lock ⟨1, "load"⟩ "users" .exclusive .never,
        .lock ⟨2, "audit"⟩ "users" .access (.of 0), .close, .cancellation (.cancel "audit"),
        .giveUp 1]).1.getLast? = some (.returned 1 (.refused .closed)) := by
  cbv

end Service

end Locking
