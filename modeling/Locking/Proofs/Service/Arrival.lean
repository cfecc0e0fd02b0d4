import Locking.Proofs.Resource.Queue
import Locking.Proofs.Service.Change
import Locking.Proofs.Service.Fate
import Mathlib.Data.List.Induction

namespace Locking

/-!
First come, first served. The queue of a resource keeps the order in which its requests came, a
listing shows it, and while a request waits nobody gains a lock but those who were there before it.
-/

open Resource

/-- Of the records of all resources, those under a key are the ones of its resource. -/
theorem Ledger.records_of_key (ledger : Ledger) (key : Key) :
    ledger.records.filter (fun record => record.key == key) =
      (ledger.resource key).records key := by
  have elsewhere {entries : List (Key × Resource)} (absent : ∀ entry ∈ entries, entry.1 ≠ key) :
      entries.flatMap (fun entry => if entry.1 = key then entry.2.records key else []) = [] :=
    List.flatMap_eq_nil_iff.mpr (fun entry member => if_neg (absent entry member))
  have stored {entry : Key × Resource} : entry ∈ ledger.resources.toList ↔
      ledger.resources[entry.1]? = some entry.2 :=
    Std.ExtTreeMap.mem_toList_iff_getElem?_eq_some
  rw [Ledger.records, List.filter_flatMap]
  simp only [records_filter]
  cases present : ledger.resources[key]? with
  | none =>
      rw [Ledger.resource_of_no_entry present]
      refine elsewhere (fun entry member same => ?_)
      rw [← same, stored.mp member] at present
      contradiction
  | some resource =>
      rw [Ledger.resource_of_entry present]
      obtain ⟨front, back, split⟩ := List.append_of_mem
        (a := (key, resource)) (stored.mpr present)
      have distinct := Std.ExtTreeMap.distinct_keys_toList (t := ledger.resources)
      rw [split] at distinct ⊢
      obtain ⟨_, behind, across⟩ := List.pairwise_append.mp distinct
      rw [List.flatMap_append, List.flatMap_cons, elsewhere, elsewhere]
      · simp
      · intro entry member same
        exact (List.pairwise_cons.mp behind).1 entry member (by simp [same])
      · intro entry member same
        exact across entry member (key, resource) (by simp) (by simp [same])

/-- The request that an event has queued under a key, as its answer tells. -/
def Event.arrival? (key : Key) : Event × Answer → Option Waiter
  | (.lock locker asked level _, .waiting ticket _) =>
      if asked = key then some ⟨locker, level, ticket⟩ else none
  | _ => none

theorem Event.of_arrival? {key : Key} {event : Event} {answer : Answer} {waiter : Waiter}
    (arrived : Event.arrival? key (event, answer) = some waiter) :
    ∃ handle place, event = .lock waiter.locker key waiter.level handle ∧
      answer = .waiting waiter.ticket place := by
  unfold arrival? at arrived
  split at arrived
  · rename_i locker asked level handle ticket place same
    split at arrived
    · rename_i here
      obtain rfl := Option.some.inj arrived
      obtain ⟨rfl, rfl⟩ := Prod.mk.inj same
      exact ⟨handle, place, by rw [here], rfl⟩
    · contradiction
  · contradiction

namespace Service

/-- The requests that a run has queued under a key, in the order in which they came. -/
def arrivals (service : Service) (key : Key) (events : List Event) : List Waiter :=
  (events.zip (service.run events).1).filterMap (Event.arrival? key)

/-- Who gains a lock under a key in the course of a run, in the order of granting. -/
def gains (service : Service) (key : Key) : List Event → List Holding
  | [] => []
  | event :: rest =>
      newcomers (service.ledger.resource key) ((service.step event).2.ledger.resource key) ++
        (service.step event).2.gains key rest

variable {service : Service} {event : Event} {events : List Event} {key : Key} {locker : Locker}
  {level : Level} {handle : Handle} {ticket : Ticket} {place : Nat} {waiter first second : Waiter}

/-! The order of arrival. -/

theorem arrivals_cons (service : Service) (key : Key) (event : Event) (rest : List Event) :
    service.arrivals key (event :: rest) =
      (Event.arrival? key (event, (service.step event).1)).toList ++
        (service.step event).2.arrivals key rest := by
  simp only [arrivals, Service.run, List.zip_cons_cons, List.filterMap_cons]
  split
  · rename_i nothing
    rw [nothing]
    rfl
  · rename_i arrived
    rw [arrived]
    rfl

theorem Sound.answer_of_queued (sound : service.Sound) {after : Resource}
    (present : service.ledger.isReleased locker.id = false)
    (serving : service.ledger.closed = false)
    (asked : (service.ledger.resource key).request key locker level service.nextTicket =
      .ok (.queued place, after)) (handle : Handle) :
    (service.step (.lock locker key level handle)).1 = .waiting service.nextTicket place := by
  rw [sound.step_eq]
  simp [Service.act, Service.lock, Ledger.lock, present, serving, asked]

/-- Who waits after an event waited before it, in the same order, or is queued by it. -/
theorem Sound.step_arrivals (sound : service.Sound) (event : Event) (key : Key) :
    ((service.step event).2.ledger.resource key).queue.Sublist
      ((service.ledger.resource key).queue ++
        (Event.arrival? key (event, (service.step event).1)).toList) := by
  have kept {after : Resource} (sublist : after.queue.Sublist (service.ledger.resource key).queue) :
      after.queue.Sublist ((service.ledger.resource key).queue ++
        (Event.arrival? key (event, (service.step event).1)).toList) :=
    sublist.trans (List.sublist_append_left _ _)
  have shift := sound.shift event key
  generalize (service.step event).2.ledger.resource key = after at shift ⊢
  cases shift with
  | still => exact kept (.refl _)
  | @asked locker level handle reply after made present serving accepted =>
      cases reply with
      | granted =>
          have same := request_granted_queue accepted
          exact kept (by rw [same])
      | queued place =>
          have answer := sound.answer_of_queued present serving accepted handle
          obtain ⟨rfl, _⟩ := request_queued accepted
          subst made
          rw [answer]
          simp [Event.arrival?, enqueue]
  | released => exact kept (leave_queue_sublist _ _ _)
  | withdrawn => exact kept (leave_queue_sublist _ _ _)
  | closed => exact kept (List.nil_sublist _)

theorem Sound.run_arrivals (sound : service.Sound) (events : List Event) (key : Key) :
    ((service.run events).2.ledger.resource key).queue.Sublist
      ((service.ledger.resource key).queue ++ service.arrivals key events) := by
  induction events generalizing service with
  | nil => exact List.sublist_append_left _ _
  | cons event rest ih =>
      refine (ih (sound.step event)).trans ?_
      rw [arrivals_cons, ← List.append_assoc]
      exact (sound.step_arrivals event key).append_right _

theorem Sound.used_of_queued (sound : service.Sound)
    (queued : waiter ∈ (service.ledger.resource key).queue) :
    waiter.ticket < service.nextTicket := by
  obtain ⟨call, pending, _⟩ := sound.owned key waiter queued
  exact sound.numbered waiter.ticket call pending

/-- A request with a ticket from before a run can only wait after it if it has waited all along. -/
theorem Sound.queued_before (sound : service.Sound) (used : waiter.ticket < service.nextTicket)
    (waits : waiter ∈ ((service.run events).2.ledger.resource key).queue) :
    waiter ∈ (service.ledger.resource key).queue := by
  rcases List.mem_append.mp ((sound.run_arrivals events key).subset waits) with before | arrived
  · exact before
  · obtain ⟨⟨event, answer⟩, member, known⟩ := List.mem_filterMap.mp arrived
    obtain ⟨_, place, rfl, rfl⟩ := Event.of_arrival? known
    exact absurd used (Nat.not_lt.mpr (sound.waiting_of_run member))

/-! Grants in the meantime. -/

theorem Sound.step_advances (sound : service.Sound)
    (queued : waiter ∈ (service.ledger.resource key).queue)
    (waits : waiter ∈ ((service.step event).2.ledger.resource key).queue) :
    Advances waiter.ticket (service.ledger.resource key)
      ((service.step event).2.ledger.resource key)
      (newcomers (service.ledger.resource key) ((service.step event).2.ledger.resource key)) := by
  have orderly := sound.ledger.orderly key
  have distinct := sound.tickets_distinct key
  have shift := sound.shift event key
  generalize (service.step event).2.ledger.resource key = after at shift waits ⊢
  cases shift with
  | still =>
      rw [newcomers_self]
      exact .refl _ _
  | asked _ _ _ accepted => exact request_advances distinct accepted queued
  | released => exact leave_advances orderly distinct sound.heard waits
  | withdrawn => exact leave_advances orderly distinct sound.heard waits
  | closed => contradiction

theorem Sound.run_advances (sound : service.Sound)
    (queued : waiter ∈ (service.ledger.resource key).queue)
    (waits : waiter ∈ ((service.run events).2.ledger.resource key).queue) :
    Advances waiter.ticket (service.ledger.resource key)
      ((service.run events).2.ledger.resource key) (service.gains key events) := by
  induction events generalizing service with
  | nil => exact .refl _ _
  | cons event rest ih =>
      have used := Nat.lt_of_lt_of_le (sound.used_of_queued queued)
        (sound.booked event).nextTicket_le
      have between := (sound.step event).queued_before used waits
      exact (sound.step_advances queued between).trans (ih (sound.step event) between waits)

/-- When a request has its turn, those who gain a lock before it in the same event stood ahead. -/
theorem Sound.step_turn (sound : service.Sound) {front back : List Holding}
    (queued : waiter ∈ (service.ledger.resource key).queue)
    (turn : newcomers (service.ledger.resource key) ((service.step event).2.ledger.resource key) =
      front ++ waiter.holding :: back) :
    ∃ granted : List Waiter, front = granted.map Waiter.holding ∧
      granted.Sublist ((service.ledger.resource key).ahead waiter.ticket) := by
  have orderly := sound.ledger.orderly key
  have distinct := sound.tickets_distinct key
  have somebody {after : Resource}
      (turn : newcomers (service.ledger.resource key) after = front ++ waiter.holding :: back) :
      newcomers (service.ledger.resource key) after ≠ [] := by
    simp [turn]
  have shift := sound.shift event key
  generalize (service.step event).2.ledger.resource key = after at shift turn
  cases shift with
  | still => exact absurd (newcomers_self _) (somebody turn)
  | asked _ _ _ accepted => exact absurd (newcomers_request accepted queued) (somebody turn)
  | released => exact leave_turn orderly distinct sound.heard queued turn
  | withdrawn => exact leave_turn orderly distinct sound.heard queued turn
  | closed =>
      refine absurd (newcomers_eq_nil fun holding member => ?_) (somebody turn)
      exact ⟨holding, member, rfl⟩

/-- Whoever holds a lock after a run held one before it or has gained it on the way. -/
theorem held_or_gained {holding : Holding}
    (holds : holding ∈ ((service.run events).2.ledger.resource key).holdings) :
    (∃ earlier ∈ (service.ledger.resource key).holdings,
        earlier.locker.id = holding.locker.id) ∨
      ∃ gained ∈ service.gains key events, gained.locker.id = holding.locker.id := by
  induction events generalizing service with
  | nil => exact .inl ⟨holding, holds, rfl⟩
  | cons event rest ih =>
      rcases ih holds with ⟨middle, member, same⟩ | ⟨gained, member, same⟩
      · cases known : (service.ledger.resource key).holding? middle.locker.id with
        | none =>
            have new : middle ∈ newcomers (service.ledger.resource key)
                ((service.step event).2.ledger.resource key) :=
              List.mem_filter.mpr ⟨member, by rw [known]; rfl⟩
            exact .inr ⟨middle, List.mem_append_left _ new, same⟩
        | some level =>
            obtain ⟨earlier, before, owner, _⟩ := exists_of_holding? known
            exact .inl ⟨earlier, before, owner.trans same⟩
      · exact .inr ⟨gained, List.mem_append_right _ member, same⟩

/-- While a request waits, the lockers behind it hold nothing. -/
theorem Sound.unheld_behind (sound : service.Sound)
    (firstQueued : first ∈ (service.ledger.resource key).queue)
    (secondQueued : second ∈ (service.ledger.resource key).queue)
    (behind : (service.ledger.resource key).place first.ticket <
      (service.ledger.resource key).place second.ticket)
    (waits : first ∈ ((service.run events).2.ledger.resource key).queue) :
    ∀ holding ∈ ((service.run events).2.ledger.resource key).holdings,
      holding.locker.id ≠ second.locker.id := by
  intro holding holds owner
  have orderly := sound.ledger.orderly key
  rcases held_or_gained holds with ⟨earlier, before, same⟩ | ⟨gained, member, same⟩
  · exact orderly.apart earlier before second secondQueued (same.trans owner)
  · -- The locker would have been granted its request ahead of the first one.
    obtain ⟨granted, gains, ahead⟩ := sound.run_advances firstQueued waits
    rw [gains] at member
    obtain ⟨waiter, promoted, rfl⟩ := List.mem_map.mp member
    have front := ahead.subset (List.mem_append_left _ promoted)
    have queued := (List.takeWhile_sublist _).subset front
    obtain rfl := orderly.waiter_unique queued secondQueued (same.trans owner)
    exact Nat.lt_asymm behind (place_lt (sound.tickets_distinct key) front)

theorem Sound.unsignalled_behind (sound : service.Sound) {next : Call}
    (firstQueued : first ∈ (service.ledger.resource key).queue)
    (secondQueued : second ∈ (service.ledger.resource key).queue)
    (behind : (service.ledger.resource key).place first.ticket <
      (service.ledger.resource key).place second.ticket)
    (waits : first ∈ ((service.run events).2.ledger.resource key).queue)
    (found : (service.run events).2.calls[second.ticket]? = some next) :
    next.line ≠ Line.fresh.signal := by
  obtain ⟨call, pending, here, fresh, same⟩ := sound.owned key second secondQueued
  induction events using List.reverseRecOn generalizing next with
  | nil =>
      obtain rfl := Option.some.inj (pending.symm.trans found)
      rw [fresh]
      decide
  | append_singleton earlier event ih =>
      have used := Nat.lt_of_lt_of_le (sound.used_of_queued firstQueued)
        (sound.nextTicket_le_run earlier)
      have unheld := sound.unheld_behind firstQueued secondQueued behind waits
      rw [run_append] at waits found unheld
      obtain ⟨middle, before, request⟩ := sound.pending_between pending earlier [event] found
      obtain ⟨sameLocker, sameKey, _⟩ := Event.lock.inj request
      cases (sound.run earlier).moved_step before found with
      | still => exact ih ((sound.run earlier).queued_before used waits) before
      | granted _ holds =>
          rw [sameKey, here] at holds
          refine absurd ?_ (unheld _ holds)
          change middle.locker.id = second.locker.id
          rw [sameLocker, ← same]
          rfl
      | dropped =>
          change Line.fresh.cut ≠ Line.fresh.signal
          decide

theorem Sound.ungranted_behind (sound : service.Sound)
    (firstQueued : first ∈ (service.ledger.resource key).queue)
    (secondQueued : second ∈ (service.ledger.resource key).queue)
    (behind : (service.ledger.resource key).place first.ticket <
      (service.ledger.resource key).place second.ticket)
    (waits : first ∈ ((service.run events).2.ledger.resource key).queue) (event : Event) :
    ((service.run events).2.step event).1 ≠ .returned second.ticket .ok := by
  intro returns
  have soundAfter := sound.run events
  have used := Nat.lt_of_lt_of_le (sound.used_of_queued secondQueued)
    (sound.nextTicket_le_run events)
  have acted := returns
  rw [soundAfter.step_eq] at acted
  obtain ⟨next, found⟩ := soundAfter.pending_of_returned used acted
  obtain ⟨stage, stands⟩ := soundAfter.exists_stage found
  have same := ((soundAfter.returned_iff found stands event .ok).mp returns).2
  have unsignalled := sound.unsignalled_behind firstQueued secondQueued behind waits found
  cases stage with
  | waiting => contradiction
  | granted => exact unsignalled stands.line
  | dropped => contradiction

/-- The event by which a request comes to wait puts it behind all who wait already, and gives no
lock to anybody. -/
theorem Sound.step_queues (sound : service.Sound)
    (answered : (service.step (.lock locker key level handle)).1 = .waiting ticket place) :
    ticket = service.nextTicket ∧
      (service.step (.lock locker key level handle)).2.ledger.resource key =
        (service.ledger.resource key).enqueue ⟨locker, level, ticket⟩ ∧
      place = (service.ledger.resource key).queue.length + 1 := by
  have done := sound.locked locker key level handle
  rw [sound.step_eq] at answered ⊢
  simp only [Service.act] at answered ⊢
  generalize service.lock locker key level handle = result at done answered ⊢
  cases done with
  | released => contradiction
  | closed => contradiction
  | refused => contradiction
  | granted => contradiction
  | queued _ _ asked =>
      obtain ⟨rfl, rfl⟩ := Answer.waiting.inj answered
      obtain ⟨rfl, places, _⟩ := request_queued asked
      refine ⟨rfl, ?_, ?_⟩
      · rw [Ledger.resource_note, Ledger.resource_put_self]
      · rw [places]
        simp [enqueue]

theorem Sound.ahead_of_last (sound : service.Sound) (key : Key) (locker : Locker)
    (level : Level) :
    ((service.ledger.resource key).enqueue ⟨locker, level, service.nextTicket⟩).ahead
      service.nextTicket = (service.ledger.resource key).queue := by
  have split : ((service.ledger.resource key).enqueue
      ⟨locker, level, service.nextTicket⟩).queue =
        (service.ledger.resource key).queue ++ ⟨locker, level, service.nextTicket⟩ :: [] := rfl
  exact ahead_eq split (fun _ queued => Nat.ne_of_lt (sound.used_of_queued queued))

/-- From the event that queues a request for as long as it waits, nobody gains a lock who was not
there before it. -/
theorem Sound.gains_since_queued (sound : service.Sound)
    (answered : (service.step (.lock locker key level handle)).1 = .waiting ticket place)
    (waits : ⟨locker, level, ticket⟩ ∈
      ((service.run (.lock locker key level handle :: events)).2.ledger.resource key).queue) :
    ∃ granted : List Waiter,
      service.gains key (.lock locker key level handle :: events) =
          granted.map Waiter.holding ∧
        (granted ++ ((service.run (.lock locker key level handle :: events)).2.ledger.resource
          key).ahead ticket).Sublist (service.ledger.resource key).queue := by
  obtain ⟨rfl, queues, _⟩ := sound.step_queues answered
  have queued : ⟨locker, level, service.nextTicket⟩ ∈
      ((service.step (.lock locker key level handle)).2.ledger.resource key).queue := by
    rw [queues]
    simp [enqueue]
  have nobody : newcomers (service.ledger.resource key)
      ((service.step (.lock locker key level handle)).2.ledger.resource key) = [] := by
    rw [queues]
    exact newcomers_eq_nil (fun holding member => ⟨holding, member, rfl⟩)
  obtain ⟨granted, gains, ahead⟩ :=
    (sound.step (.lock locker key level handle)).run_advances queued waits
  refine ⟨granted, ?_, ?_⟩
  · rw [Service.gains, nobody, gains, List.nil_append]
  · rw [queues, sound.ahead_of_last] at ahead
    exact ahead

/-- Nor does anybody else in the event that grants the request, up to that grant. -/
theorem Sound.gains_until_granted (sound : service.Sound) {front back : List Holding}
    (answered : (service.step (.lock locker key level handle)).1 = .waiting ticket place)
    (waits : ⟨locker, level, ticket⟩ ∈
      ((service.run (.lock locker key level handle :: events)).2.ledger.resource key).queue)
    (turn : newcomers
        ((service.run (.lock locker key level handle :: events)).2.ledger.resource key)
        (((service.run (.lock locker key level handle :: events)).2.step event).2.ledger.resource
          key) = front ++ ⟨locker, level⟩ :: back) :
    ∃ granted : List Waiter,
      service.gains key (.lock locker key level handle :: events) ++ front =
          granted.map Waiter.holding ∧
        granted.Sublist (service.ledger.resource key).queue := by
  obtain ⟨earlier, gains, ahead⟩ := sound.gains_since_queued answered waits
  obtain ⟨last, rfl, before⟩ := (sound.run _).step_turn waits turn
  refine ⟨earlier ++ last, ?_, (before.append_left earlier).trans ahead⟩
  rw [gains, List.map_append]

/-- How a service treats those who wait. -/
structure FirstComeFirstServed (service : Service) : Prop where
  /-- A listing shows place 0 for what is held and the places in the queue for what waits. -/
  listed : ∀ key, service.ledger.records.filter (fun record => record.key == key) =
    (service.ledger.resource key).holdings.map
        (fun holding => ⟨key, holding.locker.name, holding.level, 0⟩) ++
      (service.ledger.resource key).queue.map (fun waiter =>
        ⟨key, waiter.locker.name, waiter.level,
          (service.ledger.resource key).place waiter.ticket⟩)
  places : ∀ key, (service.ledger.resource key).queue.map
      (fun waiter => (service.ledger.resource key).place waiter.ticket) =
    List.range' 1 (service.ledger.resource key).queue.length
  /-- A request that is queued waits behind all the others, and is told its place. -/
  last : ∀ locker key level handle ticket place,
    (service.step (.lock locker key level handle)).1 = .waiting ticket place →
      ((service.step (.lock locker key level handle)).2.ledger.resource key).queue =
          (service.ledger.resource key).queue ++ [⟨locker, level, ticket⟩] ∧
        place = ((service.step (.lock locker key level handle)).2.ledger.resource key).place ticket
  /-- From then on and while it waits, those who gain a lock are some of those whom it found there,
  in their order, and ahead of it are left some of those behind them. -/
  gains : ∀ locker key level handle ticket place later,
    (service.step (.lock locker key level handle)).1 = .waiting ticket place →
      ⟨locker, level, ticket⟩ ∈
          ((service.run (.lock locker key level handle :: later)).2.ledger.resource key).queue →
        ∃ granted : List Waiter,
          service.gains key (.lock locker key level handle :: later) =
              granted.map Waiter.holding ∧
            (granted ++ ((service.run (.lock locker key level handle :: later)).2.ledger.resource
              key).ahead ticket).Sublist (service.ledger.resource key).queue
  /-- If an event grants it, the same holds of those who gain a lock before it in that event. -/
  turn : ∀ locker key level handle ticket place later event front back,
    (service.step (.lock locker key level handle)).1 = .waiting ticket place →
      ⟨locker, level, ticket⟩ ∈
          ((service.run (.lock locker key level handle :: later)).2.ledger.resource key).queue →
        newcomers
            ((service.run (.lock locker key level handle :: later)).2.ledger.resource key)
            (((service.run (.lock locker key level handle :: later)).2.step
              event).2.ledger.resource key) = front ++ ⟨locker, level⟩ :: back →
          ∃ granted : List Waiter,
            service.gains key (.lock locker key level handle :: later) ++ front =
                granted.map Waiter.holding ∧
              granted.Sublist (service.ledger.resource key).queue
  /-- The place of a request never increases. -/
  closer : ∀ key, ∀ waiter ∈ (service.ledger.resource key).queue, ∀ later,
    waiter ∈ ((service.run later).2.ledger.resource key).queue →
      ((service.run later).2.ledger.resource key).place waiter.ticket ≤
        (service.ledger.resource key).place waiter.ticket
  /-- While one request waits, the locker of a later one holds nothing, and the call of the later
  one does not return with a lock. -/
  behind : ∀ key, ∀ first ∈ (service.ledger.resource key).queue,
    ∀ second ∈ (service.ledger.resource key).queue,
      (service.ledger.resource key).place first.ticket <
          (service.ledger.resource key).place second.ticket →
        ∀ later, first ∈ ((service.run later).2.ledger.resource key).queue →
          (service.run later).2.ledger.holds? second.locker.id key = none ∧
            ∀ event, ((service.run later).2.step event).1 ≠ .returned second.ticket .ok

/-- In every run, requests under a key are served in the order in which they came. -/
theorem requests_served_in_order_of_arrival (options : Ledger.Options) (events : List Event) :
    ((start options).run events).2.FirstComeFirstServed ∧
      ∀ key, (((start options).run events).2.ledger.resource key).queue.Sublist
        ((start options).arrivals key events) := by
  have sound := run_sound options events
  constructor
  · refine ⟨?_, ?_, ?_, ?_, ?_, ?_, ?_⟩
    · intro key
      rw [Ledger.records_of_key, records_eq (sound.tickets_distinct key)]
    · intro key
      exact places_eq (sound.tickets_distinct key)
    · intro locker key level handle ticket place answered
      obtain ⟨rfl, queues, rfl⟩ := sound.step_queues answered
      rw [queues, Resource.place, sound.ahead_of_last]
      exact ⟨rfl, rfl⟩
    · intro locker key level handle ticket place later answered waits
      exact sound.gains_since_queued answered waits
    · intro locker key level handle ticket place later event front back answered waits turn
      exact sound.gains_until_granted answered waits turn
    · intro key waiter queued later waits
      exact (sound.run_advances queued waits).place_le
    · intro key first firstQueued second secondQueued behind later waits
      exact ⟨holding?_eq_none_iff.mpr (sound.unheld_behind firstQueued secondQueued behind waits),
        sound.ungranted_behind firstQueued secondQueued behind waits⟩
  · intro key
    have arrived := (start_sound options).run_arrivals events key
    simpa [start, vacant] using arrived

/-- While the purge waits behind it, the report is granted; the audit has come too late for that. -/
example :
    (start .standard).gains "users"
      [.lock ⟨1, "load"⟩ "users" .exclusive .never, .lock ⟨2, "report"⟩ "users" .access .never,
        .lock ⟨3, "purge"⟩ "users" .exclusive .never, .lock ⟨4, "audit"⟩ "users" .access .never,
        .release ⟨1, "load"⟩] =
      [⟨⟨1, "load"⟩, .exclusive⟩, ⟨⟨2, "report"⟩, .access⟩] := by
  rfl

end Service

end Locking
