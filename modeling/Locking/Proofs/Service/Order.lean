import Locking.Proofs.Service.Change
import Mathlib.Order.Defs.Unbundled

namespace Locking.Service

open Resource

/-!
Lockers that acquire resources in a fixed order of their keys. Each has one call under way at most,
and asks for nothing below what it holds, unless it holds it already. Then whatever a locker waits
for comes after all that it holds.
-/

def Holds (service : Service) (id : LockerId) (key : Key) : Prop :=
  ∃ holding ∈ (service.ledger.resource key).holdings, holding.locker.id = id

def Awaits (service : Service) (id : LockerId) (key : Key) : Prop :=
  ∃ waiter ∈ (service.ledger.resource key).queue, waiter.locker.id = id

/-- Every lock call of the locker has returned. -/
def Idle (service : Service) (id : LockerId) : Prop :=
  ∀ (ticket : Ticket) (call : Call), service.calls[ticket]? = some call → call.locker.id ≠ id

/-- What lockers may do who keep to the order. -/
def Permits (precedes : Key → Key → Prop) (service : Service) : Event → Prop
  | .lock locker key _ _ =>
      service.Idle locker.id ∧
        (service.Holds locker.id key ∨ ∀ held, service.Holds locker.id held → precedes held key)
  | .release locker => service.Idle locker.id
  | .wake _ | .giveUp _ | .close | .cancellation _ => True

def Disciplined (precedes : Key → Key → Prop) (service : Service) : List Event → Prop
  | [] => True
  | event :: rest =>
      service.Permits precedes event ∧ (service.step event).2.Disciplined precedes rest

/-- Every locker waits for what comes after all that it holds. -/
def Ascending (precedes : Key → Key → Prop) (ledger : Ledger) : Prop :=
  ∀ (held key : Key), ∀ holding ∈ (ledger.resource held).holdings,
    ∀ waiter ∈ (ledger.resource key).queue, holding.locker.id = waiter.locker.id →
      precedes held key

structure Ordered (precedes : Key → Key → Prop) (service : Service) : Prop where
  single : ∀ (first second : Ticket) (one other : Call), service.calls[first]? = some one →
    service.calls[second]? = some other → one.locker.id = other.locker.id → first = second
  ascending : Ascending precedes service.ledger

variable {precedes : Key → Key → Prop} {service : Service} {id : LockerId} {key : Key}
  {locker : Locker} {level : Level} {handle : Handle} {ticket : Ticket} {event : Event}

theorem Idle.of_no_calls (none : service.calls = ∅) : service.Idle id := by
  intro ticket call pending
  simp [none] at pending

theorem start_ordered (precedes : Key → Key → Prop) (options : Ledger.Options) :
    (start options).Ordered precedes where
  single first second one other found := by simp [start] at found
  ascending held key holding member := by simp [start, vacant] at member

theorem Sound.call_of_awaits (sound : service.Sound) (waits : service.Awaits id key) :
    ∃ (ticket : Ticket) (call : Call), service.calls[ticket]? = some call ∧
      call.locker.id = id := by
  obtain ⟨waiter, queued, owner⟩ := waits
  obtain ⟨call, found, _, _, same⟩ := sound.owned key waiter queued
  exact ⟨waiter.ticket, call, found, by rw [← owner, ← same]; rfl⟩

/-- A locker with one call at most waits in one place at most. -/
theorem Ordered.place_unique (ordered : service.Ordered precedes) (sound : service.Sound)
    {first second : Key} {left right : Waiter}
    (leftQueued : left ∈ (service.ledger.resource first).queue)
    (rightQueued : right ∈ (service.ledger.resource second).queue)
    (same : left.locker.id = right.locker.id) : first = second ∧ left = right := by
  obtain ⟨one, oneFound, _, _, oneWaiter⟩ := sound.owned first left leftQueued
  obtain ⟨other, otherFound, _, _, otherWaiter⟩ := sound.owned second right rightQueued
  have leftOwner : one.locker = left.locker := congrArg Waiter.locker oneWaiter
  have rightOwner : other.locker = right.locker := congrArg Waiter.locker otherWaiter
  have sameTicket := ordered.single _ _ one other oneFound otherFound
    (by rw [leftOwner, rightOwner]; exact same)
  exact sound.ticket_unique leftQueued rightQueued sameTicket

theorem Ordered.single_step (ordered : service.Ordered precedes) (sound : service.Sound)
    (permitted : ∀ call : Call, event = call.request → service.Permits precedes event)
    {first second : Ticket} {one other : Call}
    (oneFound : (service.step event).2.calls[first]? = some one)
    (otherFound : (service.step event).2.calls[second]? = some other)
    (same : one.locker.id = other.locker.id) : first = second := by
  -- A locker that makes a call has no other one under way.
  have alone {next call : Call} {ticket : Ticket} (made : event = next.request)
      (pending : service.calls[ticket]? = some call) : call.locker.id ≠ next.locker.id := by
    have idle := permitted next made
    subst made
    exact idle.1 ticket call pending
  rcases sound.pending_before oneFound with ⟨left, leftFound, leftSame⟩ | ⟨oneNew, oneMade⟩
  · have leftLocker : left.locker = one.locker := (Event.lock.inj leftSame).1
    rcases sound.pending_before otherFound with ⟨right, rightFound, rightSame⟩ | ⟨_, otherMade⟩
    · have rightLocker : right.locker = other.locker := (Event.lock.inj rightSame).1
      exact ordered.single first second left right leftFound rightFound
        (by rw [leftLocker, rightLocker]; exact same)
    · exact absurd (leftLocker ▸ same) (alone otherMade leftFound)
  · rcases sound.pending_before otherFound with ⟨right, rightFound, rightSame⟩ | ⟨otherNew, _⟩
    · have rightLocker : right.locker = other.locker := (Event.lock.inj rightSame).1
      exact absurd (rightLocker ▸ same.symm) (alone oneMade rightFound)
    · exact oneNew.trans otherNew.symm

/-! What comes after what, event by event. -/

theorem Ascending.of_resource_eq {before after : Ledger} (ascending : Ascending precedes before)
    (same : ∀ key, after.resource key = before.resource key) : Ascending precedes after := by
  intro held key holding member waiter queued
  rw [same] at member queued
  exact ascending held key holding member waiter queued

theorem Ordered.ascending_of_accepted {reply : Reply} {resource : Resource}
    (ordered : service.Ordered precedes) (sound : service.Sound)
    (permitted : service.Permits precedes (.lock locker key level handle))
    (asked : (service.ledger.resource key).request key locker level service.nextTicket =
      .ok (reply, resource)) :
    Ascending precedes ((service.ledger.put key resource).note locker.id key) := by
  obtain ⟨idle, below⟩ := permitted
  intro held awaited holding member waiter queued same
  rw [Ledger.resource_note, Ledger.resource_put] at member queued
  have holder : holding.locker.id = locker.id ∨ service.Holds holding.locker.id held := by
    split at member
    · rename_i here
      exact here ▸ request_holder asked member
    · exact .inr ⟨holding, member, rfl⟩
  have waits : waiter ∈ (service.ledger.resource awaited).queue ∨
      waiter.locker = locker ∧ awaited = key ∧
        resource.holdings = (service.ledger.resource key).holdings ∧
        (service.ledger.resource key).holding? locker.id = none := by
    split at queued
    · rename_i here
      subst here
      exact (request_waiter asked queued).imp_right (fun new => ⟨new.1, rfl, new.2⟩)
    · exact .inl queued
  rcases waits with waited | ⟨rfl, rfl, unchanged, absent⟩
  · -- The waiter is not the locker that asks, which has no other call.
    have other : holding.locker.id ≠ locker.id := by
      intro mine
      have waits : service.Awaits locker.id awaited := ⟨waiter, waited, by rw [← same, mine]⟩
      obtain ⟨ticket, call, pending, caller⟩ := sound.call_of_awaits waits
      exact idle ticket call pending caller
    obtain ⟨before, held, owner⟩ := holder.resolve_left other
    exact ordered.ascending _ awaited before held waiter waited (owner.trans same)
  · have before : holding ∈ (service.ledger.resource held).holdings := by
      split at member
      · rename_i here
        rw [← here, ← unchanged]
        exact member
      · exact member
    have unheld : ¬ service.Holds waiter.locker.id awaited := by
      intro holds
      obtain ⟨other, mine, owner⟩ := holds
      exact holding?_eq_none_iff.mp absent other mine owner
    exact below.resolve_left unheld held ⟨holding, before, same⟩

/-- Whoever is granted its request when a locker leaves waited there and nowhere else. -/
theorem Ordered.ascending_of_left {listening : Ticket → Bool} {keys : List Key} {after : Ledger}
    {notices : List Notice} (ordered : service.Ordered precedes) (sound : service.Sound)
    (left : Ledger.Left listening id keys service.ledger after notices)
    (soundAfter : after.Sound) : Ascending precedes after := by
  intro held key holding member waiter queued same
  have waited : waiter ∈ (service.ledger.resource key).queue := by
    have state := left.resource key
    split at state
    · exact (mem_leave_queue (sound.ledger.orderly key) (state ▸ queued)).1
    · exact state ▸ queued
  have holder : holding ∈ (service.ledger.resource held).holdings ∨
      ∃ granted ∈ (service.ledger.resource held).queue, granted.holding = holding := by
    have state := left.resource held
    split at state
    · exact (mem_leave_holdings (sound.ledger.orderly held) (state ▸ member)).2
    · exact .inl (state ▸ member)
  rcases holder with before | ⟨granted, stood, rfl⟩
  · exact ordered.ascending held key holding before waiter waited same
  · obtain ⟨rfl, _⟩ := ordered.place_unique sound stood waited same
    exact absurd same ((soundAfter.orderly held).apart _ member waiter queued)

theorem Ordered.ascending_step (ordered : service.Ordered precedes) (sound : service.Sound)
    (permitted : ∀ call : Call, event = call.request → service.Permits precedes event) :
    Ascending precedes (service.step event).2.ledger := by
  have unmoved := ordered.ascending
  rw [sound.step_eq]
  cases event with
  | lock locker key level handle =>
      have permitted := permitted ⟨locker, key, level, handle, .fresh⟩ rfl
      have done := sound.locked locker key level handle
      simp only [Service.act]
      generalize service.lock locker key level handle = result at done
      cases done with
      | released => exact unmoved
      | closed => exact unmoved
      | refused => exact unmoved
      | granted _ _ asked => exact ordered.ascending_of_accepted sound permitted asked
      | queued _ _ asked => exact ordered.ascending_of_accepted sound permitted asked
  | wake ticket => exact unmoved.of_resource_eq (wake_frame service ticket).1
  | giveUp ticket =>
      have done := sound.gaveUp ticket
      simp only [Service.act]
      generalize service.giveUp ticket = result at done
      cases done with
      | impossible => exact unmoved
      | @inTime call =>
          change Ascending precedes (service.withdrawn call).ledger
          rw [ledger_withdrawn]
          exact ordered.ascending_of_left sound
            (service.ledger.left_withdrawn service.listening call.locker.id call.key)
            (sound.ledger.withdrawn _ _ _)
      | late => exact unmoved.of_resource_eq (wake_frame service ticket).1
  | release locker =>
      have done := sound.freed locker
      simp only [Service.act]
      generalize service.release locker = result at done
      cases done with
      | before => exact unmoved
      | now _ released =>
          rw [ledger_notifyAll]
          exact ordered.ascending_of_left sound released.left released.sound
  | close =>
      rw [Service.act, ledger_close]
      cases serving : service.ledger.closed with
      | true =>
          rw [Ledger.close_of_closed serving]
          exact unmoved
      | false =>
          intro held key holding _ waiter queued
          rw [Ledger.resource_close serving] at queued
          contradiction
  | cancellation step => exact unmoved

/-- It takes discipline only to make calls: whatever else happens leaves lockers in order. -/
theorem Ordered.step (ordered : service.Ordered precedes) (sound : service.Sound)
    (permitted : ∀ call : Call, event = call.request → service.Permits precedes event) :
    (service.step event).2.Ordered precedes where
  single _ _ _ _ oneFound otherFound same :=
    ordered.single_step sound permitted oneFound otherFound same
  ascending := ordered.ascending_step sound permitted

theorem Ordered.run {events : List Event} (ordered : service.Ordered precedes)
    (sound : service.Sound) (disciplined : service.Disciplined precedes events) :
    (service.run events).2.Ordered precedes := by
  induction events generalizing service with
  | nil => exact ordered
  | cons event rest ih =>
      obtain ⟨permitted, later⟩ := disciplined
      exact ih (ordered.step sound (fun _ _ => permitted)) (sound.step event) later

end Locking.Service
