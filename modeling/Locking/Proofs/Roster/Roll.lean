import Locking.Proofs.Resource.Persistence
import Locking.Proofs.Roster.Basic
import Locking.Proofs.Service.Notices

namespace Locking.Resource

/-!
A resource as a roll: holders first, then the queue. Every operation on the resource is the one on
the roll, and the sweeps keep the end of the holders where the roll says that it is.
-/

def roll (resource : Resource) : Roll :=
  resource.holdings ++ resource.queue.map Waiter.holding

variable {resource : Resource} {listening : Ticket → Bool} {id : LockerId} {level : Level}

theorem Orderly.harmonious (orderly : resource.Orderly) : Roll.Harmonious resource.holdings :=
  orderly.holdings.imp (fun pair => pair.2)

theorem Settled.blocked (settled : resource.Settled) :
    ∀ next ∈ (resource.queue.map Waiter.holding).head?,
      ¬ Roll.Harmonious (resource.holdings ++ [next]) := by
  intro next first together
  rw [List.head?_map] at first
  obtain ⟨head, top, rfl⟩ := Option.map_eq_some_iff.mp first
  obtain ⟨holding, member, blocks⟩ := admits_eq_false_iff.mp (settled head top)
  have fits := (List.pairwise_append.mp together).2.2 holding member head.holding (by simp)
  rw [show head.holding.level = head.level from rfl, blocks] at fits
  contradiction

theorem granted_roll (orderly : resource.Orderly) (settled : resource.Settled) :
    Roll.granted resource.roll = resource.holdings :=
  Roll.granted_eq orderly.harmonious settled.blocked

theorem waiting_roll (orderly : resource.Orderly) (settled : resource.Settled) :
    Roll.waiting resource.roll = resource.queue.map Waiter.holding :=
  Roll.waiting_eq orderly.harmonious settled.blocked

theorem roll_eq_nil_iff : resource.roll = [] ↔ resource.isVacant = true := by
  simp [roll, isVacant]

theorem names_holdings (resource : Resource) (id : LockerId) :
    Roll.names id resource.holdings = (resource.holding? id).isSome := by
  rw [Bool.eq_iff_iff]
  simp [Roll.names, holding?]

theorem names_queue (resource : Resource) (id : LockerId) :
    Roll.names id (resource.queue.map Waiter.holding) = resource.isQueued id := by
  simp only [Roll.names, isQueued, List.any_map]
  rfl

theorem Orderly.unqueued (orderly : resource.Orderly) {held : Level}
    (holds : resource.holding? id = some held) :
    ∀ waiter ∈ resource.queue, waiter.locker.id ≠ id := by
  obtain ⟨holding, member, owner, _⟩ := exists_of_holding? holds
  intro waiter queued same
  exact orderly.apart holding member waiter queued (owner.trans same.symm)

/-- A level suits a roll in which its locker holds just if the holding can be raised to it. -/
theorem suits_roll (orderly : resource.Orderly) {held : Level}
    (holds : resource.holding? id = some held) (level : Level) :
    Roll.suits id level resource.roll = resource.canRaise id level := by
  have elsewhere := orderly.unqueued holds
  rw [Bool.eq_iff_iff]
  simp only [Roll.suits, roll, canRaise, admits, othersOf, List.all_append, List.all_map,
    Bool.and_eq_true, List.all_eq_true, List.mem_filter, Function.comp_apply, Bool.or_eq_true,
    beq_iff_eq, bne_iff_ne, Waiter.holding]
  constructor
  · intro suits
    obtain ⟨front, back⟩ := suits
    constructor
    · intro holding other
      exact (front holding other.1).resolve_left other.2
    · intro waiter queued
      exact (back waiter queued).resolve_left (elsewhere waiter queued)
  · intro free
    obtain ⟨front, back⟩ := free
    constructor
    · intro holding member
      by_cases own : holding.locker.id = id
      · exact .inl own
      · exact .inr (front holding ⟨member, own⟩)
    · intro waiter queued
      exact .inr (back waiter queued)

theorem relevel_roll (orderly : resource.Orderly) {held : Level}
    (holds : resource.holding? id = some held) (level : Level) :
    Roll.relevel id level resource.roll =
      ({ resource with holdings := raise id level resource.holdings } : Resource).roll := by
  have unmoved : Roll.relevel id level (resource.queue.map Waiter.holding) =
      resource.queue.map Waiter.holding := by
    rw [Roll.relevel, List.map_map]
    refine List.map_congr_left (fun waiter queued => ?_)
    have other := orderly.unqueued holds waiter queued
    simp [Waiter.holding, other]
  simp only [Roll.relevel, roll, List.map_append, orderly.raise_eq_map, beq_iff_eq] at unmoved ⊢
  rw [unmoved]

/-- A request on a resource at rest is the request on its roll. -/
theorem request_roll (orderly : resource.Orderly) (settled : resource.Settled) (key : Key)
    (locker : Locker) (level : Level) (ticket : Ticket) :
    Roll.request resource.roll key locker level =
      match resource.request key locker level ticket with
      | .error refusal => (.refused refusal, resource.roll)
      | .ok (.granted, after) => (.granted, after.roll)
      | .ok (.queued place, after) => (.queued place, after.roll) := by
  have atRest {after : Resource} {reply : Reply}
      (accepted : resource.request key locker level ticket = .ok (reply, after)) :
      Roll.granted after.roll = after.holdings ∧
        Roll.waiting after.roll = after.queue.map Waiter.holding :=
    have orderly := Resource.request_orderly orderly accepted
    have settled := Resource.request_settled ‹_› ‹_› accepted
    ⟨granted_roll orderly settled, waiting_roll orderly settled⟩
  have asked := resource.requested key locker level ticket
  unfold Roll.request
  rw [granted_roll orderly settled, waiting_roll orderly settled, names_queue]
  generalize resource.request key locker level ticket = result at asked atRest
  cases asked with
  | kept holds enough =>
      obtain ⟨own, found, rfl⟩ := Option.map_eq_some_iff.mp holds
      simp only [found, enough, if_true]
  | raised holds more free =>
      obtain ⟨own, found, rfl⟩ := Option.map_eq_some_iff.mp holds
      simp only [found, more, if_false, suits_roll orderly holds, free, if_true,
        relevel_roll orderly holds]
  | conflicting holds more blocked =>
      obtain ⟨own, found, rfl⟩ := Option.map_eq_some_iff.mp holds
      simp [found, more, suits_roll orderly holds, blocked]
  | alreadyQueued absent queued =>
      have missing := Option.map_eq_none_iff.mp absent
      simp only [missing, queued, if_true]
  | entered absent unqueued nobody fits =>
      have missing := Option.map_eq_none_iff.mp absent
      have whole : resource.roll ++ [⟨locker, level⟩] = (resource.enter locker level).roll := by
        simp [roll, enter, nobody]
      have newcomer : Roll.names locker.id (resource.enter locker level).holdings = true := by
        simp [Roll.names, enter]
      simp only [missing, unqueued, Bool.false_eq_true, if_false, whole, (atRest rfl).1, newcomer,
        if_true]
  | enqueued absent unqueued busy =>
      have missing := Option.map_eq_none_iff.mp absent
      have whole : resource.roll ++ [⟨locker, level⟩] =
          (resource.enqueue ⟨locker, level, ticket⟩).roll := by
        simp [roll, enqueue, Waiter.holding]
      have outsider : Roll.names locker.id
          (resource.enqueue ⟨locker, level, ticket⟩).holdings = false := by
        rw [names_holdings]
        exact congrArg Option.isSome absent
      have place : (resource.enqueue ⟨locker, level, ticket⟩).queue.length =
          resource.queue.length + 1 := List.length_append
      simp only [missing, unqueued, Bool.false_eq_true, if_false, whole, (atRest rfl).1, outsider,
        (atRest rfl).2, List.length_map, place]

theorem leave_roll (orderly : resource.Orderly)
    (heard : ∀ waiter ∈ resource.queue, listening waiter.ticket = true)
    (id : LockerId) : (resource.leave listening id).roll = Roll.without id resource.roll := by
  have names : (resource.dismiss id).queue.map Waiter.holding =
      Roll.without id (resource.queue.map Waiter.holding) := by
    rw [orderly.queue_dismiss, Roll.without, List.filter_map]
    rfl
  have holders : (resource.leave listening id).holdings =
      Roll.without id resource.holdings ++
        ((resource.dismiss id).sweep listening).1.map Waiter.holding :=
    promote_holdings listening _ _
  rw [roll, holders, List.append_assoc, ← List.map_append, leave_partition heard id, names, roll]
  exact (List.filter_append _ _).symm

theorem disperse_roll (resource : Resource) : resource.disperse.roll = resource.holdings := by
  simp [roll, disperse]

end Locking.Resource
