import Locking.Proofs.Ledger.Sound
import Locking.Proofs.Resource.Persistence
import Mathlib.Data.List.TakeWhile

namespace Locking.Resource

/-!
The queue of a resource as those see it who stand in it: who is ahead, which place that makes, and
who is granted a lock in the meantime.
-/

/-- Who holds a lock after a change and held none before it, in the order of granting. -/
def newcomers (before after : Resource) : List Holding :=
  after.holdings.filter fun holding => (before.holding? holding.locker.id).isNone

/-- The requests that stand before one in the queue. -/
def ahead (resource : Resource) (ticket : Ticket) : List Waiter :=
  resource.queue.takeWhile fun waiter => waiter.ticket != ticket

/-- The place of a request in the queue, counted from 1. -/
def place (resource : Resource) (ticket : Ticket) : Nat :=
  (resource.ahead ticket).length + 1

/-- Those who gain a lock stood ahead of a request, and gain it in the order of the queue. Whoever
is ahead of the request afterwards was so before, and stood behind them. -/
def Advances (ticket : Ticket) (before after : Resource) (gained : List Holding) : Prop :=
  ∃ granted : List Waiter, gained = granted.map Waiter.holding ∧
    (granted ++ after.ahead ticket).Sublist (before.ahead ticket)

variable {resource before middle after : Resource} {listening : Ticket → Bool} {id : LockerId}
  {level : Level} {key : Key} {locker : Locker} {ticket : Ticket} {reply : Reply}
  {waiter : Waiter} {first second : List Holding}

theorem Advances.refl (ticket : Ticket) (resource : Resource) :
    Advances ticket resource resource [] :=
  ⟨[], rfl, .refl _⟩

theorem Advances.trans (early : Advances ticket before middle first)
    (late : Advances ticket middle after second) :
    Advances ticket before after (first ++ second) := by
  obtain ⟨granted, rfl, ahead⟩ := early
  obtain ⟨later, rfl, behind⟩ := late
  refine ⟨granted ++ later, by simp, ?_⟩
  rw [List.append_assoc]
  exact (behind.append_left granted).trans ahead

theorem Advances.place_le (advances : Advances ticket before after first) :
    after.place ticket ≤ before.place ticket := by
  obtain ⟨granted, _, ahead⟩ := advances
  exact Nat.succ_le_succ ((List.sublist_append_right _ _).trans ahead).length_le

/-! Places. -/

theorem ahead_eq {front back : List Waiter} (split : resource.queue = front ++ waiter :: back)
    (others : ∀ other ∈ front, other.ticket ≠ waiter.ticket) :
    resource.ahead waiter.ticket = front := by
  have passed : ∀ other ∈ front, (other.ticket != waiter.ticket) = true := by simpa using others
  rw [ahead, split, List.takeWhile_append_of_pos passed]
  simp

theorem ne_of_mem_ahead (member : waiter ∈ resource.ahead ticket) : waiter.ticket ≠ ticket := by
  have passed := List.mem_takeWhile_imp member
  exact bne_iff_ne.mp passed

theorem ahead_eq_of_distinct {front back : List Waiter}
    (distinct : resource.queue.Pairwise fun first second => first.ticket ≠ second.ticket)
    (split : resource.queue = front ++ waiter :: back) :
    resource.ahead waiter.ticket = front := by
  refine ahead_eq split (fun other member => ?_)
  rw [split] at distinct
  exact (List.pairwise_append.mp distinct).2.2 other member waiter (by simp)

theorem exists_behind
    (distinct : resource.queue.Pairwise fun first second => first.ticket ≠ second.ticket)
    (queued : waiter ∈ resource.queue) :
    ∃ back, resource.queue = resource.ahead waiter.ticket ++ waiter :: back := by
  obtain ⟨front, back, split⟩ := List.append_of_mem queued
  exact ⟨back, by rw [ahead_eq_of_distinct distinct split, split]⟩

theorem place_lt
    (distinct : resource.queue.Pairwise fun first second => first.ticket ≠ second.ticket)
    (member : waiter ∈ resource.ahead ticket) :
    resource.place waiter.ticket < resource.place ticket := by
  obtain ⟨front, back, split⟩ := List.append_of_mem member
  obtain ⟨rest, whole⟩ : resource.ahead ticket <+: resource.queue := List.takeWhile_prefix _
  have shape : resource.queue = front ++ waiter :: (back ++ rest) := by
    rw [← whole, split]
    simp
  simp only [place, ahead_eq_of_distinct distinct shape, split, List.length_append,
    List.length_cons]
  omega

/-- The waiters of a queue have the places from 1 on, in their order. -/
theorem places_eq
    (distinct : resource.queue.Pairwise fun first second => first.ticket ≠ second.ticket) :
    resource.queue.map (fun waiter => resource.place waiter.ticket) =
      List.range' 1 resource.queue.length := by
  refine List.ext_getElem (by simp) (fun index inQueue _ => ?_)
  rw [List.length_map] at inQueue
  have split : resource.queue =
      resource.queue.take index ++ resource.queue[index] :: resource.queue.drop (index + 1) := by
    rw [List.getElem_cons_drop, List.take_append_drop]
  have front := ahead_eq_of_distinct distinct split
  simp only [List.getElem_map, place, front, List.length_take, List.getElem_range']
  omega

theorem records_eq
    (distinct : resource.queue.Pairwise fun first second => first.ticket ≠ second.ticket)
    (key : Key) :
    resource.records key =
      resource.holdings.map (fun holding => ⟨key, holding.locker.name, holding.level, 0⟩) ++
        resource.queue.map (fun waiter =>
          ⟨key, waiter.locker.name, waiter.level, resource.place waiter.ticket⟩) := by
  have places := places_eq distinct
  rw [records]
  congr 1
  refine List.ext_getElem (by simp) (fun index inRecords inQueue => ?_)
  have place := List.getElem_of_eq places (by simpa using inQueue)
  simp only [List.getElem_map, List.getElem_range'] at place
  simp only [List.getElem_mapIdx, List.getElem_map, place]
  congr 1
  omega

theorem records_filter (resource : Resource) (key other : Key) :
    (resource.records other).filter (fun record => record.key == key) =
      if other = key then resource.records key else [] := by
  have keys : ∀ record ∈ resource.records other, record.key = other := by
    intro record member
    rcases List.mem_append.mp member with granted | waiting
    · obtain ⟨holding, _, rfl⟩ := List.mem_map.mp granted
      rfl
    · obtain ⟨index, _, rfl⟩ := List.mem_mapIdx.mp waiting
      rfl
  split
  · rename_i same
    subst same
    exact List.filter_eq_self.mpr (fun record member => by simp [keys record member])
  · rename_i different
    exact List.filter_eq_nil_iff.mpr (fun record member => by simp [keys record member, different])

/-! What a request does to those who wait. -/

theorem newcomers_eq_nil
    (known : ∀ holding ∈ after.holdings,
      ∃ earlier ∈ before.holdings, earlier.locker.id = holding.locker.id) :
    newcomers before after = [] := by
  refine List.filter_eq_nil_iff.mpr (fun holding member new => ?_)
  obtain ⟨earlier, held, owner⟩ := known holding member
  exact holding?_eq_none_iff.mp (Option.isNone_iff_eq_none.mp new) earlier held owner

theorem newcomers_self (resource : Resource) : newcomers resource resource = [] :=
  newcomers_eq_nil (fun holding member => ⟨holding, member, rfl⟩)

theorem ahead_of_prefix
    (distinct : before.queue.Pairwise fun first second => first.ticket ≠ second.ticket)
    (queued : waiter ∈ before.queue) (extended : before.queue <+: after.queue) :
    after.ahead waiter.ticket = before.ahead waiter.ticket := by
  obtain ⟨back, split⟩ := exists_behind distinct queued
  obtain ⟨more, longer⟩ := extended
  have shape : after.queue = before.ahead waiter.ticket ++ waiter :: (back ++ more) := by
    rw [← longer]
    nth_rewrite 1 [split]
    simp
  exact ahead_eq shape (fun _ member => ne_of_mem_ahead member)

/-- Nobody is granted a new request as long as somebody waits. -/
theorem newcomers_request
    (accepted : resource.request key locker level ticket = .ok (reply, after))
    (queued : waiter ∈ resource.queue) : newcomers resource after = [] := by
  have asked := resource.requested key locker level ticket
  rw [accepted] at asked
  cases asked with
  | kept => exact newcomers_self _
  | raised =>
      refine newcomers_eq_nil (fun holding member => ?_)
      obtain ⟨earlier, held, same⟩ := exists_of_mem_raise member
      exact ⟨earlier, held, by rw [same]⟩
  | entered _ _ nobody =>
      rw [nobody] at queued
      contradiction
  | enqueued => exact newcomers_eq_nil (fun holding member => ⟨holding, member, rfl⟩)

theorem request_advances
    (distinct : resource.queue.Pairwise fun first second => first.ticket ≠ second.ticket)
    (accepted : resource.request key locker level ticket = .ok (reply, after))
    (queued : waiter ∈ resource.queue) :
    Advances waiter.ticket resource after (newcomers resource after) := by
  refine ⟨[], newcomers_request accepted queued, ?_⟩
  rw [List.nil_append, ahead_of_prefix distinct queued (request_extends_queue accepted)]

/-! What a departure does to those who wait. -/

theorem newcomers_leave (orderly : resource.Orderly) (listening : Ticket → Bool)
    (id : LockerId) :
    newcomers resource (resource.leave listening id) =
      ((resource.dismiss id).sweep listening).1.map Waiter.holding := by
  have holdings : (resource.leave listening id).holdings =
      othersOf id resource.holdings ++
        ((resource.dismiss id).sweep listening).1.map Waiter.holding :=
    promote_holdings listening _ _
  rw [newcomers, holdings, List.filter_append, List.filter_eq_nil_iff.mpr,
    List.filter_eq_self.mpr, List.nil_append]
  · intro holding member
    obtain ⟨waiter, granted, rfl⟩ := List.mem_map.mp member
    have queued := (leave_sublist listening resource id).subset (List.mem_append_left _ granted)
    rw [Option.isNone_iff_eq_none, holding?_eq_none_iff]
    exact fun holding held => orderly.apart holding held waiter queued
  · intro holding member
    rw [orderly.holding?_eq (mem_othersOf.mp member).1 rfl]
    simp

theorem ahead_dismiss (orderly : resource.Orderly)
    (distinct : resource.queue.Pairwise fun first second => first.ticket ≠ second.ticket)
    (queued : waiter ∈ resource.queue) (other : waiter.locker.id ≠ id) :
    (resource.dismiss id).ahead waiter.ticket =
      (resource.ahead waiter.ticket).filter (fun other => other.locker.id != id) := by
  obtain ⟨back, split⟩ := exists_behind distinct queued
  have remaining : (resource.dismiss id).queue =
      (resource.ahead waiter.ticket).filter (fun other => other.locker.id != id) ++
        waiter :: back.filter (fun other => other.locker.id != id) := by
    rw [orderly.queue_dismiss]
    nth_rewrite 1 [split]
    simp [other]
  exact ahead_eq remaining (fun _ member => ne_of_mem_ahead (List.mem_filter.mp member).1)

theorem ahead_dismiss_sublist (orderly : resource.Orderly)
    (distinct : resource.queue.Pairwise fun first second => first.ticket ≠ second.ticket)
    (stays : waiter ∈ (resource.dismiss id).queue) :
    ((resource.dismiss id).ahead waiter.ticket).Sublist (resource.ahead waiter.ticket) := by
  obtain ⟨queued, other⟩ := orderly.mem_queue_dismiss_iff.mp stays
  rw [ahead_dismiss orderly distinct queued other]
  exact List.filter_sublist

theorem leave_advances (orderly : resource.Orderly)
    (distinct : resource.queue.Pairwise fun first second => first.ticket ≠ second.ticket)
    (heard : ∀ waiter ∈ resource.queue, listening waiter.ticket = true)
    (stays : waiter ∈ (resource.leave listening id).queue) :
    Advances waiter.ticket resource (resource.leave listening id)
      (newcomers resource (resource.leave listening id)) := by
  refine ⟨_, newcomers_leave orderly listening id, ?_⟩
  -- The waiter stays, so the sweep has stopped before it, and grants go to those ahead.
  have passed : ∀ granted ∈ ((resource.dismiss id).sweep listening).1,
      (granted.ticket != waiter.ticket) = true := by
    have apart := List.pairwise_append.mp (distinct.sublist (leave_sublist listening resource id))
    exact fun granted member => bne_iff_ne.mpr (apart.2.2 granted member waiter stays)
  have whole : ((resource.dismiss id).sweep listening).1 ++
      (resource.leave listening id).ahead waiter.ticket =
        (resource.dismiss id).ahead waiter.ticket := by
    rw [ahead, ahead, ← leave_partition heard id, List.takeWhile_append_of_pos passed]
  rw [whole]
  refine ahead_dismiss_sublist orderly distinct ?_
  rw [← leave_partition heard id]
  exact List.mem_append_right _ stays

/-- If the waiter does not stay because it is granted its request, grants before its own still go to
those ahead. -/
theorem leave_turn (orderly : resource.Orderly)
    (distinct : resource.queue.Pairwise fun first second => first.ticket ≠ second.ticket)
    (heard : ∀ waiter ∈ resource.queue, listening waiter.ticket = true)
    (queued : waiter ∈ resource.queue)
    (turn : newcomers resource (resource.leave listening id) =
      first ++ waiter.holding :: second) :
    ∃ granted : List Waiter, first = granted.map Waiter.holding ∧
      granted.Sublist (resource.ahead waiter.ticket) := by
  rw [newcomers_leave orderly] at turn
  obtain ⟨granted, others, promoted, rfl, rest⟩ := List.map_eq_append_iff.mp turn
  obtain ⟨served, behind, rfl, same, _⟩ := List.map_eq_cons_iff.mp rest
  have split : (resource.dismiss id).queue =
      granted ++ served :: (behind ++ (resource.leave listening id).queue) := by
    rw [← leave_partition heard id, promoted]
    simp
  have stays : served ∈ (resource.dismiss id).queue := by simp [split]
  have owner := congrArg (fun holding : Holding => holding.locker.id) same
  obtain rfl := orderly.waiter_unique (List.mem_of_mem_eraseP stays) queued owner
  refine ⟨granted, rfl, ?_⟩
  rw [← ahead_eq_of_distinct (distinct.sublist List.eraseP_sublist) split]
  exact ahead_dismiss_sublist orderly distinct stays

end Locking.Resource
