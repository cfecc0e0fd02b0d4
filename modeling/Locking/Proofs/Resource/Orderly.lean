import Locking.Proofs.Resource.Promotion
import Locking.Resource.Audit
import Mathlib.Data.List.Nodup

namespace Locking.Resource

/-!
What is true of a resource whatever has been done to it, a sweep that is due or not: lockers hold
once and go together, wait once, and never do both.
-/

structure Orderly (resource : Resource) : Prop where
  holdings : resource.holdings.Pairwise fun first second =>
    first.locker.id ≠ second.locker.id ∧ first.level.compatible second.level = true
  queue : resource.queue.Pairwise fun first second => first.locker.id ≠ second.locker.id
  apart : ∀ holding ∈ resource.holdings, ∀ waiter ∈ resource.queue,
    holding.locker.id ≠ waiter.locker.id

def Involves (resource : Resource) (id : LockerId) : Prop :=
  (∃ holding ∈ resource.holdings, holding.locker.id = id) ∨
    ∃ waiter ∈ resource.queue, waiter.locker.id = id

variable {resource after : Resource} {listening : Ticket → Bool} {id : LockerId} {level : Level}
  {key : Key} {locker : Locker} {ticket : Ticket} {reply : Reply}

theorem vacant_orderly : vacant.Orderly :=
  ⟨.nil, .nil, by simp [vacant]⟩

theorem holding?_eq_none_iff :
    resource.holding? id = none ↔ ∀ holding ∈ resource.holdings, holding.locker.id ≠ id := by
  simp [holding?]

theorem exists_of_holding? (held : resource.holding? id = some level) :
    ∃ holding ∈ resource.holdings, holding.locker.id = id ∧ holding.level = level := by
  obtain ⟨holding, found, same⟩ := Option.map_eq_some_iff.mp held
  exact ⟨holding, List.mem_of_find?_eq_some found,
    by simpa using List.find?_some found, same⟩

theorem Orderly.holding?_eq (orderly : resource.Orderly) {holding : Holding}
    (member : holding ∈ resource.holdings) (owner : holding.locker.id = id) :
    resource.holding? id = some holding.level := by
  cases held : resource.holding? id with
  | none => exact absurd owner (holding?_eq_none_iff.mp held holding member)
  | some level =>
      obtain ⟨other, otherMember, sameOwner, sameLevel⟩ := exists_of_holding? held
      have distinct : (resource.holdings.map (·.locker.id)).Nodup :=
        List.pairwise_map.mpr (orderly.holdings.imp (fun pair => pair.1))
      have same : other = holding :=
        List.inj_on_of_nodup_map distinct otherMember member (sameOwner.trans owner.symm)
      rw [← sameLevel, same]

theorem Orderly.waiter_unique (orderly : resource.Orderly) {first second : Waiter}
    (firstMember : first ∈ resource.queue) (secondMember : second ∈ resource.queue)
    (same : first.locker.id = second.locker.id) : first = second := by
  have distinct : (resource.queue.map (·.locker.id)).Nodup :=
    List.pairwise_map.mpr orderly.queue
  exact List.inj_on_of_nodup_map distinct firstMember secondMember same

/-- Where no locker waits twice, its first request is its only one. -/
theorem eraseP_eq_filter {queue : List Waiter}
    (distinct : queue.Pairwise fun first second => first.locker.id ≠ second.locker.id)
    (id : LockerId) :
    queue.eraseP (fun waiter => waiter.locker.id == id) =
      queue.filter (fun waiter => waiter.locker.id != id) := by
  induction queue with
  | nil => rfl
  | cons waiter rest ih =>
      obtain ⟨others, distinctRest⟩ := List.pairwise_cons.mp distinct
      by_cases own : waiter.locker.id = id
      · have kept : rest.filter (fun other => other.locker.id != id) = rest :=
          List.filter_eq_self.mpr fun other member =>
            bne_iff_ne.mpr fun same => others other member (own.trans same.symm)
        rw [List.eraseP_cons_of_pos (by simpa using own),
          List.filter_cons_of_neg (by simpa using own), kept]
      · rw [List.eraseP_cons_of_neg (by simpa using own),
          List.filter_cons_of_pos (by simpa using own), ih distinctRest]

theorem Orderly.queue_dismiss (orderly : resource.Orderly) (id : LockerId) :
    (resource.dismiss id).queue =
      resource.queue.filter (fun waiter => waiter.locker.id != id) :=
  eraseP_eq_filter orderly.queue id

theorem Orderly.mem_queue_dismiss_iff (orderly : resource.Orderly) {waiter : Waiter} :
    waiter ∈ (resource.dismiss id).queue ↔ waiter ∈ resource.queue ∧ waiter.locker.id ≠ id := by
  rw [orderly.queue_dismiss, List.mem_filter, bne_iff_ne]

/-- The request that leaves the queue is told by its ticket, and all others stay. -/
theorem ticketOf?_perm (resource : Resource) (id : LockerId) :
    ((resource.ticketOf? id).toList ++ (resource.dismiss id).queue.map (·.ticket)).Perm
      (resource.queue.map (·.ticket)) := by
  unfold ticketOf?
  cases found : resource.queue.find? (fun waiter => waiter.locker.id == id) with
  | none =>
      rw [dismiss, List.eraseP_of_forall_not (List.find?_eq_none.mp found)]
      exact .refl _
  | some first =>
      obtain ⟨own, front, back, split, others⟩ := List.find?_eq_some_iff_append.mp found
      have rest : (resource.dismiss id).queue = front ++ back := by
        rw [dismiss, split, List.eraseP_append_right _ (by simpa using others)]
        exact congrArg (front ++ ·) (List.eraseP_cons_of_pos own)
      rw [rest, split]
      exact List.perm_middle.symm.map Waiter.ticket

theorem Orderly.ticketOf?_eq (orderly : resource.Orderly) {waiter : Waiter}
    (queued : waiter ∈ resource.queue) (owner : waiter.locker.id = id) :
    resource.ticketOf? id = some waiter.ticket := by
  cases found : resource.queue.find? (fun waiter => waiter.locker.id == id) with
  | none => exact absurd owner (by simpa using List.find?_eq_none.mp found waiter queued)
  | some first =>
      have firstOwner : first.locker.id = id := by simpa using List.find?_some found
      have same := orderly.waiter_unique (List.mem_of_find?_eq_some found) queued
        (firstOwner.trans owner.symm)
      rw [ticketOf?, found, same]
      rfl

theorem isQueued_iff :
    resource.isQueued id = true ↔ ∃ waiter ∈ resource.queue, waiter.locker.id = id := by
  simp [isQueued]

theorem isQueued_eq_false_iff :
    resource.isQueued id = false ↔ ∀ waiter ∈ resource.queue, waiter.locker.id ≠ id := by
  simp [isQueued]

theorem Orderly.unheld (orderly : resource.Orderly) (queued : resource.isQueued id = true) :
    resource.holding? id = none := by
  obtain ⟨waiter, member, owner⟩ := isQueued_iff.mp queued
  exact holding?_eq_none_iff.mpr (fun holding held =>
    owner ▸ orderly.apart holding held waiter member)

/-- What a request comes to, with the tests that decide it. -/
inductive Requested (resource : Resource) (key : Key) (locker : Locker) (level : Level)
    (ticket : Ticket) : Except Refusal (Reply × Resource) → Prop
  | kept {held : Level} (holds : resource.holding? locker.id = some held)
      (enough : level ≤ held) :
      Requested resource key locker level ticket (.ok (.granted, resource))
  | raised {held : Level} (holds : resource.holding? locker.id = some held)
      (more : ¬ level ≤ held) (free : resource.canRaise locker.id level = true) :
      Requested resource key locker level ticket
        (.ok (.granted, { resource with holdings := raise locker.id level resource.holdings }))
  | conflicting {held : Level} (holds : resource.holding? locker.id = some held)
      (more : ¬ level ≤ held) (blocked : resource.canRaise locker.id level = false) :
      Requested resource key locker level ticket (.error (.conflictingUpgrade key held level))
  | alreadyQueued (absent : resource.holding? locker.id = none)
      (queued : resource.isQueued locker.id = true) :
      Requested resource key locker level ticket (.error (.alreadyQueued key))
  | entered (absent : resource.holding? locker.id = none)
      (unqueued : resource.isQueued locker.id = false) (nobody : resource.queue = [])
      (fits : admits resource.holdings level = true) :
      Requested resource key locker level ticket (.ok (.granted, resource.enter locker level))
  | enqueued (absent : resource.holding? locker.id = none)
      (unqueued : resource.isQueued locker.id = false)
      (busy : resource.queue ≠ [] ∨ admits resource.holdings level = false) :
      Requested resource key locker level ticket
        (.ok (.queued (resource.queue.length + 1), resource.enqueue ⟨locker, level, ticket⟩))

theorem requested (resource : Resource) (key : Key) (locker : Locker) (level : Level)
    (ticket : Ticket) :
    Requested resource key locker level ticket (resource.request key locker level ticket) := by
  unfold request
  cases holds : resource.holding? locker.id with
  | some held =>
      dsimp only
      split
      · exact .kept holds ‹_›
      · split
        · exact .raised holds ‹_› ‹_›
        · exact .conflicting holds ‹_› (by simpa using ‹¬ resource.canRaise locker.id level = true›)
  | none =>
      dsimp only
      rw [othersOf_eq_self (holding?_eq_none_iff.mp holds)]
      split
      · exact .alreadyQueued holds ‹_›
      · rename_i unqueued
        have unqueued : resource.isQueued locker.id = false := by simpa using unqueued
        split
        · rename_i free
          rw [Bool.and_eq_true, List.isEmpty_iff] at free
          exact .entered holds unqueued free.1 free.2
        · rename_i busy
          rw [Bool.and_eq_true, List.isEmpty_iff, not_and_or, Bool.not_eq_true] at busy
          exact .enqueued holds unqueued busy

theorem lockers_raise (id : LockerId) (level : Level) (holdings : List Holding) :
    (raise id level holdings).map (·.locker) = holdings.map (·.locker) := by
  induction holdings with
  | nil => rfl
  | cons holding rest ih =>
      unfold raise
      split
      · rfl
      · rw [List.map_cons, List.map_cons, ih]

theorem exists_of_mem_raise {holdings : List Holding} {holding : Holding}
    (member : holding ∈ raise id level holdings) :
    ∃ before ∈ holdings, before.locker = holding.locker := by
  have listed := List.mem_map_of_mem (f := (·.locker)) member
  rw [lockers_raise] at listed
  exact List.mem_map.mp listed

theorem raise_append {front : List Holding}
    (absent : ∀ holding ∈ front, holding.locker.id ≠ id) (level : Level) (back : List Holding) :
    raise id level (front ++ back) = front ++ raise id level back := by
  induction front with
  | nil => rfl
  | cons holding rest ih =>
      obtain ⟨other, others⟩ := List.forall_mem_cons.mp absent
      rw [List.cons_append, raise, if_neg other, ih others, List.cons_append]

theorem raise_eq_self {holdings : List Holding}
    (absent : ∀ holding ∈ holdings, holding.locker.id ≠ id) :
    raise id level holdings = holdings := by
  simpa [raise] using raise_append absent level []

/-- Where no locker holds twice, its first holding is its only one. -/
theorem Orderly.raise_eq_map (orderly : resource.Orderly) (id : LockerId) (level : Level) :
    raise id level resource.holdings = resource.holdings.map fun holding =>
      if holding.locker.id = id then { holding with level } else holding := by
  have distinct := orderly.holdings.imp (fun pair => pair.1)
  generalize resource.holdings = holdings at distinct
  induction holdings with
  | nil => rfl
  | cons holding rest ih =>
      obtain ⟨others, distinctRest⟩ := List.pairwise_cons.mp distinct
      rw [raise, List.map_cons, ← ih distinctRest]
      split
      · rename_i own
        rw [raise_eq_self fun other member same => others other member (own.trans same.symm)]
      · rfl

/-- Only the holding of the one locker changes, and of it only the level. -/
theorem Orderly.mem_raise (orderly : resource.Orderly) {holding : Holding} :
    holding ∈ raise id level resource.holdings ↔
      (holding ∈ resource.holdings ∧ holding.locker.id ≠ id) ∨
        (holding.locker.id = id ∧ holding.level = level ∧
          ∃ before ∈ resource.holdings, before.locker = holding.locker) := by
  simp only [orderly.raise_eq_map, List.mem_map]
  constructor
  · intro raised
    obtain ⟨before, member, same⟩ := raised
    split at same
    · rename_i owner
      subst same
      exact .inr ⟨owner, rfl, before, member, rfl⟩
    · rename_i other
      subst same
      exact .inl ⟨member, other⟩
  · intro raised
    rcases raised with ⟨member, other⟩ | ⟨owner, sameLevel, before, member, sameLocker⟩
    · exact ⟨holding, member, by rw [if_neg other]⟩
    · refine ⟨before, member, ?_⟩
      rw [if_pos (by rw [sameLocker]; exact owner), sameLocker, ← sameLevel]

theorem raise_orderly (orderly : resource.Orderly)
    (fits : admits (othersOf id resource.holdings) level = true) :
    ({ resource with holdings := raise id level resource.holdings } : Resource).Orderly := by
  have others {holding : Holding} (member : holding ∈ resource.holdings)
      (other : holding.locker.id ≠ id) : holding.level.compatible level = true :=
    admits_iff.mp fits holding (mem_othersOf.mpr ⟨member, other⟩)
  refine ⟨?_, orderly.queue, ?_⟩
  · simp only [orderly.raise_eq_map]
    refine List.pairwise_map.mpr (orderly.holdings.imp_of_mem ?_)
    intro first second firstMember secondMember ⟨distinct, together⟩
    by_cases raisedFirst : first.locker.id = id
    · have other : second.locker.id ≠ id := fun same => distinct (raisedFirst.trans same.symm)
      rw [if_pos raisedFirst, if_neg other]
      exact ⟨distinct, (Level.compatible_symm _ _).trans (others secondMember other)⟩
    · rw [if_neg raisedFirst]
      split
      · exact ⟨distinct, others firstMember raisedFirst⟩
      · exact ⟨distinct, together⟩
  · intro holding member waiter queued
    obtain ⟨before, member, same⟩ := exists_of_mem_raise member
    rw [← same]
    exact orderly.apart before member waiter queued

theorem enter_orderly (orderly : resource.Orderly)
    (absent : resource.holding? locker.id = none) (nobody : resource.queue = [])
    (fits : admits resource.holdings level = true) : (resource.enter locker level).Orderly := by
  refine ⟨?_, orderly.queue, by simp [enter, nobody]⟩
  refine List.pairwise_append.mpr ⟨orderly.holdings, by simp, ?_⟩
  intro holding member next same
  rw [List.mem_singleton] at same
  subst same
  exact ⟨holding?_eq_none_iff.mp absent holding member, admits_iff.mp fits holding member⟩

theorem enqueue_orderly (orderly : resource.Orderly)
    (absent : resource.holding? locker.id = none)
    (unqueued : resource.isQueued locker.id = false) :
    (resource.enqueue ⟨locker, level, ticket⟩).Orderly := by
  refine ⟨orderly.holdings, ?_, ?_⟩
  · refine List.pairwise_append.mpr ⟨orderly.queue, by simp, ?_⟩
    intro waiter member next same
    rw [List.mem_singleton] at same
    subst same
    exact isQueued_eq_false_iff.mp unqueued waiter member
  · intro holding member waiter queued
    rcases List.mem_append.mp queued with earlier | last
    · exact orderly.apart holding member waiter earlier
    · rw [List.mem_singleton] at last
      subst last
      exact holding?_eq_none_iff.mp absent holding member

theorem request_orderly (orderly : resource.Orderly)
    (accepted : resource.request key locker level ticket = .ok (reply, after)) :
    after.Orderly := by
  have asked := resource.requested key locker level ticket
  rw [accepted] at asked
  cases asked with
  | kept => exact orderly
  | raised _ _ free =>
      rw [canRaise, Bool.and_eq_true] at free
      exact raise_orderly orderly free.1
  | entered absent _ nobody fits => exact enter_orderly orderly absent nobody fits
  | enqueued absent unqueued => exact enqueue_orderly orderly absent unqueued

theorem sweep_orderly (orderly : resource.Orderly) (listening : Ticket → Bool) :
    (resource.sweep listening).2.Orderly := by
  have subset := promote_sublist listening resource.holdings resource.queue
  have distinct := orderly.queue.sublist subset
  obtain ⟨grantedDistinct, leftDistinct, across⟩ := List.pairwise_append.mp distinct
  have together := promote_compatible listening resource.queue
    (orderly.holdings.imp (fun pair => pair.2))
  have holdings := promote_holdings listening resource.holdings resource.queue
  have owners : (promote listening resource.holdings resource.queue).2.holdings.Pairwise
      fun first second => first.locker.id ≠ second.locker.id := by
    rw [holdings]
    refine List.pairwise_append.mpr ⟨orderly.holdings.imp (fun pair => pair.1),
      List.pairwise_map.mpr grantedDistinct, ?_⟩
    intro holding member next promoted
    obtain ⟨waiter, granted, rfl⟩ := List.mem_map.mp promoted
    exact orderly.apart holding member waiter (subset.subset (List.mem_append_left _ granted))
  refine ⟨owners.and together, leftDistinct, ?_⟩
  intro holding member waiter left
  simp only [sweep, holdings] at member
  rcases List.mem_append.mp member with old | promoted
  · exact orderly.apart holding old waiter (subset.subset (List.mem_append_right _ left))
  · obtain ⟨granted, grantedMember, rfl⟩ := List.mem_map.mp promoted
    exact across granted grantedMember waiter left

/-- Taking holdings and waiters away leaves what there is in order. -/
theorem Orderly.of_sublist (orderly : resource.Orderly)
    (holdings : after.holdings.Sublist resource.holdings)
    (queue : after.queue.Sublist resource.queue) : after.Orderly where
  holdings := orderly.holdings.sublist holdings
  queue := orderly.queue.sublist queue
  apart holding member waiter queued :=
    orderly.apart holding (holdings.subset member) waiter (queue.subset queued)

theorem withdraw_orderly (orderly : resource.Orderly) (id : LockerId) :
    (resource.withdraw id).Orderly :=
  orderly.of_sublist (.refl _) List.eraseP_sublist

theorem dismiss_orderly (orderly : resource.Orderly) (id : LockerId) :
    (resource.dismiss id).Orderly :=
  orderly.of_sublist List.filter_sublist List.eraseP_sublist

theorem disperse_orderly (orderly : resource.Orderly) : resource.disperse.Orderly :=
  orderly.of_sublist (.refl _) (List.nil_sublist _)

end Locking.Resource
