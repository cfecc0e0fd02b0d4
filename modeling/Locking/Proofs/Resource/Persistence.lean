import Locking.Proofs.Ledger.Tidy

namespace Locking.Resource

/-!
What a locker keeps while others come and go: its lock, at no lower level, and its request in the
queue.
-/

variable {resource after : Resource} {listening : Ticket → Bool} {id other : LockerId}
  {level : Level} {key : Key} {locker : Locker} {ticket : Ticket} {reply : Reply}

theorem request_extends_queue
    (accepted : resource.request key locker level ticket = .ok (reply, after)) :
    resource.queue <+: after.queue := by
  have asked := resource.requested key locker level ticket
  rw [accepted] at asked
  cases asked with
  | kept => exact List.prefix_refl _
  | raised => exact List.prefix_refl _
  | entered => exact List.prefix_refl _
  | enqueued => exact List.prefix_append _ _

theorem request_granted_queue
    (accepted : resource.request key locker level ticket = .ok (.granted, after)) :
    after.queue = resource.queue := by
  have asked := resource.requested key locker level ticket
  rw [accepted] at asked
  cases asked with
  | kept => rfl
  | raised => rfl
  | entered => rfl

theorem request_queued {place : Nat}
    (accepted : resource.request key locker level ticket = .ok (.queued place, after)) :
    after = resource.enqueue ⟨locker, level, ticket⟩ ∧ place = after.queue.length ∧
      resource.holding? locker.id = none ∧ resource.isQueued locker.id = false := by
  have asked := resource.requested key locker level ticket
  rw [accepted] at asked
  cases asked with
  | enqueued absent unqueued => exact ⟨rfl, by simp [enqueue], absent, unqueued⟩

theorem request_holder {holding : Holding}
    (accepted : resource.request key locker level ticket = .ok (reply, after))
    (member : holding ∈ after.holdings) :
    holding.locker.id = locker.id ∨
      ∃ before ∈ resource.holdings, before.locker.id = holding.locker.id := by
  have asked := resource.requested key locker level ticket
  rw [accepted] at asked
  cases asked with
  | kept => exact .inr ⟨holding, member, rfl⟩
  | raised =>
      obtain ⟨before, held, same⟩ := exists_of_mem_raise member
      exact .inr ⟨before, held, by rw [same]⟩
  | entered =>
      rcases List.mem_append.mp member with member | last
      · exact .inr ⟨holding, member, rfl⟩
      · rw [List.mem_singleton.mp last]
        exact .inl rfl
  | enqueued => exact .inr ⟨holding, member, rfl⟩

/-- A request brings in no waiter but the locker that made it, which then holds nothing. -/
theorem request_waiter {waiter : Waiter}
    (accepted : resource.request key locker level ticket = .ok (reply, after))
    (member : waiter ∈ after.queue) :
    waiter ∈ resource.queue ∨
      waiter.locker = locker ∧ after.holdings = resource.holdings ∧
        resource.holding? locker.id = none := by
  have asked := resource.requested key locker level ticket
  rw [accepted] at asked
  cases asked with
  | kept => exact .inl member
  | raised => exact .inl member
  | entered => exact .inl member
  | enqueued absent =>
      rcases List.mem_append.mp member with earlier | last
      · exact .inl earlier
      · rw [List.mem_singleton.mp last]
        exact .inr ⟨rfl, rfl, absent⟩

theorem raise_keeps {held before : Level} (orderly : resource.Orderly)
    (free : resource.canRaise id level = true) (holds : resource.holding? id = some held)
    (more : ¬ level ≤ held) (keeps : resource.holding? other = some before) :
    ∃ higher, ({ resource with holdings := raise id level resource.holdings } :
      Resource).holding? other = some higher ∧ before ≤ higher := by
  rw [canRaise, Bool.and_eq_true] at free
  have raised := raise_orderly orderly free.1
  obtain ⟨holding, member, owner, same⟩ := exists_of_holding? keeps
  by_cases mine : holding.locker.id = id
  · have equal : held = before := by
      rw [← mine, owner, keeps] at holds
      exact (Option.some.inj holds).symm
    refine ⟨level, ?_, equal ▸ Nat.le_of_not_le more⟩
    have lifted : ({ holding with level } : Holding) ∈ raise id level resource.holdings :=
      orderly.mem_raise.mpr (.inr ⟨mine, rfl, holding, member, rfl⟩)
    exact raised.holding?_eq lifted owner
  · refine ⟨before, ?_, Level.le_refl before⟩
    rw [← same]
    exact raised.holding?_eq (orderly.mem_raise.mpr (.inl ⟨member, mine⟩)) owner

/-- Whatever is asked for, nobody loses what it holds. -/
theorem request_keeps {before : Level} (orderly : resource.Orderly)
    (accepted : resource.request key locker level ticket = .ok (reply, after))
    (keeps : resource.holding? other = some before) :
    ∃ higher, after.holding? other = some higher ∧ before ≤ higher := by
  have orderlyAfter := request_orderly orderly accepted
  have asked := resource.requested key locker level ticket
  rw [accepted] at asked
  cases asked with
  | kept => exact ⟨before, keeps, Level.le_refl before⟩
  | raised holds more free => exact raise_keeps orderly free holds more keeps
  | entered =>
      obtain ⟨holding, member, owner, rfl⟩ := exists_of_holding? keeps
      exact ⟨holding.level,
        orderlyAfter.holding?_eq (List.mem_append_left _ member) owner, Level.le_refl _⟩
  | enqueued => exact ⟨before, keeps, Level.le_refl before⟩

/-- The departure of a locker costs no other locker its lock, and those granted in its wake come
behind. -/
theorem leave_keeps {before : Level} (orderly : resource.Orderly) (different : other ≠ id)
    (keeps : resource.holding? other = some before) :
    (resource.leave listening id).holding? other = some before := by
  obtain ⟨holding, member, owner, rfl⟩ := exists_of_holding? keeps
  have orderlyAfter : (resource.leave listening id).Orderly :=
    sweep_orderly (dismiss_orderly orderly id) listening
  refine orderlyAfter.holding?_eq ?_ owner
  simp only [leave, sweep, promote_holdings]
  exact List.mem_append_left _ (mem_othersOf.mpr ⟨member, owner ▸ different⟩)

theorem leave_holding?_eq_none (nobody : resource.queue = [])
    (absent : resource.holding? other = none) :
    (resource.leave listening id).holding? other = none := by
  have left : resource.leave listening id = ⟨othersOf id resource.holdings, []⟩ := by
    simp [leave, dismiss, nobody, sweep]
  rw [left, holding?_eq_none_iff]
  intro holding member
  exact holding?_eq_none_iff.mp absent holding (mem_othersOf.mp member).1

end Locking.Resource
