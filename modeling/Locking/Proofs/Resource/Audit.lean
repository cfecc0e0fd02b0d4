import Locking.Proofs.Resource.Orderly

namespace Locking.Resource

/-!
What an audit can find. On an orderly resource only the head of the queue can be amiss, and after
every request, as after every sweep, it is not.
-/

variable {resource after : Resource} {id : LockerId} {level : Level} {key : Key} {locker : Locker}
  {ticket : Ticket} {reply : Reply}

theorem settled_of_queue_nil (nobody : resource.queue = []) : resource.Settled := by
  simp [Settled, nobody]

theorem clash?_eq_none_iff {first second : Holding} :
    clash? first second = none ↔
      first.locker.id ≠ second.locker.id ∧ first.level.compatible second.level = true := by
  unfold clash?
  split
  · simp [*]
  · split <;> simp [*]

theorem holdingBreach?_eq_none_iff {holdings : List Holding} :
    holdingBreach? holdings = none ↔ holdings.Pairwise fun first second =>
      first.locker.id ≠ second.locker.id ∧ first.level.compatible second.level = true := by
  induction holdings with
  | nil => simp [holdingBreach?]
  | cons first rest ih =>
      rw [holdingBreach?, Option.or_eq_none_iff, ih, List.findSome?_eq_none_iff,
        List.pairwise_cons]
      simp only [clash?_eq_none_iff]

theorem queueBreach?_eq_none_iff {queue : List Waiter} :
    resource.queueBreach? queue = none ↔
      (∀ waiter ∈ queue, resource.holding? waiter.locker.id = none) ∧
        queue.Pairwise fun first second => first.locker.id ≠ second.locker.id := by
  induction queue with
  | nil => simp [queueBreach?]
  | cons waiter rest ih =>
      rw [queueBreach?, List.forall_mem_cons, List.pairwise_cons]
      cases held : resource.holding? waiter.locker.id with
      | some level => simp
      | none =>
          simp only [Option.isSome_none, Bool.false_eq_true, if_false]
          split
          · rename_i again
            obtain ⟨other, member, same⟩ := List.any_eq_true.mp again
            simp only [reduceCtorEq, false_iff, not_and]
            intro _ alone
            exact absurd (eq_of_beq same) (alone other member)
          · rename_i alone
            rw [ih]
            simp only [List.any_eq_true, beq_iff_eq, not_exists, not_and] at alone
            tauto

/-- Of an orderly resource an audit can only find that the head of the queue has been missed. -/
theorem Orderly.breach?_eq (orderly : resource.Orderly) :
    resource.breach? = resource.headBreach? := by
  have absent : ∀ waiter ∈ resource.queue, resource.holding? waiter.locker.id = none := by
    intro waiter queued
    exact holding?_eq_none_iff.mpr (fun holding member =>
      orderly.apart holding member waiter queued)
  simp only [breach?, holdingBreach?_eq_none_iff.mpr orderly.holdings,
    queueBreach?_eq_none_iff.mpr ⟨absent, orderly.queue⟩, Option.or_none, Option.none_or]

theorem headBreach?_eq_none_iff : resource.headBreach? = none ↔ resource.Settled := by
  obtain ⟨holdings, queue⟩ := resource
  cases queue with
  | nil => simp [headBreach?, Settled]
  | cons head rest => simp [headBreach?, Settled]

theorem Orderly.breach?_eq_none (orderly : resource.Orderly) (settled : resource.Settled) :
    resource.breach? = none :=
  orderly.breach?_eq.trans (headBreach?_eq_none_iff.mpr settled)

/-- A resource passes if it is orderly and keeps nobody waiting for nothing. -/
theorem breach?_eq_none_iff : resource.breach? = none ↔ resource.Orderly ∧ resource.Settled := by
  refine ⟨fun passes => ?_, fun well => well.1.breach?_eq_none well.2⟩
  simp only [breach?, Option.or_eq_none_iff, holdingBreach?_eq_none_iff, queueBreach?_eq_none_iff,
    headBreach?_eq_none_iff] at passes
  obtain ⟨⟨holdings, absent, queue⟩, settled⟩ := passes
  refine ⟨⟨holdings, queue, fun holding member waiter queued => ?_⟩, settled⟩
  exact holding?_eq_none_iff.mp (absent waiter queued) holding member

theorem settled_iff :
    resource.Settled ↔ ∀ head rest, resource.queue = head :: rest →
      ∃ holding ∈ resource.holdings, holding.level.compatible head.level = false := by
  simp only [Settled, admits_eq_false_iff, Option.mem_def, List.head?_eq_some_iff]
  exact forall_congr' (fun head => forall_exists_index)

/-- Raising a level sets no waiter free. Had the raised holding alone blocked the head at its old
level, it would block it at the new one too, and such a raise is refused. -/
theorem raise_settled {held : Level} (orderly : resource.Orderly) (settled : resource.Settled)
    (holds : resource.holding? id = some held) (more : ¬ level ≤ held)
    (free : resource.canRaise id level = true) :
    ({ resource with holdings := raise id level resource.holdings } : Resource).Settled := by
  intro head first
  obtain ⟨holding, member, blocks⟩ := admits_eq_false_iff.mp (settled head first)
  rw [canRaise, Bool.and_eq_true, List.all_eq_true] at free
  by_cases owner : holding.locker.id = id
  · have below : holding.level ≤ level := by
      have same : some holding.level = some held := (orderly.holding?_eq member owner).symm.trans holds
      rw [Option.some.inj same]
      exact Nat.le_of_not_le more
    have fits : level.compatible head.level = true :=
      (Level.compatible_symm _ _).trans (free.2 head (List.mem_of_mem_head? first))
    rw [Level.compatible_of_le below fits] at blocks
    contradiction
  · exact admits_eq_false_iff.mpr ⟨holding, orderly.mem_raise.mpr (.inl ⟨member, owner⟩), blocks⟩

theorem enqueue_settled (settled : resource.Settled)
    (busy : resource.queue ≠ [] ∨ admits resource.holdings level = false) :
    (resource.enqueue ⟨locker, level, ticket⟩).Settled := by
  obtain ⟨holdings, queue⟩ := resource
  cases queue with
  | nil => simpa [enqueue, Settled] using busy
  | cons head rest => simpa [enqueue, Settled] using settled

theorem request_settled (orderly : resource.Orderly) (settled : resource.Settled)
    (accepted : resource.request key locker level ticket = .ok (reply, after)) :
    after.Settled := by
  have asked := resource.requested key locker level ticket
  rw [accepted] at asked
  cases asked with
  | kept => exact settled
  | raised holds more free => exact raise_settled orderly settled holds more free
  | entered _ _ nobody => exact settled_of_queue_nil nobody
  | enqueued _ _ busy => exact enqueue_settled settled busy

end Locking.Resource
