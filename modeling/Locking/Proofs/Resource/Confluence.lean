import Locking.Proofs.Ledger.Sound

namespace Locking.Resource

/-!
Departures in any order. A sweep grants nothing that a later one would not grant, since those who
leave only make room. So it does not matter who leaves first.
-/

variable {resource : Resource} {listening : Ticket → Bool} {holdings : List Holding}
  {level : Level} {id : LockerId}

theorem admits_othersOf (fits : admits holdings level = true) (id : LockerId) :
    admits (othersOf id holdings) level = true :=
  admits_iff.mpr fun holding member => admits_iff.mp fits holding (mem_othersOf.mp member).1

theorem othersOf_append (id : LockerId) (first second : List Holding) :
    othersOf id (first ++ second) = othersOf id first ++ othersOf id second :=
  List.filter_append ..

theorem Orderly.dismiss_comm (orderly : resource.Orderly) (first second : LockerId) :
    (resource.dismiss first).dismiss second = (resource.dismiss second).dismiss first := by
  have queues : ((resource.dismiss first).dismiss second).queue =
      ((resource.dismiss second).dismiss first).queue := by
    rw [(dismiss_orderly orderly first).queue_dismiss, orderly.queue_dismiss,
      (dismiss_orderly orderly second).queue_dismiss, orderly.queue_dismiss, List.filter_comm]
  have holdings : othersOf second (othersOf first resource.holdings) =
      othersOf first (othersOf second resource.holdings) := List.filter_comm ..
  exact congrArg₂ Resource.mk holdings queues

/-- Whoever was granted a request by the first sweep is granted it by the second one as well, at the
same point, unless the locker is the one that left in between. -/
theorem promote_dismiss_promote {queue : List Waiter}
    (distinct : queue.Pairwise fun first second => first.locker.id ≠ second.locker.id)
    (listening : Ticket → Bool) (holdings : List Holding) (id : LockerId) :
    (((promote listening holdings queue).2.dismiss id).sweep listening).2 =
      ((dismiss ⟨holdings, queue⟩ id).sweep listening).2 := by
  induction queue generalizing holdings with
  | nil => rfl
  | cons waiter rest ih =>
      obtain ⟨others, distinctRest⟩ := List.pairwise_cons.mp distinct
      have gone (own : waiter.locker.id = id) :
          rest.eraseP (fun other => other.locker.id == id) = rest :=
        List.eraseP_of_forall_not fun other member same =>
          others other member (own.trans (eq_of_beq same).symm)
      cases fits : admits holdings waiter.level with
      | false => rw [promote_blocked fits]
      | true =>
          have stillFits := admits_othersOf fits id
          cases heard : listening waiter.ticket with
          | false =>
              rw [promote_unheard fits heard, ih distinctRest]
              by_cases own : waiter.locker.id = id
              · simp [dismiss, own, gone own]
              · simp [dismiss, own, sweep, promote_unheard stillFits heard]
          | true =>
              rw [promote_granted fits heard]
              refine (ih distinctRest _).trans ?_
              by_cases own : waiter.locker.id = id
              · simp [dismiss, own, gone own, othersOf, Waiter.holding]
              · have stays : othersOf id [waiter.holding] = [waiter.holding] :=
                  othersOf_eq_self (by simpa [Waiter.holding] using own)
                simp [dismiss, own, sweep, promote_granted stillFits heard, othersOf_append, stays]

theorem leave_leave (orderly : resource.Orderly) (first second : LockerId) :
    (resource.leave listening first).leave listening second =
      (((resource.dismiss first).dismiss second).sweep listening).2 :=
  promote_dismiss_promote (dismiss_orderly orderly first).queue ..

/-- Of two lockers either may leave a resource first. -/
theorem leave_comm (orderly : resource.Orderly) (first second : LockerId) :
    (resource.leave listening first).leave listening second =
      (resource.leave listening second).leave listening first := by
  rw [leave_leave orderly, leave_leave orderly, orderly.dismiss_comm]

/-- However many lockers leave a resource, their order does not matter. -/
theorem foldl_leave_perm {ids others : List LockerId} (same : ids.Perm others)
    (orderly : resource.Orderly) :
    ids.foldl (leave listening) resource = others.foldl (leave listening) resource := by
  induction same generalizing resource with
  | nil => rfl
  | cons id _ ih => exact ih (leave_orderly orderly listening id)
  | swap first second rest =>
      rw [List.foldl_cons, List.foldl_cons, List.foldl_cons, List.foldl_cons,
        leave_comm orderly second first]
  | trans _ _ one other => exact (one orderly).trans (other orderly)

end Locking.Resource
