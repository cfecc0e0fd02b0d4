import Locking.Resource.Basic

namespace Locking.Resource

/-!
What a sweep does to holdings and a queue. Everything that the rest of the development needs of
`promote` is said here: who is granted, what is left, and why the sweep stops.
-/

variable {listening : Ticket → Bool} {holdings : List Holding} {queue : List Waiter}
  {level : Level} {id : LockerId}

theorem admits_iff :
    admits holdings level = true ↔ ∀ holding ∈ holdings, holding.level.compatible level = true := by
  simp [admits]

theorem admits_eq_false_iff :
    admits holdings level = false ↔
      ∃ holding ∈ holdings, holding.level.compatible level = false := by
  simp [admits]

theorem othersOf_eq_self (absent : ∀ holding ∈ holdings, holding.locker.id ≠ id) :
    othersOf id holdings = holdings := by
  simpa [othersOf, List.filter_eq_self] using absent

theorem mem_othersOf {holding : Holding} :
    holding ∈ othersOf id holdings ↔ holding ∈ holdings ∧ holding.locker.id ≠ id := by
  simp [othersOf]

theorem promote_holdings (listening : Ticket → Bool) (holdings : List Holding)
    (queue : List Waiter) :
    (promote listening holdings queue).2.holdings =
      holdings ++ (promote listening holdings queue).1.map Waiter.holding := by
  induction queue generalizing holdings with
  | nil => simp
  | cons waiter rest ih =>
      cases fits : admits holdings waiter.level with
      | false => simp [promote_blocked fits]
      | true =>
          cases heard : listening waiter.ticket with
          | false => simpa only [promote_unheard fits heard] using ih holdings
          | true =>
              rw [promote_granted fits heard]
              simp only [ih, List.map_cons, List.append_assoc, List.singleton_append]

/-- Nobody is invented, and nobody overtakes: those granted, followed by those left, make up the
queue but for the waiters that nobody listened to. -/
theorem promote_sublist (listening : Ticket → Bool) (holdings : List Holding)
    (queue : List Waiter) :
    ((promote listening holdings queue).1 ++
      (promote listening holdings queue).2.queue).Sublist queue := by
  induction queue generalizing holdings with
  | nil => simp
  | cons waiter rest ih =>
      cases fits : admits holdings waiter.level with
      | false => simp [promote_blocked fits]
      | true =>
          cases heard : listening waiter.ticket with
          | false =>
              rw [promote_unheard fits heard]
              exact (ih holdings).cons waiter
          | true =>
              rw [promote_granted fits heard]
              exact (ih _).cons_cons waiter

/-- Where everybody is listened to, a sweep only moves the place where the queue begins. -/
theorem promote_partition (heard : ∀ waiter ∈ queue, listening waiter.ticket = true) :
    (promote listening holdings queue).1 ++ (promote listening holdings queue).2.queue =
      queue := by
  induction queue generalizing holdings with
  | nil => simp
  | cons waiter rest ih =>
      cases fits : admits holdings waiter.level with
      | false => simp [promote_blocked fits]
      | true =>
          rw [promote_granted fits (heard waiter (by simp))]
          simp only [List.cons_append, List.cons.injEq, true_and]
          exact ih (fun other member => heard other (by simp [member]))

/-- Each request that is granted goes with the holdings before it, so holdings that go together
pairwise still do afterwards. -/
theorem promote_compatible (listening : Ticket → Bool) (queue : List Waiter)
    (together : holdings.Pairwise fun first second =>
      first.level.compatible second.level = true) :
    (promote listening holdings queue).2.holdings.Pairwise fun first second =>
      first.level.compatible second.level = true := by
  induction queue generalizing holdings with
  | nil => simpa using together
  | cons waiter rest ih =>
      cases fits : admits holdings waiter.level with
      | false => simpa [promote_blocked fits] using together
      | true =>
          cases heard : listening waiter.ticket with
          | false => simpa only [promote_unheard fits heard] using ih together
          | true =>
              rw [promote_granted fits heard]
              apply ih
              refine List.pairwise_append.mpr ⟨together, by simp, ?_⟩
              intro holding member next same
              rw [List.mem_singleton] at same
              subst same
              exact admits_iff.mp fits holding member

/-- The head of the queue, if there is one, has some holding in its way. -/
def Settled (resource : Resource) : Prop :=
  ∀ head ∈ resource.queue.head?, admits resource.holdings head.level = false

theorem promote_settled (listening : Ticket → Bool) (holdings : List Holding)
    (queue : List Waiter) : (promote listening holdings queue).2.Settled := by
  induction queue generalizing holdings with
  | nil => simp [Settled]
  | cons waiter rest ih =>
      cases fits : admits holdings waiter.level with
      | false => simpa [promote_blocked fits, Settled] using fits
      | true =>
          cases heard : listening waiter.ticket with
          | false => simpa only [promote_unheard fits heard] using ih holdings
          | true => simpa only [promote_granted fits heard] using ih _

theorem sweep_settled (listening : Ticket → Bool) (resource : Resource) :
    (resource.sweep listening).2.Settled :=
  promote_settled listening resource.holdings resource.queue

theorem sweep_of_settled {resource : Resource} (settled : resource.Settled) :
    resource.sweep listening = ([], resource) := by
  obtain ⟨holdings, queue⟩ := resource
  cases queue with
  | nil => rfl
  | cons head rest =>
      have blocked : admits holdings head.level = false := settled head (by simp)
      simp only [sweep, promote_blocked blocked]

end Locking.Resource
