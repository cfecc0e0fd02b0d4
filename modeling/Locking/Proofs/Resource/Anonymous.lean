import Locking.Resource.Basic

namespace Locking

/-!
A resource without the names of its lockers. Names are carried along and listed, and nothing is
decided by them.
-/

def Locker.anonymous (locker : Locker) : Locker :=
  { locker with name := "" }

@[simp] theorem Locker.id_anonymous (locker : Locker) : locker.anonymous.id = locker.id := rfl

def Holding.anonymous (holding : Holding) : Holding :=
  { holding with locker := holding.locker.anonymous }

def Waiter.anonymous (waiter : Waiter) : Waiter :=
  { waiter with locker := waiter.locker.anonymous }

def Record.anonymous (record : Record) : Record :=
  { record with locker := "" }

def Refusal.anonymous : Refusal → Refusal
  | .releasedLocker _ => .releasedLocker ""
  | refusal => refusal

section Replies

variable {α : Type}

@[simp] theorem mapError_ok (value : α) :
    (Except.ok value).mapError Refusal.anonymous = .ok value := rfl

@[simp] theorem mapError_error (refusal : Refusal) :
    (Except.error refusal : Except Refusal α).mapError Refusal.anonymous =
      .error refusal.anonymous := rfl

end Replies

namespace Resource

def anonymous (resource : Resource) : Resource where
  holdings := resource.holdings.map Holding.anonymous
  queue := resource.queue.map Waiter.anonymous

section Parts

variable (resource : Resource) (holdings : List Holding) (id : LockerId) (level : Level)

@[simp] theorem anonymous_vacant : vacant.anonymous = vacant := rfl

@[simp] theorem isVacant_anonymous : resource.anonymous.isVacant = resource.isVacant := by
  simp [isVacant, anonymous]

@[simp] theorem holding?_anonymous : resource.anonymous.holding? id = resource.holding? id := by
  simp [holding?, anonymous, List.find?_map, Function.comp_def, Holding.anonymous]

@[simp] theorem isQueued_anonymous : resource.anonymous.isQueued id = resource.isQueued id := by
  simp [isQueued, anonymous, Function.comp_def, Waiter.anonymous]

@[simp] theorem ticketOf?_anonymous :
    resource.anonymous.ticketOf? id = resource.ticketOf? id := by
  simp [ticketOf?, anonymous, List.find?_map, Function.comp_def, Waiter.anonymous]

@[simp] theorem admits_anonymous :
    admits (holdings.map Holding.anonymous) level = admits holdings level := by
  simp [admits, Function.comp_def, Holding.anonymous]

theorem othersOf_anonymous :
    othersOf id (holdings.map Holding.anonymous) =
      (othersOf id holdings).map Holding.anonymous := by
  simp [othersOf, List.filter_map, Function.comp_def, Holding.anonymous]

theorem raise_anonymous :
    raise id level (holdings.map Holding.anonymous) =
      (raise id level holdings).map Holding.anonymous := by
  induction holdings with
  | nil => rfl
  | cons holding rest ih =>
      by_cases own : holding.locker.id = id <;> simp [raise, Holding.anonymous, own, ih]

@[simp] theorem canRaise_anonymous :
    resource.anonymous.canRaise id level = resource.canRaise id level := by
  simp only [canRaise, anonymous, othersOf_anonymous, admits_anonymous]
  simp [Function.comp_def, Waiter.anonymous]

theorem dismiss_anonymous :
    resource.anonymous.dismiss id = (resource.dismiss id).anonymous := by
  simp [dismiss, anonymous, othersOf_anonymous, List.eraseP_map, Function.comp_def,
    Waiter.anonymous]

theorem withdraw_anonymous :
    resource.anonymous.withdraw id = (resource.withdraw id).anonymous := by
  simp [withdraw, anonymous, List.eraseP_map, Function.comp_def, Waiter.anonymous]

theorem disperse_anonymous : resource.anonymous.disperse = resource.disperse.anonymous := rfl

theorem records_anonymous (key : Key) :
    resource.anonymous.records key = (resource.records key).map Record.anonymous := by
  unfold records
  rw [List.map_append]
  congr 1
  · simp [anonymous, Record.anonymous, Holding.anonymous, Locker.anonymous]
  · refine List.mapIdx_eq_iff.mpr fun index => ?_
    simp [anonymous, Function.comp_def, Record.anonymous, Waiter.anonymous, Locker.anonymous]

end Parts

theorem request_anonymous (resource : Resource) (key : Key) (locker : Locker) (level : Level)
    (ticket : Ticket) :
    resource.anonymous.request key locker.anonymous level ticket =
      ((resource.request key locker level ticket).mapError Refusal.anonymous).map
        (Prod.map id anonymous) := by
  have idle : resource.anonymous.queue.isEmpty = resource.queue.isEmpty := by simp [anonymous]
  have others : othersOf locker.id resource.anonymous.holdings =
      (othersOf locker.id resource.holdings).map Holding.anonymous :=
    othersOf_anonymous resource.holdings locker.id
  unfold request
  rw [Locker.id_anonymous, holding?_anonymous, isQueued_anonymous, canRaise_anonymous, idle, others,
    admits_anonymous]
  cases resource.holding? locker.id with
  | some held =>
      dsimp only
      split
      · rfl
      · split
        · simp [Except.map, anonymous, raise_anonymous]
        · rfl
  | none =>
      dsimp only
      split
      · rfl
      · split
        · simp [Except.map, enter, anonymous, Holding.anonymous]
        · simp [Except.map, enqueue, anonymous, Waiter.anonymous]

theorem promote_anonymous (listening : Ticket → Bool) (holdings : List Holding)
    (queue : List Waiter) :
    promote listening (holdings.map Holding.anonymous) (queue.map Waiter.anonymous) =
      Prod.map (List.map Waiter.anonymous) anonymous (promote listening holdings queue) := by
  induction queue generalizing holdings with
  | nil => rfl
  | cons waiter rest ih =>
      have fitsAlike : admits (holdings.map Holding.anonymous) waiter.anonymous.level =
          admits holdings waiter.level := admits_anonymous holdings waiter.level
      rw [List.map_cons]
      cases fits : admits holdings waiter.level with
      | false =>
          rw [promote_blocked fits, promote_blocked (fitsAlike.trans fits)]
          rfl
      | true =>
          cases heard : listening waiter.ticket with
          | false =>
              rw [promote_unheard fits heard, promote_unheard (fitsAlike.trans fits) heard, ih]
          | true =>
              have ih := ih (holdings ++ [waiter.holding])
              rw [List.map_append] at ih
              rw [promote_granted fits heard, promote_granted (fitsAlike.trans fits) heard]
              exact congrArg (Prod.map (List.cons waiter.anonymous) id) ih

theorem sweep_anonymous (listening : Ticket → Bool) (resource : Resource) :
    resource.anonymous.sweep listening =
      Prod.map (List.map Waiter.anonymous) anonymous (resource.sweep listening) :=
  promote_anonymous listening resource.holdings resource.queue

end Resource

end Locking
