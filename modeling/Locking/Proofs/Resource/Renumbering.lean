import Locking.Proofs.Ledger.Tidy

namespace Locking

/-!
A ticket says which call a waiter belongs to, and nothing else. Under other tickets the same requests
are served in the same way.
-/

def Waiter.renumbered (number : Ticket → Ticket) (waiter : Waiter) : Waiter :=
  { waiter with ticket := number waiter.ticket }

namespace Resource

def renumbered (number : Ticket → Ticket) (resource : Resource) : Resource :=
  { resource with queue := resource.queue.map (Waiter.renumbered number) }

variable {number : Ticket → Ticket} {listening other : Ticket → Bool} {resource : Resource}
  {holdings : List Holding} {queue : List Waiter}

@[simp] theorem renumbered_id (resource : Resource) : resource.renumbered id = resource :=
  congrArg (Resource.mk resource.holdings) (List.map_id'' (fun _ => rfl) resource.queue)

@[simp] theorem renumbered_vacant (number : Ticket → Ticket) : vacant.renumbered number = vacant :=
  rfl

@[simp] theorem holdings_renumbered (number : Ticket → Ticket) (resource : Resource) :
    (resource.renumbered number).holdings = resource.holdings := rfl

@[simp] theorem holding?_renumbered (number : Ticket → Ticket) (resource : Resource)
    (id : LockerId) : (resource.renumbered number).holding? id = resource.holding? id := rfl

@[simp] theorem isVacant_renumbered (number : Ticket → Ticket) (resource : Resource) :
    (resource.renumbered number).isVacant = resource.isVacant := by
  simp [isVacant, renumbered]

theorem request_renumbered (number : Ticket → Ticket) (resource : Resource) (key : Key)
    (locker : Locker) (level : Level) (ticket : Ticket) :
    (resource.renumbered number).request key locker level (number ticket) =
      (resource.request key locker level ticket).map (Prod.map id (renumbered number)) := by
  have queued : (resource.renumbered number).isQueued locker.id = resource.isQueued locker.id := by
    simp [isQueued, renumbered, Function.comp_def, Waiter.renumbered]
  have raises : (resource.renumbered number).canRaise locker.id level =
      resource.canRaise locker.id level := by
    simp [canRaise, renumbered, Function.comp_def, Waiter.renumbered]
  have empty : (resource.renumbered number).queue.isEmpty = resource.queue.isEmpty := by
    simp [renumbered]
  unfold request
  rw [holding?_renumbered, queued, raises, empty, holdings_renumbered]
  cases resource.holding? locker.id with
  | some held =>
      dsimp only
      split
      · rfl
      · split <;> rfl
  | none =>
      dsimp only
      split
      · rfl
      · split
        · rfl
        · simp [enqueue, renumbered, Waiter.renumbered, Except.map]

theorem promote_renumbered
    (same : ∀ waiter ∈ queue, other (number waiter.ticket) = listening waiter.ticket) :
    (promote other holdings (queue.map (Waiter.renumbered number))).2 =
      (promote listening holdings queue).2.renumbered number := by
  induction queue generalizing holdings with
  | nil => rfl
  | cons waiter rest ih =>
      have levels : (waiter.renumbered number).level = waiter.level := rfl
      have heardAlike : other (waiter.renumbered number).ticket = listening waiter.ticket :=
        same waiter (by simp)
      have ih {holdings : List Holding} :=
        @ih holdings (fun waiter member => same waiter (by simp [member]))
      rw [List.map_cons]
      cases fits : admits holdings waiter.level with
      | false =>
          rw [promote_blocked fits, promote_blocked (levels ▸ fits)]
          rfl
      | true =>
          cases heard : listening waiter.ticket with
          | false =>
              rw [promote_unheard fits heard, promote_unheard (levels ▸ fits)
                (heardAlike.trans heard), ih]
          | true =>
              rw [promote_granted fits heard, promote_granted (levels ▸ fits)
                (heardAlike.trans heard)]
              exact ih

theorem dismiss_renumbered (number : Ticket → Ticket) (resource : Resource) (id : LockerId) :
    (resource.renumbered number).dismiss id = (resource.dismiss id).renumbered number := by
  simp [dismiss, renumbered, List.eraseP_map, Function.comp_def, Waiter.renumbered]

theorem leave_renumbered
    (same : ∀ waiter ∈ resource.queue, other (number waiter.ticket) = listening waiter.ticket)
    (id : LockerId) :
    (resource.renumbered number).leave other id =
      (resource.leave listening id).renumbered number := by
  unfold leave
  rw [dismiss_renumbered]
  exact promote_renumbered fun waiter member => same waiter (List.mem_of_mem_eraseP member)

theorem disperse_renumbered (number : Ticket → Ticket) (resource : Resource) :
    (resource.renumbered number).disperse = resource.disperse.renumbered number := rfl

end Resource

end Locking
