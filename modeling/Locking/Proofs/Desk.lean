import Locking.Proofs.Service.Run
import Locking.Resource.Desk

namespace Locking

/-!
A resource stays orderly whatever is done to it: at a desk, where nothing is granted from the queue
unless a step asks for it, and in the service, where every departure is followed by a sweep.
-/

namespace Desk

open Resource

def after (desk : Desk) : List Step → Desk
  | [] => desk
  | step :: rest => (desk.step step).2.after rest

/-! Lines and receivers have no part in what is held and waited for. -/

@[simp] theorem resource_dropReceiver (desk : Desk) (id : LockerId) :
    (desk.dropReceiver id).resource = desk.resource := by
  unfold dropReceiver
  split <;> rfl

@[simp] theorem resource_takeReceiver (desk : Desk) (id : LockerId) :
    (desk.takeReceiver id).resource = desk.resource :=
  resource_dropReceiver desk id

@[simp] theorem resource_cutLines (desk : Desk) (tickets : List Ticket) :
    (desk.cutLines tickets).resource = desk.resource := by
  induction tickets generalizing desk with
  | nil => rfl
  | cons ticket rest ih => exact ih (desk.notify (.dropped ticket))

theorem resource_grant (desk : Desk) :
    desk.grant.2.resource = (desk.resource.sweep desk.listening).2 := by
  have signalled (granted : List Waiter) (desk : Desk) :
      (granted.foldl (fun desk waiter => desk.notify (.granted waiter.ticket)) desk).resource =
        desk.resource := by
    induction granted generalizing desk with
    | nil => rfl
    | cons waiter rest ih => exact ih (desk.notify (.granted waiter.ticket))
  exact signalled _ _

theorem resource_poll (desk : Desk) (id : LockerId) :
    (desk.poll id).2.resource = desk.resource := by
  unfold poll
  split
  · rfl
  · split <;> rfl

variable {desk : Desk}

theorem request_orderly (orderly : desk.resource.Orderly) (locker : Locker) (level : Level) :
    (desk.request locker level).2.resource.Orderly := by
  unfold request
  split
  · exact orderly
  · rename_i accepted
    exact Resource.request_orderly orderly accepted
  · rename_i accepted
    rw [resource_takeReceiver]
    exact Resource.request_orderly orderly accepted

theorem step_orderly (orderly : desk.resource.Orderly) (step : Step) :
    (desk.step step).2.resource.Orderly := by
  cases step with
  | request locker level => exact request_orderly orderly locker level
  | grant =>
      rw [Desk.step, resource_grant]
      exact sweep_orderly orderly desk.listening
  | dismiss id =>
      rw [Desk.step, Desk.dismiss, resource_cutLines]
      exact dismiss_orderly orderly id
  | withdraw id =>
      rw [Desk.step, Desk.withdraw, resource_cutLines]
      exact withdraw_orderly orderly id
  | disperse =>
      rw [Desk.step, Desk.disperse, resource_cutLines]
      exact disperse_orderly orderly
  | poll id =>
      rw [Desk.step, resource_poll]
      exact orderly
  | dropReceiver id =>
      rw [Desk.step, resource_dropReceiver]
      exact orderly
  | holding => exact orderly
  | isQueued => exact orderly
  | isVacant => exact orderly
  | audit => exact orderly

theorem after_orderly (orderly : desk.resource.Orderly) (steps : List Step) :
    (desk.after steps).resource.Orderly := by
  induction steps generalizing desk with
  | nil => exact orderly
  | cons step rest ih => exact ih (step_orderly orderly step)

end Desk

/-- No sequence of steps brings lockers into conflict, makes one of them wait twice, or lets it wait
for what it holds. All that an audit can find afterwards is a head of the queue to which a sweep
was due. -/
theorem orderly_at_every_desk_and_in_every_run :
    (∀ (key : Key) (steps : List Desk.Step),
      ((Desk.opened key).after steps).resource.Orderly ∧
        ((Desk.opened key).after steps).resource.breach? =
          ((Desk.opened key).after steps).resource.headBreach?) ∧
    ∀ (options : Ledger.Options) (events : List Event) (key : Key),
      (((Service.start options).run events).2.ledger.resource key).Orderly ∧
        (((Service.start options).run events).2.ledger.resource key).breach? =
          (((Service.start options).run events).2.ledger.resource key).headBreach? := by
  constructor
  · intro key steps
    have orderly : ((Desk.opened key).after steps).resource.Orderly :=
      Desk.after_orderly Resource.vacant_orderly steps
    exact ⟨orderly, orderly.breach?_eq⟩
  · intro options events key
    have orderly := (Service.run_sound options events).ledger.orderly key
    exact ⟨orderly, orderly.breach?_eq⟩

/-- The writer has left, and no step has asked for a sweep since. -/
example :
    ((Desk.opened "users").after
      [.request ⟨1, "writer"⟩ .exclusive, .request ⟨2, "reader"⟩ .access,
        .dismiss 1]).resource.breach? = some (.missedGrant "reader") := by
  rfl

end Locking
