import Locking.Proofs.Ledger.Effects
import Locking.Proofs.Notice
import Locking.Service.Step

namespace Locking

/-!
How notices reach the calls that they are for: each call hears of its own request, and at most once.
-/

namespace Notice

/-- A notice given when a locker leaves is for a request that was in the queue: its own, which is
dropped, or another one, which is granted. -/
theorem mem_leaveNotices {resource : Resource} {listening : Ticket → Bool} {id : LockerId}
    {notice : Notice} (given : notice ∈ resource.leaveNotices listening id) :
    ∃ waiter ∈ resource.queue, waiter.ticket = notice.ticket ∧
      (waiter.locker.id = id ∧ notice = .dropped waiter.ticket ∨
        waiter ∈ ((resource.dismiss id).sweep listening).1 ∧ notice = .granted waiter.ticket) := by
  rcases List.mem_append.mp given with dropped | granted
  · obtain ⟨ticket, own, rfl⟩ := List.mem_map.mp dropped
    obtain ⟨waiter, found, rfl⟩ := Option.map_eq_some_iff.mp (Option.mem_toList.mp own)
    have owner : waiter.locker.id = id := by simpa using List.find?_some found
    exact ⟨waiter, List.mem_of_find?_eq_some found, rfl, .inl ⟨owner, rfl⟩⟩
  · obtain ⟨waiter, promoted, rfl⟩ := List.mem_map.mp granted
    have kept := (Resource.promote_sublist listening _ _).subset (List.mem_append_left _ promoted)
    exact ⟨waiter, List.mem_of_mem_eraseP kept, rfl, .inr ⟨promoted, rfl⟩⟩

end Notice

namespace Resource

variable {resource : Resource} {listening : Ticket → Bool} {id : LockerId} {waiter : Waiter}

/-- If tickets are told apart in the queue, no two notices have the same one. -/
theorem leaveNotices_nodup
    (distinct : resource.queue.Pairwise fun first second => first.ticket ≠ second.ticket)
    (listening : Ticket → Bool) (id : LockerId) :
    ((resource.leaveNotices listening id).map Notice.ticket).Nodup := by
  have tickets : (resource.leaveNotices listening id).map Notice.ticket =
      (resource.ticketOf? id).toList ++
        ((resource.dismiss id).sweep listening).1.map (·.ticket) := by
    simp [leaveNotices, Notice.ticket, Function.comp_def]
  have granted : ((resource.dismiss id).sweep listening).1.Sublist (resource.dismiss id).queue :=
    (List.sublist_append_left _ _).trans (promote_sublist listening _ _)
  have nodup : (resource.queue.map (·.ticket)).Nodup := List.pairwise_map.mpr distinct
  rw [tickets]
  exact ((ticketOf?_perm resource id).nodup_iff.mpr nodup).sublist ((granted.map _).append_left _)

end Resource

namespace Service

variable {service : Service} {notices : List Notice} {notice : Notice} {ticket : Ticket}

@[simp] theorem ledger_notifyAll (service : Service) (notices : List Notice) :
    (service.notifyAll notices).ledger = service.ledger := by
  induction notices generalizing service with
  | nil => rfl
  | cons notice rest ih => exact ih (service.notify notice)

@[simp] theorem nextTicket_notifyAll (service : Service) (notices : List Notice) :
    (service.notifyAll notices).nextTicket = service.nextTicket := by
  induction notices generalizing service with
  | nil => rfl
  | cons notice rest ih => exact ih (service.notify notice)

def hearing (notice : Notice) (call : Call) : Call :=
  { call with line := call.line.after notice }

theorem calls_notify (service : Service) (notice : Notice) (ticket : Ticket) :
    (service.notify notice).calls[ticket]? =
      if notice.ticket = ticket then service.calls[ticket]?.map (hearing notice)
      else service.calls[ticket]? :=
  getElem?_modify_notice service.calls notice ticket (hearing notice)

theorem calls_notifyAll (service : Service) (notices : List Notice) :
    (service.notifyAll notices).calls = tellAll hearing service.calls notices := by
  induction notices generalizing service with
  | nil => rfl
  | cons notice rest ih => exact ih (service.notify notice)

theorem notify_comm (service : Service) (first second : Notice) :
    (service.notify first).notify second = (service.notify second).notify first := by
  have calls : ((service.notify first).notify second).calls =
      ((service.notify second).notify first).calls := by
    apply Std.ExtTreeMap.ext_getElem?
    intro ticket
    simp only [calls_notify]
    by_cases one : first.ticket = ticket <;> by_cases other : second.ticket = ticket <;>
      simp only [one, other, if_true, if_false, Option.map_map]
    congr 1
    funext call
    cases first <;> cases second <;> rfl
  exact congrArg (fun calls => ({ service with calls } : Service)) calls

/-- It does not matter in which order notices are given. -/
theorem notifyAll_perm {others : List Notice} (same : notices.Perm others) :
    service.notifyAll notices = service.notifyAll others :=
  same.foldl_eq' (fun first _ second _ service => service.notify_comm first second) service

/-- A notice for a call that has returned reaches nobody. -/
theorem calls_notifyAll_of_none (returned : service.calls[ticket]? = none) :
    (service.notifyAll notices).calls[ticket]? = none := by
  induction notices generalizing service with
  | nil => exact returned
  | cons notice rest ih =>
      change ((service.notify notice).notifyAll rest).calls[ticket]? = none
      apply ih
      rw [calls_notify, returned, Option.map_none, ite_self]

theorem exists_call_of_notifyAll {next : Call}
    (found : (service.notifyAll notices).calls[ticket]? = some next) :
    ∃ call, service.calls[ticket]? = some call := by
  cases pending : service.calls[ticket]? with
  | some call => exact ⟨call, rfl⟩
  | none =>
      rw [calls_notifyAll_of_none pending] at found
      contradiction

theorem calls_notifyAll_of_not_mem (silent : ∀ notice ∈ notices, notice.ticket ≠ ticket) :
    (service.notifyAll notices).calls[ticket]? = service.calls[ticket]? := by
  rw [calls_notifyAll, getElem?_tellAll_of_not_mem silent]

theorem calls_notifyAll_of_mem (distinct : (notices.map Notice.ticket).Nodup)
    (given : notice ∈ notices) :
    (service.notifyAll notices).calls[notice.ticket]? =
      service.calls[notice.ticket]?.map (hearing notice) := by
  rw [calls_notifyAll, getElem?_tellAll_of_mem distinct given]

end Service

end Locking
