import Locking.Proofs.Service.Run

namespace Locking

/-!
A lock that is granted at once. It might as well have been put at the end of the queue and granted by
a sweep: in every run the short way and the long way lead to the same holdings and the same queue.
-/

namespace Resource

/-- A request by the long way: it goes to the end of the queue, whatever its level, and the queue is
swept. -/
def queueAndSweep (resource : Resource) (listening : Ticket → Bool) (waiter : Waiter) :
    List Waiter × Resource :=
  (resource.enqueue waiter).sweep listening

/-- A request comes to what the long way comes to. -/
structure AsIfQueued (resource : Resource) (listening : Ticket → Bool) (key : Key)
    (waiter : Waiter) : Prop where
  /-- It is not refused, and leaves the same holdings and the same queue. -/
  left : ∃ reply, resource.request key waiter.locker waiter.level waiter.ticket =
    .ok (reply, (resource.queueAndSweep listening waiter).2)
  granted : (∃ after, resource.request key waiter.locker waiter.level waiter.ticket =
      .ok (.granted, after)) ↔
    waiter.locker.id ∈ (resource.queueAndSweep listening waiter).1.map (·.locker.id)
  /-- Nobody else profits from the sweep. -/
  alone : ∀ other ∈ (resource.queueAndSweep listening waiter).1, other = waiter
  place : ∀ place after, resource.request key waiter.locker waiter.level waiter.ticket =
      .ok (.queued place, after) →
    waiter ∈ (resource.queueAndSweep listening waiter).2.queue ∧
      place = (resource.queueAndSweep listening waiter).2.queue.idxOf waiter + 1

variable {resource : Resource} {listening : Ticket → Bool} {key : Key} {waiter : Waiter}

theorem queueAndSweep_of_free (nobody : resource.queue = [])
    (fits : admits resource.holdings waiter.level = true)
    (heard : listening waiter.ticket = true) :
    resource.queueAndSweep listening waiter =
      ([waiter], resource.enter waiter.locker waiter.level) := by
  obtain ⟨holdings, queue⟩ := resource
  subst nobody
  exact promote_granted fits heard

/-- The head of a queue is blocked, and somebody new behind it does not set it free. -/
theorem queueAndSweep_of_busy (listening : Ticket → Bool) (settled : resource.Settled)
    (busy : resource.queue ≠ [] ∨ admits resource.holdings waiter.level = false) :
    resource.queueAndSweep listening waiter = ([], resource.enqueue waiter) :=
  sweep_of_settled (enqueue_settled settled busy)

theorem asIfQueued_of_settled (settled : resource.Settled)
    (unheld : resource.holding? waiter.locker.id = none)
    (unqueued : resource.isQueued waiter.locker.id = false)
    (heard : listening waiter.ticket = true) : resource.AsIfQueued listening key waiter := by
  have asked := resource.requested key waiter.locker waiter.level waiter.ticket
  generalize result : resource.request key waiter.locker waiter.level waiter.ticket = answer at asked
  cases asked with
  | kept holds => rw [unheld] at holds; contradiction
  | raised holds => rw [unheld] at holds; contradiction
  | conflicting holds => rw [unheld] at holds; contradiction
  | alreadyQueued _ queued => rw [unqueued] at queued; contradiction
  | entered _ _ nobody fits =>
      have swept := queueAndSweep_of_free nobody fits heard
      refine ⟨⟨.granted, by rw [result, swept]⟩, ?_, ?_, ?_⟩
      · simp [result, swept]
      · simp [swept]
      · simp [result]
  | enqueued _ _ busy =>
      have swept := queueAndSweep_of_busy listening settled busy
      have new : waiter ∉ resource.queue :=
        fun member => isQueued_eq_false_iff.mp unqueued waiter member rfl
      refine ⟨⟨.queued (resource.queue.length + 1), by rw [result, swept]⟩, ?_, ?_, ?_⟩
      · simp [result, swept]
      · simp [swept]
      · rintro place after queued
        obtain ⟨rfl, _⟩ : resource.queue.length + 1 = place ∧ _ := by
          simpa [result] using queued
        rw [swept, enqueue, List.idxOf_append_of_notMem new]
        simp

end Resource

namespace Service

open Resource

/-- In every run, a request of a locker that neither holds nor waits comes to the same at once as
through the queue. It makes no difference to whom else somebody listens. -/
theorem immediate_grant_agrees_with_queue (options : Ledger.Options) (events : List Event)
    (key : Key) (waiter : Waiter) (listening : Ticket → Bool)
    (unheld : ((start options).run events).2.ledger.holds? waiter.locker.id key = none)
    (unqueued : (((start options).run events).2.ledger.resource key).isQueued waiter.locker.id =
      false)
    (heard : listening waiter.ticket = true) :
    (((start options).run events).2.ledger.resource key).AsIfQueued listening key waiter :=
  asIfQueued_of_settled ((run_sound options events).ledger.settled key) unheld unqueued heard

/-- The reader would go with the load, but lines up behind the change of the table. -/
theorem reader_behind_alter_as_if_queued :
    let service := ((start .standard).run
      [.lock ⟨1, "load"⟩ "users" .rowModify .never,
        .lock ⟨2, "alter"⟩ "users" .metadataModify .never]).2
    let reader : Waiter := ⟨⟨3, "reader"⟩, .access, 2⟩
    service.ledger.holds? 3 "users" = none ∧
      (service.ledger.resource "users").isQueued 3 = false ∧
      (fun ticket => ticket == 2) reader.ticket = true ∧
      (service.ledger.resource "users").AsIfQueued (fun ticket => ticket == 2) "users" reader :=
  ⟨rfl, rfl, rfl, immediate_grant_agrees_with_queue .standard _ "users"
    ⟨⟨3, "reader"⟩, .access, 2⟩ (fun ticket => ticket == 2) rfl rfl rfl⟩

end Service

end Locking
