import Locking.Proofs.Desk.Lines
import Locking.Proofs.Resource.Greedy

namespace Locking.Desk

open Resource

/-!
The sweep at a desk. It takes as many waiters off the head of the queue as go together with the
holdings and with one another, grants their requests to those who still listen, and leaves nothing
to do for a second sweep.
-/

/-- The waiters among these to whom somebody listens. -/
def heard (desk : Desk) (waiters : List Waiter) : List Waiter :=
  waiters.filter fun waiter => desk.listening waiter.ticket

variable {desk : Desk} {ticket : Ticket}

/-- The lines of those whose requests are granted carry a signal, and no other line changes. -/
theorem Numbered.lines_grant (numbered : desk.Numbered) (ticket : Ticket) :
    desk.grant.2.lines[ticket]? =
      if ticket ∈ (desk.resource.sweep desk.listening).1.map (·.ticket) then
        desk.lines[ticket]?.map Line.signal
      else desk.lines[ticket]? := by
  have parts := promote_sublist desk.listening desk.resource.holdings desk.resource.queue
  have distinct := List.pairwise_map.mpr
    (List.pairwise_append.mp (numbered.distinct.sublist parts)).1
  have told := lines_notifyAll_map .granted (fun _ => rfl) distinct
    { desk with resource := (desk.resource.sweep desk.listening).2 } ticket
  rw [List.map_map] at told
  rw [grant_eq]
  exact told

theorem Numbered.line_of_listening (numbered : desk.Numbered) {waiter : Waiter}
    (queued : waiter ∈ desk.resource.queue) (listens : desk.listening waiter.ticket = true) :
    desk.lines[waiter.ticket]? = some .fresh := by
  obtain ⟨line, found⟩ := listening_iff.mp listens
  rw [found, numbered.fresh waiter queued line found]

theorem grant_of_settled (settled : desk.resource.Settled) : desk.grant = (.swept [], desk) := by
  rw [grant_eq, sweep_of_settled settled]
  rfl

/-- What a sweep does that takes these waiters off the queue. -/
structure Swept (desk : Desk) (front : List Waiter) : Prop where
  /-- They are the longest beginning of the queue in which each waiter goes with all holdings and
  with all before it that are still listened to. -/
  served : Served desk.listening desk.resource front
  answer : (desk.step .grant).1 = .swept ((desk.heard front).map (·.locker.id))
  holdings : (desk.step .grant).2.resource.holdings =
    desk.resource.holdings ++ (desk.heard front).map Waiter.holding
  queue : desk.resource.queue = front ++ (desk.step .grant).2.resource.queue
  blocked : ∀ head rest, (desk.step .grant).2.resource.queue = head :: rest →
    ∃ holding ∈ (desk.step .grant).2.resource.holdings,
      holding.level.compatible head.level = false
  /-- The line of each who is granted a lock was empty and carries one signal now. -/
  signalled : ∀ waiter ∈ desk.heard front, desk.lines[waiter.ticket]? = some .fresh ∧
    (desk.step .grant).2.lines[waiter.ticket]? = some Line.fresh.signal
  untouched : ∀ ticket, ticket ∉ (desk.heard front).map (·.ticket) →
    (desk.step .grant).2.lines[ticket]? = desk.lines[ticket]?
  again : (desk.step .grant).2.step .grant = (.swept [], (desk.step .grant).2)
  audit : (desk.step .grant).2.step .audit = (.sound, (desk.step .grant).2)

/-- Whatever has been done at a desk, a sweep is the greedy choice from the head of the queue. -/
theorem sweep_takes_longest_servable_front (key : Key) (steps : List Step) :
    ∃! front, ((opened key).after steps).Swept front := by
  have orderly : ((opened key).after steps).resource.Orderly := after_orderly vacant_orderly steps
  have numbered := (opened_numbered key).after steps
  generalize (opened key).after steps = desk at orderly numbered ⊢
  obtain ⟨front, served, granted, holdings, queue⟩ := sweep_served desk.listening desk.resource
  have resource : (desk.step .grant).2.resource = (desk.resource.sweep desk.listening).2 :=
    resource_grant desk
  have settled : (desk.step .grant).2.resource.Settled := resource ▸ sweep_settled _ _
  have granted : (desk.resource.sweep desk.listening).1 = desk.heard front := granted
  have lines (ticket : Ticket) : (desk.step .grant).2.lines[ticket]? =
      if ticket ∈ (desk.heard front).map (·.ticket) then desk.lines[ticket]?.map Line.signal
      else desk.lines[ticket]? := granted ▸ numbered.lines_grant ticket
  refine ⟨front, ?_, fun other swept => swept.served.unique served⟩
  refine ⟨served, ?_, ?_, ?_, settled_iff.mp settled, ?_, ?_, grant_of_settled settled, ?_⟩
  · rw [Desk.step, grant_eq, granted]
  · rw [resource, holdings]
    rfl
  · rw [resource]
    exact queue
  · intro waiter member
    obtain ⟨taken, listens⟩ := List.mem_filter.mp member
    have line := numbered.line_of_listening (served.isPrefix.subset taken) listens
    refine ⟨line, ?_⟩
    rw [lines, if_pos (List.mem_map_of_mem member), line, Option.map_some]
  · intro ticket passed
    rw [lines, if_neg passed]
  · have passes := (step_orderly orderly .grant).breach?_eq_none settled
    simp only [Desk.step, Desk.audit] at passes ⊢
    rw [passes]

/-- Nobody listens to the index job any more. It is dropped, and does not keep the next one waiting,
with which it could not have gone. The import waits on. -/
example :
    let desk := (opened "users").after
      [.request ⟨1, "load"⟩ .exclusive, .request ⟨2, "index"⟩ .rowModify,
        .request ⟨3, "alter"⟩ .metadataModify, .request ⟨4, "import"⟩ .rowModify,
        .dropReceiver 2, .dismiss 1]
    desk.grant.1 = .swept [3] ∧
      desk.grant.2.resource.holdings = [⟨⟨3, "alter"⟩, .metadataModify⟩] ∧
      desk.grant.2.resource.queue = [⟨⟨4, "import"⟩, .rowModify, 2⟩] := by
  refine ⟨?_, ?_, ?_⟩ <;> rfl

end Locking.Desk
