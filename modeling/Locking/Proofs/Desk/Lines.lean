import Locking.Proofs.Desk
import Locking.Proofs.Notice

namespace Locking.Desk

open Resource

/-!
The lines at a desk. Every waiter has a ticket of its own, and on its line, if somebody still
listens there, nothing has been sent: what a step sends goes to those whom it takes off the queue.
-/

structure Numbered (desk : Desk) : Prop where
  distinct : desk.resource.queue.Pairwise fun first second => first.ticket ≠ second.ticket
  issued : ∀ waiter ∈ desk.resource.queue, waiter.ticket < desk.nextTicket
  fresh : ∀ waiter ∈ desk.resource.queue, ∀ line,
    desk.lines[waiter.ticket]? = some line → line = .fresh

def notifyAll (desk : Desk) (notices : List Notice) : Desk :=
  notices.foldl notify desk

variable {desk : Desk} {resource : Resource} {notices : List Notice} {notice : Notice}
  {ticket : Ticket} {line : Line} {locker : Locker} {level : Level} {id : LockerId}
  {waiter first second : Waiter}

theorem listening_iff :
    desk.listening ticket = true ↔ ∃ line, desk.lines[ticket]? = some line := by
  rw [listening, ← Std.ExtTreeMap.isSome_getElem?_eq_contains]
  exact Option.isSome_iff_exists

/-! Notices. -/

@[simp] theorem resource_notifyAll (desk : Desk) (notices : List Notice) :
    (desk.notifyAll notices).resource = desk.resource := by
  induction notices generalizing desk with
  | nil => rfl
  | cons notice rest ih => exact ih (desk.notify notice)

@[simp] theorem nextTicket_notifyAll (desk : Desk) (notices : List Notice) :
    (desk.notifyAll notices).nextTicket = desk.nextTicket := by
  induction notices generalizing desk with
  | nil => rfl
  | cons notice rest ih => exact ih (desk.notify notice)

theorem lines_notifyAll (desk : Desk) (notices : List Notice) :
    (desk.notifyAll notices).lines =
      tellAll (fun notice line => line.after notice) desk.lines notices := by
  induction notices generalizing desk with
  | nil => rfl
  | cons notice rest ih => exact ih (desk.notify notice)

/-- Notices of one kind, given to some tickets, change the lines of these. -/
theorem lines_notifyAll_map (kind : Ticket → Notice)
    (named : ∀ ticket, (kind ticket).ticket = ticket) {tickets : List Ticket}
    (distinct : tickets.Nodup) (desk : Desk) (ticket : Ticket) :
    (desk.notifyAll (tickets.map kind)).lines[ticket]? =
      if ticket ∈ tickets then desk.lines[ticket]?.map (·.after (kind ticket))
      else desk.lines[ticket]? := by
  rw [lines_notifyAll]
  split
  · rename_i member
    have given : kind ticket ∈ tickets.map kind := List.mem_map_of_mem member
    have once : ((tickets.map kind).map Notice.ticket).Nodup := by
      simpa [Function.comp_def, named] using distinct
    have told : (tellAll (fun notice line => line.after notice) desk.lines
        (tickets.map kind))[(kind ticket).ticket]? = _ := getElem?_tellAll_of_mem once given
    rwa [named] at told
  · rename_i passed
    refine getElem?_tellAll_of_not_mem (fun notice given same => passed ?_)
    obtain ⟨other, member, rfl⟩ := List.mem_map.mp given
    exact (named other).symm.trans same ▸ member

theorem grant_eq (desk : Desk) :
    desk.grant =
      (.swept ((desk.resource.sweep desk.listening).1.map (·.locker.id)),
        ({ desk with resource := (desk.resource.sweep desk.listening).2 } : Desk).notifyAll
          ((desk.resource.sweep desk.listening).1.map (fun waiter => .granted waiter.ticket))) := by
  rw [notifyAll, List.foldl_map]
  rfl

theorem cutLines_eq (desk : Desk) (tickets : List Ticket) :
    desk.cutLines tickets = desk.notifyAll (tickets.map .dropped) := by
  rw [notifyAll, List.foldl_map]
  rfl

/-! Steps that take waiters off the queue. -/

theorem Numbered.nodup_departed (numbered : desk.Numbered) (id : LockerId) :
    ((desk.resource.ticketOf? id).toList ++
      (desk.resource.dismiss id).queue.map (·.ticket)).Nodup :=
  (ticketOf?_perm desk.resource id).nodup_iff.mpr (List.pairwise_map.mpr numbered.distinct)

/-- Those who stay in the queue are not given notice. -/
theorem Numbered.notifyAll (numbered : desk.Numbered)
    (left : resource.queue.Sublist desk.resource.queue)
    (silent : ∀ waiter ∈ resource.queue, ∀ notice ∈ notices, notice.ticket ≠ waiter.ticket) :
    (({ desk with resource } : Desk).notifyAll notices).Numbered where
  distinct := by
    rw [resource_notifyAll]
    exact numbered.distinct.sublist left
  issued waiter queued := by
    rw [resource_notifyAll] at queued
    rw [nextTicket_notifyAll]
    exact numbered.issued waiter (left.subset queued)
  fresh waiter queued line found := by
    rw [resource_notifyAll] at queued
    rw [lines_notifyAll, getElem?_tellAll_of_not_mem (silent waiter queued)] at found
    exact numbered.fresh waiter (left.subset queued) line found

theorem Numbered.grant (numbered : desk.Numbered) : desk.grant.2.Numbered := by
  have parts := promote_sublist desk.listening desk.resource.holdings desk.resource.queue
  rw [grant_eq]
  refine numbered.notifyAll ((List.sublist_append_right _ _).trans parts) ?_
  intro waiter stays notice given
  obtain ⟨granted, member, rfl⟩ := List.mem_map.mp given
  have apart := (List.pairwise_append.mp (numbered.distinct.sublist parts)).2.2
  exact apart granted member waiter stays

/-- The request of a locker is gone from the queue, and its line is cut. -/
theorem Numbered.depart (numbered : desk.Numbered)
    (left : resource.queue = (desk.resource.dismiss id).queue) :
    (({ desk with resource } : Desk).cutLines (desk.resource.ticketOf? id).toList).Numbered := by
  rw [cutLines_eq]
  refine numbered.notifyAll (left ▸ List.eraseP_sublist) ?_
  intro waiter stays notice given
  obtain ⟨ticket, own, rfl⟩ := List.mem_map.mp given
  rw [left] at stays
  exact (List.nodup_append.mp (numbered.nodup_departed id)).2.2 _ own _ (List.mem_map_of_mem stays)

theorem Numbered.disperse (numbered : desk.Numbered) : desk.disperse.2.Numbered := by
  rw [Desk.disperse, cutLines_eq]
  exact numbered.notifyAll (List.nil_sublist _) (fun waiter stays => by contradiction)

/-! The other steps. -/

theorem lines_dropReceiver (found : (desk.dropReceiver id).lines[ticket]? = some line) :
    desk.lines[ticket]? = some line := by
  unfold dropReceiver at found
  split at found
  · simp only [Std.ExtTreeMap.getElem?_erase] at found
    split at found
    · contradiction
    · exact found
  · exact found

@[simp] theorem nextTicket_dropReceiver (desk : Desk) (id : LockerId) :
    (desk.dropReceiver id).nextTicket = desk.nextTicket := by
  unfold dropReceiver
  split <;> rfl

theorem Numbered.dropReceiver (numbered : desk.Numbered) (id : LockerId) :
    (desk.dropReceiver id).Numbered where
  distinct := by
    rw [resource_dropReceiver]
    exact numbered.distinct
  issued waiter queued := by
    rw [resource_dropReceiver] at queued
    rw [nextTicket_dropReceiver]
    exact numbered.issued waiter queued
  fresh waiter queued line found := by
    rw [resource_dropReceiver] at queued
    exact numbered.fresh waiter queued line (lines_dropReceiver found)

theorem Numbered.of_queue_eq (numbered : desk.Numbered)
    (same : resource.queue = desk.resource.queue) :
    ({ desk with resource } : Desk).Numbered where
  distinct := by
    dsimp only
    rw [same]
    exact numbered.distinct
  issued waiter queued := numbered.issued waiter (same ▸ queued)
  fresh waiter queued := numbered.fresh waiter (same ▸ queued)

theorem mem_queue_enqueue
    (queued : waiter ∈ (desk.resource.enqueue ⟨locker, level, desk.nextTicket⟩).queue) :
    waiter ∈ desk.resource.queue ∨ waiter.ticket = desk.nextTicket := by
  rcases List.mem_append.mp queued with earlier | new
  · exact .inl earlier
  · exact .inr (by rw [List.mem_singleton.mp new])

theorem Numbered.distinct_enqueue (numbered : desk.Numbered) (locker : Locker) (level : Level) :
    (desk.resource.enqueue ⟨locker, level, desk.nextTicket⟩).queue.Pairwise
      fun first second => first.ticket ≠ second.ticket := by
  refine List.pairwise_append.mpr ⟨numbered.distinct, by simp, ?_⟩
  intro waiter queued new same
  rw [List.mem_singleton.mp same]
  exact Nat.ne_of_lt (numbered.issued waiter queued)

theorem Numbered.issued_enqueue (numbered : desk.Numbered)
    (queued : waiter ∈ (desk.resource.enqueue ⟨locker, level, desk.nextTicket⟩).queue) :
    waiter.ticket < desk.nextTicket + 1 := by
  rcases mem_queue_enqueue queued with earlier | new
  · exact Nat.lt_succ_of_lt (numbered.issued waiter earlier)
  · exact new ▸ Nat.lt_succ_self _

/-- A new waiter gets the next ticket, and its caller a line on which nothing has been sent. -/
theorem Numbered.enqueue (numbered : desk.Numbered) (locker : Locker) (level : Level) :
    (({ desk with resource := desk.resource.enqueue ⟨locker, level, desk.nextTicket⟩ } :
      Desk).takeReceiver locker.id).Numbered := by
  refine ⟨?_, ?_, ?_⟩
  · rw [resource_takeReceiver]
    exact numbered.distinct_enqueue locker level
  · intro waiter queued
    rw [resource_takeReceiver] at queued
    simp only [takeReceiver, nextTicket_dropReceiver]
    exact numbered.issued_enqueue queued
  · intro waiter queued line found
    rw [resource_takeReceiver] at queued
    simp only [takeReceiver, nextTicket_dropReceiver, Std.ExtTreeMap.getElem?_insert] at found
    split at found
    · exact (Option.some.inj found).symm
    · rename_i other
      rcases mem_queue_enqueue queued with earlier | new
      · have before := lines_dropReceiver found
        exact numbered.fresh waiter earlier line before
      · simp [new] at other

theorem Numbered.request (numbered : desk.Numbered) (locker : Locker) (level : Level) :
    (desk.request locker level).2.Numbered := by
  unfold Desk.request
  split
  · exact numbered
  · rename_i accepted
    exact numbered.of_queue_eq (request_granted_queue accepted)
  · rename_i accepted
    obtain ⟨rfl, _⟩ := request_queued accepted
    exact numbered.enqueue locker level

theorem Numbered.poll (numbered : desk.Numbered) (id : LockerId) :
    (desk.poll id).2.Numbered := by
  unfold Desk.poll
  split
  · exact numbered
  · rename_i ticket kept
    split
    · exact numbered
    · rename_i line here
      refine ⟨numbered.distinct, numbered.issued, ?_⟩
      intro waiter queued next found
      simp only [Std.ExtTreeMap.getElem?_insert] at found
      split at found
      · rename_i same
        -- Nothing has been sent on the line of a waiter, so a look takes nothing off it.
        obtain rfl : ticket = waiter.ticket := Std.LawfulEqOrd.eq_of_compare same
        obtain rfl := numbered.fresh waiter queued line here
        exact (Option.some.inj found).symm
      · exact numbered.fresh waiter queued next found

theorem Numbered.step (numbered : desk.Numbered) (step : Step) :
    (desk.step step).2.Numbered := by
  cases step with
  | request locker level => exact numbered.request locker level
  | grant => exact numbered.grant
  | dismiss id => exact numbered.depart rfl
  | withdraw id => exact numbered.depart rfl
  | disperse => exact numbered.disperse
  | poll id => exact numbered.poll id
  | dropReceiver id => exact numbered.dropReceiver id
  | holding => exact numbered
  | isQueued => exact numbered
  | isVacant => exact numbered
  | audit => exact numbered

theorem Numbered.after (numbered : desk.Numbered) (steps : List Step) :
    (desk.after steps).Numbered := by
  induction steps generalizing desk with
  | nil => exact numbered
  | cons step rest ih => exact ih (numbered.step step)

theorem opened_numbered (key : Key) : (opened key).Numbered :=
  ⟨.nil, by simp [opened, vacant], by simp [opened, vacant]⟩

end Locking.Desk
