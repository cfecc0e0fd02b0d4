import Locking.Proofs.Desk.Sweep

namespace Locking.Desk

open Resource

/-!
Receivers in any hands. At a desk a locker keeps one receiver, the one that it got last. Here the
receiver of a request is known by its ticket, and whoever has it keeps it beside others, also when
the locker waits again, until it discards it. Whatever is done at a desk can be done so.
-/

inductive Act where
  | request (locker : Locker) (level : Level)
  | grant
  | dismiss (id : LockerId)
  | withdraw (id : LockerId)
  | disperse
  | poll (ticket : Ticket)
  | discard (ticket : Ticket)
deriving DecidableEq, Repr

def ask (desk : Desk) (locker : Locker) (level : Level) : Answer × Desk :=
  match desk.resource.request desk.key locker level desk.nextTicket with
  | .error refusal => (.refused refusal, desk)
  | .ok (.granted, resource) => (.granted, { desk with resource })
  | .ok (.queued place, resource) =>
      (.queued place,
        { desk with
          resource
          lines := desk.lines.insert desk.nextTicket .fresh
          nextTicket := desk.nextTicket + 1 })

def look (desk : Desk) (ticket : Ticket) : Answer × Desk :=
  match desk.lines[ticket]? with
  | none => (.polled none, desk)
  | some line =>
      (.polled (some line.poll.1), { desk with lines := desk.lines.insert ticket line.poll.2 })

def discard (desk : Desk) (ticket : Ticket) : Desk :=
  { desk with lines := desk.lines.erase ticket }

/-- What is answered to one who discards a receiver is whether there was one. -/
def attend (desk : Desk) : Act → Answer × Desk
  | .request locker level => desk.ask locker level
  | .grant => desk.grant
  | .dismiss id => desk.dismiss id
  | .withdraw id => desk.withdraw id
  | .disperse => desk.disperse
  | .poll ticket => desk.look ticket
  | .discard ticket => (.flag (desk.listening ticket), desk.discard ticket)

def attendAll (desk : Desk) : List Act → Desk
  | [] => desk
  | act :: rest => (desk.attend act).2.attendAll rest

variable {desk after : Desk} {act : Act} {acts : List Act} {waiter : Waiter} {ticket : Ticket}
  {locker : Locker} {level : Level} {place : Nat} {line : Line} {id : LockerId}

@[simp] theorem attendAll_append (desk : Desk) (first second : List Act) :
    desk.attendAll (first ++ second) = (desk.attendAll first).attendAll second := by
  induction first generalizing desk with
  | nil => rfl
  | cons act rest ih => exact ih (desk.attend act).2

theorem ask_queued (queued : (desk.ask locker level).1 = .queued place) :
    (desk.ask locker level).2 =
      { desk with
        resource := desk.resource.enqueue ⟨locker, level, desk.nextTicket⟩
        lines := desk.lines.insert desk.nextTicket .fresh
        nextTicket := desk.nextTicket + 1 } := by
  unfold ask at queued ⊢
  split at queued
  · contradiction
  · contradiction
  · rename_i accepted
    obtain ⟨rfl, _⟩ := request_queued accepted
    rfl

theorem look_of_some (found : desk.lines[ticket]? = some line) :
    desk.look ticket =
      (.polled (some line.poll.1), { desk with lines := desk.lines.insert ticket line.poll.2 }) := by
  rw [look, found]

theorem look_of_none (gone : desk.lines[ticket]? = none) :
    desk.look ticket = (.polled none, desk) := by
  rw [look, gone]

@[simp] theorem resource_look (desk : Desk) (ticket : Ticket) :
    (desk.look ticket).2.resource = desk.resource := by
  unfold look
  split <;> rfl

/-- What can become of a desk. Only a request that is queued adds to the queue and to the lines, and
only the discarding of a receiver takes a line away. -/
inductive Attended (desk : Desk) : Act → Desk → Prop where
  | queued (locker : Locker) (level : Level) :
      desk.Attended (.request locker level)
        { desk with
          resource := desk.resource.enqueue ⟨locker, level, desk.nextTicket⟩
          lines := desk.lines.insert desk.nextTicket .fresh
          nextTicket := desk.nextTicket + 1 }
  | told (act : Act) (resource : Resource) (notices : List Notice)
      (keeps : ∀ ticket, act ≠ .discard ticket)
      (left : resource.queue.Sublist desk.resource.queue) :
      desk.Attended act (({ desk with resource } : Desk).notifyAll notices)
  | looked (ticket : Ticket) (line : Line) (found : desk.lines[ticket]? = some line) :
      desk.Attended (.poll ticket) { desk with lines := desk.lines.insert ticket line.poll.2 }
  | discarded (ticket : Ticket) : desk.Attended (.discard ticket) (desk.discard ticket)

theorem attended_ask (desk : Desk) (locker : Locker) (level : Level) :
    desk.Attended (.request locker level) (desk.ask locker level).2 := by
  unfold ask
  split
  · exact .told _ desk.resource [] (by simp) (.refl _)
  · rename_i accepted
    exact .told _ _ [] (by simp) (request_granted_queue accepted ▸ .refl _)
  · rename_i accepted
    obtain ⟨rfl, _⟩ := request_queued accepted
    exact .queued locker level

theorem attended_look (desk : Desk) (ticket : Ticket) :
    desk.Attended (.poll ticket) (desk.look ticket).2 := by
  cases found : desk.lines[ticket]? with
  | none =>
      rw [look_of_none found]
      exact .told _ desk.resource [] (by simp) (.refl _)
  | some line =>
      rw [look_of_some found]
      exact .looked ticket line found

theorem attended (desk : Desk) (act : Act) : desk.Attended act (desk.attend act).2 := by
  cases act with
  | request locker level => exact attended_ask desk locker level
  | grant =>
      have parts := promote_sublist desk.listening desk.resource.holdings desk.resource.queue
      rw [attend, grant_eq]
      exact .told _ _ _ (by simp) ((List.sublist_append_right _ _).trans parts)
  | dismiss id =>
      rw [attend, dismiss, cutLines_eq]
      exact .told _ _ _ (by simp) List.eraseP_sublist
  | withdraw id =>
      rw [attend, withdraw, cutLines_eq]
      exact .told _ _ _ (by simp) List.eraseP_sublist
  | disperse =>
      rw [attend, disperse, cutLines_eq]
      exact .told _ _ _ (by simp) (List.nil_sublist _)
  | poll ticket => exact attended_look desk ticket
  | discard ticket => exact .discarded ticket

theorem Attended.nextTicket_le (attended : desk.Attended act after) :
    desk.nextTicket ≤ after.nextTicket := by
  cases attended with
  | queued => exact Nat.le_succ _
  | told => simp
  | looked => exact Nat.le_refl _
  | discarded => exact Nat.le_refl _

/-- Nobody comes into the queue but with a new ticket. -/
theorem Attended.mem_queue (attended : desk.Attended act after)
    (queued : waiter ∈ after.resource.queue) :
    waiter ∈ desk.resource.queue ∨ waiter.ticket = desk.nextTicket := by
  cases attended with
  | queued => exact mem_queue_enqueue queued
  | told _ resource notices keeps left =>
      rw [resource_notifyAll] at queued
      exact .inl (left.subset queued)
  | looked => exact .inl queued
  | discarded => exact .inl queued

@[simp] theorem listening_notifyAll (desk : Desk) (notices : List Notice) (ticket : Ticket) :
    (desk.notifyAll notices).listening ticket = desk.listening ticket := by
  induction notices generalizing desk with
  | nil => rfl
  | cons notice rest ih =>
      have kept : (desk.notify notice).listening ticket = desk.listening ticket :=
        Std.ExtTreeMap.contains_modify
      exact (ih (desk.notify notice)).trans kept

/-- A receiver stays where it is until it is discarded, and does not come back. -/
theorem Attended.listening_iff (attended : desk.Attended act after)
    (issued : ticket < desk.nextTicket) :
    after.listening ticket = true ↔ desk.listening ticket = true ∧ act ≠ .discard ticket := by
  cases attended with
  | queued => simp [listening, (Nat.ne_of_lt issued).symm]
  | told _ resource notices keeps =>
      rw [listening_notifyAll]
      exact (and_iff_left (keeps ticket)).symm
  | looked other line found =>
      have kept : desk.listening other = true := listening_iff.mpr ⟨line, found⟩
      by_cases same : other = ticket
      · subst same
        simpa [listening] using kept
      · simp [listening, same]
  | discarded other =>
      simp [listening, discard, and_comm]

/-! Runs. -/

theorem nextTicket_le_attendAll (desk : Desk) (acts : List Act) :
    desk.nextTicket ≤ (desk.attendAll acts).nextTicket := by
  induction acts generalizing desk with
  | nil => exact Nat.le_refl _
  | cons act rest ih => exact Nat.le_trans (desk.attended act).nextTicket_le (ih _)

theorem mem_queue_of_attendAll (issued : waiter.ticket < desk.nextTicket)
    (queued : waiter ∈ (desk.attendAll acts).resource.queue) : waiter ∈ desk.resource.queue := by
  induction acts generalizing desk with
  | nil => exact queued
  | cons act rest ih =>
      have attended := desk.attended act
      have earlier := ih (Nat.lt_of_lt_of_le issued attended.nextTicket_le) queued
      exact (attended.mem_queue earlier).resolve_right (Nat.ne_of_lt issued)

theorem listening_attendAll_iff (issued : ticket < desk.nextTicket) :
    (desk.attendAll acts).listening ticket = true ↔
      desk.listening ticket = true ∧ .discard ticket ∉ acts := by
  induction acts generalizing desk with
  | nil => simp [attendAll]
  | cons act rest ih =>
      have attended := desk.attended act
      rw [attendAll, ih (Nat.lt_of_lt_of_le issued attended.nextTicket_le),
        attended.listening_iff issued]
      simp only [List.mem_cons, not_or, and_assoc, ne_comm, ne_eq]

/-! The desk itself. -/

/-- A desk where it is not recorded who keeps which receiver. -/
def bare (desk : Desk) : Desk :=
  { desk with receivers := ∅ }

/-- What a step comes to. A locker that gets a receiver discards the one that it had. -/
def actsOf (desk : Desk) : Step → List Act
  | .request locker level =>
      match (desk.request locker level).1 with
      | .queued _ => (desk.receivers[locker.id]?.map Act.discard).toList ++ [.request locker level]
      | _ => [.request locker level]
  | .grant => [.grant]
  | .dismiss id => [.dismiss id]
  | .withdraw id => [.withdraw id]
  | .disperse => [.disperse]
  | .poll id => (desk.receivers[id]?.map Act.poll).toList
  | .dropReceiver id => (desk.receivers[id]?.map Act.discard).toList
  | .holding _ | .isQueued _ | .isVacant | .audit => []

def actsOfAll (desk : Desk) : List Step → List Act
  | [] => []
  | step :: rest => desk.actsOf step ++ (desk.step step).2.actsOfAll rest

@[simp] theorem bare_notifyAll (desk : Desk) (notices : List Notice) :
    (desk.notifyAll notices).bare = desk.bare.notifyAll notices := by
  induction notices generalizing desk with
  | nil => rfl
  | cons notice rest ih => exact ih (desk.notify notice)

/-- Nothing depends on who keeps which receiver. -/
theorem bare_attend (desk : Desk) (act : Act) :
    (desk.attend act).2.bare = (desk.bare.attend act).2 := by
  cases act with
  | request locker level =>
      have same : desk.bare.resource.request desk.bare.key locker level desk.bare.nextTicket =
          desk.resource.request desk.key locker level desk.nextTicket := rfl
      simp only [attend, ask, same]
      split <;> rfl
  | grant =>
      simp only [attend, grant_eq, bare_notifyAll]
      rfl
  | dismiss id =>
      simp only [attend, dismiss, cutLines_eq, bare_notifyAll]
      rfl
  | withdraw id =>
      simp only [attend, withdraw, cutLines_eq, bare_notifyAll]
      rfl
  | disperse =>
      simp only [attend, disperse, cutLines_eq, bare_notifyAll]
      rfl
  | poll ticket =>
      have same : desk.bare.lines = desk.lines := rfl
      cases found : desk.lines[ticket]? with
      | none => rw [attend, attend, look_of_none found, look_of_none (same ▸ found)]
      | some line =>
          rw [attend, attend, look_of_some found, look_of_some (same ▸ found)]
          rfl
  | discard ticket => rfl

theorem bare_dropReceiver (desk : Desk) (id : LockerId) :
    (desk.dropReceiver id).bare =
      desk.bare.attendAll (desk.receivers[id]?.map Act.discard).toList := by
  cases kept : desk.receivers[id]? with
  | none =>
      rw [dropReceiver, kept]
      rfl
  | some ticket =>
      rw [dropReceiver, kept]
      rfl

theorem poll_of_some (kept : desk.receivers[id]? = some ticket) :
    desk.poll id = desk.look ticket := by
  rw [poll, kept]
  rfl

theorem bare_request (desk : Desk) (locker : Locker) (level : Level) :
    (desk.request locker level).2.bare =
      desk.bare.attendAll (desk.actsOf (.request locker level)) := by
  have asked := bare_attend desk (.request locker level)
  cases accepted : desk.resource.request desk.key locker level desk.nextTicket with
  | error refusal =>
      simp only [attend, ask, accepted] at asked
      simp only [actsOf, Desk.request, accepted]
      exact asked
  | ok granted =>
      obtain ⟨reply, resource⟩ := granted
      cases reply with
      | granted =>
          simp only [attend, ask, accepted] at asked
          simp only [actsOf, Desk.request, accepted]
          exact asked
      | queued place =>
          -- The line that is taken away is an old one, so it does not matter to the request.
          have asked := bare_attend (desk.dropReceiver locker.id) (.request locker level)
          simp only [actsOf, Desk.request, accepted, attendAll_append, ← bare_dropReceiver]
          refine Eq.trans ?_ asked
          cases kept : desk.receivers[locker.id]? with
          | none =>
              simp only [attend, ask, takeReceiver, dropReceiver, kept, accepted]
              rfl
          | some ticket =>
              simp only [attend, ask, takeReceiver, dropReceiver, kept, accepted]
              rfl

theorem bare_step (desk : Desk) (step : Step) :
    (desk.step step).2.bare = desk.bare.attendAll (desk.actsOf step) := by
  cases step with
  | request locker level => exact bare_request desk locker level
  | grant => exact bare_attend desk .grant
  | dismiss id => exact bare_attend desk (.dismiss id)
  | withdraw id => exact bare_attend desk (.withdraw id)
  | disperse => exact bare_attend desk .disperse
  | poll id =>
      cases kept : desk.receivers[id]? with
      | none =>
          simp only [Desk.step, Desk.poll, actsOf, kept]
          rfl
      | some ticket =>
          simp only [Desk.step, poll_of_some kept, actsOf, kept]
          exact bare_attend desk (.poll ticket)
  | dropReceiver id => exact bare_dropReceiver desk id
  | holding => rfl
  | isQueued => rfl
  | isVacant => rfl
  | audit => rfl

/-- Whatever is done at a desk is a run of acts, up to the record of who keeps which receiver. -/
theorem bare_after (desk : Desk) (steps : List Step) :
    (desk.after steps).bare = desk.bare.attendAll (desk.actsOfAll steps) := by
  induction steps generalizing desk with
  | nil => rfl
  | cons step rest ih => rw [after, ih, bare_step, actsOfAll, attendAll_append]

/-- A locker that polls at a desk finds what whoever has its receiver finds. -/
theorem poll_after (key : Key) (steps : List Step)
    (kept : ((opened key).after steps).receivers[id]? = some ticket) :
    (((opened key).after steps).step (.poll id)).1 =
      (((opened key).attendAll ((opened key).actsOfAll steps)).attend (.poll ticket)).1 := by
  have run : ((opened key).after steps).bare =
      (opened key).attendAll ((opened key).actsOfAll steps) := bare_after (opened key) steps
  have same : ((opened key).after steps).bare.lines = ((opened key).after steps).lines := rfl
  rw [Desk.step, poll_of_some kept, attend, ← run]
  cases found : ((opened key).after steps).lines[ticket]? with
  | none => rw [look_of_none found, look_of_none (same ▸ found)]
  | some line => rw [look_of_some found, look_of_some (same ▸ found)]

end Locking.Desk
