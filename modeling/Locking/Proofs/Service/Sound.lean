import Locking.Proofs.Resource.Persistence
import Locking.Proofs.Service.Notices

namespace Locking

/-!
The invariant of the lock service. The queues and the calls that have not returned mirror each
other: every waiting request has its call, and what a call finds on its line says truly what became
of its request.
-/

def Call.waiter (call : Call) (ticket : Ticket) : Waiter :=
  ⟨call.locker, call.level, ticket⟩

/-- The request of a call waits, has been granted, or has been dropped from the queue. -/
inductive Call.Fate (ledger : Ledger) (ticket : Ticket) (call : Call) : Prop
  | waiting (line : call.line = .fresh)
      (queued : call.waiter ticket ∈ (ledger.resource call.key).queue)
  | granted (line : call.line = Line.fresh.signal)
      (kept : ledger.isReleased call.locker.id = true ∨
        ∃ level, ledger.holds? call.locker.id call.key = some level ∧ call.level ≤ level)
  | dropped (line : call.line = Line.fresh.cut)
      (ended : ledger.isReleased call.locker.id = true ∨ ledger.closed = true)
      (nothing : ledger.holds? call.locker.id call.key = none)

namespace Service

open Resource

structure Sound (service : Service) : Prop where
  ledger : service.ledger.Sound
  owned : ∀ (key : Key), ∀ waiter ∈ (service.ledger.resource key).queue,
    ∃ call, service.calls[waiter.ticket]? = some call ∧ call.key = key ∧ call.line = .fresh ∧
      call.waiter waiter.ticket = waiter
  fate : ∀ (ticket : Ticket) (call : Call), service.calls[ticket]? = some call →
    call.Fate service.ledger ticket
  numbered : ∀ ticket call, service.calls[ticket]? = some call → ticket < service.nextTicket

variable {service : Service} {ticket : Ticket} {call : Call} {key : Key}

theorem start_sound (options : Ledger.Options) : (start options).Sound where
  ledger := Ledger.empty_sound options
  owned key waiter queued := by simp [start, vacant] at queued
  fate ticket call pending := by simp [start] at pending
  numbered ticket call pending := by simp [start] at pending

theorem Sound.ticket_unique (sound : service.Sound) {first second : Key} {left right : Waiter}
    (leftQueued : left ∈ (service.ledger.resource first).queue)
    (rightQueued : right ∈ (service.ledger.resource second).queue)
    (same : left.ticket = right.ticket) : first = second ∧ left = right := by
  obtain ⟨leftCall, leftFound, leftKey, _, leftWaiter⟩ := sound.owned first left leftQueued
  obtain ⟨rightCall, rightFound, rightKey, _, rightWaiter⟩ := sound.owned second right rightQueued
  rw [same, rightFound] at leftFound
  obtain rfl := Option.some.inj leftFound
  exact ⟨leftKey.symm.trans rightKey, by rw [← leftWaiter, ← rightWaiter, same]⟩

theorem Sound.tickets_distinct (sound : service.Sound) (key : Key) :
    (service.ledger.resource key).queue.Pairwise fun first second =>
      first.ticket ≠ second.ticket := by
  refine (sound.ledger.orderly key).queue.imp_of_mem ?_
  intro first second firstQueued secondQueued distinct same
  exact distinct (by rw [(sound.ticket_unique firstQueued secondQueued same).2])

theorem Sound.heard (sound : service.Sound) :
    ∀ waiter ∈ (service.ledger.resource key).queue, service.listening waiter.ticket = true := by
  intro waiter queued
  obtain ⟨call, found, _⟩ := sound.owned key waiter queued
  rw [listening, ← Std.ExtTreeMap.isSome_getElem?_eq_contains, found]
  rfl

theorem Sound.queued_of_fresh (sound : service.Sound)
    (pending : service.calls[ticket]? = some call) (line : call.line = .fresh) :
    call.waiter ticket ∈ (service.ledger.resource call.key).queue := by
  cases sound.fate ticket call pending with
  | waiting _ queued => exact queued
  | granted signalled => rw [signalled] at line; contradiction
  | dropped cut => rw [cut] at line; contradiction

theorem Sound.fresh_of_queued (sound : service.Sound)
    (pending : service.calls[ticket]? = some call)
    (queued : call.waiter ticket ∈ (service.ledger.resource key).queue) : call.line = .fresh := by
  obtain ⟨owner, found, _, line, _⟩ := sound.owned key _ queued
  obtain rfl := Option.some.inj (pending.symm.trans found)
  exact line

/-- A waiting request excludes every other standing of its locker with the resource. -/
theorem Sound.queued_iff_waiting (sound : service.Sound)
    (pending : service.calls[ticket]? = some call) :
    (service.ledger.resource call.key).isQueued call.locker.id = true ↔
      call.waiter ticket ∈ (service.ledger.resource call.key).queue := by
  constructor
  · intro queued
    obtain ⟨waiter, member, owner⟩ := isQueued_iff.mp queued
    cases sound.fate ticket call pending with
    | waiting _ own =>
        exact own
    | granted _ kept =>
        rcases kept with gone | ⟨level, held, _⟩
        · exact absurd (involves_of_isQueued queued) (sound.ledger.absent_of_released gone _)
        · obtain ⟨holding, holds, holder, _⟩ := exists_of_holding? held
          exact absurd (holder.trans owner.symm)
            ((sound.ledger.orderly call.key).apart holding holds waiter member)
    | dropped _ ended _ =>
        rcases ended with gone | shut
        · exact absurd (involves_of_isQueued queued) (sound.ledger.absent_of_released gone _)
        · rw [sound.ledger.silent shut] at member
          contradiction
  · intro queued
    exact isQueued_iff.mpr ⟨call.waiter ticket, queued, rfl⟩

/-! A locker leaves some resources. -/

section Departure

variable {after : Ledger} {id : LockerId} {keys : List Key} {notices : List Notice}

theorem Sound.notices_nodup (sound : service.Sound)
    (left : Ledger.Left service.listening id keys service.ledger after notices) :
    (notices.map Notice.ticket).Nodup := by
  rw [left.notices, List.map_flatMap, List.nodup_flatMap]
  refine ⟨fun key _ => leaveNotices_nodup (sound.tickets_distinct key) _ _, ?_⟩
  refine left.distinct.imp ?_
  intro first second different ticket inFirst inSecond
  obtain ⟨one, oneGiven, rfl⟩ := List.mem_map.mp inFirst
  obtain ⟨two, twoGiven, same⟩ := List.mem_map.mp inSecond
  obtain ⟨oneWaiter, oneQueued, oneTicket, _⟩ := Notice.mem_leaveNotices oneGiven
  obtain ⟨twoWaiter, twoQueued, twoTicket, _⟩ := Notice.mem_leaveNotices twoGiven
  exact different (sound.ticket_unique oneQueued twoQueued
    (oneTicket.trans (same.symm.trans twoTicket.symm))).1

/-- What the departure of a locker does to a call that has not returned. -/
inductive Turn (after : Ledger) (id : LockerId) (keys : List Key) (ticket : Ticket) (call : Call) :
    Call → Prop
  | untouched (line : call.line ≠ .fresh) : Turn after id keys ticket call call
  | stays (line : call.line = .fresh)
      (queued : call.waiter ticket ∈ (after.resource call.key).queue) :
      Turn after id keys ticket call call
  | dropped (line : call.line = .fresh) (own : call.locker.id = id) (visited : call.key ∈ keys) :
      Turn after id keys ticket call { call with line := Line.fresh.cut }
  | granted (line : call.line = .fresh) (other : call.locker.id ≠ id)
      (holds : (call.waiter ticket).holding ∈ (after.resource call.key).holdings) :
      Turn after id keys ticket call { call with line := Line.fresh.signal }

theorem Turn.caller {next : Call} (turn : Turn after id keys ticket call next) :
    next.locker = call.locker ∧ next.key = call.key ∧ next.level = call.level := by
  cases turn <;> exact ⟨rfl, rfl, rfl⟩

/-- Whoever gives a call a notice does so for its place in the queue. -/
theorem Sound.notice_source (sound : service.Sound)
    (left : Ledger.Left service.listening id keys service.ledger after notices)
    (pending : service.calls[ticket]? = some call) {notice : Notice} (given : notice ∈ notices)
    (mine : notice.ticket = ticket) :
    call.line = .fresh ∧ call.key ∈ keys ∧ notice ∈
      (service.ledger.resource call.key).leaveNotices service.listening id := by
  rw [left.notices] at given
  obtain ⟨key, visited, given⟩ := List.mem_flatMap.mp given
  obtain ⟨waiter, queued, same, _⟩ := Notice.mem_leaveNotices given
  obtain ⟨owner, found, ownKey, line, _⟩ := sound.owned key waiter queued
  rw [same, mine, pending] at found
  obtain rfl := Option.some.inj found
  subst ownKey
  exact ⟨line, visited, given⟩

theorem Sound.not_noticed_of_stays (sound : service.Sound) {waiter : Waiter} {notice : Notice}
    (queued : waiter ∈ (service.ledger.resource key).queue) (other : waiter.locker.id ≠ id)
    (stays : waiter ∈ ((service.ledger.resource key).leave service.listening id).queue)
    (given : notice ∈ (service.ledger.resource key).leaveNotices service.listening id) :
    notice.ticket ≠ waiter.ticket := by
  intro mine
  obtain ⟨told, waited, same, reason⟩ := Notice.mem_leaveNotices given
  obtain ⟨_, rfl⟩ := sound.ticket_unique waited queued (same.trans mine)
  rcases reason with ⟨owner, _⟩ | ⟨promoted, _⟩
  · exact other owner
  · -- Those granted and those left make up the queue, where no ticket comes twice.
    have distinct := (sound.tickets_distinct key).sublist (leave_sublist service.listening _ id)
    exact (List.pairwise_append.mp distinct).2.2 _ promoted _ stays rfl

theorem Sound.turn (sound : service.Sound)
    (left : Ledger.Left service.listening id keys service.ledger after notices)
    (pending : service.calls[ticket]? = some call) :
    ∃ next, (({ service with ledger := after } : Service).notifyAll notices).calls[ticket]? =
      some next ∧ Turn after id keys ticket call next := by
  have told {notice : Notice} (given : notice ∈ notices) (mine : notice.ticket = ticket) :
      (({ service with ledger := after } : Service).notifyAll notices).calls[ticket]? =
        some (hearing notice call) := by
    rw [← mine, calls_notifyAll_of_mem (sound.notices_nodup left) given, mine]
    change Option.map _ service.calls[ticket]? = _
    rw [pending, Option.map_some]
  have untold (silent : ∀ notice ∈ notices, notice.ticket ≠ ticket) :
      (({ service with ledger := after } : Service).notifyAll notices).calls[ticket]? =
        some call :=
    (calls_notifyAll_of_not_mem silent).trans pending
  by_cases line : call.line = .fresh
  case neg =>
    exact ⟨call, untold (fun _ given mine => line (sound.notice_source left pending given mine).1),
      .untouched line⟩
  have queued := sound.queued_of_fresh pending line
  have state := left.resource call.key
  by_cases visited : call.key ∈ keys
  case neg =>
    rw [if_neg visited] at state
    exact ⟨call,
      untold (fun _ given mine => visited (sound.notice_source left pending given mine).2.1),
      .stays line (by rw [state]; exact queued)⟩
  rw [if_pos visited] at state
  have passedOn {notice : Notice} (given : notice ∈
      (service.ledger.resource call.key).leaveNotices service.listening id) : notice ∈ notices := by
    rw [left.notices]
    exact List.mem_flatMap.mpr ⟨call.key, visited, given⟩
  rcases leave_cases (sound.ledger.orderly call.key) id sound.heard queued with
    ⟨own, given⟩ | ⟨other, given, holds⟩ | ⟨other, stays⟩
  · have heard := told (passedOn given) rfl
    rw [hearing, line] at heard
    exact ⟨_, heard, .dropped line own visited⟩
  · have heard := told (passedOn given) rfl
    rw [hearing, line] at heard
    exact ⟨_, heard, .granted line other (by rw [state]; exact holds)⟩
  · refine ⟨call, untold ?_, .stays line (by rw [state]; exact stays)⟩
    intro notice given mine
    exact sound.not_noticed_of_stays queued other stays
      (sound.notice_source left pending given mine).2.2 mine

theorem Sound.turned {next : Call} (sound : service.Sound)
    (left : Ledger.Left service.listening id keys service.ledger after notices)
    (found : (({ service with ledger := after } : Service).notifyAll notices).calls[ticket]? =
      some next) :
    ∃ call, service.calls[ticket]? = some call ∧ Turn after id keys ticket call next := by
  obtain ⟨call, pending⟩ := exists_call_of_notifyAll found
  obtain ⟨same, here, turn⟩ := sound.turn left pending
  obtain rfl := Option.some.inj (found.symm.trans here)
  exact ⟨call, pending, turn⟩

theorem Sound.fate_of_heard (sound : service.Sound)
    (left : Ledger.Left service.listening id keys service.ledger after notices)
    (soundAfter : after.Sound) (closed : after.closed = service.ledger.closed)
    (released : ∀ other, service.ledger.isReleased other = true → after.isReleased other = true)
    (leaves : after.isReleased id = true ∨ ∀ key ∈ keys, service.ledger.holds? id key = none)
    (pending : service.calls[ticket]? = some call) (line : call.line ≠ .fresh) :
    call.Fate after ticket := by
  cases sound.fate ticket call pending with
  | waiting fresh => exact absurd fresh line
  | granted signalled kept =>
      refine .granted signalled ?_
      rcases kept with gone | ⟨level, held, enough⟩
      · exact .inl (released _ gone)
      · by_cases own : after.isReleased call.locker.id = true
        · exact .inl own
        refine .inr ⟨level, ?_, enough⟩
        unfold Ledger.holds?
        rw [left.resource call.key]
        split
        · rename_i visited
          -- The call's locker is not the one that leaves, or else it would hold nothing here.
          refine leave_keeps (sound.ledger.orderly call.key) (fun same => ?_) held
          rcases leaves with gone | nothing
          · exact own (same ▸ gone)
          · rw [same, nothing call.key visited] at held
            contradiction
        · exact held
  | dropped cut ended nothing =>
      have ended : after.isReleased call.locker.id = true ∨ after.closed = true :=
        ended.imp (released _) (fun shut => closed.trans shut)
      refine .dropped cut ended ?_
      rcases ended with gone | shut
      · exact soundAfter.holds?_of_released gone call.key
      · unfold Ledger.holds?
        rw [left.resource call.key]
        split
        · exact leave_holding?_eq_none
            (sound.ledger.silent (closed.symm.trans shut) call.key) nothing
        · exact nothing

/-- A call keeps its fate through a departure, but for the calls of the locker that leaves. -/
theorem Turn.fate {next : Call} (sound : service.Sound)
    (left : Ledger.Left service.listening id keys service.ledger after notices)
    (soundAfter : after.Sound) (closed : after.closed = service.ledger.closed)
    (released : ∀ other, service.ledger.isReleased other = true → after.isReleased other = true)
    (leaves : after.isReleased id = true ∨ ∀ key ∈ keys, service.ledger.holds? id key = none)
    (pending : service.calls[ticket]? = some call) (turn : Turn after id keys ticket call next) :
    next.Fate after ticket ∨
      (next = { call with line := Line.fresh.cut } ∧ call.line = .fresh ∧ call.locker.id = id ∧
        call.key ∈ keys) := by
  cases turn with
  | untouched line =>
      exact .inl (sound.fate_of_heard left soundAfter closed released leaves pending line)
  | stays line queued => exact .inl (.waiting line queued)
  | dropped line own visited => exact .inr ⟨rfl, line, own, visited⟩
  | granted line other holds =>
      have held := (soundAfter.orderly call.key).holding?_eq holds rfl
      exact .inl (.granted rfl (.inr ⟨call.level, held, Level.le_refl _⟩))

theorem Sound.owned_of_left (sound : service.Sound)
    (left : Ledger.Left service.listening id keys service.ledger after notices)
    (soundAfter : after.Sound) {key : Key} {waiter : Waiter}
    (queued : waiter ∈ (after.resource key).queue) :
    ∃ call, (({ service with ledger := after } : Service).notifyAll notices).calls[waiter.ticket]? =
        some call ∧
      call.key = key ∧ call.line = .fresh ∧ call.waiter waiter.ticket = waiter ∧
      (key ∈ keys → waiter.locker.id ≠ id) := by
  have before : waiter ∈ (service.ledger.resource key).queue ∧
      (key ∈ keys → waiter.locker.id ≠ id) := by
    have state := left.resource key
    split at state
    · rw [state] at queued
      have kept := mem_leave_queue (sound.ledger.orderly key) queued
      exact ⟨kept.1, fun _ => kept.2⟩
    · rename_i unvisited
      rw [state] at queued
      exact ⟨queued, fun visited => absurd visited unvisited⟩
  obtain ⟨call, found, sameKey, line, same⟩ := sound.owned key waiter before.1
  obtain ⟨next, after, turn⟩ := sound.turn left found
  have owner : call.locker = waiter.locker := congrArg Waiter.locker same
  cases turn with
  | untouched notFresh => exact absurd line notFresh
  | stays => exact ⟨call, after, sameKey, line, same, before.2⟩
  | dropped _ own visited => exact absurd (owner ▸ own) (before.2 (sameKey ▸ visited))
  | granted _ _ holds =>
      rw [sameKey] at holds
      exact absurd (congrArg Locker.id owner)
        ((soundAfter.orderly key).apart _ holds waiter queued)

end Departure

end Service

end Locking
