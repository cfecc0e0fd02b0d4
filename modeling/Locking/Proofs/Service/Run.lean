import Locking.Proofs.Service.Sound

namespace Locking.Service

open Resource

/-!
Every event keeps the service sound, so every run does, and no audit ever fails in it.
-/

variable {service : Service} {ticket : Ticket} {call : Call} {locker : Locker} {key : Key}
  {level : Level} {handle : Handle} {notices : List Notice} {outcome : Outcome}

/-! Locking. -/

theorem Sound.fate_of_accepted {reply : Reply} {resource : Resource} (sound : service.Sound)
    (serving : service.ledger.closed = false)
    (asked : (service.ledger.resource key).request key locker level ticket =
      .ok (reply, resource))
    (soundAfter : ((service.ledger.put key resource).note locker.id key).Sound)
    {other : Ticket} (pending : service.calls[other]? = some call) :
    call.Fate ((service.ledger.put key resource).note locker.id key) other := by
  have released (id : LockerId) : ((service.ledger.put key resource).note locker.id key).isReleased
      id = service.ledger.isReleased id := by
    rw [Ledger.isReleased_note, Ledger.isReleased_put]
  cases sound.fate other call pending with
  | waiting line queued =>
      refine .waiting line ?_
      rw [Ledger.resource_note, Ledger.resource_put]
      split
      · rename_i same
        subst same
        exact (request_extends_queue asked).subset queued
      · exact queued
  | granted line kept =>
      refine .granted line (kept.imp (fun gone => (released _).trans gone) ?_)
      intro holds
      obtain ⟨before, held, enough⟩ := holds
      unfold Ledger.holds?
      rw [Ledger.resource_note, Ledger.resource_put]
      split
      · rename_i same
        subst same
        obtain ⟨higher, keeps, above⟩ := request_keeps (sound.ledger.orderly _) asked held
        exact ⟨higher, keeps, Level.le_trans enough above⟩
      · exact ⟨before, held, enough⟩
  | dropped line ended =>
      have gone : service.ledger.isReleased call.locker.id = true := by
        rcases ended with gone | shut
        · exact gone
        · rw [shut] at serving
          contradiction
      have gone := (released _).trans gone
      exact .dropped line (.inl gone) (soundAfter.holds?_of_released gone call.key)

/-- What a lock call comes to: it is refused and changes nothing, it is granted at once, or it is
queued and waits. -/
inductive Locked (service : Service) (locker : Locker) (key : Key) (level : Level)
    (handle : Handle) : Answer × Service → Prop
  | released (gone : service.ledger.isReleased locker.id = true) :
      Locked service locker key level handle
        (.returned service.nextTicket (.refused (.releasedLocker locker.name)),
          { service with nextTicket := service.nextTicket + 1 })
  | closed (present : service.ledger.isReleased locker.id = false)
      (shut : service.ledger.closed = true) :
      Locked service locker key level handle
        (.returned service.nextTicket (.refused .closed),
          { service with nextTicket := service.nextTicket + 1 })
  | refused (present : service.ledger.isReleased locker.id = false)
      (serving : service.ledger.closed = false) {refusal : Refusal}
      (asked : (service.ledger.resource key).request key locker level service.nextTicket =
        .error refusal) :
      Locked service locker key level handle
        (.returned service.nextTicket (.refused refusal),
          { service with nextTicket := service.nextTicket + 1 })
  | granted (present : service.ledger.isReleased locker.id = false)
      (serving : service.ledger.closed = false) {resource : Resource}
      (asked : (service.ledger.resource key).request key locker level service.nextTicket =
        .ok (.granted, resource)) :
      Locked service locker key level handle
        (.returned service.nextTicket .ok,
          { service with
            ledger := (service.ledger.put key resource).note locker.id key
            nextTicket := service.nextTicket + 1 })
  | queued (present : service.ledger.isReleased locker.id = false)
      (serving : service.ledger.closed = false) {place : Nat} {resource : Resource}
      (asked : (service.ledger.resource key).request key locker level service.nextTicket =
        .ok (.queued place, resource)) :
      Locked service locker key level handle
        (.waiting service.nextTicket place,
          { service with
            ledger := (service.ledger.put key resource).note locker.id key
            calls := service.calls.insert service.nextTicket ⟨locker, key, level, handle, .fresh⟩
            nextTicket := service.nextTicket + 1 })

theorem Sound.locked (sound : service.Sound) (locker : Locker) (key : Key) (level : Level)
    (handle : Handle) : Locked service locker key level handle
      (service.lock locker key level handle) := by
  have done := sound.ledger.locked locker key level service.nextTicket
  unfold lock
  dsimp only
  generalize service.ledger.lock locker key level service.nextTicket = result at done ⊢
  cases done with
  | released gone => exact .released gone
  | closed present shut => exact .closed present shut
  | refused present serving asked => exact .refused present serving asked
  | @accepted present serving reply resource asked =>
      cases reply with
      | granted => exact .granted present serving asked
      | queued place => exact .queued present serving asked

theorem Sound.unused (sound : service.Sound) : service.calls[service.nextTicket]? = none := by
  cases used : service.calls[service.nextTicket]? with
  | none => rfl
  | some call => exact absurd (sound.numbered _ call used) (Nat.lt_irrefl _)

theorem Sound.queue_call {place : Nat} {resource : Resource} (sound : service.Sound)
    (serving : service.ledger.closed = false)
    (asked : (service.ledger.resource key).request key locker level service.nextTicket =
      .ok (.queued place, resource))
    (soundAfter : ((service.ledger.put key resource).note locker.id key).Sound) :
    ({ service with
      ledger := (service.ledger.put key resource).note locker.id key
      calls := service.calls.insert service.nextTicket ⟨locker, key, level, handle, .fresh⟩
      nextTicket := service.nextTicket + 1 } : Service).Sound := by
  obtain ⟨rfl, _, _, _⟩ := request_queued asked
  have calls (other : Ticket) (call : Call) :
      (service.calls.insert service.nextTicket call)[other]? =
        if service.nextTicket = other then some call else service.calls[other]? := by
    simp [Std.ExtTreeMap.getElem?_insert]
  refine ⟨soundAfter, ?_, ?_, ?_⟩
  · intro other waiter queued
    dsimp only at queued ⊢
    rw [calls]
    have elsewhere (before : waiter ∈ (service.ledger.resource other).queue) :
        service.nextTicket ≠ waiter.ticket := by
      intro same
      obtain ⟨call, found, _⟩ := sound.owned other waiter before
      rw [← same, sound.unused] at found
      contradiction
    rw [Ledger.resource_note, Ledger.resource_put] at queued
    split at queued
    · rename_i same
      subst same
      rcases List.mem_append.mp queued with before | last
      · rw [if_neg (elsewhere before)]
        exact sound.owned _ waiter before
      · rw [List.mem_singleton] at last
        subst last
        exact ⟨_, if_pos rfl, rfl, rfl, rfl⟩
    · rw [if_neg (elsewhere queued)]
      exact sound.owned _ waiter queued
  · intro other call pending
    dsimp only at pending ⊢
    rw [calls] at pending
    split at pending
    · rename_i same
      subst same
      obtain rfl := Option.some.inj pending
      refine .waiting rfl ?_
      rw [Ledger.resource_note, Ledger.resource_put_self]
      exact List.mem_append_right _ (List.mem_singleton.mpr rfl)
    · exact sound.fate_of_accepted serving asked soundAfter pending
  · intro other call pending
    dsimp only at pending ⊢
    rw [calls] at pending
    split at pending
    · rename_i same
      exact same ▸ Nat.lt_succ_self _
    · exact Nat.lt_succ_of_lt (sound.numbered other call pending)

theorem Sound.lock (sound : service.Sound) (locker : Locker) (key : Key) (level : Level)
    (handle : Handle) : (service.lock locker key level handle).2.Sound := by
  have done := sound.locked locker key level handle
  have numbered : ∀ ticket call, service.calls[ticket]? = some call →
      ticket < service.nextTicket + 1 :=
    fun ticket call pending => Nat.lt_succ_of_lt (sound.numbered ticket call pending)
  generalize service.lock locker key level handle = result at done
  cases done with
  | released => exact ⟨sound.ledger, sound.owned, sound.fate, numbered⟩
  | closed => exact ⟨sound.ledger, sound.owned, sound.fate, numbered⟩
  | refused => exact ⟨sound.ledger, sound.owned, sound.fate, numbered⟩
  | queued present serving asked =>
      exact sound.queue_call serving asked (sound.ledger.accept present serving asked)
  | @granted present serving resource asked =>
      have soundAfter := sound.ledger.accept present serving asked
      refine ⟨soundAfter, ?_, ?_, numbered⟩
      · intro other waiter queued
        dsimp only at queued ⊢
        rw [Ledger.resource_note, Ledger.resource_put] at queued
        split at queued
        · rename_i same
          subst same
          rw [request_granted_queue asked] at queued
          exact sound.owned _ waiter queued
        · exact sound.owned _ waiter queued
      · intro other call pending
        exact sound.fate_of_accepted serving asked soundAfter pending

/-! Returning. -/

theorem calls_finish (service : Service) (ticket other : Ticket) (outcome : Outcome) :
    (service.finish ticket outcome).2.calls[other]? =
      if ticket = other then none else service.calls[other]? := by
  simp [finish, Std.ExtTreeMap.getElem?_erase]

theorem pending_of_finish {other : Ticket} {next : Call}
    (found : (service.finish ticket outcome).2.calls[other]? = some next) :
    ticket ≠ other ∧ service.calls[other]? = some next := by
  rw [calls_finish] at found
  split at found
  · contradiction
  · rename_i different
    exact ⟨different, found⟩

theorem Sound.finish (sound : service.Sound) (pending : service.calls[ticket]? = some call)
    (line : call.line ≠ .fresh) (outcome : Outcome) :
    (service.finish ticket outcome).2.Sound := by
  refine ⟨sound.ledger, ?_, ?_, ?_⟩
  · intro key waiter queued
    rw [calls_finish]
    obtain ⟨owner, found, sameKey, fresh, same⟩ := sound.owned key waiter queued
    have different : ticket ≠ waiter.ticket := by
      intro same
      rw [← same, pending] at found
      exact line (Option.some.inj found ▸ fresh)
    rw [if_neg different]
    exact ⟨owner, found, sameKey, fresh, same⟩
  · intro other next found
    exact sound.fate other next (pending_of_finish found).2
  · intro other next found
    exact sound.numbered other next (pending_of_finish found).2

theorem Sound.not_involves (sound : service.Sound) {id : LockerId}
    (shut : service.ledger.closed = true) (nothing : service.ledger.holds? id key = none) :
    ¬ (service.ledger.resource key).Involves id := by
  intro involved
  rcases involved with ⟨holding, member, owner⟩ | ⟨waiter, queued, _⟩
  · exact holding?_eq_none_iff.mp nothing holding member owner
  · rw [sound.ledger.silent shut] at queued
    contradiction

theorem Sound.strike (sound : service.Sound) {id : LockerId} (shut : service.ledger.closed = true)
    (nothing : service.ledger.holds? id key = none) :
    ({ service with ledger := service.ledger.strike id key } : Service).Sound := by
  refine ⟨sound.ledger.strike (sound.not_involves shut nothing), sound.owned, ?_, sound.numbered⟩
  intro ticket call pending
  have gone : (service.ledger.strike id key).isReleased call.locker.id =
      service.ledger.isReleased call.locker.id := Ledger.isReleased_strike _ _ _ _
  cases sound.fate ticket call pending with
  | waiting line queued => exact .waiting line queued
  | granted line kept => exact .granted line (by rw [gone]; exact kept)
  | dropped line ended nothing => exact .dropped line (by rw [gone]; exact ended) nothing

theorem Sound.abandon (sound : service.Sound) (pending : service.calls[ticket]? = some call)
    (cut : call.line = Line.fresh.cut) : (service.abandon ticket call).2.Sound := by
  have line : call.line ≠ .fresh := by
    rw [cut]
    decide
  cases sound.fate ticket call pending with
  | waiting fresh => exact absurd fresh line
  | granted signalled => rw [signalled] at cut; contradiction
  | dropped _ ended nothing =>
      unfold Service.abandon
      cases gone : service.ledger.isReleased call.locker.id with
      | true =>
          rw [Ledger.abandon_of_released gone]
          exact sound.finish pending line _
      | false =>
          rw [Ledger.abandon_of_present gone]
          have shut : service.ledger.closed = true := by
            rcases ended with released | shut
            · rw [gone] at released
              contradiction
            · exact shut
          exact (sound.strike shut nothing).finish pending line _

/-! The two ways to return, by what has become of the request. -/

theorem wake_of_waiting (pending : service.calls[ticket]? = some call)
    (line : call.line = .fresh) : service.wake ticket = (.impossible, service) := by
  simp [wake, pending, line]

theorem wake_of_granted (pending : service.calls[ticket]? = some call)
    (line : call.line = Line.fresh.signal) : service.wake ticket = service.finish ticket .ok := by
  simp [wake, pending, line]

theorem wake_of_dropped (pending : service.calls[ticket]? = some call)
    (line : call.line = Line.fresh.cut) : service.wake ticket = service.abandon ticket call := by
  simp [wake, pending, line]

/-- A call that wakes up leaves everything held and waited for as it is. -/
theorem wake_frame (service : Service) (ticket : Ticket) :
    (∀ key, (service.wake ticket).2.ledger.resource key = service.ledger.resource key) ∧
      (∀ id, (service.wake ticket).2.ledger.isReleased id = service.ledger.isReleased id) ∧
      (service.wake ticket).2.ledger.closed = service.ledger.closed := by
  unfold wake
  split
  · exact ⟨fun _ => rfl, fun _ => rfl, rfl⟩
  · split
    · exact ⟨fun _ => rfl, fun _ => rfl, rfl⟩
    · simp only [abandon, Ledger.abandon, finish]
      split
      · exact ⟨fun _ => rfl, fun _ => rfl, rfl⟩
      · exact ⟨fun _ => rfl, fun id => Ledger.isReleased_strike _ _ id _, rfl⟩
    · exact ⟨fun _ => rfl, fun _ => rfl, rfl⟩

theorem giveUp_of_unfired (pending : service.calls[ticket]? = some call)
    (unfired : service.hasFired call.handle = false) :
    service.giveUp ticket = (.impossible, service) := by
  simp [giveUp, pending, unfired]

def withdrawn (service : Service) (call : Call) : Service :=
  { service with
    ledger := service.ledger.withdrawn service.listening call.locker.id call.key }.notifyAll
    ((service.ledger.resource call.key).leaveNotices service.listening call.locker.id)

theorem ledger_withdrawn (service : Service) (call : Call) :
    (service.withdrawn call).ledger =
      service.ledger.withdrawn service.listening call.locker.id call.key :=
  ledger_notifyAll _ _

theorem Sound.giveUp_of_waiting (sound : service.Sound)
    (pending : service.calls[ticket]? = some call) (fired : service.hasFired call.handle = true)
    (queued : call.waiter ticket ∈ (service.ledger.resource call.key).queue) :
    service.giveUp ticket =
      (service.withdrawn call).finish ticket (.refused (.cancelled call.key)) := by
  have present := (sound.queued_iff_waiting pending).mpr queued
  simp [giveUp, pending, fired, sound.ledger.withdraw?, present, withdrawn]

theorem Sound.giveUp_of_not_waiting (sound : service.Sound)
    (pending : service.calls[ticket]? = some call) (fired : service.hasFired call.handle = true)
    (line : call.line ≠ .fresh) :
    service.giveUp ticket = service.wake ticket := by
  have absent : (service.ledger.resource call.key).isQueued call.locker.id = false := by
    rw [← Bool.not_eq_true, sound.queued_iff_waiting pending]
    exact fun queued => line (sound.fresh_of_queued pending queued)
  have taken : service.ledger.withdraw? service.listening call.locker.id call.key = none := by
    rw [sound.ledger.withdraw?, absent]
    rfl
  cases sound.fate ticket call pending with
  | waiting fresh => exact absurd fresh line
  | granted signalled => simp [giveUp, wake, pending, fired, taken, signalled]
  | dropped cut => simp [giveUp, wake, pending, fired, taken, cut]

/-- What giving up comes to. No call can do so before its handle has fired. A request that waits is
then taken back; with any other a call that gives up does what it would do if it woke up. -/
inductive GaveUp (service : Service) (ticket : Ticket) : Answer × Service → Prop
  | impossible (unfired : ∀ call, service.calls[ticket]? = some call →
      service.hasFired call.handle = false) :
      GaveUp service ticket (.impossible, service)
  | inTime {call : Call} (pending : service.calls[ticket]? = some call)
      (fired : service.hasFired call.handle = true)
      (queued : call.waiter ticket ∈ (service.ledger.resource call.key).queue) :
      GaveUp service ticket
        ((service.withdrawn call).finish ticket (.refused (.cancelled call.key)))
  | late {call : Call} (pending : service.calls[ticket]? = some call)
      (fired : service.hasFired call.handle = true) (heard : call.line ≠ .fresh) :
      GaveUp service ticket (service.wake ticket)

theorem Sound.gaveUp (sound : service.Sound) (ticket : Ticket) :
    GaveUp service ticket (service.giveUp ticket) := by
  cases pending : service.calls[ticket]? with
  | none =>
      rw [show service.giveUp ticket = (.impossible, service) by simp [Service.giveUp, pending]]
      exact .impossible (by simp [pending])
  | some call =>
      cases fired : service.hasFired call.handle with
      | false =>
          rw [giveUp_of_unfired pending fired]
          exact .impossible (by simp [pending, fired])
      | true =>
          by_cases line : call.line = .fresh
          · have queued := sound.queued_of_fresh pending line
            rw [sound.giveUp_of_waiting pending fired queued]
            exact .inTime pending fired queued
          · rw [sound.giveUp_of_not_waiting pending fired line]
            exact .late pending fired line

theorem Sound.wake (sound : service.Sound) (ticket : Ticket) : (service.wake ticket).2.Sound := by
  cases pending : service.calls[ticket]? with
  | none => simpa only [Service.wake, pending] using sound
  | some call =>
      cases sound.fate ticket call pending with
      | waiting line => rw [wake_of_waiting pending line]; exact sound
      | granted line =>
          rw [wake_of_granted pending line]
          exact sound.finish pending (by rw [line]; decide) .ok
      | dropped line =>
          rw [wake_of_dropped pending line]
          exact sound.abandon pending line

theorem Sound.numbered_notifyAll (sound : service.Sound) {after : Ledger} {other : Ticket}
    {next : Call}
    (found : (({ service with ledger := after } : Service).notifyAll notices).calls[other]? =
      some next) :
    other < (({ service with ledger := after } : Service).notifyAll notices).nextTicket := by
  obtain ⟨before, waiting⟩ := exists_call_of_notifyAll found
  rw [nextTicket_notifyAll]
  exact sound.numbered other before waiting

/-- A call that takes its request back leaves the others to their fates, or to better ones. -/
theorem Sound.withdrawn (sound : service.Sound) (pending : service.calls[ticket]? = some call)
    (queued : call.waiter ticket ∈ (service.ledger.resource call.key).queue) (outcome : Outcome) :
    ((service.withdrawn call).finish ticket outcome).2.Sound := by
  have soundAfter := sound.ledger.withdrawn service.listening call.locker.id call.key
  have left := service.ledger.left_withdrawn service.listening call.locker.id call.key
  have unheld := sound.ledger.holds?_of_queued queued
  have ledger := service.ledger_withdrawn call
  refine ⟨?_, ?_, ?_, ?_⟩
  · exact ledger ▸ soundAfter
  · intro key waiter waits
    change waiter ∈ ((service.withdrawn call).ledger.resource key).queue at waits
    rw [ledger] at waits
    rw [calls_finish]
    obtain ⟨other, found, sameKey, line, same, different⟩ :=
      sound.owned_of_left left soundAfter waits
    refine ⟨other, ?_, sameKey, line, same⟩
    rw [if_neg ?_]
    · exact found
    · -- The call that gives up would have to be the one that still waits.
      intro own
      subst own
      obtain ⟨before, waiting, turn⟩ := sound.turned left found
      obtain rfl := Option.some.inj (pending.symm.trans waiting)
      obtain ⟨sameLocker, calledKey, _⟩ := turn.caller
      refine different (by simp [← sameKey, calledKey]) ?_
      rw [← same, ← sameLocker]
      rfl
  · intro other next found
    obtain ⟨different, found⟩ := pending_of_finish found
    obtain ⟨before, waiting, turn⟩ := sound.turned left found
    have fate := turn.fate sound left soundAfter (Ledger.closed_withdrawn _ _ _ _)
      (fun id gone => (Ledger.isReleased_withdrawn _ _ _ _ _).trans gone)
      (.inr (fun key visited => by rwa [List.mem_singleton.mp visited])) waiting
    rcases fate with fate | ⟨_, line, own, visited⟩
    · exact ledger ▸ fate
    · -- A locker waits once for a key, so this call is the one that gives up.
      have sameKey := List.mem_singleton.mp visited
      have waits := sound.queued_of_fresh waiting line
      rw [sameKey] at waits
      have same := (sound.ledger.orderly call.key).waiter_unique queued waits own.symm
      exact absurd (congrArg Waiter.ticket same) different
  · intro other next found
    exact sound.numbered_notifyAll (pending_of_finish found).2

theorem Sound.giveUp (sound : service.Sound) (ticket : Ticket) :
    (service.giveUp ticket).2.Sound := by
  have done := sound.gaveUp ticket
  generalize service.giveUp ticket = result at done
  cases done with
  | impossible => exact sound
  | inTime pending _ queued => exact sound.withdrawn pending queued _
  | late => exact sound.wake ticket

/-! Releasing and closing. -/

theorem ledger_release (service : Service) (locker : Locker) :
    (service.release locker).2.ledger = (service.ledger.release service.listening locker).2.1 :=
  ledger_notifyAll _ _

theorem release_of_released (gone : service.ledger.isReleased locker.id = true) :
    service.release locker =
      (.released (.refused (.releasedLocker locker.name)), service) := by
  simp [release, Ledger.release_of_released gone, Outcome.ofExcept, notifyAll]

theorem Sound.release_of_present (sound : service.Sound)
    (present : service.ledger.isReleased locker.id = false) :
    ∃ after notices,
      service.release locker =
        (.released .ok, ({ service with ledger := after } : Service).notifyAll notices) ∧
      Ledger.Released service.listening locker.id service.ledger after notices := by
  obtain ⟨after, notices, result, released⟩ := sound.ledger.release present service.listening
  exact ⟨after, notices, by simp [release, result, Outcome.ofExcept], released⟩

/-- What the release of a locker comes to. -/
inductive Freed (service : Service) (locker : Locker) : Answer × Service → Prop
  | before (gone : service.ledger.isReleased locker.id = true) :
      Freed service locker (.released (.refused (.releasedLocker locker.name)), service)
  | now (present : service.ledger.isReleased locker.id = false) {after : Ledger}
      {notices : List Notice}
      (released : Ledger.Released service.listening locker.id service.ledger after notices) :
      Freed service locker
        (.released .ok, ({ service with ledger := after } : Service).notifyAll notices)

theorem Sound.freed (sound : service.Sound) (locker : Locker) :
    Freed service locker (service.release locker) := by
  cases gone : service.ledger.isReleased locker.id with
  | true =>
      rw [release_of_released gone]
      exact .before gone
  | false =>
      obtain ⟨after, notices, result, released⟩ := sound.release_of_present gone
      rw [result]
      exact .now gone released

theorem Sound.released {after : Ledger} (sound : service.Sound)
    (released : Ledger.Released service.listening locker.id service.ledger after notices) :
    (({ service with ledger := after } : Service).notifyAll notices).Sound := by
  have gone : after.isReleased locker.id = true := released.isReleased_iff.mpr (.inl rfl)
  refine ⟨?_, ?_, ?_, ?_⟩
  · rw [ledger_notifyAll]
    exact released.sound
  · intro key waiter queued
    rw [ledger_notifyAll] at queued
    obtain ⟨call, found, sameKey, line, same, _⟩ :=
      sound.owned_of_left released.left released.sound queued
    exact ⟨call, found, sameKey, line, same⟩
  · intro ticket next found
    rw [ledger_notifyAll]
    obtain ⟨before, waiting, turn⟩ := sound.turned released.left found
    have fate := turn.fate sound released.left released.sound released.closed
      (fun id before => released.isReleased_iff.mpr (.inr before)) (.inl gone) waiting
    rcases fate with fate | ⟨rfl, _, own, _⟩
    · exact fate
    · have mine : after.isReleased before.locker.id = true := own ▸ gone
      exact .dropped rfl (.inl mine) (released.sound.holds?_of_released mine before.key)
  · intro ticket next found
    exact sound.numbered_notifyAll found

theorem Sound.release (sound : service.Sound) (locker : Locker) :
    (service.release locker).2.Sound := by
  have done := sound.freed locker
  generalize service.release locker = result at done
  cases done with
  | before => exact sound
  | now _ released => exact sound.released released

theorem mem_close_notices (serving : service.ledger.closed = false)
    {notice : Notice} :
    notice ∈ service.ledger.close.2 ↔
      ∃ key, ∃ waiter ∈ (service.ledger.resource key).queue, notice = .dropped waiter.ticket := by
  simp only [Ledger.close, serving, Bool.false_eq_true, if_false, List.mem_flatMap, List.mem_map,
    Prod.exists, Std.ExtTreeMap.mem_toList_iff_getElem?_eq_some]
  constructor
  · intro given
    obtain ⟨key, resource, stored, waiter, queued, rfl⟩ := given
    rw [← Ledger.resource_of_entry stored] at queued
    exact ⟨key, waiter, queued, rfl⟩
  · intro queue
    obtain ⟨key, waiter, queued, rfl⟩ := queue
    cases stored : service.ledger.resources[key]? with
    | none =>
        rw [Ledger.resource_of_no_entry stored] at queued
        contradiction
    | some resource =>
        rw [Ledger.resource_of_entry stored] at queued
        exact ⟨key, resource, stored, waiter, queued, rfl⟩

theorem Sound.close_notices_nodup (sound : service.Sound)
    (serving : service.ledger.closed = false) :
    (service.ledger.close.2.map Notice.ticket).Nodup := by
  have stored {key : Key} {resource : Resource}
      (member : (key, resource) ∈ service.ledger.resources.toList) :
      service.ledger.resource key = resource :=
    Ledger.resource_of_entry (Std.ExtTreeMap.mem_toList_iff_getElem?_eq_some.mp member)
  simp only [Ledger.close, serving, Bool.false_eq_true, if_false, List.map_flatMap, List.map_map]
  rw [List.nodup_flatMap]
  refine ⟨?_, Std.ExtTreeMap.distinct_keys_toList.imp_of_mem ?_⟩
  · intro entry member
    have distinct := sound.tickets_distinct entry.1
    rw [stored member] at distinct
    exact List.pairwise_map.mpr distinct
  · intro left right leftMember rightMember different ticket inLeft inRight
    obtain ⟨one, oneQueued, oneTicket⟩ := List.mem_map.mp inLeft
    obtain ⟨two, twoQueued, twoTicket⟩ := List.mem_map.mp inRight
    rw [← stored leftMember] at oneQueued
    rw [← stored rightMember] at twoQueued
    have same := sound.ticket_unique oneQueued twoQueued (oneTicket.trans twoTicket.symm)
    exact different (by simp [same.1])

theorem ledger_close (service : Service) : service.close.2.ledger = service.ledger.close.1 :=
  ledger_notifyAll _ _

theorem close_of_closed (shut : service.ledger.closed = true) :
    service.close = (.done, service) := by
  simp [close, Ledger.close_of_closed shut, notifyAll]

/-- Every call whose request waits finds its line cut; the others notice nothing. -/
theorem Sound.calls_close (sound : service.Sound) (serving : service.ledger.closed = false)
    (pending : service.calls[ticket]? = some call) :
    service.close.2.calls[ticket]? =
      some (if call.line = .fresh then { call with line := Line.fresh.cut } else call) := by
  unfold Service.close
  dsimp only
  split
  · rename_i line
    have given : Notice.dropped ticket ∈ service.ledger.close.2 :=
      (mem_close_notices serving).mpr
        ⟨call.key, call.waiter ticket, sound.queued_of_fresh pending line, rfl⟩
    refine (calls_notifyAll_of_mem (sound.close_notices_nodup serving) given).trans ?_
    change Option.map _ service.calls[ticket]? = _
    rw [pending, Option.map_some, hearing, line]
    rfl
  · rename_i line
    refine (calls_notifyAll_of_not_mem ?_).trans pending
    intro notice given mine
    obtain ⟨key, waiter, queued, rfl⟩ := (mem_close_notices serving).mp given
    obtain ⟨owner, found, _, fresh, _⟩ := sound.owned key waiter queued
    rw [show waiter.ticket = ticket from mine, pending] at found
    exact line (Option.some.inj found ▸ fresh)

theorem Sound.close (sound : service.Sound) : service.close.2.Sound := by
  cases serving : service.ledger.closed with
  | true =>
      rw [close_of_closed serving]
      exact sound
  | false =>
      have ledger := service.ledger_close
      have resource := Ledger.resource_close serving
      refine ⟨ledger ▸ sound.ledger.close serving, ?_, ?_, ?_⟩
      · intro key waiter queued
        rw [ledger, resource] at queued
        contradiction
      · intro ticket next found
        obtain ⟨call, pending⟩ := exists_call_of_notifyAll found
        obtain rfl := Option.some.inj (found.symm.trans (sound.calls_close serving pending))
        have kept : service.close.2.ledger.holds? call.locker.id call.key =
            service.ledger.holds? call.locker.id call.key := by
          rw [ledger, Ledger.holds?, resource]
          rfl
        have gone : service.close.2.ledger.isReleased call.locker.id =
            service.ledger.isReleased call.locker.id := by
          rw [ledger, Ledger.isReleased_close]
        have shut : service.close.2.ledger.closed = true := by
          rw [ledger, Ledger.closed_close]
        split
        · rename_i line
          refine .dropped rfl (.inr shut) ?_
          exact kept.trans (sound.ledger.holds?_of_queued (sound.queued_of_fresh pending line))
        · rename_i line
          cases sound.fate ticket call pending with
          | waiting fresh => exact absurd fresh line
          | granted signalled keeps => exact .granted signalled (by rw [gone, kept]; exact keeps)
          | dropped cut _ nothing => exact .dropped cut (.inr shut) (kept.trans nothing)
      · intro ticket next found
        exact sound.numbered_notifyAll found

/-! Events and runs. -/

theorem Sound.act (sound : service.Sound) (event : Event) : (service.act event).2.Sound := by
  cases event with
  | lock locker key level handle => exact sound.lock locker key level handle
  | wake ticket => exact sound.wake ticket
  | giveUp ticket => exact sound.giveUp ticket
  | release locker => exact sound.release locker
  | close => exact sound.close
  | cancellation step => exact ⟨sound.ledger, sound.owned, sound.fate, sound.numbered⟩

/-- In a sound service no audit fails, so every event takes its effect. -/
theorem Sound.step_eq (sound : service.Sound) (event : Event) :
    service.step event = service.act event := by
  simp only [step, sound.ledger.quiet, (sound.act event).ledger.quiet]

theorem Sound.step (sound : service.Sound) (event : Event) : (service.step event).2.Sound := by
  rw [sound.step_eq]
  exact sound.act event

theorem Sound.run (sound : service.Sound) (events : List Event) :
    (service.run events).2.Sound := by
  induction events generalizing service with
  | nil => exact sound
  | cons event rest ih => exact ih (sound.step event)

theorem run_sound (options : Ledger.Options) (events : List Event) :
    ((start options).run events).2.Sound :=
  (start_sound options).run events

end Locking.Service
