import Locking.Proofs.Service.Return
import Mathlib.Data.List.Induction

namespace Locking

/-!
The keys that are noted for a locker mirror the ledger: they are those under which it holds or
waits. Only the closing of the service takes lockers out of queues and leaves their keys noted. Each
of these keys is struck when the call that waited there returns.
-/

namespace Ledger

open Resource

def Mirrors (ledger : Ledger) (id : LockerId) : Prop :=
  ∀ key, key ∈ (ledger.standing id).keys ↔ (ledger.resource key).Involves id

variable {ledger : Ledger} {listening : Ticket → Bool} {key : Key} {id : LockerId}
  {locker : Locker} {level : Level} {ticket : Ticket} {reply : Reply} {resource : Resource}

theorem involves_iff_entry :
    (ledger.resource key).Involves id ↔
      ∃ resource, ledger.resources[key]? = some resource ∧ resource.Involves id := by
  cases stored : ledger.resources[key]? with
  | none => simp [resource_of_no_entry stored, Involves, vacant]
  | some resource => simp [resource_of_entry stored]

theorem Mirrors.accept (mirrors : ledger.Mirrors id)
    (asked : (ledger.resource key).request key locker level ticket = .ok (reply, resource)) :
    ((ledger.put key resource).note locker.id key).Mirrors id := by
  intro other
  rw [mem_keys_note, standing_put, resource_note, resource_put, mirrors other]
  split
  · rename_i same
    subst same
    simp [request_involves asked]
  · rename_i different
    simp [Ne.symm different]

theorem Mirrors.withdraw (mirrors : ledger.Mirrors id) (orderly : (ledger.resource key).Orderly)
    (heard : ∀ waiter ∈ (ledger.resource key).queue, listening waiter.ticket = true)
    (gone : LockerId) : (ledger.withdrawn listening gone key).Mirrors id := by
  intro other
  rw [withdrawn, mem_keys_strike, standing_put, resource_strike, resource_put, mirrors other]
  split
  · rename_i same
    subst same
    simp [involves_leave_iff orderly heard]
  · rename_i different
    simp [Ne.symm different]

end Ledger

namespace Service

open Resource

/-- A request of the locker has left the queue of the key without a grant, and its call has not
returned yet. -/
def CutOff (service : Service) (id : LockerId) (key : Key) (ticket : Ticket) : Prop :=
  ∃ call, service.calls[ticket]? = some call ∧ call.locker.id = id ∧ call.key = key ∧
    call.line = Line.fresh.cut

def Mirrors (service : Service) (id : LockerId) : Prop :=
  ∀ key, key ∈ (service.ledger.standing id).keys ↔
    (service.ledger.resource key).Involves id ∨ ∃ ticket, service.CutOff id key ticket

structure Mirrored (service : Service) : Prop where
  noted : ∀ id, service.ledger.isReleased id = false → service.Mirrors id
  /-- No two calls have to strike the same key. -/
  single : ∀ id, service.ledger.isReleased id = false → ∀ key first second,
    service.CutOff id key first → service.CutOff id key second → first = second

variable {service : Service} {ticket other : Ticket} {call next : Call} {event : Event}
  {events : List Event} {key : Key} {id : LockerId} {locker : Locker} {level : Level}
  {handle : Handle} {outcome : Outcome}

theorem start_mirrored (options : Ledger.Options) : (start options).Mirrored where
  noted id _ key := by simp [start, Standing.fresh, Involves, vacant, CutOff]
  single id _ key first second cutOff := by simp [start, CutOff] at cutOff

/-! A service that is not closed has cut nobody off, but for lockers that were released. -/

theorem Sound.shut_of_cutOff (sound : service.Sound)
    (present : service.ledger.isReleased id = false) (cutOff : service.CutOff id key ticket) :
    service.ledger.closed = true ∧ ¬ (service.ledger.resource key).Involves id := by
  obtain ⟨call, pending, rfl, rfl, cut⟩ := cutOff
  cases sound.fate ticket call pending with
  | waiting fresh => rw [fresh] at cut; contradiction
  | granted signalled => rw [signalled] at cut; contradiction
  | dropped _ ended nothing =>
      have shut := ended.resolve_left (by simp [present])
      exact ⟨shut, sound.not_involves shut nothing⟩

theorem Sound.mirrors_iff (sound : service.Sound) (serving : service.ledger.closed = false)
    (present : service.ledger.isReleased id = false) :
    service.Mirrors id ↔ service.ledger.Mirrors id := by
  refine forall_congr' (fun key => ?_)
  have uncut : ¬ ∃ ticket, service.CutOff id key ticket := by
    intro cutOff
    obtain ⟨ticket, cutOff⟩ := cutOff
    rw [(sound.shut_of_cutOff present cutOff).1] at serving
    contradiction
  rw [or_iff_left uncut]

/-- A locker that stays is cut off by nothing but the closing of the service. -/
theorem Sound.cutOff_before (sound : service.Sound)
    (present : (service.step event).2.ledger.isReleased id = false)
    (cutOff : (service.step event).2.CutOff id key ticket) :
    service.CutOff id key ticket ∨ event = .close ∧
      ∃ waiter ∈ (service.ledger.resource key).queue,
        waiter.locker.id = id ∧ waiter.ticket = ticket := by
  obtain ⟨next, found, owner, here, cut⟩ := cutOff
  have heard : next.line ≠ .fresh := by
    rw [cut]
    decide
  obtain ⟨call, pending, moved⟩ := sound.pending_of_step found heard
  cases moved with
  | still => exact .inl ⟨_, pending, owner, here, cut⟩
  | granted => simp [Line.fresh, Line.signal, Line.cut] at cut
  | dropped fresh =>
      have queued := sound.queued_of_fresh pending fresh
      rcases sound.cut_by pending fresh found rfl with ⟨locker, made, own⟩ | made
      · have gone := ((sound.flagged event).released id).mpr (.inr ⟨locker, made, own.trans owner⟩)
        rw [present] at gone
        contradiction
      · exact .inr ⟨made, _, here ▸ queued, owner, rfl⟩

theorem Sound.present_before (sound : service.Sound)
    (present : (service.step event).2.ledger.isReleased id = false) :
    service.ledger.isReleased id = false := by
  rw [← Bool.not_eq_true] at present ⊢
  exact fun gone => present (((sound.flagged event).released id).mpr (.inl gone))

theorem Mirrored.single_step (mirrored : service.Mirrored) (sound : service.Sound)
    (present : (service.step event).2.ledger.isReleased id = false) {first second : Ticket}
    (one : (service.step event).2.CutOff id key first)
    (other : (service.step event).2.CutOff id key second) : first = second := by
  have before := sound.present_before present
  -- Whoever was cut off before was so by an earlier closing, which emptied the queues for good.
  have apart {ticket : Ticket} {waiter : Waiter} (cutOff : service.CutOff id key ticket)
      (queued : waiter ∈ (service.ledger.resource key).queue) : False := by
    have serving := sound.ledger.serving_of_queued queued
    rw [(sound.shut_of_cutOff before cutOff).1] at serving
    contradiction
  rcases sound.cutOff_before present one with old | ⟨_, left, leftQueued, owner, rfl⟩
  · rcases sound.cutOff_before present other with known | ⟨_, _, queued, _⟩
    · exact mirrored.single id before key first second old known
    · exact (apart old queued).elim
  · rcases sound.cutOff_before present other with known | ⟨_, right, rightQueued, same, rfl⟩
    · exact (apart known leftQueued).elim
    · rw [(sound.ledger.orderly key).waiter_unique leftQueued rightQueued (owner.trans same.symm)]

/-! Returning. -/

theorem cutOff_finish :
    (service.finish ticket outcome).2.CutOff id key other ↔
      ticket ≠ other ∧ service.CutOff id key other := by
  simp only [CutOff, calls_finish]
  split
  · simp [*]
  · simp [*]

/-- The return of a call that was not cut off, or has lost its locker, takes nothing along. -/
theorem Mirrors.finish (mirrors : service.Mirrors id)
    (uncut : ∀ key, ¬ service.CutOff id key ticket) (outcome : Outcome) :
    (service.finish ticket outcome).2.Mirrors id := by
  intro key
  refine (mirrors key).trans (or_congr_right (exists_congr (fun other => ?_)))
  rw [cutOff_finish]
  refine ⟨fun cutOff => ⟨?_, cutOff⟩, And.right⟩
  rintro rfl
  exact uncut key cutOff

theorem Mirrored.abandon (mirrored : service.Mirrored) (sound : service.Sound)
    (pending : service.calls[ticket]? = some call) (cut : call.line = Line.fresh.cut)
    (present : service.ledger.isReleased id = false) :
    (service.abandon ticket call).2.Mirrors id := by
  have own {key : Key} (cutOff : service.CutOff id key ticket) :
      id = call.locker.id ∧ key = call.key := by
    obtain ⟨caller, found, rfl, rfl, _⟩ := cutOff
    obtain rfl := Option.some.inj (pending.symm.trans found)
    exact ⟨rfl, rfl⟩
  unfold Service.abandon
  cases gone : service.ledger.isReleased call.locker.id with
  | true =>
      rw [Ledger.abandon_of_released gone]
      refine (mirrored.noted id present).finish (fun key cutOff => ?_) _
      rw [(own cutOff).1, gone] at present
      contradiction
  | false =>
      rw [Ledger.abandon_of_present gone]
      intro key
      dsimp only
      have mine : service.CutOff call.locker.id call.key ticket := ⟨call, pending, rfl, rfl, cut⟩
      simp only [cutOff_finish]
      change key ∈ ((service.ledger.strike call.locker.id call.key).standing id).keys ↔
        (service.ledger.resource key).Involves id ∨
          ∃ other, ticket ≠ other ∧ service.CutOff id key other
      rw [Ledger.mem_keys_strike, mirrored.noted id present key]
      by_cases here : id = call.locker.id ∧ key = call.key
      · obtain ⟨rfl, rfl⟩ := here
        have absent := (sound.shut_of_cutOff gone mine).2
        simp only [and_self, not_true_eq_false, false_and, absent, false_or, false_iff, not_exists,
          not_and]
        intro other different cutOff
        exact different (mirrored.single _ gone _ _ _ mine cutOff)
      · simp only [here, not_false_eq_true, true_and]
        refine or_congr_right (exists_congr (fun other => ?_))
        refine ⟨fun cutOff => ⟨?_, cutOff⟩, And.right⟩
        rintro rfl
        exact here (own cutOff)

theorem Mirrored.wake (mirrored : service.Mirrored) (sound : service.Sound)
    (present : service.ledger.isReleased id = false) :
    (service.wake ticket).2.Mirrors id := by
  have mirrors := mirrored.noted id present
  cases pending : service.calls[ticket]? with
  | none => simpa only [Service.wake, pending] using mirrors
  | some call =>
      cases sound.fate ticket call pending with
      | waiting line => rw [wake_of_waiting pending line]; exact mirrors
      | granted line =>
          rw [wake_of_granted pending line]
          refine mirrors.finish (fun key cutOff => ?_) .ok
          obtain ⟨caller, found, _, _, cut⟩ := cutOff
          obtain rfl := Option.some.inj (pending.symm.trans found)
          rw [line] at cut
          contradiction
      | dropped line =>
          rw [wake_of_dropped pending line]
          exact mirrored.abandon sound pending line present

theorem Mirrored.giveUp (mirrored : service.Mirrored) (sound : service.Sound)
    (present : service.ledger.isReleased id = false) :
    (service.giveUp ticket).2.Mirrors id := by
  have soundAfter := sound.giveUp ticket
  have done := sound.gaveUp ticket
  generalize service.giveUp ticket = result at done soundAfter
  cases done with
  | impossible => exact mirrored.noted id present
  | @inTime call pending _ queued =>
      have serving := sound.ledger.serving_of_queued queued
      have ledger := service.ledger_withdrawn call
      have stillServing : (service.withdrawn call).ledger.closed = false := by
        rw [ledger, Ledger.closed_withdrawn, serving]
      have stillPresent : (service.withdrawn call).ledger.isReleased id = false := by
        rw [ledger, Ledger.isReleased_withdrawn, present]
      have mirrors := (sound.mirrors_iff serving present).mp (mirrored.noted id present)
      refine (soundAfter.mirrors_iff stillServing stillPresent).mpr ?_
      change (service.withdrawn call).ledger.Mirrors id
      rw [ledger]
      exact mirrors.withdraw (sound.ledger.orderly call.key) sound.heard call.locker.id
  | late => exact mirrored.wake sound present

/-! The other events. -/

theorem Mirrored.lock (mirrored : service.Mirrored) (sound : service.Sound)
    (present : service.ledger.isReleased id = false) :
    (service.lock locker key level handle).2.Mirrors id := by
  have accepted {reply : Reply} {resource : Resource} {after : Service}
      (serving : service.ledger.closed = false)
      (asked : (service.ledger.resource key).request key locker level service.nextTicket =
        .ok (reply, resource))
      (soundAfter : after.Sound)
      (ledger : after.ledger = (service.ledger.put key resource).note locker.id key) :
      after.Mirrors id := by
    have stillServing : after.ledger.closed = false := by
      rw [ledger]
      exact (Ledger.closed_put _ _ _).trans serving
    have stillPresent : after.ledger.isReleased id = false := by
      rw [ledger, Ledger.isReleased_note, Ledger.isReleased_put, present]
    rw [soundAfter.mirrors_iff stillServing stillPresent, ledger]
    exact ((sound.mirrors_iff serving present).mp (mirrored.noted id present)).accept asked
  have soundAfter := sound.lock locker key level handle
  have done := sound.locked locker key level handle
  generalize service.lock locker key level handle = result at done soundAfter
  cases done with
  | released => exact mirrored.noted id present
  | closed => exact mirrored.noted id present
  | refused => exact mirrored.noted id present
  | granted _ serving asked => exact accepted serving asked soundAfter rfl
  | queued _ serving asked => exact accepted serving asked soundAfter rfl

theorem Sound.cutOff_of_left {after : Ledger} {gone : LockerId} {keys : List Key}
    {notices : List Notice} (sound : service.Sound)
    (left : Ledger.Left service.listening gone keys service.ledger after notices)
    (stays : id ≠ gone) :
    (({ service with ledger := after } : Service).notifyAll notices).CutOff id key ticket ↔
      service.CutOff id key ticket := by
  constructor
  · intro cutOff
    obtain ⟨next, found, owner, here, cut⟩ := cutOff
    obtain ⟨call, pending, turn⟩ := sound.turned left found
    cases turn with
    | untouched => exact ⟨_, pending, owner, here, cut⟩
    | stays => exact ⟨_, pending, owner, here, cut⟩
    | dropped _ own => exact absurd (owner.symm.trans own) stays
    | granted => simp [Line.fresh, Line.signal, Line.cut] at cut
  · intro cutOff
    obtain ⟨call, pending, owner, here, cut⟩ := cutOff
    obtain ⟨next, found, turn⟩ := sound.turn left pending
    have heard : call.line ≠ .fresh := by
      rw [cut]
      decide
    cases turn with
    | untouched => exact ⟨_, found, owner, here, cut⟩
    | stays fresh => exact absurd fresh heard
    | dropped fresh => exact absurd fresh heard
    | granted fresh => exact absurd fresh heard

theorem Mirrored.release (mirrored : service.Mirrored) (sound : service.Sound)
    (present : (service.release locker).2.ledger.isReleased id = false) :
    (service.release locker).2.Mirrors id := by
  have done := sound.freed locker
  generalize service.release locker = result at done present
  cases done with
  | before => exact mirrored.noted id present
  | now _ released =>
      rw [ledger_notifyAll, ← Bool.not_eq_true, released.isReleased_iff, not_or,
        Bool.not_eq_true] at present
      obtain ⟨other, before⟩ := present
      intro key
      dsimp only
      rw [ledger_notifyAll, released.standing, if_neg (Ne.symm other), released.everywhere,
        involves_leave_iff (sound.ledger.orderly key) sound.heard, mirrored.noted id before key]
      simp only [sound.cutOff_of_left released.left other, other, ne_eq, not_false_eq_true,
        true_and]

/-- Closing turns every waiter into a caller that is cut off. -/
theorem Mirrored.close (mirrored : service.Mirrored) (sound : service.Sound)
    (present : service.ledger.isReleased id = false) : service.close.2.Mirrors id := by
  cases serving : service.ledger.closed with
  | true =>
      rw [close_of_closed serving]
      exact mirrored.noted id present
  | false =>
      have ledger := service.ledger_close
      have cutOff (key : Key) : (∃ ticket, service.close.2.CutOff id key ticket) ↔
          ∃ waiter ∈ (service.ledger.resource key).queue, waiter.locker.id = id := by
        constructor
        · intro cutOff
          obtain ⟨ticket, next, found, owner, here, cut⟩ := cutOff
          obtain ⟨call, pending⟩ := exists_call_of_notifyAll found
          rw [sound.calls_close serving pending] at found
          obtain rfl := Option.some.inj found
          by_cases line : call.line = .fresh
          · rw [if_pos line] at owner here
            exact ⟨_, here ▸ sound.queued_of_fresh pending line, owner⟩
          · rw [if_neg line] at owner here cut
            have shut := (sound.shut_of_cutOff present ⟨call, pending, owner, here, cut⟩).1
            rw [serving] at shut
            contradiction
        · intro waits
          obtain ⟨waiter, queued, owner⟩ := waits
          obtain ⟨call, pending, here, fresh, same⟩ := sound.owned key waiter queued
          refine ⟨waiter.ticket, _, sound.calls_close serving pending, ?_⟩
          rw [if_pos fresh]
          exact ⟨(congrArg (·.locker.id) same).trans owner, here, rfl⟩
      have mirrors := (sound.mirrors_iff serving present).mp (mirrored.noted id present)
      intro key
      rw [cutOff key, ledger, Ledger.standing_close, Ledger.resource_close serving, mirrors key]
      simp [Involves, disperse]

theorem Mirrored.step (mirrored : service.Mirrored) (sound : service.Sound) (event : Event) :
    (service.step event).2.Mirrored := by
  refine ⟨fun id present => ?_, fun id present key first second =>
    mirrored.single_step sound present⟩
  have before := sound.present_before present
  rw [sound.step_eq] at present ⊢
  cases event with
  | lock locker key level handle => exact mirrored.lock sound before
  | wake ticket => exact mirrored.wake sound before
  | giveUp ticket => exact mirrored.giveUp sound before
  | release locker => exact mirrored.release sound present
  | close => exact mirrored.close sound before
  | cancellation step => exact mirrored.noted id before

theorem Mirrored.run (mirrored : service.Mirrored) (sound : service.Sound) (events : List Event) :
    (service.run events).2.Mirrored := by
  induction events generalizing service with
  | nil => exact mirrored
  | cons event rest ih => exact ih (mirrored.step sound event) (sound.step event)

/-! Who is cut off, in terms of the run. -/

/-- The request with this ticket waited when the service was closed. -/
def SentAway (service : Service) (events : List Event) (ticket : Ticket) : Prop :=
  ∃ earlier later call, events = earlier ++ .close :: later ∧
    (service.run earlier).2.calls[ticket]? = some call ∧
    call.waiter ticket ∈ ((service.run earlier).2.ledger.resource call.key).queue

theorem Sound.cut_of_sentAway (sound : service.Sound) (sentAway : service.SentAway events ticket)
    (found : (service.run events).2.calls[ticket]? = some next) :
    next.line = Line.fresh.cut := by
  obtain ⟨earlier, later, call, rfl, pending, queued⟩ := sentAway
  have soundThen := sound.run earlier
  have fresh := soundThen.fresh_of_queued pending queued
  rw [run_append] at found
  obtain ⟨middle, here, _⟩ := soundThen.pending_between pending [.close] later found
  have cut := soundThen.cut_of_closed pending fresh here
  have heard : middle.line ≠ .fresh := by
    rw [cut]
    decide
  rw [(soundThen.step .close).eq_of_heard here heard found, cut]

theorem sentAway_of_cut (options : Ledger.Options) (events : List Event)
    (found : ((start options).run events).2.calls[ticket]? = some next)
    (cut : next.line = Line.fresh.cut)
    (present : ((start options).run events).2.ledger.isReleased next.locker.id = false) :
    (start options).SentAway events ticket := by
  induction events using List.reverseRecOn generalizing next with
  | nil => simp [start, Service.run] at found
  | append_singleton events event ih =>
      have sound := run_sound options events
      have last : ((start options).run (events ++ [event])).2 =
          (((start options).run events).2.step event).2 := run_append _ _ _
      rw [last] at found present
      rcases sound.cutOff_before present ⟨next, found, rfl, rfl, cut⟩ with
        ⟨call, pending, owner, _, cutBefore⟩ | ⟨rfl, waiter, queued, _, rfl⟩
      · have before := sound.present_before present
        obtain ⟨earlier, later, waiting, rfl, waited⟩ :=
          ih pending cutBefore (by rw [owner]; exact before)
        exact ⟨earlier, later ++ [event], waiting, by simp, waited⟩
      · obtain ⟨call, pending, here, _, same⟩ := sound.owned _ waiter queued
        exact ⟨events, [], call, rfl, pending, by rw [same, here]; exact queued⟩

/-- What is known of the lockers after a run. -/
structure StandingsMirror (options : Ledger.Options) (events : List Event) (service : Service) :
    Prop where
  /-- A locker has noted the keys of the entries in which it appears, and the keys of its calls that
  the closing of the service has sent away and that have not returned. -/
  present : ∀ id, service.ledger.isReleased id = false → ∀ key,
    key ∈ service.ledger.keysOf id ↔
      (∃ resource, service.ledger.resources[key]? = some resource ∧ resource.Involves id) ∨
        ∃ ticket call, service.calls[ticket]? = some call ∧
          (start options).SentAway events ticket ∧ call.locker.id = id ∧ call.key = key
  settled : ∀ id, service.ledger.isReleased id = false →
    (∀ ticket call, service.calls[ticket]? = some call → call.locker.id = id →
      ¬ (start options).SentAway events ticket) → ∀ key,
        key ∈ service.ledger.keysOf id ↔
          ∃ resource, service.ledger.resources[key]? = some resource ∧ resource.Involves id
  released : ∀ id, service.ledger.isReleased id = true → service.ledger.keysOf id = [] ∧
    ∀ (key : Key) (resource : Resource), service.ledger.resources[key]? = some resource →
      ¬ resource.Involves id

/-- After every run, the keys noted for a locker are those under which it appears. -/
theorem standings_mirror_ledger (options : Ledger.Options) (events : List Event) :
    StandingsMirror options events ((start options).run events).2 := by
  have sound := run_sound options events
  have mirrored := (start_mirrored options).run (start_sound options) events
  have present : ∀ id, ((start options).run events).2.ledger.isReleased id = false → ∀ key,
      key ∈ ((start options).run events).2.ledger.keysOf id ↔
        (∃ resource, ((start options).run events).2.ledger.resources[key]? = some resource ∧
          resource.Involves id) ∨
          ∃ ticket call, ((start options).run events).2.calls[ticket]? = some call ∧
            (start options).SentAway events ticket ∧ call.locker.id = id ∧ call.key = key := by
    intro id unreleased key
    rw [Ledger.mem_keysOf, mirrored.noted id unreleased key, Ledger.involves_iff_entry]
    refine or_congr_right (exists_congr (fun ticket => exists_congr (fun call => ?_)))
    refine and_congr_right (fun pending => ?_)
    constructor
    · intro cutOff
      obtain ⟨rfl, here, cut⟩ := cutOff
      exact ⟨sentAway_of_cut options events pending cut unreleased, rfl, here⟩
    · intro sent
      obtain ⟨sentAway, owner, here⟩ := sent
      exact ⟨owner, here, (start_sound options).cut_of_sentAway sentAway pending⟩
  refine ⟨present, ?_, ?_⟩
  · intro id unreleased settled key
    refine (present id unreleased key).trans (or_iff_left ?_)
    rintro ⟨ticket, call, pending, sentAway, owner, _⟩
    exact settled ticket call pending owner sentAway
  · intro id gone
    refine ⟨List.eq_nil_iff_forall_not_mem.mpr (fun key noted => ?_), fun key resource stored => ?_⟩
    · exact sound.ledger.departed id gone key (Ledger.mem_keysOf.mp noted)
    · rw [← Ledger.resource_of_entry stored]
      exact sound.ledger.absent_of_released gone key

/-- The audit is sent away, and its key stays noted until it returns. -/
example :
    let closed := ((start .standard).run
      [.lock ⟨1, "load"⟩ "users" .exclusive .never, .lock ⟨2, "audit"⟩ "users" .access .never,
        .close]).2
    closed.ledger.keysOf 2 = ["users"] ∧ (closed.step (.wake 1)).2.ledger.keysOf 2 = [] := by
  constructor <;> rfl

end Service

end Locking
