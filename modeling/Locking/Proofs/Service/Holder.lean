import Locking.Proofs.Service.Traceless

namespace Locking

/-!
A holder that asks for its resource again. It is answered at once: what it holds already it is
granted again, and more only if nobody waits and the new level goes with what the others hold.
-/

/-- Levels that go with a level above the weakest go with each other. -/
theorem Level.compatible_of_compatible {held level left right : Level} (more : held < level)
    (leftFits : left.compatible level = true) (rightFits : right.compatible level = true) :
    left.compatible right = true := by
  revert more leftFits rightFits
  cases held <;> cases level <;> cases left <;> cases right <;> decide

namespace Resource

variable {resource : Resource} {key : Key} {locker : Locker} {id : LockerId} {held level : Level}
  {ticket : Ticket}

theorem request_of_le (holds : resource.holding? locker.id = some held) (enough : level ≤ held) :
    resource.request key locker level ticket = .ok (.granted, resource) := by
  simp only [request, holds, if_pos enough]

theorem request_of_lt (holds : resource.holding? locker.id = some held) (more : held < level) :
    resource.request key locker level ticket =
      if resource.canRaise locker.id level then
        .ok (.granted, { resource with holdings := raise locker.id level resource.holdings })
      else .error (.conflictingUpgrade key held level) := by
  have beyond : ¬ level ≤ held := Nat.not_le_of_lt more
  simp only [request, holds, if_neg beyond]

theorem canRaise_iff : resource.canRaise id level = true ↔
    (∀ holding ∈ resource.holdings, holding.locker.id ≠ id →
      holding.level.compatible level = true) ∧
    ∀ waiter ∈ resource.queue, waiter.level.compatible level = true := by
  simp only [canRaise, Bool.and_eq_true, admits_iff, mem_othersOf, and_imp, List.all_eq_true]

/-- Whoever waits at the head of the queue is blocked by some holding. A level that went with the
head and with all other holdings would have let it pass. -/
theorem canRaise_eq_false_of_queued (orderly : resource.Orderly) (settled : resource.Settled)
    (holds : resource.holding? id = some held) (more : held < level) (busy : resource.queue ≠ []) :
    resource.canRaise id level = false := by
  obtain ⟨head, rest, queue⟩ := List.exists_cons_of_ne_nil busy
  obtain ⟨holding, member, blocks⟩ := settled_iff.mp settled head rest queue
  rw [← Bool.not_eq_true, canRaise_iff]
  rintro ⟨others, waiters⟩
  have headFits : head.level.compatible level = true := waiters head (by simp [queue])
  have fits : holding.level.compatible head.level = true := by
    by_cases owner : holding.locker.id = id
    · have own : holding.level = held :=
        Option.some.inj ((orderly.holding?_eq member owner).symm.trans holds)
      rw [own]
      exact Level.compatible_of_le (Nat.le_of_lt more) ((Level.compatible_symm _ _).trans headFits)
    · exact Level.compatible_of_compatible more (others holding member owner) headFits
  rw [fits] at blocks
  contradiction

theorem canRaise_iff_of_queue_nil (nobody : resource.queue = []) :
    resource.canRaise id level = true ↔
      ∀ holding ∈ resource.holdings, holding.locker.id ≠ id →
        holding.level.compatible level = true := by
  rw [canRaise_iff, nobody]
  exact and_iff_left (fun waiter queued => by contradiction)

/-- The raised holding stays in its place among the others. -/
theorem Orderly.raise_in_place (orderly : resource.Orderly)
    (holds : resource.holding? id = some held) (level : Level) :
    ∃ front owner back, owner.id = id ∧ resource.holdings = front ++ ⟨owner, held⟩ :: back ∧
      raise id level resource.holdings = front ++ ⟨owner, level⟩ :: back := by
  obtain ⟨⟨owner, _⟩, member, rfl, rfl⟩ := exists_of_holding? holds
  obtain ⟨front, back, split⟩ := List.append_of_mem member
  have distinct := orderly.holdings
  rw [split, List.pairwise_append, List.pairwise_cons] at distinct
  have before : ∀ holding ∈ front, holding.locker.id ≠ owner.id :=
    fun holding found => (distinct.2.2 holding found _ List.mem_cons_self).1
  refine ⟨front, owner, back, rfl, split, ?_⟩
  rw [split, raise_append before, raise, if_pos rfl]

end Resource

namespace Service

open Resource

variable {service : Service} {key : Key} {locker : Locker} {level held : Level} {handle : Handle}

/-- While the service is open to a locker, the resource decides how a call of it is answered. -/
theorem Sound.step_lock_of_serving (sound : service.Sound)
    (present : service.ledger.isReleased locker.id = false)
    (serving : service.ledger.closed = false) :
    service.step (.lock locker key level handle) =
      match (service.ledger.resource key).request key locker level service.nextTicket with
      | .error refusal => (.returned service.nextTicket (.refused refusal), service.called)
      | .ok (.granted, resource) => (.returned service.nextTicket .ok,
          { service.called with ledger := (service.ledger.put key resource).note locker.id key })
      | .ok (.queued place, resource) => (.waiting service.nextTicket place,
          { service.called with
            ledger := (service.ledger.put key resource).note locker.id key
            calls := service.calls.insert service.nextTicket
              ⟨locker, key, level, handle, .fresh⟩ }) := by
  rw [sound.step_eq, Service.act]
  have done := sound.locked locker key level handle
  generalize service.lock locker key level handle = result at done ⊢
  cases done with
  | released gone => rw [present] at gone; contradiction
  | closed _ shut => rw [serving] at shut; contradiction
  | refused _ _ asked => rw [asked]; rfl
  | granted _ _ asked => rw [asked]; rfl
  | queued _ _ asked => rw [asked]; rfl

theorem Sound.present_of_holds (sound : service.Sound)
    (holds : service.ledger.holds? locker.id key = some held) :
    service.ledger.isReleased locker.id = false := by
  rw [← Bool.not_eq_true]
  intro gone
  rw [sound.ledger.holds?_of_released gone] at holds
  contradiction

/-- The key under which a locker holds a lock is on its record already. -/
theorem Mirrored.noted_of_holds (mirrored : service.Mirrored) (sound : service.Sound)
    (serving : service.ledger.closed = false)
    (holds : service.ledger.holds? locker.id key = some held) :
    key ∈ (service.ledger.standing locker.id).keys := by
  obtain ⟨holding, member, owner, _⟩ := exists_of_holding? holds
  have present := sound.present_of_holds holds
  exact (mirrored.mem_keys_iff sound serving present).mpr (.inl ⟨holding, member, owner⟩)

theorem Sound.step_lock_kept (sound : service.Sound) (concise : service.ledger.Concise)
    (serving : service.ledger.closed = false)
    (holds : service.ledger.holds? locker.id key = some held)
    (noted : key ∈ (service.ledger.standing locker.id).keys) (enough : level ≤ held) :
    service.step (.lock locker key level handle) =
      (.returned service.nextTicket .ok, service.called) := by
  have present := sound.present_of_holds holds
  rw [sound.step_lock_of_serving present serving, request_of_le holds enough]
  dsimp only
  rw [sound.ledger.toTidy.put_self, concise.note_of_mem noted]
  rfl

theorem Sound.step_lock_conflicting (sound : service.Sound)
    (serving : service.ledger.closed = false)
    (holds : service.ledger.holds? locker.id key = some held) (more : held < level)
    (conflict : (service.ledger.resource key).canRaise locker.id level = false) :
    service.step (.lock locker key level handle) =
      (.returned service.nextTicket (.refused (.conflictingUpgrade key held level)),
        service.called) := by
  have present := sound.present_of_holds holds
  rw [sound.step_lock_of_serving present serving, request_of_lt holds more, conflict,
    if_neg Bool.false_ne_true]

theorem Sound.step_lock_raised (sound : service.Sound) (concise : service.ledger.Concise)
    (serving : service.ledger.closed = false)
    (holds : service.ledger.holds? locker.id key = some held)
    (noted : key ∈ (service.ledger.standing locker.id).keys) (more : held < level)
    (free : (service.ledger.resource key).canRaise locker.id level = true) :
    ∃ front owner back, owner.id = locker.id ∧
      (service.ledger.resource key).holdings = front ++ ⟨owner, held⟩ :: back ∧
      service.step (.lock locker key level handle) = (.returned service.nextTicket .ok,
        { service.called with
          ledger := service.ledger.store key
            ⟨front ++ ⟨owner, level⟩ :: back, (service.ledger.resource key).queue⟩ }) := by
  have present := sound.present_of_holds holds
  obtain ⟨front, owner, back, same, split, raised⟩ :=
    (sound.ledger.orderly key).raise_in_place holds level
  have stored (queue : List Waiter) :
      service.ledger.put key ⟨front ++ ⟨owner, level⟩ :: back, queue⟩ =
        service.ledger.store key ⟨front ++ ⟨owner, level⟩ :: back, queue⟩ := by
    simp [Ledger.put, isVacant]
  refine ⟨front, owner, back, same, split, ?_⟩
  rw [sound.step_lock_of_serving present serving, request_of_lt holds more, if_pos free, raised]
  dsimp only
  rw [(concise.put key _).note_of_mem (by rwa [Ledger.standing_put]), stored]

/-- How a call is answered whose locker has a lock on the resource at the level `held`. -/
structure ServesHolder (service : Service) (locker : Locker) (key : Key) (held level : Level)
    (handle : Handle) : Prop where
  /-- What the locker holds already it is granted again, whoever waits. -/
  kept : level ≤ held → service.step (.lock locker key level handle) =
    (.returned service.nextTicket .ok, service.called)
  /-- It never gets more while anybody waits. -/
  queued : held < level → (service.ledger.resource key).queue ≠ [] →
    service.step (.lock locker key level handle) =
      (.returned service.nextTicket (.refused (.conflictingUpgrade key held level)), service.called)
  /-- It never gets what does not go with the lock of somebody else. -/
  blocked : held < level → ∀ holding ∈ (service.ledger.resource key).holdings,
    holding.locker.id ≠ locker.id → holding.level.compatible level = false →
      service.step (.lock locker key level handle) =
        (.returned service.nextTicket (.refused (.conflictingUpgrade key held level)),
          service.called)
  /-- In all other cases its lock is raised in its place, and nothing else changes. -/
  raised : held < level → (service.ledger.resource key).queue = [] →
    (∀ holding ∈ (service.ledger.resource key).holdings, holding.locker.id ≠ locker.id →
      holding.level.compatible level = true) →
      ∃ front owner back, owner.id = locker.id ∧
        (service.ledger.resource key).holdings = front ++ ⟨owner, held⟩ :: back ∧
        service.step (.lock locker key level handle) = (.returned service.nextTicket .ok,
          { service.called with
            ledger := service.ledger.store key ⟨front ++ ⟨owner, level⟩ :: back, []⟩ })
  unqueued : (service.ledger.resource key).isQueued locker.id = false

/-- In every run, a holder that asks again while the service is open is answered at once. -/
theorem holder_asks_again (options : Ledger.Options) (events : List Event) (locker : Locker)
    (key : Key) (held level : Level) (handle : Handle)
    (serving : ((start options).run events).2.ledger.closed = false)
    (holds : ((start options).run events).2.ledger.holds? locker.id key = some held) :
    ((start options).run events).2.ServesHolder locker key held level handle := by
  have sound := run_sound options events
  have mirrored := (start_mirrored options).run (start_sound options) events
  have concise := run_concise options events
  generalize ((start options).run events).2 = service at serving holds sound mirrored concise ⊢
  have noted := mirrored.noted_of_holds sound serving holds
  have orderly := sound.ledger.orderly key
  have settled := sound.ledger.settled key
  refine ⟨?_, ?_, ?_, ?_, ?_⟩
  · exact fun enough => sound.step_lock_kept concise serving holds noted enough
  · intro more busy
    have conflict := canRaise_eq_false_of_queued orderly settled holds more busy
    exact sound.step_lock_conflicting serving holds more conflict
  · intro more other member different clash
    have unfit := admits_eq_false_iff.mpr ⟨other, mem_othersOf.mpr ⟨member, different⟩, clash⟩
    refine sound.step_lock_conflicting serving holds more ?_
    rw [canRaise, unfit, Bool.false_and]
  · intro more nobody fits
    have free := (canRaise_iff_of_queue_nil nobody).mpr fits
    rw [← nobody]
    exact sound.step_lock_raised concise serving holds noted more free
  · rw [← Bool.not_eq_true]
    intro waits
    have unheld := orderly.unheld waits
    rw [show (service.ledger.resource key).holding? locker.id = some held from holds] at unheld
    contradiction

/-- A change of the table waits for the load. The load can write to its end, but no longer turn into
a change of the table itself, since that would leave both waiting for each other. -/
theorem writer_asks_again_before_alter :
    let service := ((start .standard).run
      [.lock ⟨1, "load"⟩ "users" .rowModify .never,
        .lock ⟨2, "alter"⟩ "users" .metadataModify .never]).2
    service.ledger.closed = false ∧ service.ledger.holds? 1 "users" = some .rowModify ∧
      service.ServesHolder ⟨1, "load"⟩ "users" .rowModify .metadataModify .never :=
  ⟨rfl, rfl, holder_asks_again .standard _ ⟨1, "load"⟩ "users" .rowModify .metadataModify .never
    rfl rfl⟩

end Service

end Locking
