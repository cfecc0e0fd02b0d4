import Locking.Proofs.Service.Change

namespace Locking.Service

open Resource

/-!
The life of a granted lock. Nothing takes it from its locker or weakens it but the release of that
locker, and whoever has been released is out for good.
-/

/-- In this run nobody succeeds in releasing the locker. -/
def Stays (service : Service) (id : LockerId) (events : List Event) : Prop :=
  ∀ locker : Locker, locker.id = id →
    (Event.release locker, Answer.released .ok) ∉ events.zip (service.run events).1

variable {service : Service} {event : Event} {events : List Event} {key : Key} {id : LockerId}
  {level : Level} {locker : Locker} {handle : Handle}

theorem stays_cons : service.Stays id (event :: events) ↔
    (∀ locker : Locker, locker.id = id → event = .release locker →
      (service.step event).1 ≠ .released .ok) ∧ (service.step event).2.Stays id events := by
  simp only [Stays, Service.run, List.zip_cons_cons, List.mem_cons, Prod.mk.injEq, not_or,
    not_and, forall_and, ne_eq, eq_comm]

theorem Sound.released_ok (sound : service.Sound)
    (present : service.ledger.isReleased locker.id = false) :
    (service.step (.release locker)).1 = .released .ok := by
  obtain ⟨after, notices, result, _⟩ := sound.release_of_present present
  rw [sound.step_eq, Service.act, result]

/-- What is held stays held, whatever happens, unless its locker is released. -/
theorem Sound.keeps_step (sound : service.Sound)
    (stays : ∀ locker : Locker, locker.id = id → event = .release locker →
      (service.step event).1 ≠ .released .ok)
    (held : service.ledger.holds? id key = some level) :
    ∃ higher, (service.step event).2.ledger.holds? id key = some higher ∧ level ≤ higher := by
  have orderly := sound.ledger.orderly key
  have shift := sound.shift event key
  unfold Ledger.holds? at held ⊢
  generalize (service.step event).2.ledger.resource key = after at shift ⊢
  cases shift with
  | still => exact ⟨level, held, Level.le_refl level⟩
  | asked _ _ _ accepted => exact request_keeps orderly accepted held
  | @released locker made present =>
      have other : id ≠ locker.id := by
        rintro rfl
        subst made
        exact stays locker rfl rfl (sound.released_ok present)
      exact ⟨level, leave_keeps orderly other held, Level.le_refl level⟩
  | @withdrawn ticket call made pending here queued =>
      -- The locker that takes its request back was waiting, so it holds nothing here.
      have other : id ≠ call.locker.id := by
        rintro rfl
        have nothing := orderly.unheld (isQueued_iff.mpr ⟨_, queued, rfl⟩)
        rw [Call.waiter, held] at nothing
        contradiction
      exact ⟨level, leave_keeps orderly other held, Level.le_refl level⟩
  | closed => exact ⟨level, held, Level.le_refl level⟩

theorem Sound.keeps_run (sound : service.Sound) (stays : service.Stays id events)
    (held : service.ledger.holds? id key = some level) :
    ∃ higher, (service.run events).2.ledger.holds? id key = some higher ∧ level ≤ higher := by
  induction events generalizing service level with
  | nil => exact ⟨level, held, Level.le_refl level⟩
  | cons event rest ih =>
      obtain ⟨now, later⟩ := stays_cons.mp stays
      obtain ⟨middle, kept, above⟩ := sound.keeps_step now held
      obtain ⟨higher, keeps, further⟩ := ih (sound.step event) later kept
      exact ⟨higher, keeps, Level.le_trans above further⟩

/-! After the release. -/

theorem Sound.isReleased_since (sound : service.Sound) (locker : Locker) (events : List Event) :
    (service.run (.release locker :: events)).2.ledger.isReleased locker.id = true :=
  (sound.step (.release locker)).isReleased_run
    (((sound.flagged (.release locker)).released locker.id).mpr (.inr ⟨locker, rfl, rfl⟩)) events

theorem Sound.lock_of_released (sound : service.Sound)
    (gone : service.ledger.isReleased locker.id = true) (key : Key) (level : Level)
    (handle : Handle) :
    service.step (.lock locker key level handle) =
      (.returned service.nextTicket (.refused (.releasedLocker locker.name)),
        { service with nextTicket := service.nextTicket + 1 }) := by
  rw [sound.step_eq]
  simp [Service.act, Service.lock, Ledger.lock, gone]

/-- How long locks are held. -/
structure LocksLast (service : Service) : Prop where
  /-- A lock stays with its locker, at no lower level, until that locker is released. -/
  kept : ∀ id key level, service.ledger.holds? id key = some level →
    ∀ later, service.Stays id later →
      ∃ higher, (service.run later).2.ledger.holds? id key = some higher ∧ level ≤ higher
  /-- The release of a holder succeeds. -/
  ends : ∀ (locker : Locker) key level, service.ledger.holds? locker.id key = some level →
    (service.step (.release locker)).1 = .released .ok
  /-- From then on the locker neither holds nor waits for anything. -/
  gone : ∀ (locker : Locker) later key,
    ¬ ((service.run (.release locker :: later)).2.ledger.resource key).Involves locker.id
  /-- And whatever is asked in its name is refused, and changes nothing. -/
  refused : ∀ (locker : Locker) later (caller : Locker), caller.id = locker.id →
    (∀ key level handle,
      (service.run (.release locker :: later)).2.step (.lock caller key level handle) =
        (.returned (service.run (.release locker :: later)).2.nextTicket
            (.refused (.releasedLocker caller.name)),
          { (service.run (.release locker :: later)).2 with
            nextTicket := (service.run (.release locker :: later)).2.nextTicket + 1 })) ∧
    (service.run (.release locker :: later)).2.step (.release caller) =
      (.released (.refused (.releasedLocker caller.name)),
        (service.run (.release locker :: later)).2)

/-- In every run, a lock that has been granted lasts until the release of its locker, which is
final. -/
theorem locks_last_until_release (options : Ledger.Options) (events : List Event) :
    ((start options).run events).2.LocksLast := by
  have sound := run_sound options events
  refine ⟨?_, ?_, ?_, ?_⟩
  · intro id key level held later stays
    exact sound.keeps_run stays held
  · intro locker key level held
    exact sound.released_ok (sound.ledger.present_of_involves (involves_of_holding? held))
  · intro locker later key
    exact (sound.run _).ledger.absent_of_released (sound.isReleased_since locker later) key
  · intro locker later caller same
    have soundAfter := sound.run (.release locker :: later)
    have gone := sound.isReleased_since locker later
    rw [← same] at gone
    refine ⟨soundAfter.lock_of_released gone, ?_⟩
    rw [soundAfter.step_eq, Service.act, release_of_released gone]

end Locking.Service
