import Locking.Proofs.Service.Holder

namespace Locking

/-!
Grants are monotone. Whoever would be granted a lock at once would be granted any weaker one too, and
would still be granted it after others have left, although their departure may set waiters free.
-/

/-- What goes with a level goes with every weaker one, on whichever side it stands. -/
theorem Level.compatible_right_of_le {weaker stronger other : Level} (below : weaker ≤ stronger)
    (fits : other.compatible stronger = true) : other.compatible weaker = true := by
  rw [Level.compatible_symm] at fits ⊢
  exact Level.compatible_of_le below fits

namespace Resource

/-- A request of this level would be granted without waiting. -/
inductive GrantsAtOnce (resource : Resource) (id : LockerId) (level : Level) : Prop
  | kept {held : Level} (holds : resource.holding? id = some held) (enough : level ≤ held)
  | raised {held : Level} (holds : resource.holding? id = some held)
      (free : resource.canRaise id level = true)
  | entered (absent : resource.holding? id = none) (nobody : resource.queue = [])
      (fits : admits resource.holdings level = true)

variable {resource : Resource} {holdings : List Holding} {listening : Ticket → Bool} {key : Key}
  {locker : Locker} {id other : LockerId} {weaker level : Level} {ticket : Ticket}

theorem grantsAtOnce_iff (key : Key) (ticket : Ticket) :
    resource.GrantsAtOnce locker.id level ↔
      ∃ after, resource.request key locker level ticket = .ok (.granted, after) := by
  constructor
  · intro grants
    cases grants with
    | kept holds enough => exact ⟨_, request_of_le holds enough⟩
    | @raised held holds free =>
        by_cases enough : level ≤ held
        · exact ⟨_, request_of_le holds enough⟩
        · refine ⟨_, (request_of_lt holds (Nat.lt_of_not_le enough)).trans (if_pos free)⟩
    | entered absent nobody fits =>
        refine ⟨resource.enter locker level, ?_⟩
        simp [request, absent, isQueued, nobody, othersOf_eq_self (holding?_eq_none_iff.mp absent),
          fits]
  · rintro ⟨after, accepted⟩
    have asked := resource.requested key locker level ticket
    rw [accepted] at asked
    cases asked with
    | kept holds enough => exact .kept holds enough
    | raised holds _ free => exact .raised holds free
    | entered absent _ nobody fits => exact .entered absent nobody fits

/-! Asking for less. -/

theorem admits_of_le (below : weaker ≤ level) (fits : admits holdings level = true) :
    admits holdings weaker = true :=
  admits_iff.mpr fun holding member =>
    Level.compatible_right_of_le below (admits_iff.mp fits holding member)

theorem canRaise_of_le (below : weaker ≤ level) (free : resource.canRaise id level = true) :
    resource.canRaise id weaker = true := by
  obtain ⟨holdings, queue⟩ := canRaise_iff.mp free
  refine canRaise_iff.mpr ⟨fun holding member different => ?_, fun waiter queued => ?_⟩
  · exact Level.compatible_right_of_le below (holdings holding member different)
  · exact Level.compatible_right_of_le below (queue waiter queued)

theorem GrantsAtOnce.of_le (grants : resource.GrantsAtOnce id level) (below : weaker ≤ level) :
    resource.GrantsAtOnce id weaker := by
  cases grants with
  | kept holds enough => exact .kept holds (Level.le_trans below enough)
  | raised holds free => exact .raised holds (canRaise_of_le below free)
  | entered absent nobody fits => exact .entered absent nobody (admits_of_le below fits)

/-! The departure of others. -/

/-- Those who are granted their requests when somebody leaves have waited before, and so the new
level goes with theirs. -/
theorem canRaise_leave (orderly : resource.Orderly) (free : resource.canRaise id level = true) :
    (resource.leave listening other).canRaise id level = true := by
  obtain ⟨holdings, queue⟩ := canRaise_iff.mp free
  refine canRaise_iff.mpr ⟨fun holding member different => ?_, fun waiter queued => ?_⟩
  · obtain ⟨_, held | ⟨waiter, queued, rfl⟩⟩ := mem_leave_holdings orderly member
    · exact holdings holding held different
    · exact queue waiter queued
  · exact queue waiter (mem_leave_queue orderly queued).1

theorem GrantsAtOnce.leave (grants : resource.GrantsAtOnce id level) (orderly : resource.Orderly)
    (different : other ≠ id) : (resource.leave listening other).GrantsAtOnce id level := by
  cases grants with
  | kept holds enough => exact .kept (leave_keeps orderly different.symm holds) enough
  | raised holds free =>
      exact .raised (leave_keeps orderly different.symm holds) (canRaise_leave orderly free)
  | entered absent nobody fits =>
      have queue := leave_queue_sublist listening resource other
      rw [nobody, List.sublist_nil] at queue
      refine .entered (leave_holding?_eq_none nobody absent) queue (admits_iff.mpr ?_)
      intro holding member
      obtain ⟨_, held | ⟨waiter, queued, _⟩⟩ := mem_leave_holdings orderly member
      · exact admits_iff.mp fits holding held
      · rw [nobody] at queued
        contradiction

end Resource

namespace Service

open Resource

/-- A call of this locker would return at once, with its lock. -/
def Grants (service : Service) (locker : Locker) (key : Key) (level : Level) (handle : Handle) :
    Prop :=
  (service.step (.lock locker key level handle)).1 = .returned service.nextTicket .ok

variable {service : Service} {locker other : Locker} {others : List Locker} {key : Key}
  {weaker level : Level} {handle : Handle}

theorem Sound.grants_iff (sound : service.Sound) : service.Grants locker key level handle ↔
    service.ledger.isReleased locker.id = false ∧ service.ledger.closed = false ∧
      (service.ledger.resource key).GrantsAtOnce locker.id level := by
  rw [Grants, sound.step_eq, Service.act, grantsAtOnce_iff key service.nextTicket]
  have done := sound.locked locker key level handle
  generalize service.lock locker key level handle = result at done
  cases done with
  | released gone => simp [gone]
  | closed _ shut => simp [shut]
  | refused _ _ asked => simp [asked]
  | granted present serving asked => simp [present, serving, asked]
  | queued _ _ asked => simp [asked]

theorem Sound.grants_of_release (sound : service.Sound)
    (grants : service.Grants locker key level handle) (different : other.id ≠ locker.id) :
    (service.step (.release other)).2.Grants locker key level handle := by
  obtain ⟨present, serving, atOnce⟩ := sound.grants_iff.mp grants
  have flagged := sound.flagged (.release other)
  refine (sound.step _).grants_iff.mpr ⟨?_, ?_, ?_⟩
  · rw [← Bool.not_eq_true, flagged.released, present]
    simp [different]
  · rw [← Bool.not_eq_true, flagged.closed, serving]
    simp
  · have shift := sound.shift (.release other) key
    generalize (service.step (.release other)).2.ledger.resource key = resource at shift
    cases shift with
    | still => exact atOnce
    | released made =>
        obtain rfl := Event.release.inj made
        exact atOnce.leave (sound.ledger.orderly key) different
    | asked made => cases made
    | withdrawn made => cases made
    | closed made => cases made

theorem Sound.grants_of_releases (sound : service.Sound)
    (grants : service.Grants locker key level handle)
    (different : ∀ other ∈ others, other.id ≠ locker.id) :
    (service.run (others.map .release)).2.Grants locker key level handle := by
  induction others generalizing service with
  | nil => exact grants
  | cons other rest ih =>
      obtain ⟨first, later⟩ := List.forall_mem_cons.mp different
      exact ih (sound.step (.release other)) (sound.grants_of_release grants first) later

/-- Whoever would be granted a lock at once in some run, which takes an open service and a locker
that has not been released, would be granted any weaker one at once, and would be granted this one
at once after any others have been released, one after another. The handle plays no part. -/
theorem grants_are_monotone (options : Ledger.Options) (events : List Event) (locker : Locker)
    (key : Key) (level : Level) (handle : Handle)
    (grants : ((start options).run events).2.Grants locker key level handle) :
    (∀ weaker ≤ level, ∀ other : Handle,
      ((start options).run events).2.Grants locker key weaker other) ∧
    ∀ others : List Locker, (∀ other ∈ others, other.id ≠ locker.id) → ∀ other : Handle,
      (((start options).run events).2.run (others.map .release)).2.Grants locker key level other := by
  have sound := run_sound options events
  generalize ((start options).run events).2 = service at grants sound ⊢
  obtain ⟨present, serving, atOnce⟩ := sound.grants_iff.mp grants
  constructor
  · intro weaker below other
    exact sound.grants_iff.mpr ⟨present, serving, atOnce.of_le below⟩
  · intro others different other
    have still : service.Grants locker key level other :=
      sound.grants_iff.mpr ⟨present, serving, atOnce⟩
    exact sound.grants_of_releases still different

/-- The load waits for the change of the table to end. Its end sets the load free, and beside the
load the reader would be granted its lock again as before. -/
theorem reader_granted_beside_load :
    let service := ((start .standard).run
      [.lock ⟨1, "reader"⟩ "users" .access .never,
        .lock ⟨2, "alter"⟩ "users" .metadataModify .never,
        .lock ⟨3, "load"⟩ "users" .rowModify .never]).2
    service.Grants ⟨1, "reader"⟩ "users" .access .never ∧
      (service.step (.release ⟨2, "alter"⟩)).2.ledger.holds? 3 "users" = some .rowModify ∧
      (service.step (.release ⟨2, "alter"⟩)).2.Grants ⟨1, "reader"⟩ "users" .access .never := by
  intro service
  have now : service.Grants ⟨1, "reader"⟩ "users" .access .never := rfl
  have stays := (grants_are_monotone .standard _ ⟨1, "reader"⟩ "users" .access .never now).2
  exact ⟨now, rfl, stays [⟨2, "alter"⟩] (by simp) .never⟩

end Service

end Locking
