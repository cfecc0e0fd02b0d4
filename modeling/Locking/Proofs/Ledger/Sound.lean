import Locking.Proofs.Ledger.Tidy

namespace Locking

/-!
What each operation makes of a ledger that is in order, and that it stays in order. Next to the
entries this needs the keys that are noted for a locker: they must lead a release to every entry
in which the locker appears.
-/

namespace Resource

variable {resource after : Resource} {listening : Ticket → Bool} {id other : LockerId}
  {level : Level} {key : Key} {locker : Locker} {ticket : Ticket} {reply : Reply}

theorem involves_of_holding? (held : resource.holding? id = some level) : resource.Involves id := by
  obtain ⟨holding, member, owner, _⟩ := exists_of_holding? held
  exact .inl ⟨holding, member, owner⟩

theorem involves_of_isQueued (queued : resource.isQueued id = true) : resource.Involves id :=
  .inr (isQueued_iff.mp queued)

theorem involves_of_refused {refusal : Refusal}
    (refused : resource.request key locker level ticket = .error refusal) :
    resource.Involves locker.id := by
  have asked := resource.requested key locker level ticket
  rw [refused] at asked
  cases asked with
  | conflicting holds => exact involves_of_holding? holds
  | alreadyQueued _ queued => exact involves_of_isQueued queued

theorem request_involves
    (accepted : resource.request key locker level ticket = .ok (reply, after)) :
    after.Involves other ↔ other = locker.id ∨ resource.Involves other := by
  have asked := resource.requested key locker level ticket
  rw [accepted] at asked
  cases asked with
  | kept holds =>
      constructor
      · exact .inr
      · intro present
        rcases present with rfl | involved
        · exact involves_of_holding? holds
        · exact involved
  | raised holds =>
      have owners : (∃ holding ∈ raise locker.id level resource.holdings,
          holding.locker.id = other) ↔ ∃ holding ∈ resource.holdings, holding.locker.id = other := by
        have same := lockers_raise locker.id level resource.holdings
        simpa using congrArg (fun lockers => ∃ locker ∈ lockers, locker.id = other) same
      simp only [Involves, owners]
      constructor
      · exact .inr
      · intro present
        rcases present with rfl | involved
        · exact involves_of_holding? holds
        · exact involved
  | entered =>
      simp only [Involves, enter, List.mem_append, List.mem_singleton, or_and_right, exists_or,
        exists_eq_left]
      grind
  | enqueued =>
      simp only [Involves, enqueue, List.mem_append, List.mem_singleton, or_and_right, exists_or,
        exists_eq_left]
      grind

/-- The requests granted in the wake of a departure, followed by those that wait on. -/
theorem leave_sublist (listening : Ticket → Bool) (resource : Resource) (id : LockerId) :
    (((resource.dismiss id).sweep listening).1 ++ (resource.leave listening id).queue).Sublist
      resource.queue :=
  (promote_sublist listening _ _).trans List.eraseP_sublist

/-- Where everybody is listened to, these are all but the locker that leaves. -/
theorem leave_partition (heard : ∀ waiter ∈ resource.queue, listening waiter.ticket = true)
    (id : LockerId) :
    ((resource.dismiss id).sweep listening).1 ++ (resource.leave listening id).queue =
      (resource.dismiss id).queue :=
  promote_partition (fun waiter member => heard waiter (List.mem_of_mem_eraseP member))

theorem leave_queue_sublist (listening : Ticket → Bool) (resource : Resource) (id : LockerId) :
    (resource.leave listening id).queue.Sublist resource.queue :=
  (List.sublist_append_right _ _).trans (leave_sublist listening resource id)

theorem leave_orderly (orderly : resource.Orderly) (listening : Ticket → Bool) (id : LockerId) :
    (resource.leave listening id).Orderly :=
  sweep_orderly (dismiss_orderly orderly id) listening

theorem mem_leave_holdings (orderly : resource.Orderly) {holding : Holding}
    (member : holding ∈ (resource.leave listening id).holdings) :
    holding.locker.id ≠ id ∧ (holding ∈ resource.holdings ∨
      ∃ waiter ∈ resource.queue, waiter.holding = holding) := by
  simp only [leave, sweep, promote_holdings, List.mem_append, List.mem_map] at member
  rcases member with old | ⟨waiter, granted, rfl⟩
  · obtain ⟨member, different⟩ := mem_othersOf.mp old
    exact ⟨different, .inl member⟩
  · have queued := (promote_sublist listening _ _).subset (List.mem_append_left _ granted)
    obtain ⟨queued, different⟩ := orderly.mem_queue_dismiss_iff.mp queued
    exact ⟨different, .inr ⟨waiter, queued, rfl⟩⟩

theorem mem_leave_queue (orderly : resource.Orderly) {waiter : Waiter}
    (member : waiter ∈ (resource.leave listening id).queue) :
    waiter ∈ resource.queue ∧ waiter.locker.id ≠ id := by
  have kept := (promote_sublist listening _ _).subset (List.mem_append_right _ member)
  exact orderly.mem_queue_dismiss_iff.mp kept

theorem involves_of_leave (orderly : resource.Orderly)
    (involved : (resource.leave listening id).Involves other) :
    other ≠ id ∧ resource.Involves other := by
  rcases involved with ⟨holding, member, rfl⟩ | ⟨waiter, member, rfl⟩
  · obtain ⟨different, member | ⟨waiter, queued, same⟩⟩ := mem_leave_holdings orderly member
    · exact ⟨different, .inl ⟨holding, member, rfl⟩⟩
    · exact ⟨different, .inr ⟨waiter, queued, by rw [← same]; rfl⟩⟩
  · obtain ⟨queued, different⟩ := mem_leave_queue orderly member
    exact ⟨different, .inr ⟨waiter, queued, rfl⟩⟩

/-- What becomes of a waiter when a locker leaves. -/
theorem leave_cases (orderly : resource.Orderly) {waiter : Waiter} (id : LockerId)
    (heard : ∀ waiter ∈ resource.queue, listening waiter.ticket = true)
    (queued : waiter ∈ resource.queue) :
    (waiter.locker.id = id ∧ .dropped waiter.ticket ∈ resource.leaveNotices listening id) ∨
      (waiter.locker.id ≠ id ∧ .granted waiter.ticket ∈ resource.leaveNotices listening id ∧
        waiter.holding ∈ (resource.leave listening id).holdings) ∨
      (waiter.locker.id ≠ id ∧ waiter ∈ (resource.leave listening id).queue) := by
  by_cases owner : waiter.locker.id = id
  · refine .inl ⟨owner, List.mem_append_left _ (List.mem_map_of_mem ?_)⟩
    rw [orderly.ticketOf?_eq queued owner]
    exact List.mem_singleton.mpr rfl
  · have stays : waiter ∈ (resource.dismiss id).queue :=
      orderly.mem_queue_dismiss_iff.mpr ⟨queued, owner⟩
    rw [← leave_partition heard id] at stays
    rcases List.mem_append.mp stays with granted | left
    · refine .inr (.inl ⟨owner, List.mem_append_right _ (List.mem_map_of_mem granted), ?_⟩)
      simp only [leave, sweep, promote_holdings]
      exact List.mem_append_right _ (List.mem_map_of_mem granted)
    · exact .inr (.inr ⟨owner, left⟩)

/-- Where everybody is listened to, a resource loses the locker that leaves and no other one. -/
theorem involves_leave_iff (orderly : resource.Orderly)
    (heard : ∀ waiter ∈ resource.queue, listening waiter.ticket = true) (id : LockerId) :
    (resource.leave listening id).Involves other ↔ other ≠ id ∧ resource.Involves other := by
  refine ⟨involves_of_leave orderly, fun known => ?_⟩
  obtain ⟨different, involved⟩ := known
  rcases involved with ⟨holding, member, rfl⟩ | ⟨waiter, queued, rfl⟩
  · refine .inl ⟨holding, ?_, rfl⟩
    simp only [leave, sweep, promote_holdings]
    exact List.mem_append_left _ (mem_othersOf.mpr ⟨member, different⟩)
  · rcases leave_cases orderly id heard queued with ⟨own, _⟩ | ⟨_, _, holds⟩ | ⟨_, stays⟩
    · exact absurd own different
    · exact .inl ⟨waiter.holding, holds, rfl⟩
    · exact .inr ⟨waiter, stays, rfl⟩

/-- Nothing is left of a resource exactly if the locker that leaves was alone there. -/
theorem leave_isVacant_iff (orderly : resource.Orderly)
    (heard : ∀ waiter ∈ resource.queue, listening waiter.ticket = true)
    (occupied : resource.isVacant = false) (id : LockerId) :
    (resource.leave listening id).isVacant = true ↔
      ∀ other, resource.Involves other ↔ other = id := by
  simp only [isVacant_iff_not_involves, involves_leave_iff orderly heard]
  constructor
  · intro nobody
    have only {other : LockerId} (involved : resource.Involves other) : other = id :=
      by_contra fun different => nobody other ⟨different, involved⟩
    obtain ⟨somebody, present⟩ : ∃ somebody, resource.Involves somebody := by
      by_contra none
      rw [isVacant_iff_not_involves.mpr (not_exists.mp none)] at occupied
      contradiction
    intro other
    refine ⟨only, fun same => ?_⟩
    rwa [same, ← only present]
  · intro alone other stays
    exact stays.1 ((alone other).mp stays.2)

theorem leave_of_not_involves (settled : resource.Settled) (absent : ¬ resource.Involves id) :
    resource.leave listening id = resource := by
  simp only [leave, dismiss_of_not_involves absent, sweep_of_settled settled]

end Resource

namespace Ledger

open Resource

structure Sound (ledger : Ledger) : Prop extends Tidy ledger where
  listed : ∀ (key : Key) (id : LockerId), (ledger.resource key).Involves id →
    key ∈ (ledger.standing id).keys
  departed : ∀ id, ledger.isReleased id = true → ∀ key, key ∉ (ledger.standing id).keys

variable {ledger after : Ledger} {listening : Ticket → Bool} {key other : Key} {id : LockerId}
  {locker : Locker} {level : Level} {ticket : Ticket} {resource : Resource}

theorem Sound.absent_of_released (sound : ledger.Sound) (gone : ledger.isReleased id = true)
    (key : Key) : ¬ (ledger.resource key).Involves id :=
  fun involved => sound.departed id gone key (sound.listed key id involved)

theorem Sound.present_of_involves (sound : ledger.Sound)
    (involved : (ledger.resource key).Involves id) : ledger.isReleased id = false := by
  rw [← Bool.not_eq_true]
  exact fun gone => sound.absent_of_released gone key involved

theorem Sound.holds?_of_released (sound : ledger.Sound) (gone : ledger.isReleased id = true)
    (key : Key) : ledger.holds? id key = none := by
  cases held : ledger.holds? id key with
  | none => rfl
  | some level => exact absurd (involves_of_holding? held) (sound.absent_of_released gone key)

theorem Tidy.holds?_of_queued (tidy : ledger.Tidy) {waiter : Waiter}
    (queued : waiter ∈ (ledger.resource key).queue) :
    ledger.holds? waiter.locker.id key = none :=
  holding?_eq_none_iff.mpr (fun holding member =>
    (tidy.orderly key).apart holding member waiter queued)

theorem empty_sound (options : Options) : (empty options).Sound where
  orderly key := by simpa using vacant_orderly
  settled key := by simpa using settled_of_queue_nil rfl
  occupied key resource stored := by simp [empty] at stored
  silent closed := by simp [empty] at closed
  quiet := rfl
  listed key id involved := by simp [Involves, vacant] at involved
  departed id gone := by simp [isReleased, Standing.fresh] at gone

@[simp] theorem resource_note (ledger : Ledger) (id : LockerId) (key other : Key) :
    (ledger.note id key).resource other = ledger.resource other := rfl

@[simp] theorem resource_strike (ledger : Ledger) (id : LockerId) (key other : Key) :
    (ledger.strike id key).resource other = ledger.resource other := rfl

theorem isReleased_setStanding {standing : Standing}
    (same : standing.released = ledger.isReleased id) (other : LockerId) :
    (ledger.setStanding id standing).isReleased other = ledger.isReleased other := by
  simp only [isReleased, standing_setStanding]
  split
  · rename_i here
    rw [← here]
    exact same
  · rfl

@[simp] theorem isReleased_note (ledger : Ledger) (id other : LockerId) (key : Key) :
    (ledger.note id key).isReleased other = ledger.isReleased other := by
  simp only [note]
  apply isReleased_setStanding
  rfl

@[simp] theorem isReleased_strike (ledger : Ledger) (id other : LockerId) (key : Key) :
    (ledger.strike id key).isReleased other = ledger.isReleased other := by
  simp only [strike]
  apply isReleased_setStanding
  rfl

theorem mem_keys_note {ledger : Ledger} {id owner : LockerId} {key other : Key} :
    other ∈ ((ledger.note id key).standing owner).keys ↔
      (owner = id ∧ other = key) ∨ other ∈ (ledger.standing owner).keys := by
  simp only [note, standing_setStanding]
  split
  · rename_i same
    subst same
    simp [Std.ExtTreeSet.mem_insert, @eq_comm _ other]
  · rename_i different
    simp [Ne.symm different]

theorem mem_keys_strike {ledger : Ledger} {id owner : LockerId} {key other : Key} :
    other ∈ ((ledger.strike id key).standing owner).keys ↔
      ¬ (owner = id ∧ other = key) ∧ other ∈ (ledger.standing owner).keys := by
  simp only [strike, standing_setStanding]
  split
  · rename_i same
    subst same
    simp [Std.ExtTreeSet.mem_erase, @eq_comm _ other]
  · rename_i different
    simp [Ne.symm different]

theorem Tidy.note (tidy : ledger.Tidy) (id : LockerId) (key : Key) : (ledger.note id key).Tidy :=
  tidy.setStanding id _

theorem Tidy.strike (tidy : ledger.Tidy) (id : LockerId) (key : Key) :
    (ledger.strike id key).Tidy :=
  tidy.setStanding id _

end Ledger

end Locking
