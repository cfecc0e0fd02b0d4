import Locking.Ledger.Operations
import Locking.Proofs.Resource.Audit

namespace Locking

/-!
The ledger entry by entry. While every entry is in order, audits pass and change nothing, and each
operation comes down to putting one resource in the place of another.
-/

namespace Resource

variable {resource : Resource} {id : LockerId}

theorem isVacant_iff : resource.isVacant = true ↔ resource = vacant := by
  obtain ⟨holdings, queue⟩ := resource
  simp [isVacant, vacant]

theorem Involves.not_vacant (involved : resource.Involves id) : resource.isVacant = false := by
  rw [Bool.eq_false_iff]
  intro empty
  rw [isVacant_iff] at empty
  subst empty
  simp [Involves, vacant] at involved

theorem isVacant_iff_not_involves :
    resource.isVacant = true ↔ ∀ id, ¬ resource.Involves id := by
  constructor
  · intro empty id involved
    rw [involved.not_vacant] at empty
    contradiction
  · intro nobody
    obtain ⟨holdings, queue⟩ := resource
    cases holdings with
    | cons holding rest => exact absurd (.inl ⟨holding, List.mem_cons_self, rfl⟩) (nobody _)
    | nil =>
        cases queue with
        | cons waiter rest => exact absurd (.inr ⟨waiter, List.mem_cons_self, rfl⟩) (nobody _)
        | nil => rfl

/-- A resource after a locker has left it, and whoever can advance has done so. -/
def leave (listening : Ticket → Bool) (resource : Resource) (id : LockerId) : Resource :=
  ((resource.dismiss id).sweep listening).2

/-- Whose wait ends when a locker leaves. -/
def leaveNotices (listening : Ticket → Bool) (resource : Resource) (id : LockerId) : List Notice :=
  (resource.ticketOf? id).toList.map .dropped ++
    ((resource.dismiss id).sweep listening).1.map (fun waiter => .granted waiter.ticket)

theorem withdraw_eq_dismiss (absent : resource.holding? id = none) :
    resource.withdraw id = resource.dismiss id := by
  simp only [withdraw, dismiss, othersOf_eq_self (holding?_eq_none_iff.mp absent)]

theorem dismiss_of_not_involves (absent : ¬ resource.Involves id) :
    resource.dismiss id = resource := by
  obtain ⟨holdings, queue⟩ := resource
  simp only [Involves, not_or, not_exists, not_and] at absent
  rw [dismiss, othersOf_eq_self absent.1, List.eraseP_of_forall_not (by simpa using absent.2)]

end Resource

namespace Ledger

open Resource

structure Tidy (ledger : Ledger) : Prop where
  orderly : ∀ key, (ledger.resource key).Orderly
  settled : ∀ key, (ledger.resource key).Settled
  /-- An entry with nothing in it is not kept. -/
  occupied : ∀ (key : Key) (resource : Resource), ledger.resources[key]? = some resource →
    resource.isVacant = false
  silent : ledger.closed = true → ∀ key, (ledger.resource key).queue = []
  quiet : ledger.alarm = none

/-- The ledger with a resource in its place, and no entry for it if there is nothing in it. -/
def put (ledger : Ledger) (key : Key) (resource : Resource) : Ledger :=
  if resource.isVacant then ledger.eraseEntry key else ledger.store key resource

variable {ledger : Ledger} {listening : Ticket → Bool} {key other : Key} {id : LockerId}
  {resource : Resource}

theorem entry_put (ledger : Ledger) (key other : Key) (resource : Resource) :
    (ledger.put key resource).resources[other]? =
      if key = other then if resource.isVacant then none else some resource
      else ledger.resources[other]? := by
  unfold put
  split
  · simp [eraseEntry, Std.ExtTreeMap.getElem?_erase]
  · simp [store, Std.ExtTreeMap.getElem?_insert]

theorem resource_put (ledger : Ledger) (key other : Key) (resource : Resource) :
    (ledger.put key resource).resource other =
      if key = other then resource else ledger.resource other := by
  unfold Ledger.resource
  rw [entry_put]
  split
  · split
    · rename_i empty
      exact (isVacant_iff.mp empty).symm
    · rfl
  · rfl

@[simp] theorem resource_put_self (ledger : Ledger) (key : Key) (resource : Resource) :
    (ledger.put key resource).resource key = resource := by
  simp [resource_put]

@[simp] theorem standing_put (ledger : Ledger) (key : Key) (resource : Resource)
    (id : LockerId) : (ledger.put key resource).standing id = ledger.standing id := by
  unfold put
  split <;> rfl

@[simp] theorem isReleased_put (ledger : Ledger) (key : Key) (resource : Resource)
    (id : LockerId) : (ledger.put key resource).isReleased id = ledger.isReleased id := by
  simp only [isReleased, standing_put]

@[simp] theorem closed_put (ledger : Ledger) (key : Key) (resource : Resource) :
    (ledger.put key resource).closed = ledger.closed := by
  unfold put
  split <;> rfl

@[simp] theorem alarm_put (ledger : Ledger) (key : Key) (resource : Resource) :
    (ledger.put key resource).alarm = ledger.alarm := by
  unfold put
  split <;> rfl

theorem Tidy.put (tidy : ledger.Tidy) (orderly : resource.Orderly) (settled : resource.Settled)
    (silent : ledger.closed = true → resource.queue = []) : (ledger.put key resource).Tidy where
  orderly other := by
    rw [resource_put]
    split
    · exact orderly
    · exact tidy.orderly other
  settled other := by
    rw [resource_put]
    split
    · exact settled
    · exact tidy.settled other
  occupied other found stored := by
    rw [entry_put] at stored
    split at stored
    · split at stored
      · contradiction
      · rename_i occupied
        rw [← Option.some.inj stored]
        simpa using occupied
    · exact tidy.occupied other found stored
  silent closed other := by
    rw [closed_put] at closed
    rw [resource_put]
    split
    · exact silent closed
    · exact tidy.silent closed other
  quiet := by rw [alarm_put, tidy.quiet]

theorem Tidy.serving_of_queued (tidy : ledger.Tidy) {waiter : Waiter}
    (queued : waiter ∈ (ledger.resource key).queue) : ledger.closed = false := by
  rw [← Bool.not_eq_true]
  intro shut
  rw [tidy.silent shut] at queued
  contradiction

theorem Tidy.setStanding (tidy : ledger.Tidy) (id : LockerId) (standing : Standing) :
    (ledger.setStanding id standing).Tidy where
  orderly := tidy.orderly
  settled := tidy.settled
  occupied := tidy.occupied
  silent := tidy.silent
  quiet := tidy.quiet

theorem resource_of_entry (stored : ledger.resources[key]? = some resource) :
    ledger.resource key = resource := by
  simp [Ledger.resource, stored]

theorem resource_of_no_entry (missing : ledger.resources[key]? = none) :
    ledger.resource key = vacant := by
  simp [Ledger.resource, missing]

/-- The resources decide which entries there are. -/
theorem Tidy.getElem?_resources (tidy : ledger.Tidy) (key : Key) :
    ledger.resources[key]? =
      if (ledger.resource key).isVacant then none else some (ledger.resource key) := by
  cases stored : ledger.resources[key]? with
  | none =>
      rw [resource_of_no_entry stored]
      rfl
  | some resource =>
      rw [resource_of_entry stored, tidy.occupied key resource stored]
      rfl

theorem Tidy.mem_resources_iff (tidy : ledger.Tidy) :
    key ∈ ledger.resources ↔ (ledger.resource key).isVacant = false := by
  rw [Std.ExtTreeMap.mem_iff_isSome_getElem?, tidy.getElem?_resources]
  split <;> simp [*]

theorem inspect_eq_self (quiet : ledger.alarm = none)
    (passes : (ledger.resource key).breach? = none) : ledger.inspect key = ledger := by
  obtain ⟨resources, lockers, closed, checks, alarm⟩ := ledger
  subst quiet
  unfold inspect
  split
  · simp [passes]
  · rfl

theorem eraseEntry_store (ledger : Ledger) (key : Key) (resource : Resource) :
    (ledger.store key resource).eraseEntry key = ledger.eraseEntry key := by
  simp only [store, eraseEntry, mk.injEq, and_self, and_true]
  apply Std.ExtTreeMap.ext_getElem?
  intro other
  by_cases same : key = other <;>
    simp [Std.ExtTreeMap.getElem?_erase, Std.ExtTreeMap.getElem?_insert, same]

theorem store_store (ledger : Ledger) (key : Key) (first second : Resource) :
    (ledger.store key first).store key second = ledger.store key second := by
  simp only [store, mk.injEq, and_self, and_true]
  apply Std.ExtTreeMap.ext_getElem?
  intro other
  by_cases same : key = other <;> simp [Std.ExtTreeMap.getElem?_insert, same]

theorem put_vacant (missing : ledger.resources[key]? = none) : ledger.put key vacant = ledger := by
  obtain ⟨resources, lockers, closed, checks, alarm⟩ := ledger
  have unchanged : resources.erase key = resources := by
    apply Std.ExtTreeMap.ext_getElem?
    intro other
    by_cases same : key = other
    · subst same
      simpa using missing.symm
    · simp [Std.ExtTreeMap.getElem?_erase, same]
  simp [put, isVacant_iff.mpr rfl, eraseEntry, unchanged]

theorem put_of_occupied (occupied : resource.isVacant = false) :
    ledger.put key resource = ledger.store key resource := by
  simp [put, occupied]

theorem sweep_store (quiet : ledger.alarm = none) (orderly : resource.Orderly) :
    (ledger.store key resource).sweep listening key =
      (ledger.put key (resource.sweep listening).2,
        (resource.sweep listening).1.map (fun waiter => .granted waiter.ticket)) := by
  have stored : (ledger.store key resource).resources[key]? = some resource := by simp [store]
  have passes : ((ledger.store key (resource.sweep listening).2).resource key).breach? = none := by
    rw [resource_store, if_pos rfl]
    exact (sweep_orderly orderly listening).breach?_eq_none (sweep_settled listening resource)
  have audited : (ledger.store key (resource.sweep listening).2).inspect key =
      ledger.store key (resource.sweep listening).2 := inspect_eq_self quiet passes
  simp only [sweep, stored, store_store, audited, eraseEntry_store]
  rfl

theorem vacate_eq (quiet : ledger.alarm = none) (orderly : (ledger.resource key).Orderly)
    (listening : Ticket → Bool) (id : LockerId) :
    ledger.vacate listening id key =
      (ledger.put key ((ledger.resource key).leave listening id),
        (ledger.resource key).leaveNotices listening id) := by
  unfold vacate
  cases stored : ledger.resources[key]? with
  | none =>
      rw [resource_of_no_entry stored]
      change (ledger, []) = (ledger.put key vacant, [])
      rw [put_vacant stored]
  | some resource =>
      rw [resource_of_entry stored] at orderly ⊢
      simp only [sweep_store quiet (dismiss_orderly orderly id), leave, leaveNotices]

end Ledger

end Locking
