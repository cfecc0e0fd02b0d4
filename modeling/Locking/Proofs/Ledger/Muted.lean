import Locking.Ledger.Operations

namespace Locking.Ledger

/-!
A ledger without its audits. What audits find is heard of in the alarm only: every operation does to
a muted ledger what it does to the ledger itself, and answers the same.
-/

def muted (ledger : Ledger) : Ledger :=
  { ledger with checks := false, alarm := none }

section Parts

variable (ledger : Ledger) (key : Key) (id : LockerId)

@[simp] theorem resources_muted : ledger.muted.resources = ledger.resources := rfl

@[simp] theorem closed_muted : ledger.muted.closed = ledger.closed := rfl

@[simp] theorem resource_muted : ledger.muted.resource key = ledger.resource key := rfl

@[simp] theorem isReleased_muted : ledger.muted.isReleased id = ledger.isReleased id := rfl

@[simp] theorem keysOf_muted : ledger.muted.keysOf id = ledger.keysOf id := rfl

@[simp] theorem openEntry_muted : ledger.muted.openEntry key = (ledger.openEntry key).muted := rfl

@[simp] theorem store_muted (resource : Resource) :
    ledger.muted.store key resource = (ledger.store key resource).muted := rfl

@[simp] theorem eraseEntry_muted :
    ledger.muted.eraseEntry key = (ledger.eraseEntry key).muted := rfl

@[simp] theorem setStanding_muted (standing : Standing) :
    ledger.muted.setStanding id standing = (ledger.setStanding id standing).muted := rfl

@[simp] theorem note_muted : ledger.muted.note id key = (ledger.note id key).muted := rfl

@[simp] theorem strike_muted : ledger.muted.strike id key = (ledger.strike id key).muted := rfl

@[simp] theorem inspect_muted : (ledger.inspect key).muted = ledger.muted := by
  unfold inspect
  split <;> rfl

@[simp] theorem muted_inspect : ledger.muted.inspect key = ledger.muted := rfl

end Parts

variable (ledger : Ledger) (listening : Ticket → Bool) (id : LockerId) (key : Key)
  (locker : Locker)

theorem lock_muted (level : Level) (ticket : Ticket) :
    ledger.muted.lock locker key level ticket =
      ((ledger.lock locker key level ticket).1, (ledger.lock locker key level ticket).2.muted) := by
  by_cases gone : ledger.isReleased locker.id = true
  · simp [lock, gone]
  by_cases shut : ledger.closed = true
  · simp [lock, gone, shut]
  simp only [lock, isReleased_muted, closed_muted, gone, shut, Bool.false_eq_true,
    if_false, openEntry_muted, resource_muted]
  cases ((ledger.openEntry key).resource key).request key locker level ticket with
  | error refusal => rfl
  | ok result =>
      dsimp only
      rw [store_muted, muted_inspect, ← note_muted, inspect_muted]

theorem sweep_muted :
    ledger.muted.sweep listening key =
      ((ledger.sweep listening key).1.muted, (ledger.sweep listening key).2) := by
  simp only [sweep, resources_muted]
  split
  · rfl
  · simp only [store_muted, muted_inspect]
    split
    · rw [← eraseEntry_muted, inspect_muted]
    · rw [inspect_muted]

theorem vacate_muted :
    ledger.muted.vacate listening id key =
      ((ledger.vacate listening id key).1.muted, (ledger.vacate listening id key).2) := by
  simp only [vacate, resources_muted]
  split
  · rfl
  · simp only [store_muted, sweep_muted]

theorem vacateAll_muted (keys : List Key) :
    ledger.muted.vacateAll listening id keys =
      ((ledger.vacateAll listening id keys).1.muted, (ledger.vacateAll listening id keys).2) := by
  induction keys generalizing ledger with
  | nil => rfl
  | cons key rest ih => simp only [vacateAll, vacate_muted, ih]

theorem release_muted :
    ledger.muted.release listening locker =
      ((ledger.release listening locker).1, (ledger.release listening locker).2.1.muted,
        (ledger.release listening locker).2.2) := by
  by_cases gone : ledger.isReleased locker.id = true
  · simp [release, releaseVisiting, gone]
  · simp [release, releaseVisiting, gone, vacateAll_muted]

theorem withdraw?_muted :
    ledger.muted.withdraw? listening id key =
      (ledger.withdraw? listening id key).map (fun (after, notices) => (after.muted, notices)) := by
  simp only [withdraw?, resources_muted]
  split
  · rfl
  · split
    · simp only [store_muted, strike_muted, sweep_muted, Option.map_some]
    · rfl

theorem abandon_muted :
    ledger.muted.abandon locker key =
      ((ledger.abandon locker key).1, (ledger.abandon locker key).2.muted) := by
  by_cases gone : ledger.isReleased locker.id = true <;> simp [abandon, gone]

theorem close_muted : ledger.muted.close = (ledger.close.1.muted, ledger.close.2) := by
  by_cases shut : ledger.closed = true <;> simp [close, shut, muted]

end Locking.Ledger
