import Locking.Proofs.Ledger.Audits

namespace Locking.Ledger

/-!
The order in which a release visits the keys of its locker does not matter. Leaving one resource
does not touch another, and in a tidy ledger the resources decide which entries there are.
-/

attribute [ext] Ledger

variable {ledger first second : Ledger} {listening : Ticket → Bool} {id : LockerId}
  {locker : Locker} {keys : List Key}

theorem Tidy.resources_eq (one : first.Tidy) (other : second.Tidy)
    (same : ∀ key, first.resource key = second.resource key) :
    first.resources = second.resources := by
  apply Std.ExtTreeMap.ext_getElem?
  intro key
  rw [one.getElem?_resources, other.getElem?_resources, same key]

@[simp] theorem lockers_put (ledger : Ledger) (key : Key) (resource : Resource) :
    (ledger.put key resource).lockers = ledger.lockers := by
  unfold put
  split <;> rfl

theorem Tidy.lockers_vacateAll (tidy : ledger.Tidy) (listening : Ticket → Bool) (id : LockerId)
    (keys : List Key) : (ledger.vacateAll listening id keys).1.lockers = ledger.lockers := by
  induction keys generalizing ledger with
  | nil => rfl
  | cons key rest ih =>
      simp only [Ledger.vacateAll, vacate_eq tidy.quiet (tidy.orderly key)]
      rw [ih (tidy.leave listening id key), lockers_put]

theorem Tidy.vacateAll_perm {others : List Key} (tidy : ledger.Tidy) (distinct : keys.Nodup)
    (same : keys.Perm others) :
    (ledger.vacateAll listening id keys).1 = (ledger.vacateAll listening id others).1 ∧
      (ledger.vacateAll listening id keys).2.Perm (ledger.vacateAll listening id others).2 := by
  have one := tidy.vacateAll distinct listening id
  have other := tidy.vacateAll (same.nodup_iff.mp distinct) listening id
  have lockers := tidy.lockers_vacateAll listening id
  have audited := ledger.vacateAll_audited listening id
  refine ⟨?_, ?_⟩
  · apply Ledger.ext
    · refine one.tidy.resources_eq other.tidy (fun key => ?_)
      rw [one.resource, other.resource]
      simp only [same.mem_iff]
    · rw [lockers keys, lockers others]
    · rw [one.closed, other.closed]
    · rw [(audited keys).checks, (audited others).checks]
    · rw [one.tidy.quiet, other.tidy.quiet]
  · rw [one.notices, other.notices]
    exact same.flatMap_right _

/-- A release may visit the keys of its locker in any order. -/
theorem Sound.releaseVisiting_perm (sound : ledger.Sound) (listening : Ticket → Bool)
    (visits : keys.Perm (ledger.keysOf locker.id)) :
    (ledger.releaseVisiting listening locker keys).1 = (ledger.release listening locker).1 ∧
      (ledger.releaseVisiting listening locker keys).2.1 =
        (ledger.release listening locker).2.1 ∧
      (ledger.releaseVisiting listening locker keys).2.2.Perm
        (ledger.release listening locker).2.2 := by
  unfold Ledger.release releaseVisiting
  split
  · exact ⟨rfl, rfl, .refl _⟩
  · have distinct := visits.symm.nodup (ledger.keysOf_nodup locker.id)
    exact ⟨rfl, (sound.toTidy.setStanding locker.id .departed).vacateAll_perm distinct visits⟩

end Locking.Ledger
