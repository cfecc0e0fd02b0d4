import Locking.Proofs.Ledger.Visits

namespace Locking

/-!
Changes that leave no trace. A request that is queued and withdrawn again leaves its resource as it
was. Nobody is kept on record without reason, so a key that is noted and struck again, or noted a
second time, leaves the record of its locker as it was.
-/

namespace Resource

variable {resource : Resource} {locker : Locker} {level : Level} {ticket : Ticket}

theorem dismiss_enqueue (absent : ¬ resource.Involves locker.id) :
    (resource.enqueue ⟨locker, level, ticket⟩).dismiss locker.id = resource := by
  have unqueued : ∀ waiter ∈ resource.queue, ¬(waiter.locker.id == locker.id) = true :=
    fun waiter member own => absent (.inr ⟨waiter, member, eq_of_beq own⟩)
  have others := othersOf_eq_self fun holding member owner => absent (.inl ⟨holding, member, owner⟩)
  simp only [dismiss, enqueue, others, List.eraseP_append_right _ unqueued]
  simp

/-- Somebody who has just come to the end of the queue can leave it without a trace. -/
theorem leave_enqueue (settled : resource.Settled) (absent : ¬ resource.Involves locker.id)
    (listening : Ticket → Bool) :
    (resource.enqueue ⟨locker, level, ticket⟩).leave listening locker.id = resource := by
  rw [leave, dismiss_enqueue absent, sweep_of_settled settled]

theorem leaveNotices_enqueue (settled : resource.Settled) (absent : ¬ resource.Involves locker.id)
    (listening : Ticket → Bool) :
    (resource.enqueue ⟨locker, level, ticket⟩).leaveNotices listening locker.id =
      [.dropped ticket] := by
  have unqueued : resource.queue.find? (fun waiter => waiter.locker.id == locker.id) = none :=
    List.find?_eq_none.mpr fun waiter member own => absent (.inr ⟨waiter, member, eq_of_beq own⟩)
  rw [leaveNotices, dismiss_enqueue absent, sweep_of_settled settled, ticketOf?, enqueue,
    List.find?_append, unqueued]
  simp

end Resource

namespace Ledger

open Resource

/-- Nobody is on record with a fresh standing, which everybody has who is not on record. -/
def Concise (ledger : Ledger) : Prop :=
  ∀ id : LockerId, ledger.lockers[id]? ≠ some Standing.fresh

variable {ledger after : Ledger} {listening : Ticket → Bool} {key : Key} {id other : LockerId}
  {locker : Locker} {level : Level} {ticket : Ticket} {resource : Resource} {standing : Standing}

theorem getElem?_setStanding (ledger : Ledger) (id other : LockerId) (standing : Standing) :
    (ledger.setStanding id standing).lockers[other]? =
      if id = other then if standing.isFresh then none else some standing
      else ledger.lockers[other]? := by
  unfold setStanding
  by_cases same : id = other
  · subst same
    split <;> simp
  · split <;> simp [Std.ExtTreeMap.getElem?_erase, Std.ExtTreeMap.getElem?_insert, same]

theorem setStanding_setStanding (ledger : Ledger) (id : LockerId) (first second : Standing) :
    (ledger.setStanding id first).setStanding id second = ledger.setStanding id second := by
  apply Ledger.ext <;> try rfl
  apply Std.ExtTreeMap.ext_getElem?
  intro other
  simp only [getElem?_setStanding]
  split <;> rfl

theorem setStanding_put (ledger : Ledger) (key : Key) (resource : Resource) (id : LockerId)
    (standing : Standing) :
    (ledger.put key resource).setStanding id standing =
      (ledger.setStanding id standing).put key resource := by
  unfold put
  split <;> rfl

theorem Concise.setStanding_self (concise : ledger.Concise) (id : LockerId) :
    ledger.setStanding id (ledger.standing id) = ledger := by
  apply Ledger.ext <;> try rfl
  apply Std.ExtTreeMap.ext_getElem?
  intro other
  rw [getElem?_setStanding]
  split
  · rename_i same
    subst same
    have stored := concise id
    unfold Ledger.standing
    cases record : ledger.lockers[id]? with
    | none => rfl
    | some standing =>
        rw [record] at stored
        have worn : standing.isFresh ≠ true :=
          fun fresh => stored (congrArg some (Standing.eq_fresh fresh))
        rw [Option.getD_some, if_neg worn]
  · rfl

theorem Concise.note_of_mem (concise : ledger.Concise) (noted : key ∈ (ledger.standing id).keys) :
    ledger.note id key = ledger := by
  have keys : (ledger.standing id).keys.insert key = (ledger.standing id).keys := by
    apply Std.ExtTreeSet.ext_mem
    intro other
    rw [Std.ExtTreeSet.mem_insert]
    exact or_iff_right_of_imp fun same => Std.LawfulEqOrd.eq_of_compare same ▸ noted
  rw [note, keys]
  exact concise.setStanding_self id

theorem Concise.strike_note (concise : ledger.Concise)
    (unnoted : key ∉ (ledger.standing id).keys) : (ledger.note id key).strike id key = ledger := by
  have keys : ((ledger.standing id).keys.insert key).erase key = (ledger.standing id).keys := by
    apply Std.ExtTreeSet.ext_mem
    intro other
    rw [Std.ExtTreeSet.mem_erase, Std.ExtTreeSet.mem_insert]
    constructor
    · rintro ⟨different, same | noted⟩
      · exact absurd same different
      · exact noted
    · intro noted
      exact ⟨fun same => unnoted (Std.LawfulEqOrd.eq_of_compare same ▸ noted), .inr noted⟩
  simp only [strike, note, setStanding_setStanding, standing_setStanding, if_true, keys]
  exact concise.setStanding_self id

/-! What each operation does to the record. -/

theorem Concise.of_lockers_eq (concise : ledger.Concise)
    (same : after.lockers = ledger.lockers) : after.Concise := by
  intro id
  rw [same]
  exact concise id

theorem Concise.put (concise : ledger.Concise) (key : Key) (resource : Resource) :
    (ledger.put key resource).Concise :=
  concise.of_lockers_eq (lockers_put ledger key resource)

theorem Concise.setStanding (concise : ledger.Concise) (id : LockerId) (standing : Standing) :
    (ledger.setStanding id standing).Concise := by
  intro other
  rw [getElem?_setStanding]
  split
  · split
    · simp
    · rename_i worn
      rintro same
      obtain rfl := Option.some.inj same
      exact worn rfl
  · exact concise other

theorem Concise.note (concise : ledger.Concise) (id : LockerId) (key : Key) :
    (ledger.note id key).Concise :=
  concise.setStanding id _

theorem Concise.strike (concise : ledger.Concise) (id : LockerId) (key : Key) :
    (ledger.strike id key).Concise :=
  concise.setStanding id _

theorem Concise.withdrawn (concise : ledger.Concise) (listening : Ticket → Bool) (id : LockerId)
    (key : Key) : (ledger.withdrawn listening id key).Concise :=
  (concise.put key _).strike id key

theorem Concise.abandon (concise : ledger.Concise) (locker : Locker) (key : Key) :
    (ledger.abandon locker key).2.Concise := by
  unfold Ledger.abandon
  split
  · exact concise
  · exact concise.strike locker.id key

theorem Concise.close (concise : ledger.Concise) : ledger.close.1.Concise := by
  unfold Ledger.close
  split
  · exact concise
  · exact concise

theorem Concise.release (concise : ledger.Concise) (tidy : ledger.Tidy)
    (listening : Ticket → Bool) (locker : Locker) :
    (ledger.release listening locker).2.1.Concise := by
  unfold Ledger.release releaseVisiting
  split
  · exact concise
  · have departed := tidy.setStanding locker.id .departed
    exact (concise.setStanding locker.id .departed).of_lockers_eq
      (departed.lockers_vacateAll listening locker.id _)

theorem empty_concise (options : Options) : (empty options).Concise := by
  intro id
  simp [empty]

/-! Entries that are put back. -/

@[simp] theorem checks_put (ledger : Ledger) (key : Key) (resource : Resource) :
    (ledger.put key resource).checks = ledger.checks := by
  unfold put
  split <;> rfl

theorem put_put (ledger : Ledger) (key : Key) (first second : Resource) :
    (ledger.put key first).put key second = ledger.put key second := by
  apply Ledger.ext
  · apply Std.ExtTreeMap.ext_getElem?
    intro other
    simp only [entry_put]
    split <;> rfl
  · simp only [lockers_put]
  · simp only [closed_put]
  · simp only [checks_put]
  · simp only [alarm_put]

theorem Tidy.put_self (tidy : ledger.Tidy) (key : Key) :
    ledger.put key (ledger.resource key) = ledger := by
  apply Ledger.ext
  · apply Std.ExtTreeMap.ext_getElem?
    intro other
    rw [entry_put]
    split
    · rename_i same
      rw [← same, tidy.getElem?_resources]
    · rfl
  · rw [lockers_put]
  · rw [closed_put]
  · rw [checks_put]
  · rw [alarm_put]

/-- A request that has just been queued is withdrawn, and nothing remains of it. -/
theorem Tidy.withdrawn_enqueued (tidy : ledger.Tidy) (concise : ledger.Concise)
    (absent : ¬ (ledger.resource key).Involves locker.id)
    (unnoted : key ∉ (ledger.standing locker.id).keys) (listening : Ticket → Bool) :
    ((ledger.put key ((ledger.resource key).enqueue ⟨locker, level, ticket⟩)).note
      locker.id key).withdrawn listening locker.id key = ledger := by
  rw [withdrawn, resource_note, resource_put_self, leave_enqueue (tidy.settled key) absent]
  have noted : (ledger.put key ((ledger.resource key).enqueue ⟨locker, level, ticket⟩)).note
      locker.id key =
        (ledger.note locker.id key).put key
          ((ledger.resource key).enqueue ⟨locker, level, ticket⟩) := by
    rw [Ledger.note, standing_put, setStanding_put]
    rfl
  have restored : (ledger.note locker.id key).put key (ledger.resource key) =
      ledger.note locker.id key := (tidy.note locker.id key).put_self key
  rw [noted, put_put, restored, concise.strike_note unnoted]

end Ledger

end Locking
