import Locking.Proofs.Ledger.Effects

namespace Locking

/-!
The points at which an operation audits a resource, with the ledger as it stands there. That none is
missing shows in the alarm: an operation raises the first alarm that one of its audits gives, on
whatever ledger it works. On a tidy ledger there is none. What an audit may find there is an entry
with nothing in it, since an entry that the last locker has left is audited before it is given up.
-/

/-- An audit of the resource under a key, and the ledger that it finds. -/
structure Ledger.Audit where
  ledger : Ledger
  key : Key

namespace Ledger

open Resource

def Audit.fault? (audit : Audit) : Option String :=
  (audit.ledger.resource audit.key).breach?.map (·.message audit.key)

/-- The ledger that the audit finds has an entry under the key, and nothing is in it. -/
def Audit.FindsVacant (audit : Audit) (key : Key) : Prop :=
  ∃ resource : Resource, audit.ledger.resources[key]? = some resource ∧ resource.isVacant = true

/-- Nothing is wrong in the ledger that the audit finds. The audited resource alone may be vacant,
and then its entry is gone when the operation has come to its end. -/
structure Audit.Passes (audit : Audit) (after : Ledger) : Prop where
  breach : ∀ (key : Key) (resource : Resource), audit.ledger.resources[key]? = some resource →
    resource.breach? = none
  vacant : ∀ key, audit.FindsVacant key → key = audit.key ∧ after.resources[key]? = none

/-- This locker holds or waits under the key, and nobody else does. -/
def Alone (ledger : Ledger) (id : LockerId) (key : Key) : Prop :=
  ∀ other, (ledger.resource key).Involves other ↔ other = id

def lockAudits (ledger : Ledger) (locker : Locker) (key : Key) (level : Level) (ticket : Ticket) :
    List Audit :=
  if ledger.isReleased locker.id || ledger.closed then []
  else
    match ((ledger.openEntry key).resource key).request key locker level ticket with
    | .error _ => []
    | .ok (_, resource) => [⟨(ledger.openEntry key).store key resource, key⟩]

def sweepAudits (ledger : Ledger) (listening : Ticket → Bool) (key : Key) : List Audit :=
  match ledger.resources[key]? with
  | none => []
  | some resource => [⟨ledger.store key (resource.sweep listening).2, key⟩]

def vacateAudits (ledger : Ledger) (listening : Ticket → Bool) (id : LockerId) (key : Key) :
    List Audit :=
  match ledger.resources[key]? with
  | none => []
  | some resource => (ledger.store key (resource.dismiss id)).sweepAudits listening key

def vacateAllAudits (ledger : Ledger) (listening : Ticket → Bool) (id : LockerId) :
    List Key → List Audit
  | [] => []
  | key :: rest =>
      ledger.vacateAudits listening id key ++
        (ledger.vacate listening id key).1.vacateAllAudits listening id rest

def releaseAudits (ledger : Ledger) (listening : Ticket → Bool) (locker : Locker)
    (keys : List Key) : List Audit :=
  if ledger.isReleased locker.id then []
  else (ledger.setStanding locker.id .departed).vacateAllAudits listening locker.id keys

def withdrawAudits (ledger : Ledger) (listening : Ticket → Bool) (id : LockerId) (key : Key) :
    List Audit :=
  match ledger.resources[key]? with
  | none => []
  | some resource =>
      if resource.isQueued id then
        ((ledger.store key (resource.withdraw id)).strike id key).sweepAudits listening key
      else []

/-- The alarm that an operation leaves, if these are the audits that it makes. -/
structure Audited (ledger : Ledger) (audits : List Audit) (after : Ledger) : Prop where
  checks : after.checks = ledger.checks
  alarm : after.alarm =
    ledger.alarm.or (if ledger.checks then audits.findSome? Audit.fault? else none)

variable {ledger middle after : Ledger} {audits later : List Audit} {listening : Ticket → Bool}
  {key other : Key} {id : LockerId} {locker : Locker} {level : Level} {ticket : Ticket}
  {resource : Resource}

theorem Audited.of_unaudited (checks : after.checks = ledger.checks)
    (alarm : after.alarm = ledger.alarm) : Audited ledger [] after := by
  refine ⟨checks, ?_⟩
  simp [alarm]

theorem Audited.refl (ledger : Ledger) : Audited ledger [] ledger :=
  .of_unaudited rfl rfl

theorem Audited.trans (first : Audited ledger audits middle)
    (second : Audited middle later after) : Audited ledger (audits ++ later) after := by
  refine ⟨second.checks.trans first.checks, ?_⟩
  rw [second.alarm, first.alarm, first.checks, Option.or_assoc]
  split
  · rw [List.findSome?_append]
  · rw [Option.none_or]

theorem audited_inspect (ledger : Ledger) (key : Key) :
    Audited ledger [⟨ledger, key⟩] (ledger.inspect key) := by
  unfold inspect
  split
  · rename_i wanted
    refine ⟨rfl, ?_⟩
    rw [if_pos wanted, List.findSome?_singleton]
    rfl
  · rename_i unwanted
    refine ⟨rfl, ?_⟩
    rw [if_neg unwanted, Option.or_none]

theorem audited_store_inspect (ledger : Ledger) (key : Key) (resource : Resource) :
    Audited ledger [⟨ledger.store key resource, key⟩] ((ledger.store key resource).inspect key) := by
  obtain ⟨checks, alarm⟩ := audited_inspect (ledger.store key resource) key
  exact ⟨checks, alarm⟩

theorem lock_audited (ledger : Ledger) (locker : Locker) (key : Key) (level : Level)
    (ticket : Ticket) :
    Audited ledger (ledger.lockAudits locker key level ticket)
      (ledger.lock locker key level ticket).2 := by
  unfold lock lockAudits
  cases ledger.isReleased locker.id with
  | true => exact .refl ledger
  | false =>
      cases ledger.closed with
      | true => exact .refl ledger
      | false =>
          simp only [Bool.or_self, Bool.false_eq_true, if_false]
          cases ((ledger.openEntry key).resource key).request key locker level ticket with
          | error refusal => exact .of_unaudited rfl rfl
          | ok result =>
              obtain ⟨checks, alarm⟩ :=
                audited_store_inspect (ledger.openEntry key) key result.2
              exact ⟨checks, alarm⟩

theorem sweep_audited (ledger : Ledger) (listening : Ticket → Bool) (key : Key) :
    Audited ledger (ledger.sweepAudits listening key) (ledger.sweep listening key).1 := by
  unfold sweep sweepAudits
  cases ledger.resources[key]? with
  | none => exact .refl ledger
  | some resource =>
      obtain ⟨checks, alarm⟩ := audited_store_inspect ledger key (resource.sweep listening).2
      dsimp only
      split
      · exact ⟨checks, alarm⟩
      · exact ⟨checks, alarm⟩

theorem vacate_audited (ledger : Ledger) (listening : Ticket → Bool) (id : LockerId) (key : Key) :
    Audited ledger (ledger.vacateAudits listening id key) (ledger.vacate listening id key).1 := by
  unfold vacate vacateAudits
  cases ledger.resources[key]? with
  | none => exact .refl ledger
  | some resource =>
      obtain ⟨checks, alarm⟩ :=
        (ledger.store key (resource.dismiss id)).sweep_audited listening key
      exact ⟨checks, alarm⟩

theorem vacateAll_audited (ledger : Ledger) (listening : Ticket → Bool) (id : LockerId)
    (keys : List Key) :
    Audited ledger (ledger.vacateAllAudits listening id keys)
      (ledger.vacateAll listening id keys).1 := by
  induction keys generalizing ledger with
  | nil => exact .refl ledger
  | cons key rest ih => exact (ledger.vacate_audited listening id key).trans (ih _)

theorem release_audited (ledger : Ledger) (listening : Ticket → Bool) (locker : Locker)
    (keys : List Key) :
    Audited ledger (ledger.releaseAudits listening locker keys)
      (ledger.releaseVisiting listening locker keys).2.1 := by
  unfold releaseVisiting releaseAudits
  split
  · exact .refl ledger
  · obtain ⟨checks, alarm⟩ :=
      (ledger.setStanding locker.id .departed).vacateAll_audited listening locker.id keys
    exact ⟨checks, alarm⟩

theorem withdraw?_audited {notices : List Notice}
    (taken : ledger.withdraw? listening id key = some (after, notices)) :
    Audited ledger (ledger.withdrawAudits listening id key) after := by
  unfold withdraw? at taken
  unfold withdrawAudits
  cases stored : ledger.resources[key]? with
  | none => simp [stored] at taken
  | some resource =>
      simp only [stored] at taken
      split at taken
      · rename_i queued
        obtain ⟨rfl, _⟩ := Prod.mk.inj (Option.some.inj taken)
        obtain ⟨checks, alarm⟩ :=
          ((ledger.store key (resource.withdraw id)).strike id key).sweep_audited listening key
        dsimp only
        rw [if_pos queued]
        exact ⟨checks, alarm⟩
      · contradiction

theorem withdrawAudits_of_none (absent : ledger.withdraw? listening id key = none) :
    ledger.withdrawAudits listening id key = [] := by
  unfold withdraw? at absent
  unfold withdrawAudits
  cases stored : ledger.resources[key]? with
  | none => rfl
  | some resource =>
      simp only [stored] at absent
      split at absent
      · contradiction
      · rename_i unqueued
        simp only [if_neg unqueued]

theorem abandon_audited (ledger : Ledger) (locker : Locker) (key : Key) :
    Audited ledger [] (ledger.abandon locker key).2 := by
  unfold abandon
  split <;> exact .of_unaudited rfl rfl

theorem close_audited (ledger : Ledger) : Audited ledger [] ledger.close.1 := by
  unfold close
  split <;> exact .of_unaudited rfl rfl

/-! No audit fails. -/

theorem Tidy.passes (tidy : ledger.Tidy) (key : Key) (resource : Resource)
    (stored : ledger.resources[key]? = some resource) :
    resource.breach? = none ∧ resource.isVacant = false := by
  refine ⟨?_, tidy.occupied key resource stored⟩
  rw [← resource_of_entry stored]
  exact (tidy.orderly key).breach?_eq_none (tidy.settled key)

theorem Tidy.not_findsVacant {audit : Audit} (tidy : audit.ledger.Tidy) (key : Key) :
    ¬ audit.FindsVacant key := by
  intro found
  obtain ⟨resource, stored, empty⟩ := found
  rw [tidy.occupied key resource stored] at empty
  contradiction

theorem Tidy.findsVacant_store_iff (tidy : ledger.Tidy) :
    (⟨ledger.store key resource, key⟩ : Audit).FindsVacant other ↔
      key = other ∧ resource.isVacant = true := by
  simp only [Audit.FindsVacant, store, Std.ExtTreeMap.getElem?_insert]
  by_cases same : key = other
  · simp [same]
  · have occupied : ¬ (⟨ledger, key⟩ : Audit).FindsVacant other := tidy.not_findsVacant other
    rw [Audit.FindsVacant] at occupied
    simp [same, occupied]

theorem Audit.Passes.of_tidy {audit : Audit} (tidy : audit.ledger.Tidy) (after : Ledger) :
    audit.Passes after where
  breach key resource stored := (tidy.passes key resource stored).1
  vacant key empty := absurd empty (tidy.not_findsVacant key)

theorem Tidy.passes_store (tidy : ledger.Tidy) (orderly : resource.Orderly)
    (settled : resource.Settled) (tidyAfter : after.Tidy) (kept : after.resource key = resource) :
    Audit.Passes ⟨ledger.store key resource, key⟩ after where
  breach other found stored := by
    simp only [store, Std.ExtTreeMap.getElem?_insert, Std.LawfulEqOrd.compare_eq_iff_eq] at stored
    split at stored
    · rw [← Option.some.inj stored]
      exact orderly.breach?_eq_none settled
    · exact (tidy.passes other found stored).1
  vacant other empty := by
    obtain ⟨rfl, nothing⟩ := tidy.findsVacant_store_iff.mp empty
    exact ⟨rfl, by rw [tidyAfter.getElem?_resources, kept, if_pos nothing]⟩

/-- What an accepted request is audited with is tidy already: an entry that is opened for it never
stays vacant. -/
theorem Tidy.lock_audits_tidy (tidy : ledger.Tidy) {audit : Audit}
    (made : audit ∈ ledger.lockAudits locker key level ticket) : audit.ledger.Tidy := by
  unfold lockAudits at made
  split at made
  · contradiction
  · rename_i accepting
    rw [Bool.or_eq_true, not_or, Bool.not_eq_true, Bool.not_eq_true] at accepting
    rw [resource_openEntry] at made
    split at made
    · contradiction
    · rename_i reply resource asked
      obtain rfl := List.mem_singleton.mp made
      have occupied := ((request_involves asked).mpr (.inl rfl)).not_vacant
      rw [store_openEntry, ← put_of_occupied occupied]
      refine tidy.put (request_orderly (tidy.orderly key) asked)
        (request_settled (tidy.orderly key) (tidy.settled key) asked) (fun shut => ?_)
      rw [accepting.2] at shut
      contradiction

theorem sweepAudits_store (ledger : Ledger) (listening : Ticket → Bool) (key : Key)
    (resource : Resource) :
    (ledger.store key resource).sweepAudits listening key =
      [⟨ledger.store key (resource.sweep listening).2, key⟩] := by
  have stored : (ledger.store key resource).resources[key]? = some resource := by simp [store]
  simp only [sweepAudits, stored, store_store]

theorem Tidy.sweep_passes (tidy : ledger.Tidy) (orderly : resource.Orderly) {audit : Audit}
    (made : audit ∈ (ledger.store key resource).sweepAudits listening key) (tidyAfter : after.Tidy)
    (kept : after.resource key = (resource.sweep listening).2) : audit.Passes after := by
  rw [sweepAudits_store, List.mem_singleton] at made
  subst made
  exact tidy.passes_store (sweep_orderly orderly listening) (sweep_settled listening resource)
    tidyAfter kept

theorem Tidy.vacate_passes (tidy : ledger.Tidy) {audit : Audit}
    (made : audit ∈ ledger.vacateAudits listening id key) (tidyAfter : after.Tidy)
    (kept : after.resource key = (ledger.resource key).leave listening id) :
    audit.Passes after := by
  unfold vacateAudits at made
  cases stored : ledger.resources[key]? with
  | none => simp [stored] at made
  | some resource =>
      simp only [stored] at made
      have orderly := tidy.orderly key
      rw [resource_of_entry stored] at orderly kept
      exact tidy.sweep_passes (dismiss_orderly orderly id) made tidyAfter kept

/-- What the audits on the way find of their resources is what there is of them in the end, since no
key is visited twice. -/
theorem Tidy.vacateAll_passes (tidy : ledger.Tidy) {keys : List Key} (distinct : keys.Nodup)
    {audit : Audit} (made : audit ∈ ledger.vacateAllAudits listening id keys) :
    audit.Passes (ledger.vacateAll listening id keys).1 := by
  have vacated := tidy.vacateAll distinct listening id
  induction keys generalizing ledger with
  | nil => contradiction
  | cons key rest ih =>
      rcases List.mem_append.mp made with now | later
      · refine tidy.vacate_passes now vacated.tidy ?_
        rw [vacated.resource, if_pos List.mem_cons_self]
      · have restDistinct := (List.nodup_cons.mp distinct).2
        have left := tidy.leave listening id key
        simp only [Ledger.vacateAll, vacate_eq tidy.quiet (tidy.orderly key)] at later ⊢
        exact ih left restDistinct later (left.vacateAll restDistinct listening id)

theorem Tidy.release_passes (tidy : ledger.Tidy) {keys : List Key} (distinct : keys.Nodup)
    {audit : Audit} (made : audit ∈ ledger.releaseAudits listening locker keys) :
    audit.Passes (ledger.releaseVisiting listening locker keys).2.1 := by
  unfold releaseAudits at made
  unfold releaseVisiting
  split at made
  · contradiction
  · rename_i present
    rw [if_neg present]
    exact (tidy.setStanding locker.id .departed).vacateAll_passes distinct made

theorem Sound.withdraw_passes (sound : ledger.Sound) {audit : Audit} {notices : List Notice}
    (taken : ledger.withdraw? listening id key = some (after, notices))
    (made : audit ∈ ledger.withdrawAudits listening id key) : audit.Passes after := by
  rw [sound.withdraw?] at taken
  split at taken
  · rename_i queued
    obtain ⟨rfl, _⟩ := Prod.mk.inj (Option.some.inj taken)
    have tidyAfter := (sound.withdrawn listening id key).toTidy
    have orderly := sound.orderly key
    have kept := (ledger.left_withdrawn listening id key).resource key
    rw [if_pos (List.mem_singleton.mpr rfl), leave,
      ← withdraw_eq_dismiss (orderly.unheld queued)] at kept
    unfold withdrawAudits at made
    cases stored : ledger.resources[key]? with
    | none => simp [stored] at made
    | some resource =>
        rw [resource_of_entry stored] at orderly queued kept
        simp only [stored, queued, if_true] at made
        exact (sound.toTidy.strike id key).sweep_passes (withdraw_orderly orderly id) made tidyAfter
          kept
  · contradiction

/-! Where an audit finds an entry with nothing in it. -/

theorem Tidy.vacateAudits_findVacant_iff (tidy : ledger.Tidy)
    (heard : ∀ waiter ∈ (ledger.resource key).queue, listening waiter.ticket = true) :
    (∃ audit ∈ ledger.vacateAudits listening id key, audit.FindsVacant other) ↔
      key = other ∧ ledger.Alone id key := by
  unfold vacateAudits
  cases stored : ledger.resources[key]? with
  | none =>
      have nobody : ¬ ledger.Alone id key := by
        intro alone
        have present := (alone id).mpr rfl
        rw [resource_of_no_entry stored] at present
        simp [Involves, vacant] at present
      simp [nobody]
  | some resource =>
      have same := resource_of_entry stored
      have occupied := tidy.occupied key resource stored
      have orderly := tidy.orderly key
      rw [same] at heard orderly
      dsimp only
      simp only [sweepAudits_store, List.mem_singleton, exists_eq_left, tidy.findsVacant_store_iff,
        Alone, same]
      exact and_congr_right' (leave_isVacant_iff orderly heard occupied id)

theorem Tidy.vacateAllAudits_findVacant_iff (tidy : ledger.Tidy) {keys : List Key}
    (distinct : keys.Nodup)
    (heard : ∀ key, ∀ waiter ∈ (ledger.resource key).queue, listening waiter.ticket = true) :
    (∃ audit ∈ ledger.vacateAllAudits listening id keys, audit.FindsVacant key) ↔
      key ∈ keys ∧ ledger.Alone id key := by
  induction keys generalizing ledger with
  | nil => simp [vacateAllAudits]
  | cons first rest ih =>
      obtain ⟨notAgain, restDistinct⟩ := List.nodup_cons.mp distinct
      have stillHeard (key : Key) : ∀ waiter ∈
          ((ledger.put first ((ledger.resource first).leave listening id)).resource key).queue,
          listening waiter.ticket = true := by
        intro waiter queued
        rw [resource_put] at queued
        split at queued
        · exact heard first waiter ((leave_queue_sublist listening _ id).subset queued)
        · exact heard key waiter queued
      have later := ih (tidy.leave listening id first) restDistinct stillHeard
      simp only [vacateAllAudits, vacate_eq tidy.quiet (tidy.orderly first), List.mem_append,
        or_and_right, exists_or, later, tidy.vacateAudits_findVacant_iff (heard first)]
      by_cases same : first = key
      · subst same
        simp [notAgain]
      · have kept : (ledger.put first ((ledger.resource first).leave listening id)).Alone id key ↔
            ledger.Alone id key := by
          rw [Alone, Alone, resource_put, if_neg same]
        simp [same, Ne.symm same, kept]

/-- A release audits an entry with nothing in it exactly where its locker was alone. -/
theorem Sound.releaseAudits_findVacant_iff (sound : ledger.Sound) {keys : List Key}
    (visits : keys.Perm (ledger.keysOf locker.id))
    (heard : ∀ key, ∀ waiter ∈ (ledger.resource key).queue, listening waiter.ticket = true) :
    (∃ audit ∈ ledger.releaseAudits listening locker keys, audit.FindsVacant key) ↔
      ledger.Alone locker.id key := by
  unfold releaseAudits
  split
  · rename_i gone
    have absent : ¬ ledger.Alone locker.id key :=
      fun alone => sound.absent_of_released gone key ((alone locker.id).mpr rfl)
    simp [absent]
  · have distinct := visits.nodup_iff.mpr (ledger.keysOf_nodup locker.id)
    have tidy := sound.toTidy.setStanding locker.id .departed
    refine (tidy.vacateAllAudits_findVacant_iff distinct heard).trans ?_
    refine and_iff_right_of_imp fun alone => visits.mem_iff.mpr (mem_keysOf.mpr ?_)
    exact sound.listed key locker.id ((alone locker.id).mpr rfl)

/-- Where somebody waits there is a holder, who is still there when the waiter has given up. -/
theorem Tidy.withdrawAudits_occupied (tidy : ledger.Tidy) {audit : Audit}
    (made : audit ∈ ledger.withdrawAudits listening id key) (other : Key) :
    ¬ audit.FindsVacant other := by
  unfold withdrawAudits at made
  cases stored : ledger.resources[key]? with
  | none => simp [stored] at made
  | some resource =>
      simp only [stored] at made
      split at made
      · rename_i queued
        have settled := tidy.settled key
        rw [resource_of_entry stored] at settled
        obtain ⟨waiter, member, _⟩ := isQueued_iff.mp queued
        obtain ⟨head, rest, queue⟩ := List.exists_cons_of_ne_nil (List.ne_nil_of_mem member)
        obtain ⟨holding, holds, _⟩ := settled_iff.mp settled head rest queue
        have stays : holding ∈ ((resource.withdraw id).sweep listening).2.holdings := by
          rw [Resource.sweep, promote_holdings]
          exact List.mem_append_left _ holds
        have occupied := Involves.not_vacant (.inl ⟨holding, stays, rfl⟩)
        have moved : (ledger.store key (resource.withdraw id)).strike id key =
          (ledger.strike id key).store key (resource.withdraw id) := rfl
        rw [moved, sweepAudits_store, List.mem_singleton] at made
        rw [made, (tidy.strike id key).findsVacant_store_iff, occupied]
        simp
      · contradiction

end Ledger

end Locking
