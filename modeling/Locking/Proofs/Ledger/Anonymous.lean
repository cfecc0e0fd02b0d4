import Locking.Proofs.Ledger.Muted
import Locking.Proofs.Resource.Anonymous

namespace Locking

/-!
A ledger without the names of lockers. Its audits are left out with them, since what an audit finds
is told by name. Every operation does to it what it does to the ledger itself, under the same keys
and for the same lockers, and answers the same up to the name of a locker that was released.
-/

section Maps

variable {α β γ : Type} {cmp : α → α → Ordering} [Std.TransCmp cmp] [Std.LawfulEqCmp cmp]
  (table : Std.ExtTreeMap α β cmp) (change : β → γ) (index : α)

theorem map_insert (value : β) :
    (table.insert index value).map (fun _ => change) =
      (table.map (fun _ => change)).insert index (change value) := by
  refine Std.ExtTreeMap.ext_getElem? fun other => ?_
  simp only [Std.ExtTreeMap.getElem?_map, Std.ExtTreeMap.getElem?_insert]
  split <;> rfl

theorem map_insertIfNew (value : β) :
    (table.insertIfNew index value).map (fun _ => change) =
      (table.map (fun _ => change)).insertIfNew index (change value) := by
  refine Std.ExtTreeMap.ext_getElem? fun other => ?_
  simp only [Std.ExtTreeMap.getElem?_map, Std.ExtTreeMap.getElem?_insertIfNew,
    Std.ExtTreeMap.mem_map]
  split <;> rfl

theorem map_erase :
    (table.erase index).map (fun _ => change) = (table.map (fun _ => change)).erase index := by
  refine Std.ExtTreeMap.ext_getElem? fun other => ?_
  simp only [Std.ExtTreeMap.getElem?_map, Std.ExtTreeMap.getElem?_erase]
  split <;> rfl

theorem map_modify {first : β → β} {second : γ → γ}
    (alike : ∀ value, change (first value) = second (change value)) :
    (table.modify index first).map (fun _ => change) =
      (table.map (fun _ => change)).modify index second := by
  refine Std.ExtTreeMap.ext_getElem? fun other => ?_
  simp only [Std.ExtTreeMap.getElem?_map, Std.ExtTreeMap.getElem?_modify]
  split
  · simp [Function.comp_def, alike]
  · rfl

theorem map_filterMap {first : β → Option β} {second : γ → Option γ}
    (alike : ∀ value, (first value).map change = second (change value)) :
    (table.filterMap (fun _ => first)).map (fun _ => change) =
      (table.map (fun _ => change)).filterMap (fun _ => second) := by
  refine Std.ExtTreeMap.ext_getElem? fun other => ?_
  simp only [Std.ExtTreeMap.getElem?_map, Std.ExtTreeMap.getElem?_filterMap']
  cases table[other]? with
  | none => rfl
  | some value => exact alike value

end Maps

namespace Ledger

def anonymous (ledger : Ledger) : Ledger :=
  { ledger.muted with resources := ledger.resources.map (fun _ => Resource.anonymous) }

section Parts

variable (ledger : Ledger) (key : Key) (id : LockerId)

@[simp] theorem closed_anonymous : ledger.anonymous.closed = ledger.closed := rfl

@[simp] theorem isReleased_anonymous : ledger.anonymous.isReleased id = ledger.isReleased id := rfl

@[simp] theorem keysOf_anonymous : ledger.anonymous.keysOf id = ledger.keysOf id := rfl

@[simp] theorem getElem?_anonymous :
    ledger.anonymous.resources[key]? = ledger.resources[key]?.map Resource.anonymous :=
  Std.ExtTreeMap.getElem?_map

@[simp] theorem resource_anonymous :
    ledger.anonymous.resource key = (ledger.resource key).anonymous := by
  unfold resource
  rw [getElem?_anonymous]
  cases ledger.resources[key]? <;> rfl

theorem openEntry_anonymous :
    ledger.anonymous.openEntry key = (ledger.openEntry key).anonymous := by
  simp [openEntry, anonymous, map_insertIfNew, muted]

theorem store_anonymous (resource : Resource) :
    ledger.anonymous.store key resource.anonymous = (ledger.store key resource).anonymous := by
  simp [store, anonymous, map_insert, muted]

theorem eraseEntry_anonymous :
    ledger.anonymous.eraseEntry key = (ledger.eraseEntry key).anonymous := by
  simp [eraseEntry, anonymous, map_erase, muted]

theorem setStanding_anonymous (standing : Standing) :
    ledger.anonymous.setStanding id standing = (ledger.setStanding id standing).anonymous := rfl

theorem note_anonymous : ledger.anonymous.note id key = (ledger.note id key).anonymous := rfl

theorem strike_anonymous : ledger.anonymous.strike id key = (ledger.strike id key).anonymous := rfl

@[simp] theorem inspect_anonymous : (ledger.inspect key).anonymous = ledger.anonymous := by
  unfold inspect
  split <;> rfl

@[simp] theorem anonymous_inspect : ledger.anonymous.inspect key = ledger.anonymous := rfl

/-- Up to names, the same locks are listed in the same places. -/
theorem records_anonymous : ledger.anonymous.records = ledger.records.map Record.anonymous := by
  simp only [records, anonymous, Std.ExtTreeMap.toList_map, List.flatMap_map, List.map_flatMap,
    Resource.records_anonymous]

end Parts

variable (ledger : Ledger) (listening : Ticket → Bool) (id : LockerId) (key : Key)
  (locker : Locker)

theorem lock_anonymous (level : Level) (ticket : Ticket) :
    ledger.anonymous.lock locker.anonymous key level ticket =
      ((ledger.lock locker key level ticket).1.mapError Refusal.anonymous,
        (ledger.lock locker key level ticket).2.anonymous) := by
  by_cases gone : ledger.isReleased locker.id = true
  · simp [lock, gone, Refusal.anonymous, Locker.anonymous]
  by_cases shut : ledger.closed = true
  · simp [lock, gone, shut, Refusal.anonymous]
  simp only [lock, Locker.id_anonymous, isReleased_anonymous, closed_anonymous, gone, shut,
    Bool.false_eq_true, if_false, openEntry_anonymous, resource_anonymous,
    Resource.request_anonymous]
  cases ((ledger.openEntry key).resource key).request key locker level ticket with
  | error refusal => rfl
  | ok result =>
      simp only [mapError_ok, Except.map, Prod.map]
      rw [store_anonymous, anonymous_inspect, ← note_anonymous, inspect_anonymous]
      rfl

theorem sweep_anonymous :
    ledger.anonymous.sweep listening key =
      ((ledger.sweep listening key).1.anonymous, (ledger.sweep listening key).2) := by
  simp only [sweep, getElem?_anonymous]
  cases ledger.resources[key]? with
  | none => rfl
  | some resource =>
      simp only [Option.map_some, Resource.sweep_anonymous, Prod.map, store_anonymous,
        anonymous_inspect, Resource.isVacant_anonymous, List.map_map]
      refine Prod.ext ?_ rfl
      dsimp only
      split
      · rw [← eraseEntry_anonymous, inspect_anonymous]
      · rw [inspect_anonymous]

theorem vacate_anonymous :
    ledger.anonymous.vacate listening id key =
      ((ledger.vacate listening id key).1.anonymous, (ledger.vacate listening id key).2) := by
  simp only [vacate, getElem?_anonymous]
  cases ledger.resources[key]? with
  | none => rfl
  | some resource =>
      simp only [Option.map_some, Resource.dismiss_anonymous, store_anonymous, sweep_anonymous,
        Resource.ticketOf?_anonymous]

theorem vacateAll_anonymous (keys : List Key) :
    ledger.anonymous.vacateAll listening id keys =
      ((ledger.vacateAll listening id keys).1.anonymous,
        (ledger.vacateAll listening id keys).2) := by
  induction keys generalizing ledger with
  | nil => rfl
  | cons key rest ih => simp only [vacateAll, vacate_anonymous, ih]

theorem release_anonymous :
    ledger.anonymous.release listening locker.anonymous =
      ((ledger.release listening locker).1.mapError Refusal.anonymous,
        (ledger.release listening locker).2.1.anonymous,
        (ledger.release listening locker).2.2) := by
  by_cases gone : ledger.isReleased locker.id = true
  · simp [release, releaseVisiting, gone, Refusal.anonymous,
      Locker.anonymous]
  · simp [release, releaseVisiting, gone, setStanding_anonymous,
      vacateAll_anonymous]

theorem withdraw?_anonymous :
    ledger.anonymous.withdraw? listening id key =
      (ledger.withdraw? listening id key).map
        (fun (after, notices) => (after.anonymous, notices)) := by
  simp only [withdraw?, getElem?_anonymous]
  cases ledger.resources[key]? with
  | none => rfl
  | some resource =>
      simp only [Option.map_some, Resource.isQueued_anonymous]
      split
      · simp only [Resource.withdraw_anonymous, store_anonymous, strike_anonymous,
          sweep_anonymous, Resource.ticketOf?_anonymous, Option.map_some]
      · rfl

theorem abandon_anonymous :
    ledger.anonymous.abandon locker.anonymous key =
      ((ledger.abandon locker key).1.anonymous, (ledger.abandon locker key).2.anonymous) := by
  by_cases gone : ledger.isReleased locker.id = true
  · simp [abandon, gone, Refusal.anonymous, Locker.anonymous]
  · simp [abandon, gone, Refusal.anonymous, strike_anonymous]

theorem dispersed?_anonymous (resource : Resource) :
    (dispersed? resource).map Resource.anonymous = dispersed? resource.anonymous := by
  simp only [dispersed?, Resource.disperse_anonymous, Resource.isVacant_anonymous]
  split <;> rfl

theorem close_anonymous :
    ledger.anonymous.close = (ledger.close.1.anonymous, ledger.close.2) := by
  by_cases shut : ledger.closed = true
  · simp [close, shut]
  · simp only [close, closed_anonymous, shut, Bool.false_eq_true, if_false]
    refine Prod.ext ?_ ?_
    · simp [anonymous, muted, map_filterMap _ _ dispersed?_anonymous]
    · simp [anonymous, Std.ExtTreeMap.toList_map, List.flatMap_map, Resource.anonymous,
        Waiter.anonymous, Function.comp_def]

end Ledger

end Locking
