import Locking.Proofs.Ledger.Sound

namespace Locking.Ledger

open Resource

/-!
The effect of each operation on a sound ledger, resource by resource and locker by locker.
-/

variable {ledger : Ledger} {listening : Ticket → Bool} {key : Key} {id : LockerId}
  {locker : Locker} {level : Level} {ticket : Ticket}

/-- What a lock call comes to, with what decides it. -/
inductive Locked (ledger : Ledger) (locker : Locker) (key : Key) (level : Level)
    (ticket : Ticket) : Except Refusal Reply × Ledger → Prop
  | released (gone : ledger.isReleased locker.id = true) :
      Locked ledger locker key level ticket (.error (.releasedLocker locker.name), ledger)
  | closed (present : ledger.isReleased locker.id = false) (shut : ledger.closed = true) :
      Locked ledger locker key level ticket (.error .closed, ledger)
  | refused (present : ledger.isReleased locker.id = false) (serving : ledger.closed = false)
      {refusal : Refusal}
      (asked : (ledger.resource key).request key locker level ticket = .error refusal) :
      Locked ledger locker key level ticket (.error refusal, ledger)
  | accepted (present : ledger.isReleased locker.id = false) (serving : ledger.closed = false)
      {reply : Reply} {resource : Resource}
      (asked : (ledger.resource key).request key locker level ticket = .ok (reply, resource)) :
      Locked ledger locker key level ticket
        (.ok reply, (ledger.put key resource).note locker.id key)

theorem openEntry_eq_self {resource : Resource}
    (stored : ledger.resources[key]? = some resource) : ledger.openEntry key = ledger := by
  obtain ⟨resources, lockers, closed, checks, alarm⟩ := ledger
  simp only [openEntry, mk.injEq, and_self, and_true]
  apply Std.ExtTreeMap.ext_getElem?
  intro other
  have present : key ∈ resources := by
    rw [Std.ExtTreeMap.mem_iff_isSome_getElem?, stored]
    rfl
  simp [Std.ExtTreeMap.getElem?_insertIfNew, present]

theorem store_openEntry (ledger : Ledger) (key : Key) (resource : Resource) :
    (ledger.openEntry key).store key resource = ledger.store key resource := by
  simp only [store, openEntry, mk.injEq, and_self, and_true]
  apply Std.ExtTreeMap.ext_getElem?
  intro other
  by_cases same : key = other <;>
    simp [Std.ExtTreeMap.getElem?_insertIfNew, Std.ExtTreeMap.getElem?_insert, same]

theorem Tidy.locked (tidy : ledger.Tidy) (locker : Locker) (key : Key) (level : Level)
    (ticket : Ticket) :
    Locked ledger locker key level ticket (ledger.lock locker key level ticket) := by
  unfold lock
  split
  · exact .released ‹_›
  · rename_i present
    rw [Bool.not_eq_true] at present
    split
    · exact .closed present ‹_›
    · rename_i serving
      rw [Bool.not_eq_true] at serving
      dsimp only
      rw [resource_openEntry]
      cases asked : (ledger.resource key).request key locker level ticket with
      | error refusal =>
          -- A resource without an entry is vacant, and a vacant resource refuses nobody.
          cases stored : ledger.resources[key]? with
          | none =>
              have involved := involves_of_refused asked
              rw [resource_of_no_entry stored] at involved
              simp [Involves, vacant] at involved
          | some resource =>
              dsimp only
              rw [openEntry_eq_self stored]
              exact .refused present serving asked
      | ok result =>
          obtain ⟨reply, resource⟩ := result
          have orderly := request_orderly (tidy.orderly key) asked
          have settled := request_settled (tidy.orderly key) (tidy.settled key) asked
          have occupied := ((request_involves asked).mpr (.inl rfl)).not_vacant
          have audited : (ledger.store key resource).inspect key = ledger.store key resource :=
            inspect_eq_self tidy.quiet (by
              rw [resource_store, if_pos rfl]
              exact orderly.breach?_eq_none settled)
          dsimp only
          rw [store_openEntry, audited, ← put_of_occupied occupied]
          exact .accepted present serving asked

theorem Sound.accept {reply : Reply} {resource : Resource} (sound : ledger.Sound)
    (present : ledger.isReleased locker.id = false) (serving : ledger.closed = false)
    (asked : (ledger.resource key).request key locker level ticket = .ok (reply, resource)) :
    ((ledger.put key resource).note locker.id key).Sound := by
  have tidy : (ledger.put key resource).Tidy :=
    sound.toTidy.put (request_orderly (sound.orderly key) asked)
      (request_settled (sound.orderly key) (sound.settled key) asked)
      (fun shut => by rw [serving] at shut; contradiction)
  refine { tidy.note locker.id key with listed := ?_, departed := ?_ }
  · intro other owner involved
    rw [resource_note, resource_put] at involved
    rw [mem_keys_note, standing_put]
    split at involved
    · rename_i same
      subst same
      rcases (request_involves asked).mp involved with rfl | before
      · exact .inl ⟨rfl, rfl⟩
      · exact .inr (sound.listed _ _ before)
    · exact .inr (sound.listed _ _ involved)
  · intro owner gone other noted
    rw [isReleased_note, isReleased_put] at gone
    rw [mem_keys_note, standing_put] at noted
    rcases noted with ⟨rfl, rfl⟩ | before
    · rw [gone] at present
      contradiction
    · exact sound.departed owner gone other before

/-- A locker has left the resources under these keys, and these notices have been given. -/
structure Left (listening : Ticket → Bool) (id : LockerId) (keys : List Key)
    (before after : Ledger) (notices : List Notice) : Prop where
  distinct : keys.Nodup
  resource : ∀ key, after.resource key =
    if key ∈ keys then (before.resource key).leave listening id else before.resource key
  notices : notices = keys.flatMap fun key => (before.resource key).leaveNotices listening id

structure Vacated (listening : Ticket → Bool) (id : LockerId) (keys : List Key)
    (before after : Ledger) (notices : List Notice) : Prop
    extends Left listening id keys before after notices where
  tidy : after.Tidy
  standing : ∀ other, after.standing other = before.standing other
  closed : after.closed = before.closed

theorem Tidy.leave (tidy : ledger.Tidy) (listening : Ticket → Bool) (id : LockerId) (key : Key) :
    (ledger.put key ((ledger.resource key).leave listening id)).Tidy := by
  refine tidy.put (leave_orderly (tidy.orderly key) listening id) (sweep_settled _ _) ?_
  intro shut
  have before := leave_queue_sublist listening (ledger.resource key) id
  rw [tidy.silent shut key] at before
  exact List.sublist_nil.mp before

/-- Leaving one resource does not touch another, so each is left as it was found. -/
theorem Tidy.vacateAll {keys : List Key} (tidy : ledger.Tidy) (distinct : keys.Nodup)
    (listening : Ticket → Bool) (id : LockerId) :
    Vacated listening id keys ledger (ledger.vacateAll listening id keys).1
      (ledger.vacateAll listening id keys).2 := by
  induction keys generalizing ledger with
  | nil => exact ⟨⟨distinct, by simp [Ledger.vacateAll], rfl⟩, tidy, fun _ => rfl, rfl⟩
  | cons key rest ih =>
      obtain ⟨notAgain, restDistinct⟩ := List.nodup_cons.mp distinct
      have later := ih (tidy.leave listening id key) restDistinct
      simp only [Ledger.vacateAll, vacate_eq tidy.quiet (tidy.orderly key) listening id]
      refine ⟨⟨distinct, ?_, ?_⟩, later.tidy, ?_, ?_⟩
      · intro other
        rw [later.resource other, resource_put]
        by_cases same : key = other
        · subst same
          simp [notAgain]
        · simp [same, Ne.symm same]
      · rw [later.notices, List.flatMap_cons]
        congr 1
        refine List.flatMap_congr (fun other member => ?_)
        rw [resource_put, if_neg (fun same => notAgain (by rw [same]; exact member))]
      · intro other
        rw [later.standing other, standing_put]
      · rw [later.closed, closed_put]

theorem keysOf_nodup (ledger : Ledger) (id : LockerId) : (ledger.keysOf id).Nodup :=
  Std.ExtTreeSet.distinct_toList.imp (fun different same => different (by simp [same]))

theorem mem_keysOf : key ∈ ledger.keysOf id ↔ key ∈ (ledger.standing id).keys :=
  Std.ExtTreeSet.mem_toList

/-- A release takes its locker out of every resource: where it is not sent, there is nothing of
that locker to take. -/
structure Released (listening : Ticket → Bool) (id : LockerId) (before after : Ledger)
    (notices : List Notice) : Prop where
  left : Left listening id (before.keysOf id) before after notices
  everywhere : ∀ key, after.resource key = (before.resource key).leave listening id
  standing : ∀ other, after.standing other = if id = other then .departed else before.standing other
  closed : after.closed = before.closed
  sound : after.Sound

theorem Released.isReleased_iff {after : Ledger} {notices : List Notice} {other : LockerId}
    (released : Released listening id ledger after notices) :
    after.isReleased other = true ↔ other = id ∨ ledger.isReleased other = true := by
  rw [isReleased, released.standing]
  split
  · rename_i same
    simp [Standing.departed, same]
  · rename_i different
    simp [isReleased, Ne.symm different]

theorem release_of_released (gone : ledger.isReleased locker.id = true)
    (listening : Ticket → Bool) :
    ledger.release listening locker = (.error (.releasedLocker locker.name), ledger, []) := by
  simp [release, releaseVisiting, gone]

theorem Sound.release (sound : ledger.Sound) (present : ledger.isReleased locker.id = false)
    (listening : Ticket → Bool) :
    ∃ after notices, ledger.release listening locker = (.ok (), after, notices) ∧
      Released listening locker.id ledger after notices := by
  have vacated := (sound.toTidy.setStanding locker.id .departed).vacateAll
    (ledger.keysOf_nodup locker.id) listening locker.id
  cases result : (ledger.setStanding locker.id .departed).vacateAll listening locker.id
      (ledger.keysOf locker.id) with | mk after notices
  rw [result] at vacated
  refine ⟨after, notices, by simp only [Ledger.release, releaseVisiting, present, result]; rfl, ?_⟩
  have resources : ∀ key, after.resource key =
      (ledger.resource key).leave listening locker.id := by
    intro key
    rw [vacated.resource key, resource_setStanding]
    split
    · rfl
    · rename_i unlisted
      have absent : ¬ (ledger.resource key).Involves locker.id :=
        fun involved => unlisted (mem_keysOf.mpr (sound.listed key locker.id involved))
      exact (leave_of_not_involves (sound.settled key) absent).symm
  have standings : ∀ other, after.standing other =
      if locker.id = other then .departed else ledger.standing other := by
    intro other
    rw [vacated.standing other, standing_setStanding]
  refine ⟨⟨vacated.distinct, vacated.resource, vacated.notices⟩, resources, standings,
    vacated.closed, { vacated.tidy with listed := ?_, departed := ?_ }⟩
  · intro key owner involved
    rw [resources key] at involved
    obtain ⟨different, before⟩ := involves_of_leave (sound.orderly key) involved
    rw [standings owner, if_neg (Ne.symm different)]
    exact sound.listed key owner before
  · intro owner gone key
    rw [isReleased, standings owner] at gone
    rw [standings owner]
    by_cases same : locker.id = owner
    · simp [same, Standing.departed]
    · rw [if_neg same] at gone ⊢
      exact sound.departed owner gone key

def withdrawn (ledger : Ledger) (listening : Ticket → Bool) (id : LockerId) (key : Key) : Ledger :=
  (ledger.put key ((ledger.resource key).leave listening id)).strike id key

theorem left_withdrawn (ledger : Ledger) (listening : Ticket → Bool) (id : LockerId) (key : Key) :
    Left listening id [key] ledger (ledger.withdrawn listening id key)
      ((ledger.resource key).leaveNotices listening id) := by
  refine ⟨by simp, ?_, by simp⟩
  intro other
  rw [withdrawn, resource_strike, resource_put]
  by_cases same : key = other
  · subst same
    simp
  · simp [same, Ne.symm same]

@[simp] theorem isReleased_withdrawn (ledger : Ledger) (listening : Ticket → Bool)
    (id other : LockerId) (key : Key) :
    (ledger.withdrawn listening id key).isReleased other = ledger.isReleased other := by
  rw [withdrawn, isReleased_strike, isReleased_put]

@[simp] theorem closed_withdrawn (ledger : Ledger) (listening : Ticket → Bool) (id : LockerId)
    (key : Key) : (ledger.withdrawn listening id key).closed = ledger.closed :=
  closed_put _ _ _

/-- A request is withdrawn exactly if it is in the queue; its locker leaves the resource, on which
it holds nothing. -/
theorem Sound.withdraw? (sound : ledger.Sound) (listening : Ticket → Bool) (id : LockerId)
    (key : Key) :
    ledger.withdraw? listening id key =
      if (ledger.resource key).isQueued id then
        some (ledger.withdrawn listening id key, (ledger.resource key).leaveNotices listening id)
      else none := by
  unfold Ledger.withdraw?
  cases stored : ledger.resources[key]? with
  | none => simp [resource_of_no_entry stored, isQueued, vacant]
  | some resource =>
      have orderly := sound.orderly key
      rw [resource_of_entry stored] at orderly ⊢
      dsimp only
      split
      · rename_i queued
        have absent := orderly.unheld queued
        have swept : ((ledger.strike id key).store key (resource.dismiss id)).sweep listening key =
          _ := sweep_store sound.quiet (dismiss_orderly orderly id)
        have moved : (ledger.store key (resource.dismiss id)).strike id key =
            (ledger.strike id key).store key (resource.dismiss id) := rfl
        have exchanged : (ledger.strike id key).put key (resource.leave listening id) =
            (ledger.put key (resource.leave listening id)).strike id key := by
          unfold put
          split <;> rfl
        rw [withdraw_eq_dismiss absent, moved, swept, withdrawn, resource_of_entry stored,
          ← exchanged]
        rfl
      · rfl

theorem Sound.withdrawn (sound : ledger.Sound) (listening : Ticket → Bool) (id : LockerId)
    (key : Key) : (ledger.withdrawn listening id key).Sound := by
  refine { (sound.toTidy.leave listening id key).strike id key with listed := ?_, departed := ?_ }
  · intro other owner involved
    rw [Ledger.withdrawn, resource_strike, resource_put] at involved
    rw [Ledger.withdrawn, mem_keys_strike, standing_put]
    split at involved
    · rename_i same
      obtain ⟨different, before⟩ := involves_of_leave (sound.orderly key) involved
      exact ⟨fun both => different both.1, same ▸ sound.listed key owner before⟩
    · rename_i different
      exact ⟨fun both => different both.2.symm, sound.listed other owner involved⟩
  · intro owner gone other noted
    rw [isReleased_withdrawn] at gone
    rw [Ledger.withdrawn, mem_keys_strike, standing_put] at noted
    exact sound.departed owner gone other noted.2

theorem Sound.strike (sound : ledger.Sound) (absent : ¬ (ledger.resource key).Involves id) :
    (ledger.strike id key).Sound := by
  refine { sound.toTidy.strike id key with listed := ?_, departed := ?_ }
  · intro other owner involved
    rw [mem_keys_strike]
    refine ⟨?_, sound.listed other owner involved⟩
    intro same
    rw [same.1, same.2] at involved
    exact absent involved
  · intro owner gone other noted
    rw [isReleased_strike] at gone
    exact sound.departed owner gone other (mem_keys_strike.mp noted).2

theorem abandon_of_released (gone : ledger.isReleased locker.id = true) (key : Key) :
    ledger.abandon locker key = (.releasedLocker locker.name, ledger) := by
  simp [abandon, gone]

theorem abandon_of_present (present : ledger.isReleased locker.id = false) (key : Key) :
    ledger.abandon locker key = (.closed, ledger.strike locker.id key) := by
  simp [abandon, present]

theorem close_of_closed (shut : ledger.closed = true) : ledger.close = (ledger, []) := by
  simp [close, shut]

theorem resource_close (serving : ledger.closed = false) (key : Key) :
    ledger.close.1.resource key = (ledger.resource key).disperse := by
  simp only [close, serving, Bool.false_eq_true, if_false, Ledger.resource,
    Std.ExtTreeMap.getElem?_filterMap']
  cases stored : ledger.resources[key]? with
  | none => rfl
  | some resource =>
      simp only [Option.bind_some, Option.getD_some, dispersed?]
      split
      · rename_i empty
        exact (isVacant_iff.mp empty).symm
      · rfl

@[simp] theorem standing_close (ledger : Ledger) (id : LockerId) :
    ledger.close.1.standing id = ledger.standing id := by
  unfold close
  split <;> rfl

@[simp] theorem isReleased_close (ledger : Ledger) (id : LockerId) :
    ledger.close.1.isReleased id = ledger.isReleased id := by
  simp only [isReleased, standing_close]

@[simp] theorem closed_close (ledger : Ledger) : ledger.close.1.closed = true := by
  unfold close
  split
  · assumption
  · rfl

theorem Sound.close (sound : ledger.Sound) (serving : ledger.closed = false) :
    ledger.close.1.Sound where
  orderly key := by
    rw [resource_close serving]
    exact disperse_orderly (sound.orderly key)
  settled key := by
    rw [resource_close serving]
    exact settled_of_queue_nil rfl
  occupied key resource stored := by
    simp only [Ledger.close, serving, Bool.false_eq_true, if_false,
      Std.ExtTreeMap.getElem?_filterMap', Option.bind_eq_some_iff, dispersed?] at stored
    obtain ⟨before, _, kept⟩ := stored
    split at kept
    · contradiction
    · rename_i occupied
      rw [← Option.some.inj kept]
      simpa using occupied
  silent _ key := by
    rw [resource_close serving]
    rfl
  quiet := by
    simp only [Ledger.close, serving]
    exact sound.quiet
  listed key id involved := by
    rw [resource_close serving] at involved
    rw [standing_close]
    apply sound.listed key id
    rcases involved with held | ⟨waiter, queued, _⟩
    · exact .inl held
    · simp [disperse] at queued
  departed id gone key := by
    rw [isReleased_close] at gone
    rw [standing_close]
    exact sound.departed id gone key

end Locking.Ledger
