import Locking.Proofs.Resource.Confluence
import Locking.Proofs.Service.Audits
import Locking.Proofs.Service.Tenure

namespace Locking

/-!
Releases commute. Lockers that are released one after another leave the same service behind in
whatever order they go, and in whatever order each of them visits its keys. That holds as well of
lockers that wait, and that an earlier release may grant what they wait for.
-/

namespace Ledger

open Resource

/-- These lockers have been released, one after another. -/
structure Parted (listening : Ticket → Bool) (ids : List LockerId) (before after : Ledger) :
    Prop where
  resource : ∀ key, after.resource key =
    ids.foldl (Resource.leave listening) (before.resource key)
  lockers : after.lockers =
    ids.foldl (fun lockers id => lockers.insert id .departed) before.lockers
  closed : after.closed = before.closed
  checks : after.checks = before.checks
  sound : after.Sound

variable {ledger middle first second : Ledger} {listening : Ticket → Bool} {id : LockerId}
  {ids others : List LockerId} {locker : Locker}

theorem Parted.refl (sound : ledger.Sound) (listening : Ticket → Bool) :
    Parted listening [] ledger ledger :=
  ⟨fun _ => rfl, rfl, rfl, rfl, sound⟩

theorem Parted.cons (one : Parted listening [id] ledger middle)
    (rest : Parted listening ids middle first) : Parted listening (id :: ids) ledger first where
  resource key := by rw [rest.resource, one.resource]; rfl
  lockers := by rw [rest.lockers, one.lockers]; rfl
  closed := rest.closed.trans one.closed
  checks := rest.checks.trans one.checks
  sound := rest.sound

/-- The order in which lockers have been released cannot be told from what is left. -/
theorem Parted.unique (sound : ledger.Sound) (one : Parted listening ids ledger first)
    (other : Parted listening others ledger second) (same : ids.Perm others) : first = second := by
  apply Ledger.ext
  · refine one.sound.resources_eq other.sound.toTidy (fun key => ?_)
    rw [one.resource, other.resource]
    exact Resource.foldl_leave_perm same (sound.orderly key)
  · rw [one.lockers, other.lockers]
    refine same.foldl_eq' (fun first _ second _ lockers => ?_) _
    apply Std.ExtTreeMap.ext_getElem?
    intro id
    simp only [Std.ExtTreeMap.getElem?_insert]
    split <;> split <;> rfl
  · rw [one.closed, other.closed]
  · rw [one.checks, other.checks]
  · rw [one.sound.quiet, other.sound.quiet]

theorem Sound.locker_departed (sound : ledger.Sound) (gone : ledger.isReleased id = true) :
    ledger.lockers[id]? = some .departed := by
  have nothing := sound.departed id gone
  unfold isReleased at gone
  cases known : ledger.lockers[id]? with
  | none => simp [standing, known, Standing.fresh] at gone
  | some standing =>
      simp only [Ledger.standing, known, Option.getD_some] at gone nothing
      obtain ⟨released, keys⟩ := standing
      obtain rfl : released = true := gone
      obtain rfl : keys = ∅ := Std.ExtTreeSet.eq_empty_iff_forall_not_mem.mpr nothing
      rfl

theorem Sound.release_parted (sound : ledger.Sound) (listening : Ticket → Bool)
    (locker : Locker) :
    Parted listening [locker.id] ledger (ledger.release listening locker).2.1 := by
  cases gone : ledger.isReleased locker.id with
  | true =>
      rw [release_of_released gone]
      refine ⟨fun key => ?_, ?_, rfl, rfl, sound⟩
      · exact (leave_of_not_involves (sound.settled key)
          (sound.absent_of_released gone key)).symm
      · apply Std.ExtTreeMap.ext_getElem?
        intro other
        rw [List.foldl_cons, List.foldl_nil, Std.ExtTreeMap.getElem?_insert]
        split
        · rename_i same
          rw [← Std.LawfulEqOrd.eq_of_compare same, sound.locker_departed gone]
        · rfl
  | false =>
      obtain ⟨after, notices, result, released⟩ := sound.release gone listening
      have audited := ledger.release_audited listening locker (ledger.keysOf locker.id)
      have noted : (ledger.release listening locker).2.1.lockers =
          ledger.lockers.insert locker.id .departed := by
        have tidy := sound.toTidy.setStanding locker.id .departed
        simp only [Ledger.release, releaseVisiting, gone, Bool.false_eq_true, if_false]
        rw [tidy.lockers_vacateAll]
        rfl
      have checks : (ledger.release listening locker).2.1.checks = ledger.checks := audited.checks
      rw [result] at noted checks ⊢
      exact ⟨released.everywhere, noted, released.closed, checks, released.sound⟩

end Ledger

namespace Service

open Resource

/-- Lockers are released one after another, each of them visiting its keys in the order given. -/
def releaseAll (service : Service) : List (Locker × List Key) → List Answer × Service
  | [] => ([], service)
  | (locker, keys) :: rest =>
      let (answer, after) := service.releaseVisiting locker keys
      let (answers, final) := after.releaseAll rest
      (answer :: answers, final)

/-- When its turn comes, each of these lockers visits all its keys, once. -/
def Visits (service : Service) : List (Locker × List Key) → Prop
  | [] => True
  | (locker, keys) :: rest =>
      keys.Perm (service.ledger.keysOf locker.id) ∧
        (service.releaseVisiting locker keys).2.Visits rest

variable {service other : Service} {ticket : Ticket} {call next : Call} {locker : Locker}
  {lockers : List Locker} {schedule first second : List (Locker × List Key)}

theorem Sound.releaseAll_eq_run (sound : service.Sound) (visits : service.Visits schedule) :
    service.releaseAll schedule = service.run (schedule.map fun visit => .release visit.1) := by
  induction schedule generalizing service with
  | nil => rfl
  | cons visit rest ih =>
      obtain ⟨locker, keys⟩ := visit
      obtain ⟨all, later⟩ := visits
      have result : service.releaseVisiting locker keys = service.step (.release locker) := by
        rw [sound.step_eq, sound.releaseVisiting_perm all, Service.act]
      rw [result] at later
      simp only [releaseAll, List.map_cons, Service.run, result, ih (sound.step _) later]

/-! What is left. -/

@[simp] theorem listening_notifyAll (service : Service) (notices : List Notice) :
    (service.notifyAll notices).listening = service.listening := by
  induction notices generalizing service with
  | nil => rfl
  | cons notice rest ih =>
      refine (ih (service.notify notice)).trans ?_
      funext ticket
      exact Std.ExtTreeMap.contains_modify

theorem Sound.parted (sound : service.Sound) (lockers : List Locker) :
    Ledger.Parted service.listening (lockers.map (·.id)) service.ledger
      (service.run (lockers.map .release)).2.ledger := by
  induction lockers generalizing service with
  | nil => exact .refl sound.ledger _
  | cons locker rest ih =>
      have later := ih (sound.step (.release locker))
      have listening : (service.step (.release locker)).2.listening = service.listening := by
        rw [sound.step_eq]
        exact listening_notifyAll _ _
      have ledger : (service.step (.release locker)).2.ledger =
          (service.ledger.release service.listening locker).2.1 := by
        rw [sound.step_eq, Service.act, ledger_release]
      rw [listening, ledger] at later
      exact (sound.ledger.release_parted service.listening locker).cons later

/-! What the calls of other lockers hear. -/

theorem Sound.call_of_releases (sound : service.Sound)
    (pending : service.calls[ticket]? = some call)
    (outside : ∀ locker ∈ lockers, locker.id ≠ call.locker.id) :
    ∃ next, (service.run (lockers.map .release)).2.calls[ticket]? = some next ∧
      next.request = call.request ∧ (call.line ≠ Line.fresh.cut → next.line ≠ Line.fresh.cut) := by
  induction lockers generalizing service call with
  | nil => exact ⟨call, pending, rfl, id⟩
  | cons locker rest ih =>
      obtain ⟨middle, here, same, uncut⟩ :=
        sound.call_of_release pending (fun _ => outside locker (by simp))
      obtain ⟨sameLocker, _⟩ := Event.lock.inj same
      obtain ⟨next, found, request, stillUncut⟩ := ih (sound.step _) here
        (fun locker member => by rw [sameLocker]; exact outside locker (by simp [member]))
      exact ⟨next, found, request.trans same, fun line => stillUncut (uncut line)⟩

/-- A request that does not wait any more, and was not dropped, has been granted. -/
theorem Sound.call_eq (sound : service.Sound) (soundOther : other.Sound)
    (same : service.ledger = other.ledger) (pending : service.calls[ticket]? = some call)
    (found : other.calls[ticket]? = some next) (request : next.request = call.request)
    (uncut : call.line ≠ Line.fresh.cut) (uncutNext : next.line ≠ Line.fresh.cut) :
    next = call := by
  refine Call.eq_of_request_eq request ?_
  have resource : other.ledger.resource call.key =
      (service.ledger.resource call.key).renumbered id := by
    rw [same, renumbered_id]
  have waits := sound.fresh_iff_of_renumbered soundOther resource pending found request
  cases sound.fate ticket call pending with
  | waiting fresh => rw [fresh, waits.mpr fresh]
  | dropped cut => exact absurd cut uncut
  | granted signalled =>
      cases soundOther.fate ticket next found with
      | waiting fresh => rw [fresh, waits.mp fresh]
      | granted alsoSignalled => rw [signalled, alsoSignalled]
      | dropped cut => exact absurd cut uncutNext

theorem Sound.calls_of_parted (sound : service.Sound)
    (pending : service.calls[ticket]? = some call) {others : List Locker}
    (same : lockers.Perm others) (outside : ∀ locker ∈ lockers, locker.id ≠ call.locker.id) :
    (service.run (lockers.map .release)).2.calls[ticket]? =
      (service.run (others.map .release)).2.calls[ticket]? := by
  obtain ⟨left, leftFound, leftRequest, leftUncut⟩ := sound.call_of_releases pending outside
  obtain ⟨right, rightFound, rightRequest, rightUncut⟩ := sound.call_of_releases pending
    (fun locker member => outside locker (same.mem_iff.mpr member))
  rw [leftFound, rightFound]
  by_cases line : call.line = .fresh
  · have uncut : call.line ≠ Line.fresh.cut := by
      rw [line]
      decide
    have ledger := (sound.parted lockers).unique sound.ledger (sound.parted others) (same.map _)
    rw [(sound.run _).call_eq (sound.run _) ledger leftFound rightFound
      (rightRequest.trans leftRequest.symm) (leftUncut uncut) (rightUncut uncut)]
  · rw [sound.eq_of_heard pending line leftFound, sound.eq_of_heard pending line rightFound]

theorem Sound.releases_ok (sound : service.Sound) (distinct : (lockers.map (·.id)).Nodup)
    (present : ∀ locker ∈ lockers, service.ledger.isReleased locker.id = false) :
    ∀ answer ∈ (service.run (lockers.map .release)).1, answer = .released .ok := by
  induction lockers generalizing service with
  | nil => simp [Service.run]
  | cons locker rest ih =>
      obtain ⟨once, distinct⟩ := List.nodup_cons.mp distinct
      intro answer member
      simp only [List.map_cons, Service.run] at member
      rcases List.mem_cons.mp member with rfl | member
      · exact sound.released_ok (present locker (by simp))
      · refine ih (sound.step _) distinct (fun other later => ?_) answer member
        rw [← Bool.not_eq_true, (sound.flagged _).released]
        rintro (gone | ⟨released, made, same⟩)
        · rw [present other (by simp [later])] at gone
          contradiction
        · obtain rfl := Event.release.inj made
          exact once (List.mem_map.mpr ⟨other, later, same.symm⟩)

/-- Lockers can be released in any order. -/
structure ReleasesCommute (service : Service) : Prop where
  /-- The order in which a locker visits its keys makes no difference at all. -/
  visits : ∀ schedule, service.Visits schedule →
    service.releaseAll schedule = service.run (schedule.map fun visit => .release visit.1)
  succeed : ∀ schedule, service.Visits schedule → (schedule.map (·.1.id)).Nodup →
    (∀ visit ∈ schedule, service.ledger.isReleased visit.1.id = false) →
      ∀ answer ∈ (service.releaseAll schedule).1, answer = .released .ok
  /-- The order in which lockers are released makes none to what is held and waited for afterwards,
  and to what is known of lockers. -/
  ledger : ∀ first second, service.Visits first → service.Visits second →
    (first.map (·.1)).Perm (second.map (·.1)) →
      (service.releaseAll first).2.ledger = (service.releaseAll second).2.ledger
  /-- Nor to what has become of the requests of other lockers. -/
  calls : ∀ first second, service.Visits first → service.Visits second →
    (first.map (·.1)).Perm (second.map (·.1)) → ∀ (ticket : Ticket) (call : Call),
      service.calls[ticket]? = some call → (∀ visit ∈ first, visit.1.id ≠ call.locker.id) →
        (service.releaseAll first).2.calls[ticket]? = (service.releaseAll second).2.calls[ticket]?

/-- In every run, releases that follow one another could have come in any other order. -/
theorem releases_commute (options : Ledger.Options) (events : List Event) :
    ((start options).run events).2.ReleasesCommute := by
  have sound := run_sound options events
  have events (schedule : List (Locker × List Key)) :
      schedule.map (fun visit => Event.release visit.1) = (schedule.map (·.1)).map .release := by
    simp
  refine ⟨?_, ?_, ?_, ?_⟩
  · intro schedule visits
    exact sound.releaseAll_eq_run visits
  · intro schedule visits distinct present
    rw [sound.releaseAll_eq_run visits, events]
    refine sound.releases_ok (by rwa [List.map_map]) (fun locker member => ?_)
    obtain ⟨visit, scheduled, rfl⟩ := List.mem_map.mp member
    exact present visit scheduled
  · intro first second visits others same
    rw [sound.releaseAll_eq_run visits, sound.releaseAll_eq_run others, events, events]
    exact (sound.parted _).unique sound.ledger (sound.parted _) (same.map _)
  · intro first second visits others same ticket call pending outside
    rw [sound.releaseAll_eq_run visits, sound.releaseAll_eq_run others, events, events]
    refine sound.calls_of_parted pending same (fun locker member => ?_)
    obtain ⟨visit, scheduled, rfl⟩ := List.mem_map.mp member
    exact outside visit scheduled

end Service

end Locking
