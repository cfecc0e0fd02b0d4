import Locking.Proofs.Service.Order
import Mathlib.Data.Set.Finite.List
import Mathlib.Data.String.Basic
import Mathlib.Order.Preorder.Finite
import Mathlib.Order.RelClasses

namespace Locking.Service

open Resource

/-!
Lockers that acquire in order never block each other for good. Somebody who does not wait is always
in the way of those who do, and if such lockers leave one after another, in whatever order, all
others get what they wait for.
-/

/-- The locker holds something and waits for nothing. -/
def Free (service : Service) (id : LockerId) : Prop :=
  (∃ key, service.Holds id key) ∧ ∀ key, ¬ service.Awaits id key

/-- These lockers can leave one after another, each of them free when its turn comes. -/
def Drains (service : Service) : List Locker → Prop
  | [] => True
  | locker :: rest => service.Free locker.id ∧ (service.step (.release locker)).2.Drains rest

def drained (service : Service) (lockers : List Locker) : Service :=
  (service.run (lockers.map .release)).2

variable {precedes : Key → Key → Prop} {service : Service} {id : LockerId} {key : Key}
  {locker : Locker} {ticket : Ticket} {call : Call} {lockers : List Locker}

theorem drains_append (first second : List Locker) :
    service.Drains (first ++ second) ↔
      service.Drains first ∧ (service.drained first).Drains second := by
  induction first generalizing service with
  | nil => simp [Drains, drained, run]
  | cons locker rest ih =>
      simp only [List.cons_append, Drains, ih, and_assoc]
      rfl

theorem Sound.drained (sound : service.Sound) (lockers : List Locker) :
    (service.drained lockers).Sound :=
  sound.run _

/-! Who is in the way. -/

theorem finite_waited_for (ledger : Ledger) :
    {key | (ledger.resource key).queue ≠ []}.Finite := by
  refine (List.finite_toSet ledger.resources.keys).subset (fun key waited => ?_)
  cases stored : ledger.resources[key]? with
  | none =>
      rw [Set.mem_ofPred_eq, Ledger.resource_of_no_entry stored] at waited
      exact absurd rfl waited
  | some resource =>
      refine Std.ExtTreeMap.mem_keys.mpr (Std.ExtTreeMap.mem_iff_isSome_getElem?.mpr ?_)
      rw [stored]
      rfl

theorem exists_last {α : Type} (precedes : α → α → Prop) [IsStrictOrder α precedes] {set : Set α}
    (finite : set.Finite) (nonempty : set.Nonempty) :
    ∃ last ∈ set, ∀ other ∈ set, ¬ precedes last other := by
  let order := partialOrderOfSO precedes
  obtain ⟨last, member, maximal⟩ := finite.exists_maximal nonempty
  refine ⟨last, member, fun other otherMember later => ?_⟩
  rcases maximal otherMember (.inr later) with same | earlier
  · exact irrefl_of precedes last (same ▸ later)
  · exact irrefl_of precedes last (trans_of precedes later earlier)

/-- The last key that is waited for is blocked by somebody who does not wait: it could wait only for
a later key. -/
theorem Ordered.exists_blocker [IsStrictOrder Key precedes] (ordered : service.Ordered precedes)
    (sound : service.Sound) (waited : (service.ledger.resource key).queue ≠ []) :
    ∃ last, ∃ head ∈ (service.ledger.resource last).queue.head?,
      ∃ holding ∈ (service.ledger.resource last).holdings,
        holding.level.compatible head.level = false ∧
        service.ledger.isReleased holding.locker.id = false ∧
        ∀ other, ¬ service.Awaits holding.locker.id other := by
  obtain ⟨last, nonempty, latest⟩ :=
    exists_last precedes (finite_waited_for service.ledger) ⟨key, waited⟩
  obtain ⟨head, rest, queue⟩ := List.exists_cons_of_ne_nil nonempty
  have first : head ∈ (service.ledger.resource last).queue.head? := by simp [queue]
  obtain ⟨holding, member, blocks⟩ :=
    admits_eq_false_iff.mp (sound.ledger.settled last head first)
  refine ⟨last, head, first, holding, member, blocks, ?_, ?_⟩
  · exact sound.ledger.present_of_involves (.inl ⟨holding, member, rfl⟩)
  · intro other waits
    obtain ⟨waiter, queued, owner⟩ := waits
    have later := ordered.ascending last other holding member waiter queued owner.symm
    exact latest other (List.ne_nil_of_mem queued) later

theorem Ordered.exists_free [IsStrictOrder Key precedes] (ordered : service.Ordered precedes)
    (sound : service.Sound) (occupied : service.ledger.resources ≠ ∅) :
    ∃ locker : Locker, service.Free locker.id := by
  by_cases idle : ∀ key, (service.ledger.resource key).queue = []
  · obtain ⟨key, present⟩ : ∃ key, key ∈ service.ledger.resources := by
      by_contra nothing
      push Not at nothing
      exact occupied (Std.ExtTreeMap.eq_empty_iff_forall_not_mem.mpr nothing)
    obtain ⟨resource, stored⟩ :=
      Option.isSome_iff_exists.mp (Std.ExtTreeMap.mem_iff_isSome_getElem?.mp present)
    have filled := sound.ledger.occupied key resource stored
    have same := Ledger.resource_of_entry stored
    have nobody : resource.queue = [] := same ▸ idle key
    have held : resource.holdings ≠ [] := by
      intro empty
      simp [isVacant, empty, nobody] at filled
    obtain ⟨holding, member⟩ := List.exists_mem_of_ne_nil _ held
    refine ⟨holding.locker, ⟨key, holding, same ▸ member, rfl⟩, ?_⟩
    intro other waits
    obtain ⟨waiter, queued, _⟩ := waits
    rw [idle other] at queued
    contradiction
  · obtain ⟨key, waited⟩ := not_forall.mp idle
    obtain ⟨last, _, _, holding, member, _, _, waitless⟩ := ordered.exists_blocker sound waited
    exact ⟨holding.locker, ⟨last, holding, member, rfl⟩, waitless⟩

/-! Leaving. -/

theorem Sound.release_of_free (sound : service.Sound) (free : service.Free locker.id) :
    ∃ after notices, service.step (.release locker) =
        (.released .ok, ({ service with ledger := after } : Service).notifyAll notices) ∧
      Ledger.Released service.listening locker.id service.ledger after notices := by
  have present : service.ledger.isReleased locker.id = false := by
    obtain ⟨⟨key, holding, member, owner⟩, _⟩ := free
    exact sound.ledger.present_of_involves (.inl ⟨holding, member, owner⟩)
  obtain ⟨after, notices, result, released⟩ := sound.release_of_present present
  exact ⟨after, notices, (sound.step_eq _).trans result, released⟩

theorem Sound.drain_answers (sound : service.Sound) (drains : service.Drains lockers) :
    ∀ answer ∈ (service.run (lockers.map .release)).1, answer = .released .ok := by
  induction lockers generalizing service with
  | nil => simp [Service.run]
  | cons locker rest ih =>
      obtain ⟨free, later⟩ := drains
      obtain ⟨after, notices, result, _⟩ := sound.release_of_free free
      intro answer member
      simp only [List.map_cons, Service.run] at member
      rcases List.mem_cons.mp member with rfl | member
      · rw [result]
      · exact ih (sound.step _) later answer member

theorem Sound.involves_of_release (sound : service.Sound) (free : service.Free locker.id)
    (involved : ((service.step (.release locker)).2.ledger.resource key).Involves id) :
    id ≠ locker.id ∧ (service.ledger.resource key).Involves id := by
  obtain ⟨after, notices, result, released⟩ := sound.release_of_free free
  rw [result, ledger_notifyAll, released.everywhere] at involved
  exact involves_of_leave (sound.ledger.orderly key) involved

/-- Nobody leaves who was not there, and nobody leaves twice. -/
theorem Sound.drain_involves (sound : service.Sound) (drains : service.Drains lockers) :
    (lockers.map (·.id)).Nodup ∧
      ∀ locker ∈ lockers, ∃ key, (service.ledger.resource key).Involves locker.id := by
  induction lockers generalizing service with
  | nil => simp
  | cons locker rest ih =>
      obtain ⟨free, later⟩ := drains
      obtain ⟨distinct, present⟩ := ih (sound.step _) later
      refine ⟨List.nodup_cons.mpr ⟨?_, distinct⟩, ?_⟩
      · intro again
        obtain ⟨other, member, same⟩ := List.mem_map.mp again
        obtain ⟨key, involved⟩ := present other member
        exact (sound.involves_of_release free involved).1 same
      · intro other member
        rcases List.mem_cons.mp member with rfl | member
        · obtain ⟨⟨key, holds⟩, _⟩ := free
          exact ⟨key, .inl holds⟩
        · obtain ⟨key, involved⟩ := present other member
          exact ⟨key, (sound.involves_of_release free involved).2⟩

theorem Sound.known (sound : service.Sound) (involved : (service.ledger.resource key).Involves id) :
    id ∈ service.ledger.lockers := by
  by_contra unknown
  have listed := sound.ledger.listed key id involved
  rw [Ledger.standing, Std.ExtTreeMap.getElem?_eq_none unknown] at listed
  simp [Standing.fresh] at listed

theorem Sound.drain_length (sound : service.Sound) (drains : service.Drains lockers) :
    lockers.length ≤ service.ledger.lockers.size := by
  obtain ⟨distinct, present⟩ := sound.drain_involves drains
  rw [← List.length_map (f := (·.id)), ← Std.ExtTreeMap.length_keys]
  refine distinct.length_le_of_subset (fun id left => ?_)
  obtain ⟨locker, member, rfl⟩ := List.mem_map.mp left
  obtain ⟨key, involved⟩ := present locker member
  exact Std.ExtTreeMap.mem_keys.mpr (sound.known involved)

theorem Ordered.drained (ordered : service.Ordered precedes) (sound : service.Sound)
    (lockers : List Locker) : (service.drained lockers).Ordered precedes := by
  induction lockers generalizing service with
  | nil => exact ordered
  | cons locker rest ih =>
      have next : (service.step (.release locker)).2.Ordered precedes :=
        ordered.step sound (fun call made => by simp [Call.request] at made)
      exact ih next (sound.step (.release locker))

/-- Lockers can go on leaving until the table is empty. -/
theorem Ordered.drain_completes [IsStrictOrder Key precedes] (ordered : service.Ordered precedes)
    (sound : service.Sound) (drains : service.Drains lockers) :
    ∃ more, service.Drains (lockers ++ more) ∧
      (service.drained (lockers ++ more)).ledger.resources = ∅ := by
  obtain ⟨left, bound⟩ : ∃ left, service.ledger.lockers.size ≤ lockers.length + left :=
    ⟨_, Nat.le_add_left _ _⟩
  induction left generalizing lockers with
  | zero =>
      refine ⟨[], by simpa using drains, ?_⟩
      by_contra occupied
      rw [List.append_nil] at occupied
      obtain ⟨locker, free⟩ :=
        (ordered.drained sound lockers).exists_free (sound.drained lockers) occupied
      have further := sound.drain_length
        ((drains_append lockers [locker]).mpr ⟨drains, free, trivial⟩)
      rw [List.length_append, List.length_singleton] at further
      omega
  | succ left ih =>
      by_cases empty : (service.drained lockers).ledger.resources = ∅
      · exact ⟨[], by simpa using drains, by simpa using empty⟩
      · obtain ⟨locker, free⟩ :=
          (ordered.drained sound lockers).exists_free (sound.drained lockers) empty
        have further : service.Drains (lockers ++ [locker]) :=
          (drains_append lockers [locker]).mpr ⟨drains, free, trivial⟩
        obtain ⟨more, complete, empty⟩ := ih further (by simp; omega)
        exact ⟨locker :: more, by simpa using complete, by simpa using empty⟩

/-! What becomes of those who wait. -/

variable {waiter : Waiter}

theorem Sound.stays_or_granted (sound : service.Sound) (free : service.Free locker.id)
    (queued : waiter ∈ (service.ledger.resource key).queue) :
    waiter ∈ ((service.step (.release locker)).2.ledger.resource key).queue ∨
      waiter.holding ∈ ((service.step (.release locker)).2.ledger.resource key).holdings := by
  obtain ⟨after, notices, result, released⟩ := sound.release_of_free free
  rw [result, ledger_notifyAll, released.everywhere]
  rcases leave_cases (sound.ledger.orderly key) locker.id sound.heard queued with
    ⟨own, _⟩ | ⟨_, _, holds⟩ | ⟨_, stays⟩
  · exact absurd ⟨waiter, queued, own⟩ (free.2 key)
  · exact .inr holds
  · exact .inl stays

theorem Sound.granted_on_the_way (sound : service.Sound) (drains : service.Drains lockers)
    (queued : waiter ∈ (service.ledger.resource key).queue) :
    waiter ∈ ((service.drained lockers).ledger.resource key).queue ∨
      ∃ gone later, lockers = gone ++ later ∧
        waiter.holding ∈ ((service.drained gone).ledger.resource key).holdings := by
  induction lockers generalizing service with
  | nil => exact .inl queued
  | cons locker rest ih =>
      obtain ⟨free, later⟩ := drains
      rcases sound.stays_or_granted free queued with stays | holds
      · rcases ih (sound.step _) later stays with stays | ⟨gone, left, rfl, holds⟩
        · exact .inl stays
        · exact .inr ⟨locker :: gone, left, rfl, holds⟩
      · exact .inr ⟨[locker], rest, rfl, holds⟩

theorem Sound.uncut_of_drains (sound : service.Sound) (drains : service.Drains lockers)
    (pending : service.calls[ticket]? = some call) (line : call.line ≠ Line.fresh.cut) :
    ∃ next, (service.drained lockers).calls[ticket]? = some next ∧
      next.line ≠ Line.fresh.cut := by
  induction lockers generalizing service call with
  | nil => exact ⟨call, pending, line⟩
  | cons locker rest ih =>
      obtain ⟨free, later⟩ := drains
      have other (fresh : call.line = .fresh) : locker.id ≠ call.locker.id := fun own =>
        free.2 call.key ⟨call.waiter ticket, sound.queued_of_fresh pending fresh, own.symm⟩
      obtain ⟨next, found, _, uncut⟩ := sound.call_of_release pending other
      exact ih (sound.step (.release locker)) later found (uncut line)

theorem Sound.wake_of_drained (sound : service.Sound) (drains : service.Drains lockers)
    (empty : (service.drained lockers).ledger.resources = ∅)
    (queued : waiter ∈ (service.ledger.resource key).queue) :
    ((service.drained lockers).step (.wake waiter.ticket)).1 = .returned waiter.ticket .ok := by
  obtain ⟨call, pending, _, fresh, _⟩ := sound.owned key waiter queued
  obtain ⟨next, found, uncut⟩ := sound.uncut_of_drains drains pending (by rw [fresh]; decide)
  rw [(sound.drained lockers).step_eq, Service.act]
  cases (sound.drained lockers).fate _ next found with
  | waiting _ waits => simp [Ledger.resource, empty, vacant] at waits
  | granted signalled =>
      rw [wake_of_granted found signalled]
      rfl
  | dropped cut => exact absurd cut uncut

/-- Nobody is stuck for good, as long as lockers that do not wait leave sooner or later. -/
structure DeadlockFree (service : Service) : Prop where
  /-- Where somebody waits, somebody who does not is in the way of a head of some queue. -/
  blocker : ∀ key, (service.ledger.resource key).queue ≠ [] →
    ∃ blocked, ∃ head ∈ (service.ledger.resource blocked).queue.head?,
      ∃ holding ∈ (service.ledger.resource blocked).holdings,
        holding.level.compatible head.level = false ∧
        service.ledger.isReleased holding.locker.id = false ∧
        ∀ other, ¬ service.Awaits holding.locker.id other
  /-- Free lockers can leave. -/
  answered : ∀ lockers, service.Drains lockers →
    ∀ answer ∈ (service.run (lockers.map .release)).1, answer = .released .ok
  bounded : ∀ lockers, service.Drains lockers →
    lockers.length ≤ service.ledger.lockers.size
  continues : ∀ lockers, service.Drains lockers →
    (service.drained lockers).ledger.resources ≠ ∅ →
      ∃ locker : Locker, (service.drained lockers).Free locker.id
  completes : ∀ lockers, service.Drains lockers → ∃ more,
    service.Drains (lockers ++ more) ∧
      (service.drained (lockers ++ more)).ledger.resources = ∅
  /-- By the time nothing is left, whoever waited at first has been granted its request, and its
  call returns with it. -/
  granted : ∀ lockers, service.Drains lockers →
    (service.drained lockers).ledger.resources = ∅ →
      ∀ key, ∀ waiter ∈ (service.ledger.resource key).queue,
        (∃ gone later, lockers = gone ++ later ∧
          waiter.holding ∈ ((service.drained gone).ledger.resource key).holdings) ∧
        ((service.drained lockers).step (.wake waiter.ticket)).1 = .returned waiter.ticket .ok

/-- Acquisition in order, under any strict order of the keys, keeps lockers from ever blocking each
other for good. -/
theorem deadlock_free_of_disciplined (precedes : Key → Key → Prop) [IsStrictOrder Key precedes]
    (options : Ledger.Options) (events : List Event)
    (disciplined : (start options).Disciplined precedes events) :
    ((start options).run events).2.DeadlockFree := by
  have sound := run_sound options events
  have ordered := (start_ordered precedes options).run (start_sound options) disciplined
  refine ⟨?_, ?_, ?_, ?_, ?_, ?_⟩
  · intro key waited
    exact ordered.exists_blocker sound waited
  · intro lockers drains
    exact sound.drain_answers drains
  · intro lockers drains
    exact sound.drain_length drains
  · intro lockers _ occupied
    exact (ordered.drained sound lockers).exists_free (sound.drained lockers) occupied
  · intro lockers drains
    exact ordered.drain_completes sound drains
  · intro lockers drains empty key waiter queued
    refine ⟨?_, sound.wake_of_drained drains empty queued⟩
    rcases sound.granted_on_the_way drains queued with stays | granted
    · simp [Ledger.resource, empty, vacant] at stays
    · exact granted

/-- A reader that holds one table waits for a writer of a later one. -/
theorem deadlock_free_reader_behind_writer :
    let events : List Event :=
      [.lock ⟨1, "writer"⟩ "users" .exclusive .never, .lock ⟨2, "reader"⟩ "orders" .access .never,
        .lock ⟨2, "reader"⟩ "users" .access .never]
    (start .standard).Disciplined (· < ·) events ∧
      ((start .standard).run events).2.Holds 2 "orders" ∧
      ((start .standard).run events).2.Awaits 2 "users" ∧
      ((start .standard).run events).2.DeadlockFree := by
  intro events
  have disciplined : (start .standard).Disciplined (· < ·) events := by
    refine ⟨⟨.of_no_calls rfl, .inr ?_⟩, ⟨.of_no_calls rfl, .inr ?_⟩, ⟨.of_no_calls rfl, .inr ?_⟩,
      trivial⟩
    · intro held holds
      obtain ⟨holding, member, _⟩ := holds
      simp [start, vacant] at member
    · intro held holds
      obtain ⟨holding, member, owner⟩ := holds
      have resources : ((start .standard).step
          (.lock ⟨1, "writer"⟩ "users" .exclusive .never)).2.ledger.resources =
        Std.ExtTreeMap.insert ∅ "users" ⟨[⟨⟨1, "writer"⟩, .exclusive⟩], []⟩ := rfl
      rw [Ledger.resource, resources, Std.ExtTreeMap.getElem?_insert] at member
      split at member
      · rw [List.mem_singleton.mp member] at owner
        contradiction
      · simp [vacant] at member
    · intro held holds
      obtain ⟨holding, member, owner⟩ := holds
      have resources : (((start .standard).step
          (.lock ⟨1, "writer"⟩ "users" .exclusive .never)).2.step
          (.lock ⟨2, "reader"⟩ "orders" .access .never)).2.ledger.resources =
        (Std.ExtTreeMap.insert ∅ "users" ⟨[⟨⟨1, "writer"⟩, .exclusive⟩], []⟩).insert "orders"
          ⟨[⟨⟨2, "reader"⟩, .access⟩], []⟩ := rfl
      rw [Ledger.resource, resources, Std.ExtTreeMap.getElem?_insert,
        Std.ExtTreeMap.getElem?_insert] at member
      split at member
      · rename_i here
        obtain rfl := Std.LawfulEqOrd.eq_of_compare here
        decide
      · split at member
        · rw [List.mem_singleton.mp member] at owner
          contradiction
        · simp [vacant] at member
  refine ⟨disciplined, ⟨⟨⟨2, "reader"⟩, .access⟩, ?_, rfl⟩, ⟨⟨⟨2, "reader"⟩, .access, 2⟩, ?_, rfl⟩,
    deadlock_free_of_disciplined (· < ·) .standard _ disciplined⟩
  · exact List.mem_singleton.mpr rfl
  · exact List.mem_singleton.mpr rfl

end Locking.Service
