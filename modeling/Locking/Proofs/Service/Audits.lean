import Locking.Proofs.Ledger.Muted
import Locking.Proofs.Ledger.Visits
import Locking.Proofs.Service.Run

namespace Locking.Service

/-!
Audits of a running service find nothing wrong, so that it makes no difference whether they are
made. They do find an entry with nothing in it, but only where a locker is released that was alone
there: such an entry is audited before it is given up.
-/

open Resource

def giveUpAudits (service : Service) (ticket : Ticket) : List Ledger.Audit :=
  match service.calls[ticket]? with
  | none => []
  | some call =>
      if service.hasFired call.handle then
        service.ledger.withdrawAudits service.listening call.locker.id call.key
      else []

/-- The audits that come with an event, if it takes its effect. -/
def audits (service : Service) : Event → List Ledger.Audit
  | .lock locker key level _ => service.ledger.lockAudits locker key level service.nextTicket
  | .giveUp ticket => service.giveUpAudits ticket
  | .release locker =>
      service.ledger.releaseAudits service.listening locker (service.ledger.keysOf locker.id)
  | .wake _ | .close | .cancellation _ => []

/-- A release that visits the keys of its locker in the order given. -/
def releaseVisiting (service : Service) (locker : Locker) (keys : List Key) : Answer × Service :=
  let (outcome, ledger, notices) := service.ledger.releaseVisiting service.listening locker keys
  (.released (.ofExcept outcome), ({ service with ledger } : Service).notifyAll notices)

def muted (service : Service) : Service :=
  { service with ledger := service.ledger.muted }

variable {service : Service} {ticket : Ticket} {call : Call} {event : Event} {locker : Locker}
  {keys : List Key} {audit : Ledger.Audit}

/-! Which audits are made. -/

theorem lock_audited (service : Service) (locker : Locker) (key : Key) (level : Level)
    (handle : Handle) :
    Ledger.Audited service.ledger (service.audits (.lock locker key level handle))
      (service.lock locker key level handle).2.ledger := by
  have audited := service.ledger.lock_audited locker key level service.nextTicket
  unfold lock
  dsimp only
  generalize service.ledger.lock locker key level service.nextTicket = result at audited ⊢
  obtain ⟨reply, after⟩ := result
  cases reply with
  | error refusal => exact audited
  | ok reply => cases reply <;> exact audited

theorem abandon_audited (service : Service) (ticket : Ticket) (call : Call) :
    Ledger.Audited service.ledger [] (service.abandon ticket call).2.ledger :=
  service.ledger.abandon_audited call.locker call.key

theorem wake_audited (service : Service) (ticket : Ticket) :
    Ledger.Audited service.ledger [] (service.wake ticket).2.ledger := by
  unfold wake
  split
  · exact .refl _
  · split
    · exact .refl _
    · exact service.abandon_audited ticket _
    · exact .refl _

theorem giveUp_audited (service : Service) (ticket : Ticket) :
    Ledger.Audited service.ledger (service.giveUpAudits ticket)
      (service.giveUp ticket).2.ledger := by
  unfold giveUp giveUpAudits
  cases service.calls[ticket]? with
  | none => exact .refl _
  | some call =>
      dsimp only
      cases service.hasFired call.handle with
      | false => exact .refl _
      | true =>
          simp only [if_true]
          cases taken : service.ledger.withdraw? service.listening call.locker.id call.key with
          | some result =>
              simp only [finish, ledger_notifyAll]
              exact Ledger.withdraw?_audited taken
          | none =>
              rw [Ledger.withdrawAudits_of_none taken]
              dsimp only
              split
              · exact .refl _
              · exact service.abandon_audited ticket call
              · exact service.abandon_audited ticket call

theorem act_audited (service : Service) (event : Event) :
    Ledger.Audited service.ledger (service.audits event) (service.act event).2.ledger := by
  cases event with
  | lock locker key level handle => exact service.lock_audited locker key level handle
  | wake ticket => exact service.wake_audited ticket
  | giveUp ticket => exact service.giveUp_audited ticket
  | release locker =>
      rw [act, ledger_release]
      exact service.ledger.release_audited service.listening locker _
  | close =>
      rw [act, ledger_close]
      exact service.ledger.close_audited
  | cancellation step => exact .refl _

/-! What they find. -/

theorem Sound.audits_pass (sound : service.Sound) (made : audit ∈ service.audits event) :
    audit.Passes (service.act event).2.ledger := by
  have tidy := sound.ledger.toTidy
  cases event with
  | lock locker key level handle => exact .of_tidy (tidy.lock_audits_tidy made) _
  | wake ticket => contradiction
  | giveUp ticket =>
      simp only [audits, giveUpAudits] at made
      split at made
      · contradiction
      · rename_i call pending
        split at made
        · rename_i fired
          cases taken : service.ledger.withdraw? service.listening call.locker.id call.key with
          | none =>
              rw [Ledger.withdrawAudits_of_none taken] at made
              contradiction
          | some result =>
              have ledger : (service.giveUp ticket).2.ledger = result.1 := by
                simp [Service.giveUp, pending, fired, taken, Service.finish]
              rw [Service.act, ledger]
              exact sound.ledger.withdraw_passes taken made
        · contradiction
  | release locker =>
      rw [Service.act, ledger_release]
      exact tidy.release_passes (service.ledger.keysOf_nodup locker.id) made
  | close => contradiction
  | cancellation step => contradiction

/-- An audit finds an entry with nothing in it exactly if the event is the release of a locker that
was alone there. -/
theorem Sound.audits_findVacant_iff (sound : service.Sound) (event : Event) (other : Key) :
    (∃ audit ∈ service.audits event, audit.FindsVacant other) ↔
      ∃ locker, event = .release locker ∧ service.ledger.Alone locker.id other := by
  have tidy := sound.ledger.toTidy
  cases event with
  | lock locker key level handle =>
      have occupied : ∀ audit ∈ service.audits (.lock locker key level handle),
          ¬ audit.FindsVacant other :=
        fun audit made => (tidy.lock_audits_tidy made).not_findsVacant other
      simpa using occupied
  | giveUp ticket =>
      have occupied : ∀ audit ∈ service.audits (.giveUp ticket), ¬ audit.FindsVacant other := by
        intro audit made
        simp only [audits, giveUpAudits] at made
        split at made
        · contradiction
        · split at made
          · exact tidy.withdrawAudits_occupied made other
          · contradiction
      simpa using occupied
  | release locker =>
      simpa [audits] using
        sound.ledger.releaseAudits_findVacant_iff (.refl _) fun key => sound.heard
  | wake ticket => simp [audits]
  | close => simp [audits]
  | cancellation step => simp [audits]

theorem Sound.releaseVisiting_perm (sound : service.Sound)
    (visits : keys.Perm (service.ledger.keysOf locker.id)) :
    service.releaseVisiting locker keys = service.release locker := by
  obtain ⟨outcome, after, notices⟩ :=
    sound.ledger.releaseVisiting_perm service.listening visits
  simp only [Service.releaseVisiting, Service.release, outcome, after, notifyAll_perm notices]

theorem act_unbreached (service : Service) (event : Event) (message : String) :
    (service.act event).1 ≠ .breached message := by
  cases event with
  | lock locker key level handle =>
      simp only [act, lock]
      split <;> simp
  | wake ticket =>
      simp only [act, wake, finish, abandon]
      split
      · simp
      · split <;> simp
  | giveUp ticket =>
      simp only [act, giveUp, finish, abandon]
      split
      · simp
      · split
        · split
          · simp
          · split <;> simp
        · simp
  | release locker => simp [act, release]
  | close => simp [act, close]
  | cancellation step => simp [act, cancellation]

/-! Without them. -/

@[simp] theorem ledger_muted (service : Service) :
    service.muted.ledger = service.ledger.muted := rfl

@[simp] theorem calls_muted (service : Service) : service.muted.calls = service.calls := rfl

@[simp] theorem nextTicket_muted (service : Service) :
    service.muted.nextTicket = service.nextTicket := rfl

@[simp] theorem hasFired_muted (service : Service) (handle : Handle) :
    service.muted.hasFired handle = service.hasFired handle := rfl

@[simp] theorem listening_muted (service : Service) : service.muted.listening = service.listening :=
  rfl

theorem notifyAll_muted (service : Service) (notices : List Notice) :
    service.muted.notifyAll notices = (service.notifyAll notices).muted := by
  induction notices generalizing service with
  | nil => rfl
  | cons notice rest ih => exact ih (service.notify notice)

theorem lock_muted (service : Service) (locker : Locker) (key : Key) (level : Level)
    (handle : Handle) :
    service.muted.lock locker key level handle =
      ((service.lock locker key level handle).1,
        (service.lock locker key level handle).2.muted) := by
  simp only [lock, ledger_muted, nextTicket_muted, Ledger.lock_muted]
  generalize service.ledger.lock locker key level service.nextTicket = result
  obtain ⟨reply, after⟩ := result
  cases reply with
  | error refusal => rfl
  | ok reply => cases reply <;> rfl

theorem abandon_muted (service : Service) (ticket : Ticket) (call : Call) :
    service.muted.abandon ticket call =
      ((service.abandon ticket call).1, (service.abandon ticket call).2.muted) := by
  simp only [abandon, ledger_muted, Ledger.abandon_muted]
  rfl

theorem wake_muted (service : Service) (ticket : Ticket) :
    service.muted.wake ticket = ((service.wake ticket).1, (service.wake ticket).2.muted) := by
  simp only [wake, calls_muted, abandon_muted]
  cases service.calls[ticket]? with
  | none => rfl
  | some call =>
      dsimp only
      cases call.line.poll.1 <;> rfl

theorem giveUp_muted (service : Service) (ticket : Ticket) :
    service.muted.giveUp ticket =
      ((service.giveUp ticket).1, (service.giveUp ticket).2.muted) := by
  simp only [giveUp, calls_muted, hasFired_muted, ledger_muted, listening_muted,
    Ledger.withdraw?_muted, abandon_muted]
  cases service.calls[ticket]? with
  | none => rfl
  | some call =>
      dsimp only
      by_cases fired : service.hasFired call.handle = true
      case neg => simp only [fired, Bool.false_eq_true, if_false]
      simp only [fired, if_true]
      cases service.ledger.withdraw? service.listening call.locker.id call.key with
      | none =>
          dsimp only [Option.map_none]
          cases call.line.poll.1 <;> rfl
      | some result =>
          have told := notifyAll_muted { service with ledger := result.1 } result.2
          exact congrArg (fun after =>
            after.finish ticket (.refused (.cancelled call.key))) told

theorem act_muted (service : Service) (event : Event) :
    service.muted.act event = ((service.act event).1, (service.act event).2.muted) := by
  cases event with
  | lock locker key level handle => exact service.lock_muted locker key level handle
  | wake ticket => exact service.wake_muted ticket
  | giveUp ticket => exact service.giveUp_muted ticket
  | release locker =>
      simp only [act, release, ledger_muted, listening_muted, Ledger.release_muted]
      exact congrArg (Prod.mk _) (notifyAll_muted { service with ledger := _ } _)
  | close =>
      simp only [act, close, ledger_muted, Ledger.close_muted]
      exact congrArg (Prod.mk _) (notifyAll_muted { service with ledger := _ } _)
  | cancellation step => rfl

/-- Services that differ in nothing but their audits answer every run the same. -/
theorem Sound.run_eq_of_muted_eq {first second : Service} (one : first.Sound)
    (other : second.Sound) (same : first.muted = second.muted) (events : List Event) :
    (first.run events).1 = (second.run events).1 ∧
      (first.run events).2.muted = (second.run events).2.muted := by
  induction events generalizing first second with
  | nil => exact ⟨rfl, same⟩
  | cons event rest ih =>
      have acts : ((first.step event).1, (first.step event).2.muted) =
          ((second.step event).1, (second.step event).2.muted) := by
        rw [one.step_eq, other.step_eq, ← act_muted, ← act_muted, same]
      obtain ⟨answer, after⟩ := Prod.mk.inj acts
      obtain ⟨answers, final⟩ := ih (one.step event) (other.step event) after
      simp only [Service.run]
      exact ⟨by rw [answer, answers], final⟩

/-- Audits find nothing wrong in this service, nor on the way to any that follows it. -/
structure AuditsPass (service : Service) : Prop where
  stored : ∀ (key : Key) (resource : Resource), service.ledger.resources[key]? = some resource →
    resource.breach? = none ∧ resource.isVacant = false
  audits : ∀ event, ∀ audit ∈ service.audits event, audit.Passes (service.step event).2.ledger
  /-- Only the release of a locker that was alone with a resource has its entry audited when nothing
  is left in it. -/
  vacant : ∀ (event : Event) (key : Key),
    (∃ audit ∈ service.audits event, audit.FindsVacant key) ↔
      ∃ locker, event = .release locker ∧ service.ledger.Alone locker.id key
  /-- The keys of a locker can be visited in any order. -/
  visits : ∀ (locker : Locker) (keys : List Key), keys.Perm (service.ledger.keysOf locker.id) →
    service.releaseVisiting locker keys = service.release locker ∧
      (∀ audit ∈ service.ledger.releaseAudits service.listening locker keys,
        audit.Passes (service.release locker).2.ledger) ∧
      ∀ key, (∃ audit ∈ service.ledger.releaseAudits service.listening locker keys,
        audit.FindsVacant key) ↔ service.ledger.Alone locker.id key
  unbreached : ∀ event message, (service.step event).1 ≠ .breached message

/-- No audit ever fails. To pass, a resource must be orderly, and if there are waiters a holder must
keep the first of them waiting; the alarm of an event comes from its audits and nothing else; they
pass in every run, and between events every entry has something in it; and the answers of a run do
not depend on whether audits are made. -/
theorem audits_pass_in_every_run :
    (∀ resource : Resource, resource.breach? = none ↔
      resource.Orderly ∧ ∀ head rest, resource.queue = head :: rest →
        ∃ holding ∈ resource.holdings, holding.level.compatible head.level = false) ∧
    (∀ (service : Service) (event : Event),
      Ledger.Audited service.ledger (service.audits event) (service.act event).2.ledger) ∧
    (∀ options events, ((start options).run events).2.AuditsPass) ∧
    ∀ first second events, ((start first).run events).1 = ((start second).run events).1 ∧
      ((start first).run events).2.muted = ((start second).run events).2.muted := by
  refine ⟨fun resource => breach?_eq_none_iff.trans (and_congr_right' settled_iff), act_audited,
    ?_, ?_⟩
  · intro options events
    have sound := run_sound options events
    have tidy := sound.ledger.toTidy
    refine ⟨tidy.passes, ?_, ?_, ?_, ?_⟩
    · intro event audit made
      rw [sound.step_eq]
      exact sound.audits_pass made
    · exact sound.audits_findVacant_iff
    · intro locker keys visits
      refine ⟨sound.releaseVisiting_perm visits, fun audit made => ?_,
        fun key => sound.ledger.releaseAudits_findVacant_iff visits fun key => sound.heard⟩
      have distinct := visits.symm.nodup (Ledger.keysOf_nodup _ _)
      rw [ledger_release, ← (sound.ledger.releaseVisiting_perm _ visits).2.1]
      exact tidy.release_passes distinct made
    · intro event message
      rw [sound.step_eq]
      exact act_unbreached _ event message
  · intro first second events
    exact (start_sound first).run_eq_of_muted_eq (start_sound second) rfl events

/-- It does happen that an audit finds an entry with nothing in it, as here, where the only holder of
a lock is released. -/
theorem vacant_entry_audited_on_release :
    (∃ audit ∈ ((start .standard).run [.lock ⟨1, "writer"⟩ "users" .exclusive .never]).2.audits
        (.release ⟨1, "writer"⟩), ∃ resource,
      audit.ledger.resources["users"]? = some resource ∧ resource.isVacant = true) ∧
    ¬ ∀ (options : Ledger.Options) (events : List Event) (event : Event),
      ∀ audit ∈ ((start options).run events).2.audits event, ∀ (key : Key) (resource : Resource),
        audit.ledger.resources[key]? = some resource →
          resource.breach? = none ∧ resource.isVacant = false := by
  have alone : ((start .standard).run
      [.lock ⟨1, "writer"⟩ "users" .exclusive .never]).2.ledger.Alone 1 "users" := by
    have held : ((start .standard).run
        [.lock ⟨1, "writer"⟩ "users" .exclusive .never]).2.ledger.resource "users" =
      ⟨[⟨⟨1, "writer"⟩, .exclusive⟩], []⟩ := rfl
    simp [Ledger.Alone, held, Involves, eq_comm]
  obtain ⟨audit, made, resource, stored, empty⟩ :=
    ((run_sound .standard _).audits_findVacant_iff (.release ⟨1, "writer"⟩) "users").mpr
      ⟨_, rfl, alone⟩
  refine ⟨⟨audit, made, resource, stored, empty⟩, fun claimed => ?_⟩
  have occupied := (claimed .standard _ _ audit made "users" resource stored).2
  rw [empty] at occupied
  contradiction

end Locking.Service
