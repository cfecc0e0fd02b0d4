import Locking.Proofs.Cancellation.Agreement
import Locking.Proofs.Service.Change

namespace Locking

/-!
What of a run is seen by those who follow one key: the lock calls for it, what becomes of them, the
firing of their handles, and everything that is for no key in particular. Without the other calls,
fewer calls are numbered.
-/

/-- The handle of a lock call for this key. -/
def Event.handleFor? (key : Key) : Event → Option Handle
  | .lock _ asked _ handle => if asked = key then some handle else none
  | _ => none

def Answer.renumbered (number : Ticket → Ticket) : Answer → Answer
  | .returned ticket outcome => .returned (number ticket) outcome
  | .waiting ticket place => .waiting (number ticket) place
  | answer => answer

theorem Answer.renumbered_of_no_ticket {answer : Answer} (nothing : answer.ticket? = none)
    (number : Ticket → Ticket) : answer.renumbered number = answer := by
  cases answer with
  | returned => contradiction
  | waiting => contradiction
  | released => rfl
  | done => rfl
  | impossible => rfl
  | breached => rfl

/-- What those who follow one key must know of the lock calls of a run. -/
structure View where
  /-- The key that is followed. -/
  key : Key
  /-- The keys that the lock calls of the run are for, by ticket. -/
  keys : List Key
  /-- The handles of those for the key that is followed. -/
  handles : List Handle

namespace View

def of (key : Key) (events : List Event) : View where
  key
  keys := events.filterMap Event.lockKey?
  handles := events.filterMap (Event.handleFor? key)

/-- The number of a call when only the calls for the key are counted. -/
def number (view : View) (ticket : Ticket) : Ticket :=
  (view.keys.take ticket).count view.key

/-- Whether a step does more than to fire a handle that no call for the key has. -/
def heeds (view : View) (board : Board) (step : Board.Step) : Bool :=
  (board.fired? step).all (fun pair => view.handles.contains (.of pair))

/-- An event as it is seen, if it is. -/
def see? (view : View) (board : Board) : Event → Option Event
  | .lock locker key level handle =>
      if key = view.key then some (.lock locker key level handle) else none
  | .wake ticket =>
      if view.keys[ticket]? = some view.key then some (.wake (view.number ticket)) else none
  | .giveUp ticket =>
      if view.keys[ticket]? = some view.key then some (.giveUp (view.number ticket)) else none
  | .cancellation step => if view.heeds board step then some (.cancellation step) else none
  | event => some event

/-- What is seen of a run, with the answers. -/
def watch (view : View) (board : Board) : List (Event × Answer) → List (Event × Answer)
  | [] => []
  | (event, answer) :: rest =>
      let later := view.watch (event.onBoard board) rest
      match view.see? board event with
      | some seen => (seen, answer.renumbered view.number) :: later
      | none => later

/-- The event is one of the run that the view is of, in its place. -/
structure Expects (view : View) (next : Ticket) (event : Event) : Prop where
  key : ∀ asked ∈ event.lockKey?, view.keys[next]? = some asked
  handle : ∀ handle ∈ event.handleFor? view.key, handle ∈ view.handles

/-- These events follow one another in the run that the view is of. -/
structure ExpectsAll (view : View) (next : Ticket) (events : List Event) : Prop where
  keys : events.filterMap Event.lockKey? <+: view.keys.drop next
  handles : ∀ event ∈ events, ∀ handle ∈ event.handleFor? view.key, handle ∈ view.handles

variable {view : View} {key : Key} {ticket first second next : Ticket} {board other : Board}
  {event seen : Event} {events : List Event} {answer : Answer}

@[simp] theorem number_zero (view : View) : view.number 0 = 0 := by
  simp [number]

theorem number_succ (here : view.keys[ticket]? = some key) :
    view.number (ticket + 1) = view.number ticket + if key = view.key then 1 else 0 := by
  simp [number, List.take_add_one, here, List.count_append, List.count_singleton]

theorem number_lt (here : view.keys[first]? = some view.key) (before : first < second) :
    view.number first < view.number second := by
  refine Nat.lt_of_lt_of_le ?_ ((List.take_sublist_take_left before).count_le view.key)
  change view.number first < view.number (first + 1)
  rw [number_succ here, if_pos rfl]
  exact Nat.lt_succ_self _

/-- Calls for the key are still told apart. -/
theorem number_inj (one : view.keys[first]? = some view.key)
    (two : view.keys[second]? = some view.key) :
    view.number first = view.number second ↔ first = second := by
  refine ⟨fun same => ?_, congrArg _⟩
  rcases Nat.lt_trichotomy first second with before | equal | after
  · exact absurd same (Nat.ne_of_lt (number_lt one before))
  · exact equal
  · exact absurd same (Nat.ne_of_gt (number_lt two after))

theorem expectsAll_of (key : Key) (earlier later : List Event) :
    (View.of key (earlier ++ later)).ExpectsAll 0 earlier where
  keys := by simp [of, List.filterMap_append]
  handles event member handle used :=
    List.mem_filterMap.mpr ⟨event, List.mem_append_left _ member, used⟩

theorem ExpectsAll.head (expects : view.ExpectsAll next (event :: events)) :
    view.Expects next event where
  key asked made := by
    obtain ⟨rest, whole⟩ := expects.keys
    rw [List.filterMap_cons_some made] at whole
    rw [← List.head?_drop, ← whole]
    rfl
  handle := expects.handles event (by simp)

theorem ExpectsAll.tail (expects : view.ExpectsAll next (event :: events)) :
    view.ExpectsAll (next + event.lockKey?.toList.length) events where
  keys := by
    obtain ⟨rest, whole⟩ := expects.keys
    cases made : event.lockKey? with
    | none => exact ⟨rest, by rwa [List.filterMap_cons_none made] at whole⟩
    | some asked =>
        rw [List.filterMap_cons_some made] at whole
        exact ⟨rest, by rw [← List.drop_drop, ← whole]; rfl⟩
  handles other member := expects.handles other (List.mem_cons_of_mem _ member)

theorem watch_isPrefix (view : View) (board : Board) {first second : List (Event × Answer)}
    (beginning : first <+: second) : view.watch board first <+: view.watch board second := by
  induction first generalizing board second with
  | nil => exact List.nil_prefix
  | cons entry rest ih =>
      obtain ⟨more, rfl⟩ := beginning
      have later := ih (entry.1.onBoard board) (List.prefix_append rest more)
      simp only [List.cons_append, watch]
      split
      · exact (List.prefix_cons_inj _).mpr later
      · exact later

/-- Whoever does not see an event has nothing to do with it. -/
structure Foreign (view : View) (board : Board) (event : Event) : Prop where
  asked : event.lockKey? ≠ some view.key
  unreleased : ∀ locker, event ≠ .release locker
  unclosed : event ≠ .close
  board : ∀ other, Board.Agree view.handles board other →
    Board.Agree view.handles (event.onBoard board) other

/-- Apart from the numbers of calls, whoever sees an event sees it as it is. -/
structure Alike (event seen : Event) : Prop where
  asked : seen.lockKey? = event.lockKey?
  made : event.lockKey?.isSome → seen = event
  released : ∀ locker, seen = .release locker ↔ event = .release locker
  closed : seen = .close ↔ event = .close
  board : ∀ board, seen.onBoard board = event.onBoard board

theorem foreign_of_hidden (hidden : view.see? board event = none) : view.Foreign board event := by
  cases event with
  | lock locker asked level handle =>
      have different : asked ≠ view.key := by simpa [see?] using hidden
      exact ⟨by simpa [Event.lockKey?] using different, by simp, by simp, fun _ => id⟩
  | wake ticket => exact ⟨by simp [Event.lockKey?], by simp, by simp, fun _ => id⟩
  | giveUp ticket => exact ⟨by simp [Event.lockKey?], by simp, by simp, fun _ => id⟩
  | release locker => contradiction
  | close => contradiction
  | cancellation step =>
      refine ⟨by simp [Event.lockKey?], by simp, by simp, fun _ agree => ?_⟩
      cases fires : board.fired? step with
      | none => simp [see?, heeds, fires] at hidden
      | some pair => exact agree.skip fires (by simpa [see?, heeds, fires] using hidden)

theorem alike_of_seen (kept : view.see? board event = some seen) : Alike event seen := by
  cases event with
  | lock locker asked level handle =>
      obtain ⟨_, same⟩ := Option.ite_none_right_eq_some.mp kept
      obtain rfl := Option.some.inj same
      exact ⟨rfl, fun _ => rfl, by simp, by simp, fun _ => rfl⟩
  | wake ticket =>
      obtain ⟨_, same⟩ := Option.ite_none_right_eq_some.mp kept
      obtain rfl := Option.some.inj same
      exact ⟨rfl, by simp [Event.lockKey?], by simp, by simp, fun _ => rfl⟩
  | giveUp ticket =>
      obtain ⟨_, same⟩ := Option.ite_none_right_eq_some.mp kept
      obtain rfl := Option.some.inj same
      exact ⟨rfl, by simp [Event.lockKey?], by simp, by simp, fun _ => rfl⟩
  | release locker =>
      obtain rfl := Option.some.inj kept
      exact ⟨rfl, fun _ => rfl, by simp, by simp, fun _ => rfl⟩
  | close =>
      obtain rfl := Option.some.inj kept
      exact ⟨rfl, fun _ => rfl, by simp, by simp, fun _ => rfl⟩
  | cancellation step =>
      obtain ⟨_, same⟩ := Option.ite_none_right_eq_some.mp kept
      obtain rfl := Option.some.inj same
      exact ⟨rfl, fun _ => rfl, by simp, by simp, fun _ => rfl⟩

theorem see?_eq_none_iff (expects : view.Expects next event)
    (about : event.ticket? next = some ticket) :
    view.see? board event = none ↔ view.keys[ticket]? ≠ some view.key := by
  cases event with
  | lock locker asked level handle =>
      obtain rfl := Option.some.inj about
      rw [expects.key asked rfl]
      simp [see?]
  | wake other =>
      obtain rfl := Option.some.inj about
      simp [see?]
  | giveUp other =>
      obtain rfl := Option.some.inj about
      simp [see?]
  | release locker => contradiction
  | close => contradiction
  | cancellation step => contradiction

theorem Foreign.number_after (foreign : view.Foreign board event)
    (expects : view.Expects next event) :
    view.number (next + event.lockKey?.toList.length) = view.number next := by
  cases made : event.lockKey? with
  | none => rfl
  | some asked =>
      have different : asked ≠ view.key := fun same => foreign.asked (same ▸ made)
      exact (number_succ (expects.key asked made)).trans (by rw [if_neg different]; rfl)

theorem number_after (kept : view.see? board event = some seen)
    (expects : view.Expects next event) :
    view.number (next + event.lockKey?.toList.length) =
      view.number next + seen.lockKey?.toList.length := by
  rw [(alike_of_seen kept).asked]
  cases event with
  | lock locker asked level handle =>
      obtain ⟨rfl, _⟩ := Option.ite_none_right_eq_some.mp kept
      exact (number_succ (expects.key _ rfl)).trans (by rw [if_pos rfl]; rfl)
  | wake => rfl
  | giveUp => rfl
  | release => rfl
  | close => rfl
  | cancellation => rfl

theorem agree_onBoard (agree : Board.Agree view.handles board other) (event : Event) :
    Board.Agree view.handles (event.onBoard board) (event.onBoard other) := by
  cases event with
  | cancellation step => exact agree.step step
  | lock => exact agree
  | wake => exact agree
  | giveUp => exact agree
  | release => exact agree
  | close => exact agree

variable {asked askedPart : Ticket → Option Event}

/-- An event that is not seen books nothing for the calls that are. -/
theorem book_of_hidden (hidden : view.see? board event = none)
    (expects : view.Expects next event) (answered : event.Answered next answer)
    (shown : view.keys[ticket]? = some view.key) :
    answer.book event asked ticket = asked ticket := by
  have different {about : Ticket} (concerns : event.ticket? next = some about) :
      about ≠ ticket := by
    rintro rfl
    exact (see?_eq_none_iff expects concerns).mp hidden shown
  cases answered with
  | returned about => exact if_neg (different about)
  | waiting made => exact if_neg (different (Event.ticket?_of_lockKey? made))
  | other nothing => exact Answer.book_of_no_ticket nothing

/-- An event that is seen books the same for them. -/
theorem book_of_seen (kept : view.see? board event = some seen)
    (expects : view.Expects next event) (answered : event.Answered next answer)
    (shown : view.keys[ticket]? = some view.key)
    (same : askedPart (view.number ticket) = asked ticket) :
    (answer.renumbered view.number).book seen askedPart (view.number ticket) =
      answer.book event asked ticket := by
  have number {about : Ticket} (concerns : event.ticket? next = some about) :
      view.number about = view.number ticket ↔ about = ticket := by
    refine number_inj ?_ shown
    have visible : ¬ view.see? board event = none ↔ _ := (see?_eq_none_iff expects concerns).not
    rw [kept] at visible
    simpa using visible
  cases answered with
  | returned about => simp only [Answer.renumbered, Answer.book, number about, same]
  | waiting made =>
      have unchanged : seen = event := (alike_of_seen kept).made (by rw [made]; rfl)
      simp only [Answer.renumbered, Answer.book, number (Event.ticket?_of_lockKey? made), same,
        unchanged]
  | other nothing =>
      rw [Answer.renumbered_of_no_ticket nothing, Answer.book_of_no_ticket nothing,
        Answer.book_of_no_ticket nothing, same]

end View

/-- What a lock call is refused with, or what it makes of its resource. -/
def Ledger.response (ledger : Ledger) (locker : Locker) (key : Key) (level : Level)
    (ticket : Ticket) : Except Refusal (Reply × Resource) :=
  if ledger.isReleased locker.id then .error (.releasedLocker locker.name)
  else if ledger.closed then .error .closed
  else (ledger.resource key).request key locker level ticket

def Answer.ofResponse (ticket : Ticket) : Except Refusal (Reply × Resource) → Answer
  | .error refusal => .returned ticket (.refused refusal)
  | .ok (.granted, _) => .returned ticket .ok
  | .ok (.queued place, _) => .waiting ticket place

namespace Service

variable {service : Service}

theorem Sound.lock_response (sound : service.Sound) (locker : Locker) (key : Key) (level : Level)
    (handle : Handle) :
    (service.lock locker key level handle).1 = .ofResponse service.nextTicket
        (service.ledger.response locker key level service.nextTicket) ∧
      (service.lock locker key level handle).2.ledger.resource key =
        match service.ledger.response locker key level service.nextTicket with
        | .error _ => service.ledger.resource key
        | .ok (_, resource) => resource := by
  have done := sound.locked locker key level handle
  generalize service.lock locker key level handle = result at done
  cases done with
  | released gone => simp [Ledger.response, gone, Answer.ofResponse]
  | closed present shut => simp [Ledger.response, present, shut, Answer.ofResponse]
  | refused present serving asked =>
      simp [Ledger.response, present, serving, asked, Answer.ofResponse]
  | granted present serving asked =>
      simp [Ledger.response, present, serving, asked, Answer.ofResponse, Ledger.resource_note]
  | queued present serving asked =>
      simp [Ledger.response, present, serving, asked, Answer.ofResponse, Ledger.resource_note]

end Service

end Locking
