import Locking.Proofs.Desk.Receivers

namespace Locking

/-!
One signal for each grant. What is on the line of a request follows from three lists of tickets:
those that wait, those that sweeps have granted, and those whose signals have been taken.
-/

/-- The tickets of those who wait, in the order of the queue. -/
def Resource.tickets (resource : Resource) : List Ticket :=
  resource.queue.map (·.ticket)

namespace Desk

open Resource

/-- The waiters to whom an act grants their requests. -/
def promotedBy (desk : Desk) : Act → List Waiter
  | .grant => (desk.resource.sweep desk.listening).1
  | _ => []

/-- The ticket on whose line an act finds a signal. -/
def takenBy (desk : Desk) : Act → List Ticket
  | .poll ticket => if (desk.look ticket).1 = .polled (some .granted) then [ticket] else []
  | _ => []

def promoted (desk : Desk) : List Act → List Waiter
  | [] => []
  | act :: rest => desk.promotedBy act ++ (desk.attend act).2.promoted rest

def taken (desk : Desk) : List Act → List Ticket
  | [] => []
  | act :: rest => desk.takenBy act ++ (desk.attend act).2.taken rest

/-- The line of a request, if somebody still has its receiver. -/
def due (waiting granted taken : List Ticket) (ticket : Ticket) : Line :=
  if ticket ∈ waiting then .fresh
  else if ticket ∈ granted ∧ ticket ∉ taken then Line.fresh.signal
  else Line.fresh.cut

/-- Every ticket that waits or has been granted is one of those handed out, and none is twice among
them. A signal is taken once, and only after the grant. -/
structure Tallied (next : Ticket) (waiting granted taken : List Ticket) : Prop where
  distinct : (waiting ++ granted).Nodup
  issued : ∀ ticket ∈ waiting ++ granted, ticket < next
  takenOnce : taken.Nodup
  earned : taken ⊆ granted

structure Accounted (desk : Desk) (granted taken : List Ticket) : Prop where
  tallied : Tallied desk.nextTicket desk.resource.tickets granted taken
  line : ∀ ticket line, desk.lines[ticket]? = some line →
    ticket < desk.nextTicket ∧ line = due desk.resource.tickets granted taken ticket

variable {desk : Desk} {act : Act} {acts : List Act} {waiter : Waiter} {next ticket : Ticket}
  {tickets waiting staying granted taken : List Ticket} {place : Nat} {line : Line}
  {resource : Resource} {id : LockerId}

/-! Tickets. -/

theorem Tallied.apart (tallied : Tallied next waiting granted taken) (waits : ticket ∈ waiting) :
    ticket ∉ granted :=
  List.disjoint_of_nodup_append tallied.distinct waits

theorem Tallied.enter (tallied : Tallied next waiting granted taken) :
    Tallied (next + 1) (waiting ++ [next]) granted taken where
  distinct := by
    have new : next ∉ waiting ++ granted := fun member =>
      Nat.lt_irrefl next (tallied.issued next member)
    have moved : (waiting ++ [next] ++ granted).Perm (next :: (waiting ++ granted)) := by
      simp [List.perm_middle]
    exact moved.nodup_iff.mpr (List.nodup_cons.mpr ⟨new, tallied.distinct⟩)
  issued ticket member := by
    have cases : ticket ∈ waiting ++ granted ∨ ticket = next := by
      simp only [List.mem_append, List.mem_singleton] at member ⊢
      tauto
    rcases cases with earlier | rfl
    · exact Nat.lt_succ_of_lt (tallied.issued ticket earlier)
    · exact Nat.lt_succ_self _
  takenOnce := tallied.takenOnce
  earned := tallied.earned

/-- Waiters leave the queue, and some of them are granted their requests. -/
theorem Tallied.leave (tallied : Tallied next waiting granted taken)
    (left : (tickets ++ staying).Sublist waiting) :
    Tallied next staying (granted ++ tickets) taken := by
  have kept : (tickets ++ staying ++ granted).Sublist (waiting ++ granted) :=
    left.append_right granted
  have moved : (staying ++ (granted ++ tickets)).Perm (tickets ++ staying ++ granted) := by
    rw [← List.append_assoc]
    exact List.perm_append_comm.trans (by simp)
  exact {
    distinct := moved.nodup_iff.mpr (tallied.distinct.sublist kept)
    issued := fun ticket member => tallied.issued ticket (kept.subset (moved.subset member))
    takenOnce := tallied.takenOnce
    earned := fun ticket member => List.mem_append_left _ (tallied.earned member) }

theorem Tallied.take (tallied : Tallied next waiting granted taken) (due : ticket ∈ granted)
    (new : ticket ∉ taken) : Tallied next waiting granted (taken ++ [ticket]) where
  distinct := tallied.distinct
  issued := tallied.issued
  takenOnce := List.concat_eq_append ▸ tallied.takenOnce.concat new
  earned := by
    intro other member
    rcases List.mem_append.mp member with earlier | last
    · exact tallied.earned earlier
    · rwa [List.mem_singleton.mp last]

/-! Lines. -/

theorem due_of_waiting (waits : ticket ∈ waiting) : due waiting granted taken ticket = .fresh :=
  if_pos waits

theorem due_of_granted (left : ticket ∉ waiting) (promoted : ticket ∈ granted)
    (unseen : ticket ∉ taken) : due waiting granted taken ticket = Line.fresh.signal := by
  rw [due, if_neg left, if_pos ⟨promoted, unseen⟩]

theorem due_of_spent (left : ticket ∉ waiting) (spent : ticket ∈ granted → ticket ∈ taken) :
    due waiting granted taken ticket = Line.fresh.cut := by
  rw [due, if_neg left, if_neg (fun pending => pending.2 (spent pending.1))]

theorem poll_due (waiting granted taken : List Ticket) (ticket : Ticket) :
    (due waiting granted taken ticket).poll.1 =
      if ticket ∈ waiting then .empty
      else if ticket ∈ granted ∧ ticket ∉ taken then .granted
      else .disconnected := by
  unfold due
  split
  · rfl
  · split <;> rfl

theorem Accounted.numbered (accounted : desk.Accounted granted taken) : desk.Numbered where
  distinct := List.pairwise_map.mp (List.nodup_append.mp accounted.tallied.distinct).1
  issued _ queued :=
    accounted.tallied.issued _ (List.mem_append_left _ (List.mem_map_of_mem queued))
  fresh _ queued line found :=
    (accounted.line _ line found).2.trans (due_of_waiting (List.mem_map_of_mem queued))

theorem lines_cutLines (distinct : tickets.Nodup) (desk : Desk) (ticket : Ticket) :
    (desk.cutLines tickets).lines[ticket]? =
      if ticket ∈ tickets then desk.lines[ticket]?.map Line.cut else desk.lines[ticket]? := by
  rw [cutLines_eq]
  exact lines_notifyAll_map .dropped (fun _ => rfl) distinct desk ticket

/-! Steps. -/

theorem opened_accounted (key : Key) : (opened key).Accounted [] [] where
  tallied := ⟨.nil, by simp [tickets, opened, vacant], .nil, List.nil_subset _⟩
  line ticket line found := by simp [opened] at found

theorem tickets_sublist {after : Resource} (left : after.queue.Sublist resource.queue) :
    after.tickets.Sublist resource.tickets :=
  List.Sublist.map Waiter.ticket left

@[simp] theorem nextTicket_cutLines (desk : Desk) (tickets : List Ticket) :
    (desk.cutLines tickets).nextTicket = desk.nextTicket := by
  rw [cutLines_eq, nextTicket_notifyAll]

theorem Accounted.of_queue_eq (accounted : desk.Accounted granted taken)
    (same : resource.queue = desk.resource.queue) :
    ({ desk with resource } : Desk).Accounted granted taken := by
  have tickets : resource.tickets = desk.resource.tickets := by rw [Resource.tickets, same]; rfl
  constructor
  · dsimp only
    rw [tickets]
    exact accounted.tallied
  · dsimp only
    rw [tickets]
    exact accounted.line

theorem Accounted.enqueue (accounted : desk.Accounted granted taken) (locker : Locker)
    (level : Level) :
    ({ desk with
      resource := desk.resource.enqueue ⟨locker, level, desk.nextTicket⟩
      lines := desk.lines.insert desk.nextTicket .fresh
      nextTicket := desk.nextTicket + 1 } : Desk).Accounted granted taken := by
  have longer : (desk.resource.enqueue ⟨locker, level, desk.nextTicket⟩).tickets =
      desk.resource.tickets ++ [desk.nextTicket] := by simp [tickets, Resource.enqueue]
  constructor
  · dsimp only
    rw [longer]
    exact accounted.tallied.enter
  · intro ticket line found
    dsimp only at found ⊢
    rw [Std.ExtTreeMap.getElem?_insert] at found
    rw [longer]
    split at found
    · rename_i new
      obtain rfl : desk.nextTicket = ticket := Std.LawfulEqOrd.eq_of_compare new
      refine ⟨Nat.lt_succ_self _, ?_⟩
      rw [due_of_waiting (by simp)]
      exact (Option.some.inj found).symm
    · obtain ⟨issued, rfl⟩ := accounted.line ticket line found
      refine ⟨Nat.lt_succ_of_lt issued, ?_⟩
      simp [due, Nat.ne_of_lt issued]

theorem Accounted.ask (accounted : desk.Accounted granted taken) (locker : Locker)
    (level : Level) : (desk.ask locker level).2.Accounted granted taken := by
  unfold Desk.ask
  split
  · exact accounted
  · rename_i accepted
    exact accounted.of_queue_eq (request_granted_queue accepted)
  · rename_i accepted
    obtain ⟨rfl, _⟩ := request_queued accepted
    exact accounted.enqueue locker level

/-- Waiters leave the queue, and their lines are cut. -/
theorem Accounted.cut (accounted : desk.Accounted granted taken)
    (left : resource.queue.Sublist desk.resource.queue) (distinct : tickets.Nodup)
    (gone : ∀ ticket, ticket ∈ tickets ↔
      ticket ∈ desk.resource.tickets ∧ ticket ∉ resource.tickets) :
    (({ desk with resource } : Desk).cutLines tickets).Accounted granted taken := by
  have stays := tickets_sublist left
  have tallied : Tallied desk.nextTicket resource.tickets (granted ++ []) taken :=
    accounted.tallied.leave stays
  constructor
  · simpa using tallied
  · intro ticket line found
    rw [lines_cutLines distinct] at found
    simp only [resource_cutLines, nextTicket_cutLines]
    split at found
    · rename_i member
      obtain ⟨waits, leaves⟩ := (gone ticket).mp member
      obtain ⟨earlier, before, rfl⟩ := Option.map_eq_some_iff.mp found
      obtain ⟨issued, rfl⟩ := accounted.line ticket earlier before
      refine ⟨issued, ?_⟩
      rw [due_of_waiting waits, due_of_spent leaves]
      intro promoted
      exact absurd promoted (accounted.tallied.apart waits)
    · rename_i passed
      obtain ⟨issued, rfl⟩ := accounted.line ticket line found
      refine ⟨issued, ?_⟩
      have same : ticket ∈ resource.tickets ↔ ticket ∈ desk.resource.tickets :=
        ⟨fun waits => stays.subset waits, fun waits => by_contra fun leaves =>
          passed ((gone ticket).mpr ⟨waits, leaves⟩)⟩
      simp only [due, same]

theorem Accounted.depart (accounted : desk.Accounted granted taken)
    (left : resource.queue = (desk.resource.dismiss id).queue) :
    (({ desk with resource } : Desk).cutLines (desk.resource.ticketOf? id).toList).Accounted
      granted taken := by
  obtain ⟨distinct, _, apart⟩ := List.nodup_append.mp (accounted.numbered.nodup_departed id)
  have partition (ticket : Ticket) : ticket ∈ desk.resource.tickets ↔
      ticket ∈ (desk.resource.ticketOf? id).toList ∨ ticket ∈ resource.tickets := by
    rw [tickets, tickets, left, ← (ticketOf?_perm desk.resource id).mem_iff, List.mem_append]
  rw [← left] at apart
  refine accounted.cut (left ▸ List.eraseP_sublist) distinct fun ticket => ⟨?_, ?_⟩
  · intro own
    exact ⟨(partition ticket).mpr (.inl own), fun stays => apart ticket own ticket stays rfl⟩
  · intro left
    exact ((partition ticket).mp left.1).resolve_right left.2

theorem Accounted.disperse (accounted : desk.Accounted granted taken) :
    desk.disperse.2.Accounted granted taken := by
  have distinct : desk.resource.tickets.Nodup := List.pairwise_map.mpr accounted.numbered.distinct
  exact accounted.cut (List.nil_sublist _) distinct
    (fun ticket => by simp [tickets, Resource.disperse])

theorem sweep_tickets_sublist (listening : Ticket → Bool) (resource : Resource) :
    ((resource.sweep listening).1.map (·.ticket) ++ (resource.sweep listening).2.tickets).Sublist
      resource.tickets := by
  rw [tickets, ← List.map_append]
  exact (promote_sublist listening resource.holdings resource.queue).map Waiter.ticket

/-- Whoever leaves the queue in a sweep while somebody listens is granted its request. -/
theorem tickets_sweep {listening : Ticket → Bool} (heard : listening ticket = true)
    (waits : ticket ∈ resource.tickets) :
    ticket ∈ (resource.sweep listening).1.map (·.ticket) ∨
      ticket ∈ (resource.sweep listening).2.tickets := by
  obtain ⟨front, _, granted, _, queue⟩ := sweep_served listening resource
  obtain ⟨waiter, queued, rfl⟩ := List.mem_map.mp waits
  rw [queue] at queued
  rcases List.mem_append.mp queued with taken | stays
  · rw [granted]
    exact .inl (List.mem_map_of_mem (List.mem_filter.mpr ⟨taken, heard⟩))
  · exact .inr (List.mem_map_of_mem stays)

theorem Accounted.grant (accounted : desk.Accounted granted taken) :
    desk.grant.2.Accounted
      (granted ++ (desk.resource.sweep desk.listening).1.map (·.ticket)) taken := by
  have left := sweep_tickets_sublist desk.listening desk.resource
  have tallied := accounted.tallied.leave left
  constructor
  · rwa [resource_grant, grant_eq, nextTicket_notifyAll]
  · intro ticket line found
    rw [accounted.numbered.lines_grant] at found
    rw [resource_grant, grant_eq, nextTicket_notifyAll]
    split at found
    · rename_i promoted
      obtain ⟨earlier, before, rfl⟩ := Option.map_eq_some_iff.mp found
      obtain ⟨issued, rfl⟩ := accounted.line ticket earlier before
      have waits := left.subset (List.mem_append_left _ promoted)
      have added := List.mem_append_right granted promoted
      have unseen : ticket ∉ taken := fun seen =>
        accounted.tallied.apart waits (accounted.tallied.earned seen)
      refine ⟨issued, ?_⟩
      rw [due_of_waiting waits, due_of_granted (fun stays => tallied.apart stays added) added unseen]
    · rename_i passed
      obtain ⟨issued, rfl⟩ := accounted.line ticket line found
      have heard : desk.listening ticket = true := listening_iff.mpr ⟨_, found⟩
      have same : ticket ∈ (desk.resource.sweep desk.listening).2.tickets ↔
          ticket ∈ desk.resource.tickets :=
        ⟨fun stays => left.subset (List.mem_append_right _ stays),
          fun waits => (tickets_sweep heard waits).resolve_left passed⟩
      have grants : ticket ∈ granted ++ (desk.resource.sweep desk.listening).1.map (·.ticket) ↔
          ticket ∈ granted := by
        rw [List.mem_append, or_iff_left passed]
      exact ⟨issued, by simp only [due, same, grants]⟩

theorem Accounted.see (accounted : desk.Accounted granted taken)
    (issued : ticket < desk.nextTicket) (seen : List Ticket) (own : ∀ other ∈ seen, other = ticket)
    (tallied : Tallied desk.nextTicket desk.resource.tickets granted (taken ++ seen)) :
    ({ desk with
      lines := desk.lines.insert ticket
        (due desk.resource.tickets granted (taken ++ seen) ticket) } : Desk).Accounted
      granted (taken ++ seen) where
  tallied := tallied
  line other line found := by
    simp only [Std.ExtTreeMap.getElem?_insert] at found
    split at found
    · rename_i same
      obtain rfl : ticket = other := Std.LawfulEqOrd.eq_of_compare same
      exact ⟨issued, (Option.some.inj found).symm⟩
    · rename_i different
      obtain ⟨earlier, rfl⟩ := accounted.line other line found
      have unseen : other ∉ seen := fun member => different (by simp [own other member])
      exact ⟨earlier, by simp only [due, List.mem_append, or_iff_left unseen]⟩

/-- What is found on a line is what is due, and if it is a signal it is taken off. -/
theorem Accounted.look (accounted : desk.Accounted granted taken) (ticket : Ticket) :
    (desk.look ticket).2.Accounted granted (taken ++ desk.takenBy (.poll ticket)) := by
  cases found : desk.lines[ticket]? with
  | none =>
      rw [takenBy, look_of_none found, if_neg nofun, List.append_nil]
      exact accounted
  | some line =>
      obtain ⟨issued, due⟩ := accounted.line ticket line found
      rw [takenBy, look_of_some found]
      by_cases pending : ticket ∈ granted ∧ ticket ∉ taken
      · have left : ticket ∉ desk.resource.tickets := fun waits =>
          accounted.tallied.apart waits pending.1
        have tallied := accounted.tallied.take pending.1 pending.2
        have seen := accounted.see issued [ticket] (by simp) tallied
        rw [due_of_spent left (fun _ => by simp)] at seen
        rw [due, due_of_granted left pending.1 pending.2]
        simpa using seen
      · -- There is no signal on the line, so it stays as it is.
        have idle : line.poll = (line.poll.1, line) ∧ line.poll.1 ≠ .granted := by
          by_cases waits : ticket ∈ desk.resource.tickets
          · rw [due, due_of_waiting waits]
            decide
          · rw [due, due_of_spent waits (fun promoted => by_contra fun unseen =>
              pending ⟨promoted, unseen⟩)]
            decide
        have seen := accounted.see issued [] nofun (by simpa using accounted.tallied)
        rw [List.append_nil, ← due] at seen
        rw [idle.1]
        simpa [idle.2] using seen

theorem Accounted.discard (accounted : desk.Accounted granted taken) (ticket : Ticket) :
    (desk.discard ticket).Accounted granted taken where
  tallied := accounted.tallied
  line other line found := by
    simp only [Desk.discard, Std.ExtTreeMap.getElem?_erase] at found
    split at found
    · contradiction
    · exact accounted.line other line found

theorem Accounted.attend (accounted : desk.Accounted granted taken) (act : Act) :
    (desk.attend act).2.Accounted (granted ++ (desk.promotedBy act).map (·.ticket))
      (taken ++ desk.takenBy act) := by
  cases act with
  | request locker level => simpa [Desk.attend, promotedBy, takenBy] using accounted.ask locker level
  | grant => simpa [Desk.attend, promotedBy, takenBy] using accounted.grant
  | dismiss id =>
      have departed : (desk.dismiss id).2.Accounted granted taken := accounted.depart rfl
      simpa [Desk.attend, promotedBy, takenBy] using departed
  | withdraw id =>
      have departed : (desk.withdraw id).2.Accounted granted taken := accounted.depart rfl
      simpa [Desk.attend, promotedBy, takenBy] using departed
  | disperse => simpa [Desk.attend, promotedBy, takenBy] using accounted.disperse
  | poll ticket => simpa [Desk.attend, promotedBy] using accounted.look ticket
  | discard ticket => simpa [Desk.attend, promotedBy, takenBy] using accounted.discard ticket

/-! Runs. -/

theorem Accounted.attendAll (accounted : desk.Accounted granted taken) (acts : List Act) :
    (desk.attendAll acts).Accounted (granted ++ (desk.promoted acts).map (·.ticket))
      (taken ++ desk.taken acts) := by
  induction acts generalizing desk granted taken with
  | nil => simpa [promoted, Desk.taken, Desk.attendAll] using accounted
  | cons act rest ih =>
      have after := ih (accounted.attend act)
      simpa [promoted, Desk.taken, Desk.attendAll, List.append_assoc] using after

theorem promoted_append (desk : Desk) (first second : List Act) :
    desk.promoted (first ++ second) =
      desk.promoted first ++ (desk.attendAll first).promoted second := by
  induction first generalizing desk with
  | nil => rfl
  | cons act rest ih => simp only [List.cons_append, promoted, ih, attendAll, List.append_assoc]

theorem taken_append (desk : Desk) (first second : List Act) :
    desk.taken (first ++ second) = desk.taken first ++ (desk.attendAll first).taken second := by
  induction first generalizing desk with
  | nil => rfl
  | cons act rest ih => simp only [List.cons_append, taken, ih, attendAll, List.append_assoc]

/-- Only those who wait are granted their requests, and only while somebody listens. -/
theorem mem_promotedBy (promoted : waiter ∈ desk.promotedBy act) :
    waiter ∈ desk.resource.queue ∧ desk.listening waiter.ticket = true := by
  cases act with
  | grant =>
      obtain ⟨front, served, granted, _⟩ := sweep_served desk.listening desk.resource
      rw [promotedBy, granted] at promoted
      obtain ⟨taken, heard⟩ := List.mem_filter.mp promoted
      exact ⟨served.isPrefix.subset taken, heard⟩
  | _ => contradiction

theorem mem_promoted (issued : waiter.ticket < desk.nextTicket)
    (promoted : waiter ∈ desk.promoted acts) :
    waiter ∈ desk.resource.queue ∧ desk.listening waiter.ticket = true := by
  induction acts generalizing desk with
  | nil => contradiction
  | cons act rest ih =>
      rcases List.mem_append.mp promoted with now | later
      · exact mem_promotedBy now
      · have attended := desk.attended act
        obtain ⟨queued, heard⟩ := ih (Nat.lt_of_lt_of_le issued attended.nextTicket_le) later
        exact ⟨(attended.mem_queue queued).resolve_right (Nat.ne_of_lt issued),
          ((attended.listening_iff issued).mp heard).1⟩

/-- But for requests, nobody comes to hold anything except through a sweep. -/
theorem holdings_attend (desk : Desk) (act : Act)
    (unasked : ∀ locker level, act ≠ .request locker level) :
    (desk.attend act).2.resource.holdings.Sublist
      (desk.resource.holdings ++ (desk.promotedBy act).map Waiter.holding) := by
  cases act with
  | request locker level => exact absurd rfl (unasked locker level)
  | grant =>
      rw [Desk.attend, resource_grant, sweep, promote_holdings]
      exact .refl _
  | dismiss id =>
      rw [Desk.attend, Desk.dismiss, resource_cutLines]
      exact List.filter_sublist.trans (List.sublist_append_left _ _)
  | withdraw id =>
      rw [Desk.attend, Desk.withdraw, resource_cutLines]
      exact List.sublist_append_left _ _
  | disperse =>
      rw [Desk.attend, Desk.disperse, resource_cutLines]
      exact List.sublist_append_left _ _
  | poll ticket =>
      rw [Desk.attend, resource_look]
      exact List.sublist_append_left _ _
  | discard ticket => exact List.sublist_append_left _ _

theorem attendAll_accounted (key : Key) (acts : List Act) :
    ((opened key).attendAll acts).Accounted (((opened key).promoted acts).map (·.ticket))
      ((opened key).taken acts) :=
  (opened_accounted key).attendAll acts

/-! Requests. -/

/-- The request of this waiter has been queued in a run, and nobody has discarded its receiver. -/
def Keeps (desk : Desk) (acts : List Act) (waiter : Waiter) : Prop :=
  ∃ before later place, acts = before ++ .request waiter.locker waiter.level :: later ∧
    ((desk.attendAll before).attend (.request waiter.locker waiter.level)).1 = .queued place ∧
    waiter.ticket = (desk.attendAll before).nextTicket ∧ .discard waiter.ticket ∉ later

/-- What the receiver of a request tells after a run. -/
structure Tells (desk : Desk) (acts : List Act) (waiter : Waiter) : Prop where
  empty : ((desk.attendAll acts).attend (.poll waiter.ticket)).1 = .polled (some .empty) ↔
    waiter ∈ (desk.attendAll acts).resource.queue
  granted : ((desk.attendAll acts).attend (.poll waiter.ticket)).1 = .polled (some .granted) ↔
    waiter ∈ desk.promoted acts ∧ waiter.ticket ∉ desk.taken acts
  disconnected :
    ((desk.attendAll acts).attend (.poll waiter.ticket)).1 = .polled (some .disconnected) ↔
      waiter ∉ (desk.attendAll acts).resource.queue ∧
        (waiter ∈ desk.promoted acts → waiter.ticket ∈ desk.taken acts)
  apart : waiter ∈ (desk.attendAll acts).resource.queue → waiter ∉ desk.promoted acts
  /-- With one more look the signal has been seen once if there was a grant, and never otherwise. -/
  once : (desk.taken (acts ++ [.poll waiter.ticket])).count waiter.ticket =
    if waiter ∈ desk.promoted acts then 1 else 0
  /-- What has become of a request that left the queue does not change any more. -/
  final : waiter ∉ (desk.attendAll acts).resource.queue → ∀ more,
    waiter ∉ (desk.attendAll (acts ++ more)).resource.queue ∧
      (waiter ∈ desk.promoted (acts ++ more) ↔ waiter ∈ desk.promoted acts)

/-- How signals are sent in a run. -/
structure Sends (desk : Desk) (acts : List Act) : Prop where
  once : ((desk.promoted acts).map (·.ticket)).Nodup
  room : ∀ (ticket : Ticket) (line : Line),
    (desk.attendAll acts).lines[ticket]? = some line → line.signals ≤ 1
  /-- A sweep sends to those whom it turns into holders, and finds their lines empty. -/
  sweep : ∃ granted, desk.promoted (acts ++ [.grant]) = desk.promoted acts ++ granted ∧
    ((desk.attendAll acts).attend .grant).1 = .swept (granted.map (·.locker.id)) ∧
    ((desk.attendAll acts).attend .grant).2.resource.holdings =
      (desk.attendAll acts).resource.holdings ++ granted.map Waiter.holding ∧
    ∀ waiter ∈ granted, (desk.attendAll acts).lines[waiter.ticket]? = some .fresh ∧
      ((desk.attendAll acts).attend .grant).2.lines[waiter.ticket]? = some Line.fresh.signal
  /-- Nothing else but a request adds to the holdings. -/
  holders : ∀ act, (∀ locker level, act ≠ .request locker level) →
    ((desk.attendAll acts).attend act).2.resource.holdings.Sublist
      ((desk.attendAll acts).resource.holdings ++
        ((desk.attendAll acts).promotedBy act).map Waiter.holding)

theorem Accounted.room (accounted : desk.Accounted granted taken)
    (found : desk.lines[ticket]? = some line) : line.signals ≤ 1 := by
  rw [(accounted.line ticket line found).2, due]
  split
  · decide
  · split <;> decide

theorem sends (key : Key) (acts : List Act) : (opened key).Sends acts := by
  have accounted := attendAll_accounted key acts
  have numbered := accounted.numbered
  have swept : (opened key).promoted (acts ++ [.grant]) = (opened key).promoted acts ++
      ((opened key).attendAll acts).promotedBy .grant := by
    simp [promoted_append, promoted]
  refine ⟨(List.nodup_append.mp accounted.tallied.distinct).2.1, fun _ _ => accounted.room,
    ⟨_, swept, ?_, ?_, ?_⟩, holdings_attend _⟩
  · rw [Desk.attend, grant_eq]
    rfl
  · rw [Desk.attend, resource_grant, Resource.sweep, promote_holdings]
    rfl
  · intro waiter granted
    obtain ⟨queued, heard⟩ := mem_promotedBy granted
    have empty := numbered.line_of_listening queued heard
    have member : waiter.ticket ∈ (((opened key).attendAll acts).resource.sweep
        ((opened key).attendAll acts).listening).1.map (·.ticket) := List.mem_map_of_mem granted
    have sent := numbered.lines_grant waiter.ticket
    rw [if_pos member, empty] at sent
    exact ⟨empty, sent⟩

/-- A request that has lost its receiver is not granted any more. -/
theorem promoted_before_discard {before later : List Act}
    (issued : waiter.ticket < (desk.attendAll before).nextTicket)
    (promoted : waiter ∈ desk.promoted (before ++ .discard waiter.ticket :: later)) :
    waiter ∈ desk.promoted before := by
  rw [promoted_append] at promoted
  rcases List.mem_append.mp promoted with earlier | since
  · exact earlier
  · have attended := (desk.attendAll before).attended (.discard waiter.ticket)
    have heard := (mem_promoted (Nat.lt_of_lt_of_le issued attended.nextTicket_le) since).2
    exact absurd rfl ((attended.listening_iff issued).mp heard).2

/-- A request that is queued has a receiver, and no other waiter has its ticket. -/
theorem Accounted.newcomer (accounted : desk.Accounted granted taken)
    (queued : (desk.ask waiter.locker waiter.level).1 = .queued place)
    (new : waiter.ticket = desk.nextTicket) :
    waiter.ticket < (desk.ask waiter.locker waiter.level).2.nextTicket ∧
      (desk.ask waiter.locker waiter.level).2.listening waiter.ticket = true ∧
      ∀ other ∈ (desk.ask waiter.locker waiter.level).2.resource.queue,
        other.ticket = waiter.ticket → other = waiter := by
  rw [ask_queued queued]
  refine ⟨new ▸ Nat.lt_succ_self _, by simp [listening, new], ?_⟩
  intro other member same
  rcases List.mem_append.mp member with earlier | last
  · exact absurd (same.trans new) (Nat.ne_of_lt (accounted.numbered.issued other earlier))
  · rw [List.mem_singleton.mp last, ← new]

/-- The ticket of a request whose receiver is kept stands for it in the queue and in the grants. -/
structure Known (desk : Desk) (acts : List Act) (waiter : Waiter) : Prop where
  issued : waiter.ticket < (desk.attendAll acts).nextTicket
  heard : (desk.attendAll acts).listening waiter.ticket = true
  waits : waiter.ticket ∈ (desk.attendAll acts).resource.tickets ↔
    waiter ∈ (desk.attendAll acts).resource.queue
  granted : waiter.ticket ∈ (desk.promoted acts).map (·.ticket) ↔ waiter ∈ desk.promoted acts

theorem Keeps.known {key : Key} (keeps : (opened key).Keeps acts waiter) :
    (opened key).Known acts waiter := by
  obtain ⟨before, later, place, rfl, queued, new, kept⟩ := keeps
  have accounted := attendAll_accounted key before
  obtain ⟨issued, heard, sole⟩ := accounted.newcomer queued new
  have run : (opened key).attendAll (before ++ .request waiter.locker waiter.level :: later) =
      (((opened key).attendAll before).ask waiter.locker waiter.level).2.attendAll later :=
    attendAll_append ..
  have grants : (opened key).promoted (before ++ .request waiter.locker waiter.level :: later) =
      (opened key).promoted before ++
        (((opened key).attendAll before).ask waiter.locker waiter.level).2.promoted later :=
    promoted_append ..
  refine ⟨?_, ?_, ⟨?_, List.mem_map_of_mem⟩, ⟨?_, List.mem_map_of_mem⟩⟩
  · rw [run]
    exact Nat.lt_of_lt_of_le issued (nextTicket_le_attendAll _ later)
  · rw [run]
    exact (listening_attendAll_iff issued).mpr ⟨heard, kept⟩
  · intro waits
    obtain ⟨other, member, same⟩ := List.mem_map.mp waits
    have there := mem_queue_of_attendAll (same ▸ issued) (run ▸ member)
    exact sole other there same ▸ member
  · intro granted
    obtain ⟨other, member, same⟩ := List.mem_map.mp granted
    -- What was granted before the request has an older ticket, and whoever has been granted a
    -- lock since was in the queue when the request joined it.
    rcases List.mem_append.mp (grants ▸ member) with earlier | since
    · have past := accounted.tallied.issued _ (List.mem_append_right _ (List.mem_map_of_mem earlier))
      exact absurd (same.trans new) (Nat.ne_of_lt past)
    · have there := (mem_promoted (same ▸ issued) since).1
      exact sole other there same ▸ member

theorem Known.poll {key : Key} (known : (opened key).Known acts waiter) :
    (((opened key).attendAll acts).attend (.poll waiter.ticket)).1 = .polled (some
      (if waiter ∈ ((opened key).attendAll acts).resource.queue then .empty
      else if waiter ∈ (opened key).promoted acts ∧ waiter.ticket ∉ (opened key).taken acts then
        .granted
      else .disconnected)) := by
  obtain ⟨line, found⟩ := listening_iff.mp known.heard
  rw [Desk.attend, look_of_some found, ((attendAll_accounted key acts).line _ line found).2,
    poll_due]
  simp only [known.waits, known.granted]

theorem Known.apart {key : Key} (known : (opened key).Known acts waiter)
    (queued : waiter ∈ ((opened key).attendAll acts).resource.queue) :
    waiter ∉ (opened key).promoted acts := fun promoted =>
  (attendAll_accounted key acts).tallied.apart (known.waits.mpr queued) (known.granted.mpr promoted)

theorem Known.taken_iff {key : Key} (known : (opened key).Known acts waiter) :
    waiter.ticket ∈ (opened key).taken (acts ++ [.poll waiter.ticket]) ↔
      waiter ∈ (opened key).promoted acts := by
  constructor
  · intro seen
    have granted := (attendAll_accounted key _).tallied.earned seen
    rw [promoted_append] at granted
    exact known.granted.mp (by simpa [promoted, promotedBy] using granted)
  · intro promoted
    rw [taken_append]
    by_cases seen : waiter.ticket ∈ (opened key).taken acts
    · exact List.mem_append_left _ seen
    · have left : waiter ∉ ((opened key).attendAll acts).resource.queue := fun queued =>
        known.apart queued promoted
      have poll := known.poll
      rw [if_neg left, if_pos ⟨promoted, seen⟩] at poll
      have look : (((opened key).attendAll acts).look waiter.ticket).1 = .polled (some .granted) :=
        poll
      exact List.mem_append_right _ (by simp [taken, takenBy, look])

theorem Known.tells {key : Key} (known : (opened key).Known acts waiter) :
    (opened key).Tells acts waiter where
  empty := by
    rw [known.poll]
    split
    · simp [*]
    · split <;> simp [*]
  granted := by
    rw [known.poll]
    split
    · rename_i queued
      simp [known.apart queued]
    · split <;> simp [*]
  disconnected := by
    rw [known.poll]
    split
    · simp [*]
    · rename_i left
      split
      · rename_i pending
        simp [pending.1, pending.2]
      · rename_i idle
        simpa [left] using idle
  apart := known.apart
  once := by
    have distinct := (attendAll_accounted key (acts ++ [.poll waiter.ticket])).tallied.takenOnce
    rw [distinct.count]
    simp only [known.taken_iff]
  final left more := by
    rw [attendAll_append, promoted_append, List.mem_append]
    exact ⟨fun queued => left (mem_queue_of_attendAll known.issued queued),
      or_iff_left fun since => left (mem_promoted known.issued since).1⟩

/-- In every run, a receiver that is kept tells whether its request still waits, gives a signal once
if a sweep has granted the request, and is cut off otherwise. A signal never meets another one on
its line, and a request that loses its receiver before its turn is never granted. -/
theorem one_signal_for_each_grant (key : Key) (acts : List Act) :
    (opened key).Sends acts ∧
    (∀ waiter, (opened key).Keeps acts waiter → (opened key).Tells acts waiter) ∧
    ∀ waiter before later, acts = before ++ .discard waiter.ticket :: later →
      waiter.ticket < ((opened key).attendAll before).nextTicket →
        waiter ∉ (opened key).promoted before → waiter ∉ (opened key).promoted acts := by
  refine ⟨sends key acts, fun waiter keeps => keeps.known.tells, ?_⟩
  rintro waiter before later rfl issued ungranted promoted
  exact ungranted (promoted_before_discard issued promoted)

/-- The reader gives up its turn and waits again, and keeps both receivers. The second one gets the
signal. Nobody listens for the import any more. -/
theorem second_receiver_signalled_once :
    let acts : List Act :=
      [.request ⟨1, "load"⟩ .exclusive, .request ⟨2, "reader"⟩ .access,
        .request ⟨3, "import"⟩ .rowModify, .withdraw 2, .request ⟨2, "reader"⟩ .access,
        .discard 1, .dismiss 1, .grant, .poll 2, .poll 2]
    let first : Waiter := ⟨⟨2, "reader"⟩, .access, 0⟩
    let second : Waiter := ⟨⟨2, "reader"⟩, .access, 2⟩
    (opened "users").Keeps acts first ∧ (opened "users").Tells acts first ∧
      (opened "users").Keeps acts second ∧ (opened "users").Tells acts second ∧
      (opened "users").promoted acts = [second] ∧ (opened "users").taken acts = [2] := by
  intro acts first second
  obtain ⟨_, tells, _⟩ := one_signal_for_each_grant "users" acts
  have keepsFirst : (opened "users").Keeps acts first :=
    ⟨acts.take 1, acts.drop 2, 1, rfl, rfl, rfl, by decide⟩
  have keepsSecond : (opened "users").Keeps acts second :=
    ⟨acts.take 4, acts.drop 5, 2, rfl, rfl, rfl, by decide⟩
  exact ⟨keepsFirst, tells first keepsFirst, keepsSecond, tells second keepsSecond, rfl, rfl⟩

end Desk

end Locking
