import Locking.Proofs.Resource.Audit

namespace Locking.Resource

/-!
The sweep as a greedy choice. The waiters that it takes off the queue are the longest beginning of
the queue in which each goes with all holdings, and with those before it that are granted a lock.
-/

/-- Each of these waiters goes with all holdings, and with every waiter before it that is still
listened to. -/
structure Servable (listening : Ticket → Bool) (holdings : List Holding) (front : List Waiter) :
    Prop where
  admitted : ∀ waiter ∈ front, admits holdings waiter.level = true
  together : front.Pairwise fun earlier later =>
    listening earlier.ticket = true → earlier.level.compatible later.level = true

/-- The longest beginning of the queue whose waiters can all be served. -/
structure Served (listening : Ticket → Bool) (resource : Resource) (front : List Waiter) :
    Prop where
  isPrefix : front <+: resource.queue
  servable : Servable listening resource.holdings front
  longest : ∀ other, other <+: resource.queue →
    Servable listening resource.holdings other → other <+: front

/-- What later waiters have to go with once this one has been served. -/
def serve (listening : Ticket → Bool) (holdings : List Holding) (waiter : Waiter) : List Holding :=
  if listening waiter.ticket then holdings ++ [waiter.holding] else holdings

variable {listening : Ticket → Bool} {resource : Resource} {holdings : List Holding}
  {waiter : Waiter} {queue front other : List Waiter} {level : Level}

theorem Served.unique (one : Served listening resource front)
    (two : Served listening resource other) : front = other :=
  (two.longest front one.isPrefix one.servable).eq_of_length_le
    (one.longest other two.isPrefix two.servable).length_le

theorem admits_serve_iff :
    admits (serve listening holdings waiter) level = true ↔
      admits holdings level = true ∧
        (listening waiter.ticket = true → waiter.level.compatible level = true) := by
  unfold serve
  split
  · rename_i heard
    simp [admits, Waiter.holding, heard]
  · rename_i unheard
    simp [unheard]

/-- A waiter ahead of others adds its own level to what they have to go with, unless nobody listens
to it. -/
theorem servable_cons_iff :
    Servable listening holdings (waiter :: front) ↔
      admits holdings waiter.level = true ∧
        Servable listening (serve listening holdings waiter) front := by
  constructor
  · intro ⟨admitted, together⟩
    obtain ⟨first, rest⟩ := List.forall_mem_cons.mp admitted
    obtain ⟨ahead, behind⟩ := List.pairwise_cons.mp together
    exact ⟨first, fun later member =>
      admits_serve_iff.mpr ⟨rest later member, ahead later member⟩, behind⟩
  · intro ⟨first, admitted, together⟩
    refine ⟨List.forall_mem_cons.mpr ⟨first, fun later member => ?_⟩,
      List.pairwise_cons.mpr ⟨fun later member => ?_, together⟩⟩
    · exact (admits_serve_iff.mp (admitted later member)).1
    · exact (admits_serve_iff.mp (admitted later member)).2

theorem served_of_blocked (blocked : admits holdings waiter.level = false) :
    Served listening ⟨holdings, waiter :: queue⟩ [] where
  isPrefix := List.nil_prefix
  servable := ⟨by simp, .nil⟩
  longest other start servable := by
    cases other with
    | nil => exact List.nil_prefix
    | cons first rest =>
        obtain ⟨rfl, _⟩ := List.cons_prefix_cons.mp start
        rw [(servable_cons_iff.mp servable).1] at blocked
        contradiction

theorem Served.cons (fits : admits holdings waiter.level = true)
    (rest : Served listening ⟨serve listening holdings waiter, queue⟩ front) :
    Served listening ⟨holdings, waiter :: queue⟩ (waiter :: front) where
  isPrefix := List.cons_prefix_cons.mpr ⟨rfl, rest.isPrefix⟩
  servable := servable_cons_iff.mpr ⟨fits, rest.servable⟩
  longest other start servable := by
    cases other with
    | nil => exact List.nil_prefix
    | cons first later =>
        obtain ⟨rfl, behind⟩ := List.cons_prefix_cons.mp start
        exact List.cons_prefix_cons.mpr
          ⟨rfl, rest.longest later behind (servable_cons_iff.mp servable).2⟩

theorem promote_fits (fits : admits holdings waiter.level = true) :
    promote listening holdings (waiter :: queue) =
      ((if listening waiter.ticket then [waiter] else []) ++
          (promote listening (serve listening holdings waiter) queue).1,
        (promote listening (serve listening holdings waiter) queue).2) := by
  unfold serve
  split
  · rename_i heard
    exact promote_granted fits heard
  · rename_i unheard
    exact promote_unheard fits (by simpa using unheard)

/-- What is taken off the queue is served: granted, if somebody listens, and dropped if not. -/
theorem promote_served (listening : Ticket → Bool) (holdings : List Holding)
    (queue : List Waiter) :
    ∃ front, Served listening ⟨holdings, queue⟩ front ∧
      (promote listening holdings queue).1 =
        front.filter (fun waiter => listening waiter.ticket) ∧
      queue = front ++ (promote listening holdings queue).2.queue := by
  induction queue generalizing holdings with
  | nil =>
      exact ⟨[], ⟨List.nil_prefix, ⟨by simp, .nil⟩, fun other start _ => start⟩, rfl, rfl⟩
  | cons waiter rest ih =>
      cases fits : admits holdings waiter.level with
      | false =>
          rw [promote_blocked fits]
          exact ⟨[], served_of_blocked fits, rfl, rfl⟩
      | true =>
          obtain ⟨front, served, granted, left⟩ := ih (serve listening holdings waiter)
          refine ⟨waiter :: front, served.cons fits, ?_, ?_⟩
          · rw [promote_fits fits, granted, List.filter_cons]
            split <;> rfl
          · rw [promote_fits fits, List.cons_append, ← left]

/-- The sweep of a resource, for any waiters to whom somebody listens. -/
theorem sweep_served (listening : Ticket → Bool) (resource : Resource) :
    ∃ front, Served listening resource front ∧
      (resource.sweep listening).1 = front.filter (fun waiter => listening waiter.ticket) ∧
      (resource.sweep listening).2.holdings = resource.holdings ++
        (front.filter (fun waiter => listening waiter.ticket)).map Waiter.holding ∧
      resource.queue = front ++ (resource.sweep listening).2.queue := by
  obtain ⟨front, served, granted, left⟩ :=
    promote_served listening resource.holdings resource.queue
  refine ⟨front, served, granted, ?_, left⟩
  rw [sweep, promote_holdings, granted]

end Locking.Resource
