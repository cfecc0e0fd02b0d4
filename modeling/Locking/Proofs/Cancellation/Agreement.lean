import Locking.Cancellation.Board

namespace Locking.Board

/-!
Those who heed only some handles cannot tell two boards apart that agree on these. Steps that fire a
pair with another handle make no difference to them.
-/

/-- The pair that a step fires, if firing is all that it does. -/
def fired? (board : Board) : Step → Option PairId
  | .cancel name | .drop name => board.cancellers[name]?
  | _ => none

structure Agree (heeded : List Handle) (first second : Board) : Prop where
  next : second.pairs.next = first.pairs.next
  handles : second.handles = first.handles
  fired : ∀ handle ∈ heeded, second.pairs.hasFired handle = first.pairs.hasFired handle
  cancellers : ∀ pair : PairId, .of pair ∈ heeded → ∀ name : String,
    second.cancellers[name]? = some pair ↔ first.cancellers[name]? = some pair

variable {board first second : Board} {heeded : List Handle} {name : String}
  {pair : PairId} {handle : Handle}

theorem Agree.refl (heeded : List Handle) (board : Board) : Agree heeded board board :=
  ⟨rfl, rfl, fun _ _ => rfl, fun _ _ _ => .rfl⟩

theorem next_fire (board : Board) (name : String) :
    (board.fire name).pairs.next = board.pairs.next := by
  unfold fire
  split <;> rfl

theorem handles_fire (board : Board) (name : String) :
    (board.fire name).handles = board.handles := by
  unfold fire
  split <;> rfl

theorem cancellers_fire (board : Board) (name other : String) :
    (board.fire name).cancellers[other]? =
      if name = other then none else board.cancellers[other]? := by
  unfold fire
  split
  · simp [Std.ExtTreeMap.getElem?_erase]
  · rename_i absent
    split
    · rename_i same
      rw [← same, absent]
    · rfl

theorem hasFired_fire_iff (board : Board) (name : String) (handle : Handle) :
    (board.fire name).pairs.hasFired handle = true ↔
      (∃ pair, board.cancellers[name]? = some pair ∧ handle = .of pair) ∨
        board.pairs.hasFired handle = true := by
  unfold fire
  split <;> simp [*]

/-! Steps that both boards take. -/

theorem Agree.fire (agree : Agree heeded first second) (name : String) :
    Agree heeded (first.fire name) (second.fire name) where
  next := by rw [next_fire, next_fire, agree.next]
  handles := by rw [handles_fire, handles_fire, agree.handles]
  fired handle member := by
    rw [Bool.eq_iff_iff, hasFired_fire_iff, hasFired_fire_iff, agree.fired handle member]
    refine or_congr_left (exists_congr fun pair => and_congr_left fun same => ?_)
    exact agree.cancellers pair (same ▸ member) name
  cancellers pair member other := by
    rw [cancellers_fire, cancellers_fire]
    split
    · rfl
    · exact agree.cancellers pair member other

theorem Agree.put (agree : Agree heeded first second) (name : String) (handle : Handle) :
    Agree heeded (first.put name handle) (second.put name handle) where
  next := agree.next
  handles := by simp only [Board.put, agree.handles]
  fired := agree.fired
  cancellers := agree.cancellers

theorem Agree.newPair (agree : Agree heeded first second) :
    Agree heeded { first with pairs := first.pairs.create.2 }
      { second with pairs := second.pairs.create.2 } where
  next := congrArg (· + 1) agree.next
  handles := agree.handles
  fired handle member := by
    rw [Pairs.hasFired_create, Pairs.hasFired_create, agree.fired handle member]
  cancellers := agree.cancellers

theorem Agree.firePair (agree : Agree heeded first second) (pair : PairId) :
    Agree heeded { first with pairs := first.pairs.fire pair }
      { second with pairs := second.pairs.fire pair } where
  next := agree.next
  handles := agree.handles
  fired handle member := by
    rw [Pairs.hasFired_fire, Pairs.hasFired_fire, agree.fired handle member]
  cancellers := agree.cancellers

theorem Agree.create (agree : Agree heeded first second) (name : String) :
    Agree heeded (first.create name) (second.create name) := by
  have fired := (agree.newPair.fire name).put name (.of first.pairs.next)
  have same : second.pairs.create.1 = first.pairs.next := agree.next
  simp only [Board.create, same]
  refine ⟨fired.next, fired.handles, fired.fired, fun pair member other => ?_⟩
  simp only [Std.ExtTreeMap.getElem?_insert]
  split
  · rfl
  · exact fired.cancellers pair member other

theorem Agree.discarded (agree : Agree heeded first second) (name : String) :
    Agree heeded (first.discarded name) (second.discarded name) := by
  have same : second.pairs.create.1 = first.pairs.create.1 := agree.next
  simp only [Board.discarded, same]
  exact (agree.newPair.firePair _).put name _

theorem Agree.copy (agree : Agree heeded first second) (name source : String) :
    Agree heeded (first.copy name source) (second.copy name source) := by
  simp only [Board.copy, handle?, agree.handles]
  split
  · exact agree.put name _
  · exact agree

theorem Agree.step (agree : Agree heeded first second) (step : Step) :
    Agree heeded (first.step step) (second.step step) := by
  cases step with
  | create name => exact agree.create name
  | discarded name => exact agree.discarded name
  | never name => exact agree.put name .never
  | copy name source => exact agree.copy name source
  | forget name =>
      refine ⟨agree.next, ?_, agree.fired, agree.cancellers⟩
      simp only [Board.step, agree.handles]
  | cancel name => exact agree.fire name
  | drop name => exact agree.fire name

/-! A step that the second board does not take. -/

theorem Agree.fire_unheeded (agree : Agree heeded first second)
    (present : first.cancellers[name]? = some pair) (unheeded : .of pair ∉ heeded) :
    Agree heeded (first.fire name) second where
  next := by rw [next_fire, agree.next]
  handles := by rw [handles_fire, agree.handles]
  fired handle member := by
    rw [Bool.eq_iff_iff, hasFired_fire_iff, agree.fired handle member, present]
    refine ⟨.inr, fun known => known.resolve_left ?_⟩
    rintro ⟨_, ⟨⟩, rfl⟩
    exact unheeded member
  cancellers other member elsewhere := by
    rw [cancellers_fire, agree.cancellers other member]
    split
    · rename_i same
      subst same
      rw [present]
      refine ⟨?_, by simp⟩
      rintro ⟨⟩
      exact absurd member unheeded
    · rfl

theorem Agree.skip {step : Step} (agree : Agree heeded first second)
    (fires : first.fired? step = some pair)
    (unheeded : .of pair ∉ heeded) : Agree heeded (first.step step) second := by
  cases step with
  | cancel name => exact agree.fire_unheeded fires unheeded
  | drop name => exact agree.fire_unheeded fires unheeded
  | create => contradiction
  | discarded => contradiction
  | never => contradiction
  | copy => contradiction
  | forget => contradiction

end Locking.Board
