import Std.Data.ExtTreeSet

namespace Locking

/-!
Cancellation. A canceller and its handle are made as a pair; the handle can be copied at will, the
canceller cannot. All handles of a pair fire when its canceller is used or lost.
-/

abbrev PairId := Nat

inductive Handle where
  /-- A handle without a canceller, which never fires. -/
  | never
  | of (pair : PairId)
deriving DecidableEq, Repr

structure Pairs where
  /-- The pairs whose canceller is gone. -/
  fired : Std.ExtTreeSet PairId
  next : PairId

namespace Pairs

def initial : Pairs := ⟨∅, 0⟩

def create (pairs : Pairs) : PairId × Pairs :=
  (pairs.next, { pairs with next := pairs.next + 1 })

def fire (pairs : Pairs) (pair : PairId) : Pairs :=
  { pairs with fired := pairs.fired.insert pair }

def hasFired (pairs : Pairs) : Handle → Bool
  | .never => false
  | .of pair => pairs.fired.contains pair

@[simp] theorem hasFired_never (pairs : Pairs) : pairs.hasFired .never = false := rfl

@[simp] theorem hasFired_create (pairs : Pairs) (handle : Handle) :
    pairs.create.2.hasFired handle = pairs.hasFired handle := by
  cases handle <;> rfl

@[simp] theorem hasFired_fire (pairs : Pairs) (pair : PairId) (handle : Handle) :
    (pairs.fire pair).hasFired handle = (decide (handle = .of pair) || pairs.hasFired handle) := by
  cases handle with
  | never => rfl
  | of other =>
      by_cases same : other = pair
      · subst same
        simp [hasFired, fire]
      · simp [hasFired, fire, same, Ne.symm same]

end Pairs

end Locking
