import Locking.Cancellation.Pairs
import Std.Data.ExtTreeMap

namespace Locking

/-!
Handles and cancellers under names. Storing a canceller under a name in use drops the one before it;
storing a handle drops a handle, which fires nothing.
-/

structure Board where
  pairs : Pairs
  handles : Std.ExtTreeMap String Handle
  cancellers : Std.ExtTreeMap String PairId

namespace Board

inductive Step where
  /-- A new pair, both ends under one name. -/
  | create (name : String)
  /-- A new pair whose canceller is lost at once. -/
  | discarded (name : String)
  | never (name : String)
  | copy (name source : String)
  | forget (name : String)
  | cancel (name : String)
  | drop (name : String)
deriving DecidableEq, Repr

def empty : Board := ⟨.initial, ∅, ∅⟩

def handle? (board : Board) (name : String) : Option Handle :=
  board.handles[name]?

def put (board : Board) (name : String) (handle : Handle) : Board :=
  { board with handles := board.handles.insert name handle }

def fire (board : Board) (name : String) : Board :=
  match board.cancellers[name]? with
  | some pair =>
      { board with
        pairs := board.pairs.fire pair
        cancellers := board.cancellers.erase name }
  | none => board

def create (board : Board) (name : String) : Board :=
  let (pair, pairs) := board.pairs.create
  let board := ({ board with pairs } : Board).fire name
  { board.put name (.of pair) with cancellers := board.cancellers.insert name pair }

def discarded (board : Board) (name : String) : Board :=
  let (pair, pairs) := board.pairs.create
  ({ board with pairs := pairs.fire pair } : Board).put name (.of pair)

def copy (board : Board) (name source : String) : Board :=
  match board.handle? source with
  | some handle => board.put name handle
  | none => board

def step (board : Board) : Step → Board
  | .create name => board.create name
  | .discarded name => board.discarded name
  | .never name => board.put name .never
  | .copy name source => board.copy name source
  | .forget name => { board with handles := board.handles.erase name }
  | .cancel name => board.fire name
  | .drop name => board.fire name

def firedNames (board : Board) : List String :=
  (board.handles.toList.filter (fun (_, handle) => board.pairs.hasFired handle)).map (·.1)

/-- The fired names after each step. -/
def run (board : Board) : List Step → List (List String)
  | [] => []
  | step :: rest =>
      let after := board.step step
      after.firedNames :: after.run rest

end Board

end Locking
