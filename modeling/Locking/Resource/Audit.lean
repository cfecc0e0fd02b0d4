import Locking.Resource.Basic

namespace Locking

/-!
What must be true of a resource at rest, as a check that names the first violation it finds.
-/

/-- A violation, with the names of the lockers concerned. -/
inductive Breach where
  | holdsTwice (name : String)
  | conflict (first : String) (firstLevel : Level) (second : String) (secondLevel : Level)
  | holdsAndWaits (name : String)
  | queuedTwice (name : String)
  /-- The head of the queue waits although nothing stands in its way. -/
  | missedGrant (name : String)
deriving DecidableEq, Repr

def Breach.message (key : Key) : Breach → String
  | .holdsTwice name => key ++ ": " ++ name ++ " holds twice"
  | .conflict first firstLevel second secondLevel =>
      key ++ ": " ++ first ++ " " ++ firstLevel.word ++ " conflicts with " ++ second ++ " " ++
        secondLevel.word
  | .holdsAndWaits name => key ++ ": " ++ name ++ " both holds and waits"
  | .queuedTwice name => key ++ ": " ++ name ++ " queued twice"
  | .missedGrant name => key ++ ": head waiter " ++ name ++ " should have been granted"

namespace Resource

def clash? (first second : Holding) : Option Breach :=
  if first.locker.id = second.locker.id then some (.holdsTwice first.locker.name)
  else if first.level.compatible second.level then none
  else some (.conflict first.locker.name first.level second.locker.name second.level)

def holdingBreach? : List Holding → Option Breach
  | [] => none
  | first :: rest => (rest.findSome? (clash? first)).or (holdingBreach? rest)

def queueBreach? (resource : Resource) : List Waiter → Option Breach
  | [] => none
  | waiter :: rest =>
      if (resource.holding? waiter.locker.id).isSome then
        some (.holdsAndWaits waiter.locker.name)
      else if rest.any (fun other => waiter.locker.id == other.locker.id) then
        some (.queuedTwice waiter.locker.name)
      else queueBreach? resource rest

def headBreach? (resource : Resource) : Option Breach :=
  match resource.queue with
  | [] => none
  | head :: _ =>
      if admits resource.holdings head.level then some (.missedGrant head.locker.name) else none

def breach? (resource : Resource) : Option Breach :=
  ((holdingBreach? resource.holdings).or (resource.queueBreach? resource.queue)).or
    resource.headBreach?

end Resource

end Locking
