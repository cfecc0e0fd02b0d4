import Locking.Level
import Locking.Name.Encoding
import Locking.Name.Qualified

namespace Locking

/-!
Why a call fails, and how that is worded.
-/

inductive Refusal where
  /-- Waiting for a higher level while holding a lower one could end in a deadlock. -/
  | conflictingUpgrade (key : Key) (held requested : Level)
  | releasedLocker (name : String)
  | cancelled (key : Key)
  | alreadyQueued (key : Key)
  | closed
  | undecodable (text : String)
deriving DecidableEq, Repr

namespace Refusal

def message : Refusal → String
  | .conflictingUpgrade key held requested =>
      key ++ ": cannot upgrade " ++ held.word ++ " to " ++ requested.word ++ ": would deadlock"
  | .releasedLocker name => "locker " ++ name ++ " has already released its locks"
  | .cancelled key => key ++ ": lock request cancelled"
  | .alreadyQueued key => key ++ ": locker already has a queued request"
  | .closed => "lock table closed"
  | .undecodable text => text

def ofEncoding (fault : Encoding.Fault) : Refusal :=
  .undecodable fault.message

end Refusal

end Locking
