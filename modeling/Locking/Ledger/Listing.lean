import Locking.Ledger.Basic

namespace Locking

/-!
The order of a listing of locks: by key, locker, level and place. Texts are compared character by
character.
-/

namespace Record

def inOrder (first second : Record) : Bool :=
  (compare first.key second.key
    |>.then (compare first.locker second.locker)
    |>.then (compare first.level second.level)
    |>.then (compare first.place second.place)).isLE

def dump (record : Record) : String :=
  "LockRecord \x7b key: \"" ++ record.key ++ "\", locker: \"" ++ record.locker ++ "\", level: " ++
    record.level.variant ++ ", place: " ++ toString record.place ++ " \x7d"

end Record

namespace Ledger

def listing (ledger : Ledger) : List Record :=
  ledger.records.mergeSort Record.inOrder

end Ledger

end Locking
