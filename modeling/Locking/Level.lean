namespace Locking

/-!
Levels of a lock, and which of them can be held side by side.
-/

inductive Level where
  /-- Shared reading. -/
  | access
  /-- Rows will be modified; what happens to single rows is settled elsewhere. -/
  | rowModify
  /-- The description of the table will be modified, while readers go on. -/
  | metadataModify
  | exclusive
deriving DecidableEq, Repr

namespace Level

def all : List Level :=
  [.access, .rowModify, .metadataModify, .exclusive]

/-- The weakest level is the one meant when none is named. -/
instance : Inhabited Level := ⟨.access⟩

def strength : Level → Nat
  | .access => 0
  | .rowModify => 1
  | .metadataModify => 2
  | .exclusive => 3

instance : LE Level := ⟨fun left right => left.strength ≤ right.strength⟩

instance : LT Level := ⟨fun left right => left.strength < right.strength⟩

instance (left right : Level) : Decidable (left ≤ right) :=
  inferInstanceAs (Decidable (left.strength ≤ right.strength))

instance (left right : Level) : Decidable (left < right) :=
  inferInstanceAs (Decidable (left.strength < right.strength))

instance : Ord Level := ⟨compareOn strength⟩

/-- Whether two lockers can hold these levels of one resource at the same time. -/
def compatible : Level → Level → Bool
  | .access, .exclusive => false
  | .access, _ => true
  | .rowModify, .access => true
  | .rowModify, .rowModify => true
  | .metadataModify, .access => true
  | _, _ => false

/-- The spelling of a level in messages and listings. -/
def word : Level → String
  | .access => "ACCESS"
  | .rowModify => "ROW_MODIFY"
  | .metadataModify => "METADATA_MODIFY"
  | .exclusive => "EXCLUSIVE"

/-- The spelling of a level in a dump of a record. -/
def variant : Level → String
  | .access => "Access"
  | .rowModify => "RowModify"
  | .metadataModify => "MetadataModify"
  | .exclusive => "Exclusive"

def ofWord? (word : String) : Option Level :=
  all.find? fun level => level.word == word

theorem compatible_symm (left right : Level) : left.compatible right = right.compatible left := by
  cases left <;> cases right <;> rfl

/-- What goes with a level goes with every weaker one. -/
theorem compatible_of_le {weaker stronger other : Level} (below : weaker ≤ stronger)
    (fits : stronger.compatible other = true) : weaker.compatible other = true := by
  revert below fits
  cases weaker <;> cases stronger <;> cases other <;> decide

theorem le_refl (level : Level) : level ≤ level :=
  Nat.le_refl level.strength

theorem le_trans {low middle high : Level} (first : low ≤ middle) (second : middle ≤ high) :
    low ≤ high :=
  Nat.le_trans first second

end Level

end Locking
