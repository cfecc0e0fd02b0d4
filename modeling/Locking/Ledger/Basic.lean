import Locking.Resource.Audit
import Locking.Resource.Line
import Std.Data.ExtTreeMap
import Std.Data.ExtTreeSet

namespace Locking

/-!
The ledger: every resource with something in it, and for every locker the keys under which it
appears. Each operation is one uninterrupted change. Next to its answer it gives notice to the
queued requests whose wait it ends; it is told to whom of them somebody still listens.
-/

structure Ledger.Options where
  /-- How many resources room is made for at the start. -/
  initialCapacity : Nat
  /-- Whether a resource is audited after every change. -/
  checks : Bool
deriving DecidableEq, Repr

def Ledger.Options.standard : Ledger.Options := ⟨16, true⟩

structure Standing where
  released : Bool
  /-- The keys of the resources where the locker holds or waits. -/
  keys : Std.ExtTreeSet Key

namespace Standing

def fresh : Standing := ⟨false, ∅⟩

/-- Once released, a locker appears nowhere, for good. -/
def departed : Standing := ⟨true, ∅⟩

def isFresh (standing : Standing) : Bool :=
  !standing.released && standing.keys.isEmpty

theorem eq_fresh {standing : Standing} (fresh : standing.isFresh = true) :
    standing = .fresh := by
  obtain ⟨released, keys⟩ := standing
  simp only [isFresh, Bool.and_eq_true, Bool.not_eq_true'] at fresh
  obtain ⟨unreleased, nothing⟩ := fresh
  subst unreleased
  have none : keys = ∅ := by simpa using nothing
  rw [none]
  rfl

end Standing

structure Ledger where
  resources : Std.ExtTreeMap Key Resource
  /-- The lockers whose standing is not fresh. -/
  lockers : Std.ExtTreeMap LockerId Standing
  closed : Bool
  checks : Bool
  /-- The first violation that an audit has found. -/
  alarm : Option String

namespace Ledger

def empty (options : Options) : Ledger where
  resources := ∅
  lockers := ∅
  closed := false
  checks := options.checks
  alarm := none

def resource (ledger : Ledger) (key : Key) : Resource :=
  (ledger.resources[key]?).getD .vacant

def standing (ledger : Ledger) (id : LockerId) : Standing :=
  (ledger.lockers[id]?).getD .fresh

def isReleased (ledger : Ledger) (id : LockerId) : Bool :=
  (ledger.standing id).released

def keysOf (ledger : Ledger) (id : LockerId) : List Key :=
  (ledger.standing id).keys.toList

def holds? (ledger : Ledger) (id : LockerId) (key : Key) : Option Level :=
  (ledger.resource key).holding? id

def records (ledger : Ledger) : List Record :=
  ledger.resources.toList.flatMap (fun (key, resource) => resource.records key)

def openEntry (ledger : Ledger) (key : Key) : Ledger :=
  { ledger with resources := ledger.resources.insertIfNew key .vacant }

def store (ledger : Ledger) (key : Key) (resource : Resource) : Ledger :=
  { ledger with resources := ledger.resources.insert key resource }

def eraseEntry (ledger : Ledger) (key : Key) : Ledger :=
  { ledger with resources := ledger.resources.erase key }

def setStanding (ledger : Ledger) (id : LockerId) (standing : Standing) : Ledger :=
  { ledger with
    lockers :=
      if standing.isFresh then ledger.lockers.erase id else ledger.lockers.insert id standing }

def note (ledger : Ledger) (id : LockerId) (key : Key) : Ledger :=
  let standing := ledger.standing id
  ledger.setStanding id { standing with keys := standing.keys.insert key }

def strike (ledger : Ledger) (id : LockerId) (key : Key) : Ledger :=
  let standing := ledger.standing id
  ledger.setStanding id { standing with keys := standing.keys.erase key }

/-- Audits the resource under a key, if that is wanted. -/
def inspect (ledger : Ledger) (key : Key) : Ledger :=
  if ledger.checks then
    { ledger with alarm := ledger.alarm.or ((ledger.resource key).breach?.map (·.message key)) }
  else ledger

/-- Grants what can now be granted under a key, and forgets the entry if nothing is left in it. -/
def sweep (ledger : Ledger) (listening : Ticket → Bool) (key : Key) : Ledger × List Notice :=
  match ledger.resources[key]? with
  | none => (ledger, [])
  | some resource =>
      let (granted, left) := resource.sweep listening
      let ledger := (ledger.store key left).inspect key
      (if left.isVacant then ledger.eraseEntry key else ledger,
        granted.map (fun waiter => .granted waiter.ticket))

@[simp] theorem resource_empty (options : Options) (key : Key) :
    (empty options).resource key = .vacant := by
  simp [empty, resource]

theorem resource_store (ledger : Ledger) (key other : Key) (stored : Resource) :
    (ledger.store key stored).resource other =
      if key = other then stored else ledger.resource other := by
  by_cases same : key = other
  · subst same
    simp [store, resource]
  · simp [store, resource, Std.ExtTreeMap.getElem?_insert, same]

@[simp] theorem resource_openEntry (ledger : Ledger) (key other : Key) :
    (ledger.openEntry key).resource other = ledger.resource other := by
  simp only [openEntry, resource, Std.ExtTreeMap.getElem?_insertIfNew]
  split
  case isTrue absent =>
    obtain ⟨same, missing⟩ := absent
    have equal : key = other := Std.LawfulEqOrd.eq_of_compare same
    subst equal
    simp [Std.ExtTreeMap.getElem?_eq_none missing]
  case isFalse => rfl

@[simp] theorem standing_empty (options : Options) (id : LockerId) :
    (empty options).standing id = .fresh := by
  simp [empty, standing]

theorem standing_setStanding (ledger : Ledger) (id other : LockerId) (standing : Standing) :
    (ledger.setStanding id standing).standing other =
      if id = other then standing else ledger.standing other := by
  unfold setStanding
  by_cases fresh : standing.isFresh = true
  · have equal := Standing.eq_fresh fresh
    subst equal
    by_cases same : id = other
    · subst same
      simp [Ledger.standing, fresh]
    · simp [Ledger.standing, fresh, same, Std.ExtTreeMap.getElem?_erase]
  · by_cases same : id = other
    · subst same
      simp [Ledger.standing, fresh]
    · simp [Ledger.standing, fresh, same, Std.ExtTreeMap.getElem?_insert]

@[simp] theorem resource_setStanding (ledger : Ledger) (id : LockerId) (standing : Standing)
    (key : Key) : (ledger.setStanding id standing).resource key = ledger.resource key := rfl

end Ledger

end Locking
