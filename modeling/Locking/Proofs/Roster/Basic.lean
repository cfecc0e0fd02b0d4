import Locking.Proofs.Resource.Promotion
import Mathlib.Data.Nat.Find
import Mathlib.Logic.Function.Basic

namespace Locking

/-!
Locking told without queues. Each resource has one roll of members in the order in which they came,
and who of them has been granted is not recorded: it is the longest prefix of the roll whose levels
go together.
-/

abbrev Roll := List Holding

namespace Roll

def Harmonious (roll : Roll) : Prop :=
  roll.Pairwise fun first second => first.level.compatible second.level = true

instance (roll : Roll) : Decidable (Harmonious roll) :=
  inferInstanceAs (Decidable (roll.Pairwise _))

def grantedCount (roll : Roll) : Nat :=
  Nat.findGreatest (fun count => Harmonious (roll.take count)) roll.length

def granted (roll : Roll) : Roll :=
  roll.take (grantedCount roll)

def waiting (roll : Roll) : Roll :=
  roll.drop (grantedCount roll)

def names (id : LockerId) (roll : Roll) : Bool :=
  roll.any (fun member => member.locker.id == id)

def without (id : LockerId) (roll : Roll) : Roll :=
  roll.filter (fun member => member.locker.id != id)

def relevel (id : LockerId) (level : Level) (roll : Roll) : Roll :=
  roll.map (fun member => if member.locker.id == id then { member with level } else member)

/-- Whether a level goes with every member but one locker. -/
def suits (id : LockerId) (level : Level) (roll : Roll) : Bool :=
  roll.all (fun member => member.locker.id == id || member.level.compatible level)

end Roll

inductive Verdict where
  | refused (refusal : Refusal)
  | granted
  | queued (place : Nat)
  | done
  /-- A request that does not wait any more cannot be taken back. -/
  | late
deriving DecidableEq, Repr

/-- Asks for a level. A newcomer is entered at the end, and the roll tells whether it is granted. -/
def Roll.request (roll : Roll) (key : Key) (locker : Locker) (level : Level) : Verdict × Roll :=
  match (granted roll).find? (fun member => member.locker.id == locker.id) with
  | some own =>
      if level ≤ own.level then (.granted, roll)
      else if suits locker.id level roll then (.granted, relevel locker.id level roll)
      else (.refused (.conflictingUpgrade key own.level level), roll)
  | none =>
      if names locker.id (waiting roll) then (.refused (.alreadyQueued key), roll)
      else
        let after := roll ++ [⟨locker, level⟩]
        (if names locker.id (granted after) then .granted else .queued (waiting after).length,
          after)

structure Roster where
  rolls : Key → Roll
  released : LockerId → Bool
  closed : Bool

inductive Deed where
  | request (locker : Locker) (key : Key) (level : Level)
  | release (locker : Locker)
  /-- A locker takes back the request with which it waits under a key. -/
  | cancel (id : LockerId) (key : Key)
  | close
deriving DecidableEq, Repr

namespace Roster

def empty : Roster := ⟨fun _ => [], fun _ => false, false⟩

def step (roster : Roster) : Deed → Verdict × Roster
  | .request locker key level =>
      if roster.released locker.id then (.refused (.releasedLocker locker.name), roster)
      else if roster.closed then (.refused .closed, roster)
      else
        let (verdict, roll) := Roll.request (roster.rolls key) key locker level
        (verdict, { roster with rolls := Function.update roster.rolls key roll })
  | .release locker =>
      if roster.released locker.id then (.refused (.releasedLocker locker.name), roster)
      else
        (.done,
          { roster with
            rolls := fun key => Roll.without locker.id (roster.rolls key)
            released := Function.update roster.released locker.id true })
  | .cancel id key =>
      if Roll.names id (Roll.waiting (roster.rolls key)) then
        (.refused (.cancelled key),
          { roster with
            rolls := Function.update roster.rolls key (Roll.without id (roster.rolls key)) })
      else (.late, roster)
  | .close =>
      (.done, { roster with rolls := fun key => Roll.granted (roster.rolls key), closed := true })

def after (roster : Roster) : List Deed → Roster
  | [] => roster
  | deed :: rest => (roster.step deed).2.after rest

end Roster

namespace Roll

variable {front back roll other : Roll} {id : LockerId}

theorem granted_append_waiting (roll : Roll) : granted roll ++ waiting roll = roll :=
  List.take_append_drop _ _

theorem granted_harmonious (roll : Roll) : Harmonious (granted roll) := by
  have least : Harmonious (roll.take 0) := by
    rw [List.take_zero]
    exact List.Pairwise.nil
  exact Nat.findGreatest_spec (P := fun count => Harmonious (roll.take count))
    (Nat.zero_le roll.length) least

/-- Of all harmonious prefixes the granted one is the longest. -/
theorem length_le_of_harmonious (beginning : other <+: roll) (harmonious : Harmonious other) :
    other.length ≤ (granted roll).length := by
  have taken : other = roll.take other.length := List.prefix_iff_eq_take.mp beginning
  have fits : Harmonious (roll.take other.length) := taken ▸ harmonious
  have enough : other.length ≤ grantedCount roll :=
    Nat.le_findGreatest (P := fun count => Harmonious (roll.take count)) beginning.length_le fits
  rw [granted, List.length_take]
  exact Nat.le_min.mpr ⟨enough, beginning.length_le⟩

/-- A harmonious front is all that is granted, if the first member behind it does not go with it. -/
theorem granted_eq (harmonious : Harmonious front)
    (blocked : ∀ next ∈ back.head?, ¬ Harmonious (front ++ [next])) :
    granted (front ++ back) = front := by
  have enough := length_le_of_harmonious (List.prefix_append front back) harmonious
  have beginning : granted (front ++ back) <+: front ++ back := List.take_prefix _ _
  have contained : front <+: granted (front ++ back) :=
    List.prefix_of_prefix_length_le (List.prefix_append front back) beginning enough
  obtain ⟨more, split⟩ := contained
  cases more with
  | nil => rw [← split, List.append_nil]
  | cons next rest =>
      -- The granted prefix would go on into the back, whose first member is in the way.
      have behind : next :: rest <+: back := by
        rw [← split] at beginning
        exact (List.prefix_append_right_inj front).mp beginning
      obtain ⟨later, rfl⟩ := behind
      have together := granted_harmonious (front ++ (next :: rest ++ later))
      rw [← split] at together
      refine absurd (together.sublist ?_) (blocked next rfl)
      exact (List.Sublist.refl front).append (List.singleton_sublist.mpr List.mem_cons_self)

/-- A reader that could share the resource waits with the writer that came before it. -/
example :
    granted [⟨⟨1, "audit"⟩, .access⟩, ⟨⟨2, "load"⟩, .exclusive⟩, ⟨⟨3, "report"⟩, .access⟩] =
      [⟨⟨1, "audit"⟩, .access⟩] := by
  decide

theorem waiting_eq (harmonious : Harmonious front)
    (blocked : ∀ next ∈ back.head?, ¬ Harmonious (front ++ [next])) :
    waiting (front ++ back) = back := by
  have whole := granted_append_waiting (front ++ back)
  rw [granted_eq harmonious blocked] at whole
  exact List.append_cancel_left whole

end Roll

end Locking
