import Locking.Name.Registry
import Mathlib.Data.List.Nodup

namespace Locking.Vocabulary

/-!
The words that have an identifier from the start. No two words share one, no word has two, reserved
words have negative values and common names positive ones, and what is displayed for a reserved word
stands for that word again.
-/

variable {word : String} {id : Identifier}

/-! The word lists, each looked through once. -/

theorem columns_nodup :
    ((reserved.map (·.1)).Nodup ∧ (reserved.map (·.2)).Nodup) ∧
      (common.map (·.1)).Nodup ∧ (common.map (·.2)).Nodup := by
  decide +kernel

theorem reserved_checked : ∀ entry ∈ reserved, entry.2.value.toInt < 0 ∧
    Text.byteLength entry.1.toList ≤ maxNameBytes ∧
    Text.byteLength (entry.1.toList.map Char.toUpper) ≤ maxNameBytes ∧
    Text.fold (entry.1.toList.map Char.toUpper) = entry.1.toList := by
  decide +kernel

theorem common_checked : ∀ entry ∈ common,
    (0 < entry.2.value.toInt ∧ entry.2.value.toInt < 29) ∧
      Text.byteLength entry.1.toList ≤ maxNameBytes := by
  decide +kernel

/-! One fact at a time. -/

theorem reservedWords_nodup : (reserved.map (·.1)).Nodup :=
  columns_nodup.1.1

theorem reservedIds_nodup : (reserved.map (·.2)).Nodup :=
  columns_nodup.1.2

theorem commonNames_nodup : (common.map (·.1)).Nodup :=
  columns_nodup.2.1

theorem commonIds_nodup : (common.map (·.2)).Nodup :=
  columns_nodup.2.2

theorem reserved_negative (listed : (word, id) ∈ reserved) : id.value.toInt < 0 :=
  (reserved_checked _ listed).1

theorem common_positive (listed : (word, id) ∈ common) :
    0 < id.value.toInt ∧ id.value.toInt < 29 :=
  (common_checked _ listed).1

theorem ids_nodup : (reserved.map (·.2) ++ common.map (·.2)).Nodup := by
  refine List.nodup_append.mpr ⟨reservedIds_nodup, commonIds_nodup, ?_⟩
  intro id isReserved other isCommon same
  obtain ⟨entry, listed, rfl⟩ := List.mem_map.mp isReserved
  obtain ⟨otherEntry, otherListed, rfl⟩ := List.mem_map.mp isCommon
  have negative := reserved_negative listed
  have positive := common_positive otherListed
  rw [same] at negative
  omega

theorem reserved_short (listed : (word, id) ∈ reserved) :
    Text.byteLength word.toList ≤ maxNameBytes :=
  (reserved_checked _ listed).2.1

theorem capitals_short (listed : (word, id) ∈ reserved) :
    Text.byteLength (capitals word).toList ≤ maxNameBytes := by
  rw [capitals, String.toList_ofList]
  exact (reserved_checked _ listed).2.2.1

theorem common_short (listed : (word, id) ∈ common) :
    Text.byteLength word.toList ≤ maxNameBytes :=
  (common_checked _ listed).2

theorem fold_capitals (listed : (word, id) ∈ reserved) :
    Text.fold (word.toList.map Char.toUpper) = word.toList :=
  (reserved_checked _ listed).2.2.2

theorem reserved?_eq_some_iff : reserved? word = some id ↔ (word, id) ∈ reserved := by
  constructor
  · intro found
    obtain ⟨before, after, entries, _⟩ := List.lookup_eq_some_iff.mp found
    simp [entries]
  · intro listed
    cases found : reserved? word with
    | none => simpa using List.lookup_eq_none_iff.mp found _ listed
    | some first =>
        obtain ⟨before, after, entries, _⟩ := List.lookup_eq_some_iff.mp found
        have firstListed : (word, first) ∈ reserved := by simp [entries]
        have same := List.inj_on_of_nodup_map reservedWords_nodup firstListed listed rfl
        exact congrArg (some ∘ Prod.snd) same

/-- The text displayed for a reserved word stands for it. -/
theorem canonical_capitals (listed : (word, id) ∈ reserved) :
    canonical (capitals word) false = .reserved id := by
  have folded : foldName (capitals word) = word := by
    rw [foldName, capitals, String.toList_ofList, fold_capitals listed, String.ofList_toList]
  have kept : cutName word = word := by
    rw [cutName, Text.cut, if_pos (reserved_short listed), String.ofList_toList]
  simp only [canonical, folded, kept, reserved?_eq_some_iff.mpr listed, Bool.false_eq_true,
    if_false]

end Locking.Vocabulary
