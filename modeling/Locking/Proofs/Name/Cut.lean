import Locking.Name.Registry
import Locking.Proofs.Text.Cut

namespace Locking

/-!
The cut of names, seen from the bytes. Where characters start is what the standard library takes for
the valid positions of a string. The cut keeps the bytes before the last of them that the limit
allows, which is found at most three bytes before the limit.
-/

/-- The search for a valid position from `offset` down: it ends at a valid position, and goes one
byte back from any other. There is no step back from the start of the text. -/
inductive StepsBack (text : String) : Nat → Nat → Nat → Prop where
  | arrived {offset : Nat} (valid : String.Pos.Raw.IsValid text ⟨offset⟩) :
      StepsBack text offset 0 offset
  | back {offset steps last : Nat} (inside : ¬String.Pos.Raw.IsValid text ⟨offset + 1⟩)
      (rest : StepsBack text offset steps last) : StepsBack text (offset + 1) (steps + 1) last

variable {text : String} {offset : Nat}

theorem byteLength_toList (text : String) : Text.byteLength text.toList = text.utf8ByteSize := by
  suffices ofList : ∀ chars : List Char,
      Text.byteLength chars = (String.ofList chars).utf8ByteSize by
    rw [ofList, String.ofList_toList]
  intro chars
  induction chars with
  | nil => rfl
  | cons c rest ih =>
      rw [← List.singleton_append, String.ofList_append, String.utf8ByteSize_append, ← ih,
        ← String.singleton_eq_ofList, String.utf8ByteSize_singleton, Text.byteLength_append,
        Text.byteLength_cons, Text.byteLength_nil, Nat.add_zero]

theorem isBoundary_iff_isValid :
    Text.isBoundary text.toList offset = true ↔ String.Pos.Raw.IsValid text ⟨offset⟩ := by
  rw [Text.isBoundary_iff, String.Pos.Raw.isValid_iff_exists_append]
  constructor
  · rintro ⟨front, ⟨rest, joined⟩, length⟩
    refine ⟨String.ofList front, String.ofList rest, ?_, ?_⟩
    · rw [← String.ofList_append, joined, String.ofList_toList]
    · rw [← length, ← String.toList_ofList (l := front), byteLength_toList, String.toList_ofList]
      rfl
  · rintro ⟨front, rest, rfl, same⟩
    refine ⟨front.toList, ?_, ?_⟩
    · rw [String.toList_append]
      exact List.prefix_append _ _
    · rw [byteLength_toList]
      exact (congrArg String.Pos.Raw.byteIdx same).symm

theorem stepsBack_floorBoundary (text : String) (offset : Nat) :
    ∃ steps, StepsBack text offset steps (Text.floorBoundary text.toList offset) ∧
      Text.floorBoundary text.toList offset + steps = offset := by
  induction offset with
  | zero => exact ⟨0, .arrived (isBoundary_iff_isValid.mp (by simp [Text.isBoundary])), rfl⟩
  | succ offset ih =>
      unfold Text.floorBoundary
      split
      case isTrue boundary => exact ⟨0, .arrived (isBoundary_iff_isValid.mp boundary), rfl⟩
      case isFalse inside =>
        obtain ⟨steps, search, total⟩ := ih
        refine ⟨steps + 1, .back (fun valid => inside (isBoundary_iff_isValid.mpr valid)) search, ?_⟩
        omega

theorem toList_cutName (text : String) :
    (cutName text).toList = Text.cut maxNameBytes text.toList :=
  String.toList_ofList

/-- What is kept of a text are its first bytes. -/
theorem toByteArray_cutName (text : String) :
    (cutName text).toByteArray = text.toByteArray.extract 0 (cutName text).utf8ByteSize := by
  obtain ⟨rest, joined⟩ := Text.cut_isPrefix maxNameBytes text.toList
  have parts : text = cutName text ++ String.ofList rest := by
    rw [cutName, ← String.ofList_append, joined, String.ofList_toList]
  have first : (cutName text).toByteArray =
      (cutName text ++ String.ofList rest).toByteArray.extract 0 (cutName text).utf8ByteSize := by
    rw [String.toByteArray_append, ByteArray.extract_append_eq_left String.size_toByteArray.symm]
  rwa [← parts] at first

/-- A name is cut to the longest beginning in whole characters that has at most 128 bytes. A text
that is no longer stays as it is; of any other between 125 and 128 bytes are kept, up to the valid
position to which at most three steps lead back. Cutting again changes nothing, and a beginning of a
text is cut to a beginning of what is kept of the text. -/
theorem cutName_longest_beginning (text : String) :
    Text.LongestWithin 128 text.toList (cutName text).toList ∧
    (cutName text = text ↔ text.utf8ByteSize ≤ 128) ∧
    (128 < text.utf8ByteSize →
      (125 ≤ (cutName text).utf8ByteSize ∧ (cutName text).utf8ByteSize ≤ 128) ∧
      ∃ steps ≤ 3, StepsBack text 128 steps (cutName text).utf8ByteSize ∧
        (cutName text).toByteArray = text.toByteArray.extract 0 (cutName text).utf8ByteSize) ∧
    cutName (cutName text) = cutName text ∧
    ∀ front : String, front.toList <+: text.toList →
      (cutName front).toList <+: (cutName text).toList := by
  have longest := Text.cut_longestWithin maxNameBytes text.toList
  rw [← toList_cutName] at longest
  refine ⟨longest, ?_, fun long => ?_, ?_, fun front start => ?_⟩
  · rw [← String.toList_inj, toList_cutName, Text.cut_eq_self_iff, byteLength_toList]
    rfl
  · rw [← byteLength_toList] at long
    have size : (cutName text).utf8ByteSize = Text.floorBoundary text.toList 128 := by
      rw [← byteLength_toList, toList_cutName]
      exact Text.byteLength_cut long
    have near := Text.le_floorBoundary_add_three (Nat.le_of_lt long)
    obtain ⟨steps, search, total⟩ := stepsBack_floorBoundary text 128
    rw [← size] at near search total
    exact ⟨by omega, steps, by omega, search, toByteArray_cutName text⟩
  · rw [← String.toList_inj, toList_cutName, toList_cutName, Text.cut_cut]
  · rw [toList_cutName, toList_cutName]
    exact Text.cut_isPrefix_cut start

end Locking
