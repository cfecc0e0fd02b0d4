import Locking.Proofs.Name.Run
import Locking.Proofs.Text.Faults

namespace Locking

/-!
Which bytes are read as an identifier, and what is reported of all others. That the text cannot be
read is reported before the tag is looked at.
-/

/-- Bytes that are not read as an identifier, with what is wrong and how that is reported. -/
inductive Encoding.Rejected : List UInt8 → Encoding.Fault → String → Prop where
  | empty : Rejected [] .empty "identifier: empty input"
  | incomplete {tag : UInt8} {bytes : List UInt8} {index : Nat}
      (flawed : Text.Utf8.Flawed bytes (.incomplete index)) :
      Rejected (tag :: bytes) (.invalidText (.incomplete index))
        ("identifier: invalid utf-8: " ++
          ("incomplete utf-8 byte sequence from index " ++ toString index))
  | broken {tag : UInt8} {bytes : List UInt8} {index good : Nat}
      (flawed : Text.Utf8.Flawed bytes (.broken index good)) :
      Rejected (tag :: bytes) (.invalidText (.broken index good))
        ("identifier: invalid utf-8: " ++
          ("invalid utf-8 sequence of " ++ toString good ++ " bytes from index " ++ toString index))
  | unexpectedTag {tag : UInt8} {text : List Char} (noName : tag ≠ 0) (noReserved : tag ≠ 1) :
      Rejected (tag :: Text.Utf8.encode text) (.unexpectedTag tag)
        ("identifier: unexpected tag " ++ toString tag.toNat)

namespace Encoding

variable {tag : UInt8} {quoted : Bool} {bytes : List UInt8} {fault : Fault} {message : String}

theorem quotedBy?_eq_some_iff :
    quotedBy? tag = some quoted ↔ (tag = 0 ∨ tag = 1) ∧ quoted = (tag == 0) := by
  unfold quotedBy? nameTag reservedTag
  by_cases name : tag = 0
  · subst name
    cases quoted <;> decide
  by_cases reserved : tag = 1
  · subst reserved
    cases quoted <;> decide
  · simp [name, reserved]

theorem quotedBy?_eq_none_iff : quotedBy? tag = none ↔ tag ≠ 0 ∧ tag ≠ 1 := by
  unfold quotedBy? nameTag reservedTag
  split
  case isTrue name => simp [name]
  case isFalse name =>
    split
    case isTrue reserved => simp [reserved]
    case isFalse reserved => simp [name, reserved]

theorem Rejected.message_eq (rejected : Rejected bytes fault message) :
    fault.message = message := by
  cases rejected <;> rfl

end Encoding

namespace Registry

open Encoding (Rejected)

variable {registry : Registry} {bytes : List UInt8} {result : Identifier × Registry}
  {fault : Encoding.Fault} {message : String}

theorem rejected_of_decode (failed : registry.decode bytes = .error fault) :
    Rejected bytes fault fault.message := by
  cases bytes with
  | nil =>
      obtain rfl : Encoding.Fault.empty = fault := Except.error.inj failed
      exact .empty
  | cons tag bytes =>
      cases read : Text.Utf8.decode bytes with
      | error flaw =>
          simp only [decode, read, Except.error.injEq] at failed
          subst failed
          have flawed := Text.Utf8.decode_eq_error_iff.mp read
          cases flaw with
          | broken index good => exact .broken flawed
          | incomplete index => exact .incomplete flawed
      | ok text =>
          obtain rfl := Text.Utf8.decode_eq_ok_iff.mp read
          cases tagged : Encoding.quotedBy? tag with
          | some quoted => simp [decode_tagged tagged] at failed
          | none =>
              simp only [decode, read, tagged, Except.error.injEq] at failed
              subst failed
              obtain ⟨noName, noReserved⟩ := Encoding.quotedBy?_eq_none_iff.mp tagged
              exact .unexpectedTag noName noReserved

theorem decode_of_rejected (rejected : Rejected bytes fault message) :
    registry.decode bytes = .error fault := by
  cases rejected with
  | empty => rfl
  | incomplete flawed => simp only [decode, Text.Utf8.decode_eq_error_iff.mpr flawed]
  | broken flawed => simp only [decode, Text.Utf8.decode_eq_error_iff.mpr flawed]
  | unexpectedTag noName noReserved =>
      have unknown := Encoding.quotedBy?_eq_none_iff.mpr ⟨noName, noReserved⟩
      simp only [decode, Text.Utf8.decode_eq_ok_iff.mpr rfl, unknown]

/-- What is read is a tag, by which a text is quoted or not, and the text behind it. -/
theorem decode_eq_ok_iff_tagged :
    registry.decode bytes = .ok result ↔
      ∃ tag text, bytes = tag :: Text.Utf8.encode text ∧ (tag = 0 ∨ tag = 1) ∧
        registry.intern (String.ofList text) (tag == 0) = result := by
  rw [decode_eq_ok_iff]
  constructor
  · rintro ⟨tag, text, quoted, split, tagged, interned⟩
    obtain ⟨known, rfl⟩ := Encoding.quotedBy?_eq_some_iff.mp tagged
    exact ⟨tag, text, split, known, interned⟩
  · rintro ⟨tag, text, split, known, interned⟩
    exact ⟨tag, text, _, split, Encoding.quotedBy?_eq_some_iff.mpr ⟨known, rfl⟩, interned⟩

theorem exists_decode_iff :
    (∃ result, registry.decode bytes = .ok result) ↔
      ∃ tag rest, bytes = tag :: rest ∧ Text.Utf8.WellFormed rest ∧ (tag = 0 ∨ tag = 1) := by
  constructor
  · rintro ⟨result, read⟩
    obtain ⟨tag, text, split, known, _⟩ := decode_eq_ok_iff_tagged.mp read
    exact ⟨tag, _, split, ⟨text, rfl⟩, known⟩
  · rintro ⟨tag, _, split, ⟨text, rfl⟩, known⟩
    exact ⟨_, decode_eq_ok_iff_tagged.mpr ⟨tag, text, split, known, rfl⟩⟩

theorem decode_eq_error_iff :
    registry.decode bytes = .error fault ∧ fault.message = message ↔
      Rejected bytes fault message := by
  constructor
  · rintro ⟨failed, rfl⟩
    exact rejected_of_decode failed
  · intro rejected
    exact ⟨decode_of_rejected rejected, rejected.message_eq⟩

/-- Bytes are read as an identifier if and only if there is a first one, the others are a text, and
the first is the tag of a name or that of a reserved word. Then the text is interned, as quoted
after the tag of a name. If not, the first of these conditions that fails is reported, in these
words, and the registry stays as it is. -/
theorem decode_accepts_tagged_text (steps : List Step) (bytes : List UInt8) :
    let registry := fresh.after steps
    ((∃ result, registry.decode bytes = .ok result) ↔
      ∃ tag rest, bytes = tag :: rest ∧ Text.Utf8.WellFormed rest ∧ (tag = 0 ∨ tag = 1)) ∧
    (∀ result, registry.decode bytes = .ok result ↔
      ∃ tag text, bytes = tag :: Text.Utf8.encode text ∧ (tag = 0 ∨ tag = 1) ∧
        registry.intern (String.ofList text) (tag == 0) = result) ∧
    (∀ fault message, registry.decode bytes = .error fault ∧ fault.message = message ↔
      Rejected bytes fault message) ∧
    ∀ fault, registry.decode bytes = .error fault ↔
      registry.step (.decode bytes) = (.undecodable fault, registry) := by
  intro registry
  refine ⟨exists_decode_iff, fun _ => decode_eq_ok_iff_tagged, fun _ _ => decode_eq_error_iff, ?_⟩
  intro fault
  cases read : registry.decode bytes with
  | ok result => simp [step, read]
  | error other => simp [step, read]

end Registry

end Locking
