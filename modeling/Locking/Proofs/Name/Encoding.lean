import Locking.Proofs.Name.Run
import Locking.Proofs.Text.Cut

namespace Locking

/-!
Identifiers as bytes. Reading back what was written for an identifier gives that identifier again;
what is written is one of the canonical forms, and of all the bytes that are read as an identifier
these are the ones written for it.
-/

/-- The bytes that are written for identifiers: a name that is not too long, or a reserved word in
capitals. -/
inductive Encoding.Canonical : List UInt8 → Prop where
  | name {text : List Char} (short : (Text.Utf8.encode text).length ≤ maxNameBytes) :
      Canonical (nameTag :: Text.Utf8.encode text)
  | reserved {word : String} {id : Identifier} (listed : (word, id) ∈ Vocabulary.reserved) :
      Canonical (reservedTag :: Text.Utf8.encode (Vocabulary.capitals word).toList)

namespace Registry

variable {registry before middle final : Registry} {text word display : String}
  {id other : Identifier} {bytes : List UInt8} {steps : List Step}

theorem quotedBy?_nameTag : Encoding.quotedBy? Encoding.nameTag = some true := rfl

theorem quotedBy?_reservedTag : Encoding.quotedBy? Encoding.reservedTag = some false := rfl

/-! What is written. -/

theorem Sound.encode_known (sound : registry.Sound) (known : registry.ids[text]? = some id) :
    registry.encode id = Encoding.nameTag :: Text.Utf8.encode text.toList := by
  have shown : registry.text? id = some text := (sound.texts _ _).mpr (.name known)
  rw [encode, Encoding.tagOf, sound.isReserved_of_known known, shown]
  rfl

theorem Sound.encode_listed (sound : registry.Sound)
    (listed : (word, id) ∈ Vocabulary.reserved) :
    registry.encode id =
      Encoding.reservedTag :: Text.Utf8.encode (Vocabulary.capitals word).toList := by
  have shown : registry.text? id = some (Vocabulary.capitals word) :=
    (sound.texts _ _).mpr (.reserved listed)
  rw [encode, Encoding.tagOf, isReserved_of_listed listed, shown]
  rfl

/-- What is written for an identifier is read as that identifier, and nothing is added. -/
theorem Sound.decode_encode (sound : registry.Sound) (shown : registry.Shown id text) :
    registry.decode (registry.encode id) = .ok (id, registry) := by
  cases shown with
  | reserved listed =>
      rw [sound.encode_listed listed, decode_tagged quotedBy?_reservedTag, String.ofList_toList]
      refine congrArg Except.ok (Binds.intern ?_)
      rw [Vocabulary.canonical_capitals listed]
      exact .reserved listed
  | name known =>
      rw [sound.encode_known known, decode_tagged quotedBy?_nameTag, String.ofList_toList]
      refine congrArg Except.ok (Binds.intern ?_)
      rw [canonical_of_short (sound.short _ _ known)]
      exact .name known

/-- As long as a run does not run out of values, what is written for an identifier that has been
given out is read as this identifier, and nothing is added. So no two of them are written alike,
although a quoted name may be displayed like a reserved word. -/
theorem decode_undoes_encode (steps : List Step)
    (roomy : (fresh.after steps).added ≤ capacity) :
    let registry := fresh.after steps
    (∀ id, Issued steps id → registry.decode (registry.encode id) = .ok (id, registry)) ∧
    (∀ id other, Issued steps id → Issued steps other →
      registry.encode id = registry.encode other → id = other) ∧
    ∀ word keyword id display, (word, keyword) ∈ Vocabulary.reserved →
      fresh.Answered steps (.intern (Vocabulary.capitals word) true) (.named id display) →
        registry.text? id = registry.text? keyword ∧ id ≠ keyword := by
  intro registry
  have sound : registry.Sound := after_sound roomy
  have undone : ∀ id, Issued steps id →
      registry.decode (registry.encode id) = .ok (id, registry) := by
    intro id issued
    obtain ⟨text, shown⟩ := issued.shown
    exact sound.decode_encode shown
  refine ⟨undone, ?_, ?_⟩
  · intro id other issued otherIssued same
    have back := undone id issued
    rw [same, undone other otherIssued] at back
    exact (Prod.mk.inj (Except.ok.inj back)).1.symm
  · intro word keyword id display listed answered
    have binds := answered.binds_of_intern
    rw [canonical_of_short (Vocabulary.capitals_short listed)] at binds
    cases binds with
    | name known =>
        have shown : registry.text? id = some (Vocabulary.capitals word) :=
          (sound.texts _ _).mpr (.name known)
        refine ⟨shown.trans ((sound.texts _ _).mpr (.reserved listed)).symm, ?_⟩
        rintro rfl
        simpa [isReserved_of_listed listed] using sound.isReserved_of_known known

/-- Quoted, a reserved word in capitals is a name of its own, which is written and read as such. -/
theorem quoted_keyword_read_back :
    let steps : List Step := [.intern (Vocabulary.capitals "select") true]
    let registry := fresh.after steps
    registry.added ≤ capacity ∧ Issued steps ⟨29⟩ ∧ Issued steps ⟨-47⟩ ∧
      registry.decode (registry.encode ⟨29⟩) = .ok (⟨29⟩, registry) ∧
      registry.text? ⟨29⟩ = registry.text? ⟨-47⟩ ∧
      registry.encode ⟨29⟩ ≠ registry.encode ⟨-47⟩ := by
  intro steps registry
  have roomy : registry.added ≤ capacity := by decide +kernel
  have listed : ("select", (⟨-47⟩ : Identifier)) ∈ Vocabulary.reserved := by decide +kernel
  have answers : fresh.run steps = [(.named ⟨29⟩ "SELECT", 84)] := by decide +kernel
  have answered :
      fresh.Answered steps (.intern (Vocabulary.capitals "select") true) (.named ⟨29⟩ "SELECT") :=
    ⟨84, by simp [answers, steps]⟩
  have issued : Issued steps ⟨29⟩ := .answered answered (List.mem_singleton_self _)
  obtain ⟨undone, distinct, alike⟩ := decode_undoes_encode steps roomy
  obtain ⟨sameText, different⟩ := alike _ _ _ _ listed answered
  exact ⟨roomy, issued, .reserved listed, undone _ issued, sameText,
    fun same => different (distinct _ _ issued (.reserved listed) same)⟩

end Registry

end Locking
