import Locking.Name.Qualified
import Locking.Proofs.Name.Run

namespace Locking

/-!
When two tables share their locks. A reserved word is displayed in capitals, and so is a name that
somebody has spelled, in quotes, like these capitals. No other two identifiers are displayed alike,
and a key without dots of its own can be taken apart again.
-/

namespace Vocabulary

variable {word other : String} {id otherId : Identifier}

theorem capitals_inj (listed : (word, id) ∈ reserved) (otherListed : (other, otherId) ∈ reserved)
    (same : capitals word = capitals other) : id = otherId := by
  have stands := canonical_capitals listed
  rw [same, canonical_capitals otherListed] at stands
  exact (Canonical.reserved.inj stands).symm

theorem capitals_uncommon (listed : (word, id) ∈ reserved) : (capitals word, otherId) ∉ common := by
  have all : ∀ entry ∈ reserved, ∀ name ∈ common,
      entry.1.toList.map Char.toUpper ≠ name.1.toList := by decide +kernel
  intro known
  refine all (word, id) listed (capitals word, otherId) known ?_
  rw [capitals, String.toList_ofList]

/-- The small positive values are those of the common names. -/
theorem exists_common_of_isPredefined (predefined : isPredefined id = true)
    (positive : 0 < id.value.toInt) : ∃ word, (word, id) ∈ common := by
  have all : ∀ value < 28, (⟨Int32.ofNat (value + 1)⟩ : Identifier) ∈ common.map (·.2) := by
    decide +kernel
  have below : id.value.toInt < 29 := Int32.lt_iff_toInt_lt.mp (of_decide_eq_true predefined)
  have value : id = ⟨Int32.ofNat ((id.value.toInt - 1).toNat + 1)⟩ := by
    refine congrArg Identifier.mk (Int32.toInt_inj.mp ?_)
    rw [Int32.toInt_ofNat_of_lt (by omega)]
    omega
  have listed := all (id.value.toInt - 1).toNat (by omega)
  rw [← value] at listed
  obtain ⟨⟨word, _⟩, member, rfl⟩ := List.mem_map.mp listed
  exact ⟨word, member⟩

end Vocabulary

namespace Registry

/-- The registry has a text for the identifier. -/
def Known (registry : Registry) (id : Identifier) : Prop :=
  (registry.text? id).isSome = true

instance (registry : Registry) (id : Identifier) : Decidable (registry.Known id) :=
  inferInstanceAs (Decidable (_ = true))

/-- The first identifier is that of a reserved word, and the second that of a name which is none of
the predefined ones and is spelled like the word in capitals. -/
def Namesake (registry : Registry) (keyword name : Identifier) : Prop :=
  ∃ word, (word, keyword) ∈ Vocabulary.reserved ∧
    registry.ids[Vocabulary.capitals word]? = some name ∧ Vocabulary.isPredefined name = false

/-- Two identifiers that nobody can tell apart when they are displayed. -/
def Lookalike (registry : Registry) (id other : Identifier) : Prop :=
  id = other ∨ registry.Namesake id other ∨ registry.Namesake other id

variable {registry : Registry} {word text : String} {id other keyword : Identifier}

theorem Sound.display_of_shown (sound : registry.Sound) (shown : registry.Shown id text) :
    registry.display id = text := by
  rw [display, text?, (sound.texts id text).mpr shown, Option.getD_some]

theorem Sound.shown_of_known (sound : registry.Sound) (known : registry.Known id) :
    ∃ text, registry.Shown id text := by
  obtain ⟨text, found⟩ := Option.isSome_iff_exists.mp known
  exact ⟨text, (sound.texts id text).mp found⟩

theorem Sound.not_isPredefined (sound : registry.Sound)
    (listed : (word, keyword) ∈ Vocabulary.reserved)
    (known : registry.ids[Vocabulary.capitals word]? = some id) :
    Vocabulary.isPredefined id = false := by
  rw [← Bool.not_eq_true]
  intro predefined
  obtain ⟨common, commonListed⟩ :=
    Vocabulary.exists_common_of_isPredefined predefined (sound.value _ _ known).1
  have shown := sound.display_of_shown (.name (sound.common common id commonListed))
  rw [sound.display_of_shown (.name known)] at shown
  exact Vocabulary.capitals_uncommon listed (shown ▸ commonListed)

theorem Namesake.display_eq (sound : registry.Sound) (namesake : registry.Namesake keyword id) :
    registry.display keyword = registry.display id := by
  obtain ⟨word, listed, known, _⟩ := namesake
  rw [sound.display_of_shown (.reserved listed), sound.display_of_shown (.name known)]

theorem Sound.display_eq_iff (sound : registry.Sound) (known : registry.Known id)
    (otherKnown : registry.Known other) :
    registry.display id = registry.display other ↔ registry.Lookalike id other := by
  constructor
  · intro same
    obtain ⟨text, shown⟩ := sound.shown_of_known known
    obtain ⟨otherText, otherShown⟩ := sound.shown_of_known otherKnown
    rw [sound.display_of_shown shown, sound.display_of_shown otherShown] at same
    subst same
    cases shown with
    | reserved listed =>
        generalize capital : Vocabulary.capitals _ = text at otherShown
        cases otherShown with
        | reserved otherListed => exact .inl (Vocabulary.capitals_inj listed otherListed capital)
        | name named =>
            subst capital
            exact .inr (.inl ⟨_, listed, named, sound.not_isPredefined listed named⟩)
    | name named =>
        cases otherShown with
        | reserved listed =>
            exact .inr (.inr ⟨_, listed, named, sound.not_isPredefined listed named⟩)
        | name otherNamed => exact .inl (Option.some.inj (named.symm.trans otherNamed))
  · rintro (rfl | namesake | namesake)
    · rfl
    · exact namesake.display_eq sound
    · exact (namesake.display_eq sound).symm

theorem Namesake.isReserved (namesake : registry.Namesake keyword id) :
    keyword.isReserved = true :=
  namesake.elim fun _ namesake => isReserved_of_listed namesake.1

theorem Lookalike.eq_of_unreserved (alike : registry.Lookalike id other)
    (free : id.isReserved = false) (otherFree : other.isReserved = false) : id = other := by
  rcases alike with same | namesake | namesake
  · exact same
  · rw [namesake.isReserved] at free
    contradiction
  · rw [namesake.isReserved] at otherFree
    contradiction

end Registry

namespace QualifiedName

def parts (name : QualifiedName) : List Identifier :=
  [name.database, name.schema, name.table]

/-- A name of known parts, none of which is displayed with a dot in it. -/
def Plain (name : QualifiedName) (registry : Registry) : Prop :=
  ∀ id ∈ name.parts, registry.Known id ∧ '.' ∉ (registry.display id).toList

instance (name : QualifiedName) (registry : Registry) : Decidable (name.Plain registry) :=
  inferInstanceAs (Decidable (∀ id ∈ name.parts, _ ∧ _))

variable {first second name : QualifiedName} {registry : Registry}

theorem toList_display (name : QualifiedName) (registry : Registry) :
    (name.display registry).toList =
      ['.'].intercalate (name.parts.map fun id => (registry.display id).toList) := by
  simp [display, parts, List.intercalate, List.append_assoc]

/-- The parts of a plain name are read off between the dots of its key. -/
theorem Plain.split (plain : name.Plain registry) :
    (name.display registry).toList.splitOn '.' =
      name.parts.map fun id => (registry.display id).toList := by
  rw [toList_display]
  refine List.splitOn_intercalate '.' (fun text member => ?_) (by simp [parts])
  obtain ⟨id, part, rfl⟩ := List.mem_map.mp member
  exact (plain id part).2

theorem Plain.key_eq_iff (plain : first.Plain registry) (otherPlain : second.Plain registry) :
    first.key registry = second.key registry ↔
      registry.display first.database = registry.display second.database ∧
        registry.display first.schema = registry.display second.schema ∧
        registry.display first.table = registry.display second.table := by
  rw [key, key, String.append_right_inj]
  constructor
  · intro same
    have parts := plain.split
    rw [same, otherPlain.split] at parts
    simpa [QualifiedName.parts, String.toList_inj, eq_comm] using parts
  · rintro ⟨database, schema, table⟩
    rw [display, database, schema, table, ← display]

theorem eq_of_parts (database : first.database = second.database)
    (schema : first.schema = second.schema) (table : first.table = second.table) :
    first = second := by
  obtain ⟨_, _, _⟩ := first
  subst database schema table
  rfl

end QualifiedName

namespace Registry

variable {steps : List Step}

/-- As long as a run does not run out of values, two different identifiers are displayed alike if
and only if one is a reserved word and the other a user's name spelled like it in capitals. Two
tables whose names are displayed without dots of their own have one key if and only if their names
agree part by part, but for such a difference. Without reserved words each table has a key of its
own. -/
theorem tables_share_key_iff (steps : List Step) (roomy : (fresh.after steps).added ≤ capacity) :
    let registry := fresh.after steps
    (∀ id other, registry.Known id → registry.Known other → id ≠ other →
      (registry.display id = registry.display other ↔
        registry.Namesake id other ∨ registry.Namesake other id)) ∧
    (∀ first second : QualifiedName, first.Plain registry → second.Plain registry →
      (first.key registry = second.key registry ↔
        registry.Lookalike first.database second.database ∧
          registry.Lookalike first.schema second.schema ∧
          registry.Lookalike first.table second.table)) ∧
    ∀ first second : QualifiedName, first.Plain registry → second.Plain registry →
      (∀ id ∈ first.parts ++ second.parts, id.isReserved = false) →
        first.key registry = second.key registry → first = second := by
  intro registry
  have sound : registry.Sound := after_sound roomy
  have shared (first second : QualifiedName) (plain : first.Plain registry)
      (otherPlain : second.Plain registry) :
      first.key registry = second.key registry ↔
        registry.Lookalike first.database second.database ∧
          registry.Lookalike first.schema second.schema ∧
          registry.Lookalike first.table second.table := by
    have known : ∀ id ∈ first.parts, registry.Known id := fun id part => (plain id part).1
    have otherKnown : ∀ id ∈ second.parts, registry.Known id :=
      fun id part => (otherPlain id part).1
    simp only [QualifiedName.parts, List.forall_mem_cons] at known otherKnown
    rw [plain.key_eq_iff otherPlain, sound.display_eq_iff known.1 otherKnown.1,
      sound.display_eq_iff known.2.1 otherKnown.2.1,
      sound.display_eq_iff known.2.2.1 otherKnown.2.2.1]
  refine ⟨?_, shared, ?_⟩
  · intro id other known otherKnown different
    rw [sound.display_eq_iff known otherKnown, Lookalike, or_iff_right different]
  · intro first second plain otherPlain free same
    obtain ⟨database, schema, table⟩ := (shared first second plain otherPlain).mp same
    simp only [QualifiedName.parts, List.cons_append, List.nil_append, List.forall_mem_cons] at free
    obtain ⟨database₁, schema₁, table₁, database₂, schema₂, table₂, _⟩ := free
    exact QualifiedName.eq_of_parts (database.eq_of_unreserved database₁ database₂)
      (schema.eq_of_unreserved schema₁ schema₂) (table.eq_of_unreserved table₁ table₂)

/-- A table with the quoted name SELECT and one named by the reserved word share their locks. -/
theorem quoted_keyword_shares_key :
    let steps : List Step := [.intern (Vocabulary.capitals "select") true]
    let registry := fresh.after steps
    let quoted : QualifiedName := ⟨⟨25⟩, ⟨21⟩, ⟨29⟩⟩
    let keyword : QualifiedName := ⟨⟨25⟩, ⟨21⟩, ⟨-47⟩⟩
    registry.added ≤ capacity ∧ quoted.Plain registry ∧ keyword.Plain registry ∧
      quoted.key registry = keyword.key registry ∧ quoted ≠ keyword := by
  intro steps registry quoted keyword
  have roomy : registry.added ≤ capacity := by decide +kernel
  have plain : quoted.Plain registry := by decide +kernel
  have keywordPlain : keyword.Plain registry := by decide +kernel
  have namesake : registry.Namesake ⟨-47⟩ ⟨29⟩ :=
    ⟨"select", by decide +kernel, by decide +kernel, by decide +kernel⟩
  have shared := (tables_share_key_iff steps roomy).2.1 quoted keyword plain keywordPlain
  exact ⟨roomy, plain, keywordPlain, shared.mpr ⟨.inl rfl, .inl rfl, .inr (.inr namesake)⟩,
    by decide⟩

/-- Dots within names are not told from those between them. -/
example :
    let registry := fresh.after [.intern "a.b" true, .intern "b.public" true, .intern "a" true]
    (⟨⟨29⟩, ⟨21⟩, ⟨25⟩⟩ : QualifiedName).key registry = "table a.b.public.system" ∧
      (⟨⟨31⟩, ⟨30⟩, ⟨25⟩⟩ : QualifiedName).key registry = "table a.b.public.system" := by
  decide +kernel

end Registry

end Locking
