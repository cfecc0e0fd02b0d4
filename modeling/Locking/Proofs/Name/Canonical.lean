import Locking.Proofs.Name.Run
import Locking.Proofs.Text.Cut

namespace Locking

/-!
Interning decides canonical equality: in every run two texts are given one identifier if and only if
they stand for the same thing, whenever they are interned and whatever is interned in between.
-/

/-- What a text stands for, said without computing it. Of the text, or of its lowercase form if it is
unquoted, the longest beginning is kept that is short enough; unquoted, that may be a reserved
word. -/
inductive StandsFor (text : String) : Bool → Canonical → Prop where
  | quoted {kept : String}
      (longest : Text.LongestWithin maxNameBytes text.toList kept.toList) :
      StandsFor text true (.name kept)
  | keyword {kept : String} {id : Identifier}
      (longest : Text.LongestWithin maxNameBytes (Text.fold text.toList) kept.toList)
      (listed : (kept, id) ∈ Vocabulary.reserved) : StandsFor text false (.reserved id)
  | folded {kept : String}
      (longest : Text.LongestWithin maxNameBytes (Text.fold text.toList) kept.toList)
      (free : ∀ id, (kept, id) ∉ Vocabulary.reserved) : StandsFor text false (.name kept)

variable {text kept : String} {quoted : Bool} {form : Canonical} {id : Identifier}

theorem cutName_eq_iff :
    cutName text = kept ↔ Text.LongestWithin maxNameBytes text.toList kept.toList := by
  rw [Text.longestWithin_iff, cutName, ← String.toList_inj, String.toList_ofList]

theorem cutName_foldName_eq_iff :
    cutName (foldName text) = kept ↔
      Text.LongestWithin maxNameBytes (Text.fold text.toList) kept.toList := by
  rw [cutName_eq_iff, foldName, String.toList_ofList]

theorem standsFor_canonical (text : String) (quoted : Bool) :
    StandsFor text quoted (canonical text quoted) := by
  cases quoted with
  | true => exact .quoted (cutName_eq_iff.mp rfl)
  | false =>
      have longest := cutName_foldName_eq_iff.mp (Eq.refl (cutName (foldName text)))
      simp only [canonical, Bool.false_eq_true, if_false]
      cases found : Vocabulary.reserved? (cutName (foldName text)) with
      | some id => exact .keyword longest (Vocabulary.reserved?_eq_some_iff.mp found)
      | none =>
          refine .folded longest fun id listed => ?_
          rw [Vocabulary.reserved?_eq_some_iff.mpr listed] at found
          contradiction

theorem standsFor_iff : StandsFor text quoted form ↔ canonical text quoted = form := by
  constructor
  · intro stands
    cases stands with
    | quoted longest => rw [← cutName_eq_iff.mpr longest]; rfl
    | keyword longest listed =>
        rw [← cutName_foldName_eq_iff] at longest
        simp [canonical, longest, Vocabulary.reserved?_eq_some_iff.mpr listed]
    | folded longest free =>
        rw [← cutName_foldName_eq_iff] at longest
        subst longest
        have missing : Vocabulary.reserved? (cutName (foldName text)) = none :=
          Option.eq_none_iff_forall_ne_some.mpr fun id found =>
            free id (Vocabulary.reserved?_eq_some_iff.mp found)
        simp only [canonical, missing, Bool.false_eq_true, if_false]
  · rintro rfl
    exact standsFor_canonical text quoted

namespace Registry

/-- In a run from the start, a call that interns this text returns this identifier. -/
def Interned (steps : List Step) (text : String) (quoted : Bool) (id : Identifier) : Prop :=
  ∃ display, fresh.Answered steps (.intern text quoted) (.named id display)

variable {steps : List Step}

theorem Interned.binds (interned : Interned steps text quoted id) :
    (fresh.after steps).Binds (canonical text quoted) id :=
  interned.elim fun _ answered => answered.binds_of_intern

/-- As long as a run does not run out of values, two calls in it return the same identifier if and
only if their texts stand for the same. A call returns the identifier of a reserved word, or that of
a common name, if and only if its text stands for that word or name, and never that of a reserved
word for quoted text. -/
theorem interning_decides_canonical_equality (steps : List Step)
    (roomy : (fresh.after steps).added ≤ capacity) :
    (∀ text quoted form, StandsFor text quoted form ↔ canonical text quoted = form) ∧
    (∀ text quoted id other otherQuoted otherId, Interned steps text quoted id →
      Interned steps other otherQuoted otherId →
        (id = otherId ↔ canonical text quoted = canonical other otherQuoted)) ∧
    ∀ text quoted id, Interned steps text quoted id →
      (∀ word keyword, (word, keyword) ∈ Vocabulary.reserved →
        (id = keyword ↔ canonical text quoted = .reserved keyword)) ∧
      (∀ word common, (word, common) ∈ Vocabulary.common →
        (id = common ↔ canonical text quoted = .name word)) ∧
      (quoted = true → id.isReserved = false) := by
  have sound := after_sound roomy
  refine ⟨fun _ _ _ => standsFor_iff, ?_, ?_⟩
  · intro text quoted id other otherQuoted otherId one two
    exact sound.binds_iff one.binds two.binds
  · intro text quoted id interned
    have binds := interned.binds
    refine ⟨?_, ?_, ?_⟩
    · intro word keyword listed
      exact sound.binds_iff binds (.reserved listed)
    · intro word common listed
      have known := (after_grows fresh steps).known (fresh_sound.common word common listed)
      exact sound.binds_iff binds (.name known)
    · rintro rfl
      cases binds with
      | name known => exact sound.isReserved_of_known known

/-- Folded before the cut, the Kelvin sign is a plain letter, and the quoted spelling of a reserved
word in between is a name of its own. -/
theorem kelvin_sign_interned_as_letter :
    let steps : List Step :=
      [.intern "\u212Ailo" false, .intern "SELECT" true, .intern "kilo" true]
    (fresh.after steps).added ≤ capacity ∧
      Interned steps "\u212Ailo" false ⟨29⟩ ∧ Interned steps "SELECT" true ⟨30⟩ ∧
      Interned steps "kilo" true ⟨29⟩ ∧
      canonical "\u212Ailo" false = canonical "kilo" true ∧
      canonical "\u212Ailo" false ≠ canonical "SELECT" true := by
  intro steps
  have roomy : (fresh.after steps).added ≤ capacity := by decide +kernel
  have answers : fresh.run steps =
      [(.named ⟨29⟩ "kilo", 84), (.named ⟨30⟩ "SELECT", 85), (.named ⟨29⟩ "kilo", 85)] := by
    decide +kernel
  have kelvin : Interned steps "\u212Ailo" false ⟨29⟩ := ⟨"kilo", 84, by simp [answers, steps]⟩
  have select : Interned steps "SELECT" true ⟨30⟩ := ⟨"SELECT", 85, by simp [answers, steps]⟩
  have letter : Interned steps "kilo" true ⟨29⟩ := ⟨"kilo", 85, by simp [answers, steps]⟩
  have decides := (interning_decides_canonical_equality steps roomy).2.1
  refine ⟨roomy, kelvin, select, letter, (decides _ _ _ _ _ _ kelvin letter).mp rfl, ?_⟩
  exact fun same => absurd ((decides _ _ _ _ _ _ kelvin select).mpr same) (by decide)

end Registry

end Locking
