import Locking.Proofs.Name.Vocabulary
import Locking.Name.Encoding

namespace Locking.Registry

/-!
A registry as it can come about. Names and their identifiers belong together one to one, apart from
the reserved words, for as long as there are values left; and whatever has an identifier keeps it.
-/

/-- How many names there are beyond those known from the start. -/
def added (registry : Registry) : Nat :=
  registry.ids.size - Vocabulary.common.length

/-- How many names can be added: one for each value from the first free one up. -/
def capacity : Nat := 0x80000000 - 29

/-- What an identifier is displayed as, if it has ever been given out. -/
inductive Shown (registry : Registry) : Identifier → String → Prop where
  | reserved {word : String} {id : Identifier} (listed : (word, id) ∈ Vocabulary.reserved) :
      Shown registry id (Vocabulary.capitals word)
  | name {text : String} {id : Identifier} (known : registry.ids[text]? = some id) :
      Shown registry id text

/-- The identifier that a canonical form has, if it has one yet. -/
inductive Binds (registry : Registry) : Canonical → Identifier → Prop where
  | reserved {word : String} {id : Identifier} (listed : (word, id) ∈ Vocabulary.reserved) :
      Binds registry (.reserved id) id
  | name {text : String} {id : Identifier} (known : registry.ids[text]? = some id) :
      Binds registry (.name text) id

structure Sound (registry : Registry) : Prop where
  size : registry.ids.size = Vocabulary.common.length + registry.added
  next : registry.next = Vocabulary.firstFree + Int32.ofNat registry.added
  common : ∀ text id, (text, id) ∈ Vocabulary.common → registry.ids[text]? = some id
  short : ∀ (text : String) (id : Identifier), registry.ids[text]? = some id →
    Text.byteLength text.toList ≤ maxNameBytes
  value : ∀ (text : String) (id : Identifier), registry.ids[text]? = some id →
    0 < id.value.toInt ∧ id.value.toInt < 29 + registry.added
  texts : ∀ (id : Identifier) (text : String), registry.texts[id]? = some text ↔
    registry.Shown id text

/-- Names and values are counted alike, be there enough values or not. -/
structure Counted (registry : Registry) : Prop where
  size : registry.ids.size = Vocabulary.common.length + registry.added
  next : registry.next = Vocabulary.firstFree + Int32.ofNat registry.added

/-- What a registry becomes by giving identifiers to names. -/
inductive Grows (registry : Registry) : Registry → Prop where
  | refl : Grows registry registry
  | assign {after : Registry} (grows : Grows registry after) (text : String)
      (short : Text.byteLength text.toList ≤ maxNameBytes) :
      Grows registry (after.assign text).2

variable {registry after final : Registry} {text word : String} {id other : Identifier}
  {form otherForm : Canonical} {quoted : Bool}

/-! The registry at the start. -/

theorem getElem?_ofList_iff {α β : Type} [Ord α] [Std.TransOrd α] [Std.LawfulEqOrd α]
    [DecidableEq α] {entries : List (α × β)} {key : α} {value : β}
    (distinct : (entries.map (·.1)).Nodup) :
    (Std.ExtTreeMap.ofList entries)[key]? = some value ↔ (key, value) ∈ entries := by
  have unlike : entries.Pairwise (fun first second => ¬compare first.1 second.1 = .eq) :=
    (List.pairwise_map.mp distinct).imp fun differ same =>
      differ (Std.LawfulEqOrd.eq_of_compare same)
  constructor
  · intro found
    by_cases listed : key ∈ entries.map (·.1)
    · obtain ⟨entry, member, rfl⟩ := List.mem_map.mp listed
      have known := Std.ExtTreeMap.getElem?_ofList_of_mem (Std.ReflOrd.compare_self) unlike member
      obtain rfl := Option.some.inj (known.symm.trans found)
      exact member
    · rw [Std.ExtTreeMap.getElem?_ofList_of_contains_eq_false (by simpa using listed)] at found
      contradiction
  · exact Std.ExtTreeMap.getElem?_ofList_of_mem (Std.ReflOrd.compare_self) unlike

theorem ids_fresh : fresh.ids[text]? = some id ↔ (text, id) ∈ Vocabulary.common :=
  getElem?_ofList_iff Vocabulary.commonNames_nodup

theorem texts_fresh : fresh.texts[id]? = some text ↔ fresh.Shown id text := by
  unfold fresh
  rw [getElem?_ofList_iff (by simpa [Function.comp_def] using Vocabulary.ids_nodup)]
  constructor
  · intro listed
    rcases List.mem_append.mp listed with reserved | common
    · obtain ⟨entry, member, same⟩ := List.mem_map.mp reserved
      obtain ⟨rfl, rfl⟩ := Prod.mk.inj same
      exact .reserved member
    · obtain ⟨entry, member, same⟩ := List.mem_map.mp common
      obtain ⟨rfl, rfl⟩ := Prod.mk.inj same
      exact .name (ids_fresh.mpr member)
  · intro shown
    cases shown with
    | reserved listed => exact List.mem_append_left _ (List.mem_map.mpr ⟨_, listed, rfl⟩)
    | name known =>
        exact List.mem_append_right _ (List.mem_map.mpr ⟨_, ids_fresh.mp known, rfl⟩)

theorem size_fresh : fresh.ids.size = Vocabulary.common.length :=
  Std.ExtTreeMap.size_ofList <| (List.pairwise_map.mp Vocabulary.commonNames_nodup).imp
    fun differ same => differ (Std.LawfulEqOrd.eq_of_compare same)

theorem added_fresh : fresh.added = 0 := by
  rw [added, size_fresh, Nat.sub_self]

theorem fresh_sound : fresh.Sound where
  size := by rw [size_fresh, added_fresh, Nat.add_zero]
  next := by
    rw [added_fresh]
    rfl
  common text id listed := ids_fresh.mpr listed
  short text id known := Vocabulary.common_short (ids_fresh.mp known)
  value text id known := by
    have positive := Vocabulary.common_positive (ids_fresh.mp known)
    omega
  texts id text := texts_fresh

/-! Giving an identifier to a name. -/

theorem assign_new (new : registry.ids[text]? = none) :
    registry.assign text =
      (⟨registry.next⟩,
        { ids := registry.ids.insert text ⟨registry.next⟩
          texts := registry.texts.insert ⟨registry.next⟩ text
          next := registry.next + 1 }) := by
  simp only [assign, new]

theorem ids_assign (registry : Registry) (text : String) :
    (registry.assign text).2.ids[text]? = some (registry.assign text).1 := by
  cases known : registry.ids[text]? with
  | some id => rw [assign_known known, known]
  | none => rw [assign_new known, Std.ExtTreeMap.getElem?_insert_self]

theorem ids_assign_iff (new : registry.ids[text]? = none) {name : String} :
    (registry.assign text).2.ids[name]? = some id ↔
      registry.ids[name]? = some id ∨ name = text ∧ id = ⟨registry.next⟩ := by
  rw [assign_new new, Std.ExtTreeMap.getElem?_insert]
  by_cases same : text = name
  · subst same
    simp [new, eq_comm]
  · simp [same, Ne.symm same]

theorem ids_assign_of_known (known : registry.ids[text]? = some id) (name : String) :
    (registry.assign name).2.ids[text]? = some id := by
  cases found : registry.ids[name]? with
  | some other => rwa [assign_known found]
  | none => exact (ids_assign_iff found).mpr (.inl known)

theorem size_assign_of_new (new : registry.ids[text]? = none) :
    (registry.assign text).2.ids.size = registry.ids.size + 1 := by
  rw [assign_new new, Std.ExtTreeMap.size_insert, if_neg]
  simpa using new

theorem Sound.counted (sound : registry.Sound) : registry.Counted := ⟨sound.size, sound.next⟩

theorem Counted.added_assign (counted : registry.Counted) (new : registry.ids[text]? = none) :
    (registry.assign text).2.added = registry.added + 1 := by
  have size := counted.size
  rw [added, size_assign_of_new new]
  omega

theorem Counted.assign (counted : registry.Counted) (new : registry.ids[text]? = none) :
    (registry.assign text).2.Counted where
  size := by
    rw [counted.added_assign new, size_assign_of_new new, counted.size, Nat.add_assoc]
  next := by
    rw [counted.added_assign new, Int32.ofNat_add, ← Int32.add_assoc, ← counted.next,
      assign_new new]
    rfl

theorem Sound.added_assign (sound : registry.Sound) (new : registry.ids[text]? = none) :
    (registry.assign text).2.added = registry.added + 1 :=
  sound.counted.added_assign new

theorem Sound.toInt_next (sound : registry.Sound) (room : registry.added < capacity) :
    registry.next.toInt = 29 + registry.added := by
  have sum : registry.next = Int32.ofNat (29 + registry.added) := by
    rw [sound.next, Int32.ofNat_add]
    rfl
  unfold capacity at room
  rw [sum, Int32.toInt_ofNat_of_lt (by omega)]
  rfl

/-- The next value has not been given out. -/
theorem Sound.unshown_next (sound : registry.Sound) (room : registry.added < capacity) :
    ¬registry.Shown ⟨registry.next⟩ text := by
  have next := sound.toInt_next room
  intro shown
  cases shown with
  | reserved listed =>
      have negative := Vocabulary.reserved_negative listed
      dsimp only at negative
      omega
  | name known =>
      have before := (sound.value _ _ known).2
      dsimp only at before
      omega

theorem shown_assign (new : registry.ids[text]? = none) {name : String} :
    (registry.assign text).2.Shown id name ↔
      registry.Shown id name ∨ id = ⟨registry.next⟩ ∧ name = text := by
  constructor
  · intro shown
    cases shown with
    | reserved listed => exact .inl (.reserved listed)
    | name known =>
        rcases (ids_assign_iff new).mp known with old | ⟨rfl, rfl⟩
        · exact .inl (.name old)
        · exact .inr ⟨rfl, rfl⟩
  · rintro (shown | ⟨rfl, rfl⟩)
    · cases shown with
      | reserved listed => exact .reserved listed
      | name known => exact .name (ids_assign_of_known known text)
    · exact .name ((ids_assign_iff new).mpr (.inr ⟨rfl, rfl⟩))

theorem Sound.assign (sound : registry.Sound)
    (short : Text.byteLength text.toList ≤ maxNameBytes)
    (roomy : (registry.assign text).2.added ≤ capacity) : (registry.assign text).2.Sound := by
  cases found : registry.ids[text]? with
  | some id => rwa [assign_known found]
  | none =>
      have more := sound.added_assign found
      have room : registry.added < capacity := by omega
      have next := sound.toInt_next room
      constructor
      case size => exact (sound.counted.assign found).size
      case next => exact (sound.counted.assign found).next
      case common =>
        exact fun name id listed => ids_assign_of_known (sound.common name id listed) text
      case short =>
        intro name id given
        rcases (ids_assign_iff found).mp given with old | ⟨rfl, rfl⟩
        · exact sound.short name id old
        · exact short
      case value =>
        intro name id given
        rcases (ids_assign_iff found).mp given with old | ⟨rfl, rfl⟩
        · have before := sound.value name id old
          omega
        · change 0 < registry.next.toInt ∧ registry.next.toInt < _
          omega
      case texts =>
        intro id name
        rw [shown_assign found, assign_new found, ← sound.texts,
          Std.ExtTreeMap.getElem?_insert]
        by_cases same : (⟨registry.next⟩ : Identifier) = id
        · subst same
          have unused : registry.texts[(⟨registry.next⟩ : Identifier)]? ≠ some name :=
            fun used => sound.unshown_next room ((sound.texts _ _).mp used)
          simp [unused, eq_comm]
        · simp [same, Ne.symm same]

theorem added_le_assign (registry : Registry) (text : String) :
    registry.added ≤ (registry.assign text).2.added := by
  cases found : registry.ids[text]? with
  | some id => exact Nat.le_of_eq (by rw [assign_known found])
  | none =>
      unfold added
      rw [size_assign_of_new found]
      omega

theorem added_assign_le (registry : Registry) (text : String) :
    (registry.assign text).2.added ≤ registry.added + 1 := by
  cases found : registry.ids[text]? with
  | some id => exact Nat.le_succ_of_le (Nat.le_of_eq (by rw [assign_known found]))
  | none =>
      unfold added
      rw [size_assign_of_new found]
      omega

/-! Growth. -/

theorem Grows.trans (first : registry.Grows after) (second : after.Grows final) :
    registry.Grows final := by
  induction second with
  | refl => exact first
  | assign _ text short ih => exact ih.assign text short

theorem Grows.known (grows : registry.Grows after) (known : registry.ids[text]? = some id) :
    after.ids[text]? = some id := by
  induction grows with
  | refl => exact known
  | assign _ name _ ih => exact ids_assign_of_known ih name

theorem Grows.sound (grows : registry.Grows after) (sound : registry.Sound)
    (roomy : after.added ≤ capacity) : after.Sound := by
  induction grows with
  | refl => exact sound
  | assign _ name short ih =>
      exact (ih (Nat.le_trans (added_le_assign _ name) roomy)).assign short roomy

theorem Grows.binds (grows : registry.Grows after) (binds : registry.Binds form id) :
    after.Binds form id := by
  cases binds with
  | reserved listed => exact .reserved listed
  | name known => exact .name (grows.known known)

/-! Canonical forms and their identifiers. -/

theorem Binds.shown (binds : registry.Binds form id) : ∃ text, registry.Shown id text := by
  cases binds with
  | reserved listed => exact ⟨_, .reserved listed⟩
  | name known => exact ⟨_, .name known⟩

theorem listed_of_canonical (stands : canonical text quoted = .reserved id) :
    ∃ word, (word, id) ∈ Vocabulary.reserved := by
  unfold canonical at stands
  split at stands
  · cases stands
  · dsimp only at stands
    split at stands
    · rename_i found
      obtain rfl := Canonical.reserved.inj stands
      exact ⟨_, Vocabulary.reserved?_eq_some_iff.mp found⟩
    · cases stands

theorem byteLength_cutName_le (text : String) :
    Text.byteLength (cutName text).toList ≤ maxNameBytes := by
  rw [cutName, String.toList_ofList]
  exact Text.byteLength_cut_le maxNameBytes text.toList

theorem short_of_canonical {name : String} (stands : canonical text quoted = .name name) :
    Text.byteLength name.toList ≤ maxNameBytes := by
  unfold canonical at stands
  split at stands
  · obtain rfl := Canonical.name.inj stands
    exact byteLength_cutName_le text
  · dsimp only at stands
    split at stands
    · cases stands
    · obtain rfl := Canonical.name.inj stands
      exact byteLength_cutName_le (foldName text)

theorem canonical_of_short (short : Text.byteLength text.toList ≤ maxNameBytes) :
    canonical text true = .name text := by
  rw [canonical, if_pos rfl, cutName, Text.cut, if_pos short, String.ofList_toList]

theorem intern_grows (registry : Registry) (text : String) (quoted : Bool) :
    registry.Grows (registry.intern text quoted).2 := by
  cases stands : canonical text quoted with
  | reserved id =>
      rw [intern_reserved stands]
      exact .refl
  | name name =>
      rw [intern_name stands]
      exact Grows.refl.assign name (short_of_canonical stands)

theorem added_intern_le (registry : Registry) (text : String) (quoted : Bool) :
    (registry.intern text quoted).2.added ≤ registry.added + 1 := by
  cases stands : canonical text quoted with
  | reserved id => simp only [intern_reserved stands, Nat.le_add_right]
  | name name =>
      rw [intern_name stands]
      exact registry.added_assign_le name

/-- Interning finds the identifier that belongs to the canonical form, or makes it belong to it. -/
theorem intern_binds (registry : Registry) (text : String) (quoted : Bool) :
    (registry.intern text quoted).2.Binds (canonical text quoted)
      (registry.intern text quoted).1 := by
  cases stands : canonical text quoted with
  | reserved id =>
      obtain ⟨word, listed⟩ := listed_of_canonical stands
      rw [intern_reserved stands]
      exact .reserved listed
  | name name =>
      rw [intern_name stands]
      exact .name (registry.ids_assign name)

theorem Binds.intern (binds : registry.Binds (canonical text quoted) id) :
    registry.intern text quoted = (id, registry) := by
  generalize stands : canonical text quoted = form at binds
  cases binds with
  | reserved listed => exact intern_reserved stands
  | name known => rw [intern_name stands, assign_known known]

theorem isReserved_of_listed (listed : (word, id) ∈ Vocabulary.reserved) :
    id.isReserved = true := by
  have negative := Vocabulary.reserved_negative listed
  exact decide_eq_true (Int32.lt_iff_toInt_lt.mpr negative)

theorem Sound.isReserved_of_known (sound : registry.Sound)
    (known : registry.ids[text]? = some id) : id.isReserved = false := by
  have positive := (sound.value _ _ known).1
  refine decide_eq_false fun negative => ?_
  have below : id.value.toInt < 0 := Int32.lt_iff_toInt_lt.mp negative
  omega

/-- Different forms have different identifiers. -/
theorem Sound.binds_iff (sound : registry.Sound) (one : registry.Binds form id)
    (two : registry.Binds otherForm other) : id = other ↔ form = otherForm := by
  constructor
  · rintro rfl
    cases one with
    | reserved listed =>
        cases two with
        | reserved => rfl
        | name known =>
            simpa [isReserved_of_listed listed] using sound.isReserved_of_known known
    | name known =>
        cases two with
        | reserved listed =>
            simpa [isReserved_of_listed listed] using sound.isReserved_of_known known
        | name otherKnown =>
            have shown := (sound.texts _ _).mpr (.name known)
            have otherShown := (sound.texts _ _).mpr (.name otherKnown)
            rw [Option.some.inj (shown.symm.trans otherShown)]
  · rintro rfl
    cases one with
    | reserved => cases two with | reserved => rfl
    | name known =>
        cases two with
        | name otherKnown => exact Option.some.inj (known.symm.trans otherKnown)

end Locking.Registry
