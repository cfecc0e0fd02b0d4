import Locking.Proofs.Name.Encoding
import Locking.Proofs.Name.Sharing

namespace Locking.Registry

/-!
What a registry keeps of the names in use. Values are given out one after another, so those from 1
up to the next one are all in use. Names and their values belong together one to one, and a step
that brings a new name adds this name with the next value, and nothing else.
-/

/-- No value has been skipped, and every value has its text. -/
structure Gapless (registry : Registry) : Prop where
  used : ∀ id : Identifier, 0 < id.value.toInt → id.value.toInt < 29 + registry.added →
    ∃ text : String, registry.ids[text]? = some id
  size : registry.size = 83 + registry.added

/-- A step interns a text of this canonical form. -/
inductive Step.Interns : Step → Canonical → Prop where
  | intern (text : String) (quoted : Bool) : Interns (.intern text quoted) (canonical text quoted)
  | decode {tag : UInt8} {quoted : Bool} (text : List Char)
      (tagged : Encoding.quotedBy? tag = some quoted) :
      Interns (.decode (tag :: Text.Utf8.encode text)) (canonical (String.ofList text) quoted)
  | roundTrip (text : String) (quoted : Bool) :
      Interns (.roundTrip text quoted) (canonical text quoted)

/-- Which names there are, and how the registry leads from names to values and back. -/
structure WellKept (registry : Registry) : Prop where
  /-- The values in use are those of the reserved words, and all from 1 up to the next one. -/
  known : ∀ id, registry.Known id ↔ (∃ word, (word, id) ∈ Vocabulary.reserved) ∨
    1 ≤ id.value.toInt ∧ id.value.toInt < registry.next.toInt
  next : 29 ≤ registry.next.toInt
  size : (registry.size : Int) = registry.next.toInt + 54
  short : ∀ (id : Identifier) (text : String), registry.text? id = some text →
    Text.byteLength text.toList ≤ 128
  /-- A name leads to an identifier if and only if the identifier, not being that of a reserved
  word, leads to the name. -/
  inverse : ∀ (text : String) (id : Identifier), registry.ids[text]? = some id ↔
    registry.text? id = some text ∧ id.isReserved = false

/-- A new name has been added, which has the value that was the next one. -/
structure Adds (before : Registry) (name : String) (after : Registry) : Prop where
  next : after.next.toInt = before.next.toInt + 1
  unnamed : before.text? ⟨before.next⟩ = none
  ids : ∀ text : String, after.ids[text]? =
    if text = name then some ⟨before.next⟩ else before.ids[text]?
  texts : ∀ id, after.text? id = if id = ⟨before.next⟩ then some name else before.text? id

/-- What a step makes of a registry: it adds the name that it interns, if that is new, and changes
nothing if it interns none or a known one. -/
inductive Turns (before : Registry) (step : Step) : Registry → Prop where
  | added {name : String} {after : Registry} (interns : step.Interns (.name name))
      (new : before.ids[name]? = none) (adds : before.Adds name after) : Turns before step after
  | unchanged (old : ∀ name, step.Interns (.name name) → before.ids[name]?.isSome = true) :
      Turns before step before

/-- Whatever has a name or a value keeps it. -/
structure Keeps (before after : Registry) : Prop where
  ids : ∀ (text : String) (id : Identifier), before.ids[text]? = some id → after.ids[text]? = some id
  texts : ∀ (id : Identifier) (text : String), before.text? id = some text →
    after.text? id = some text

variable {registry before after final : Registry} {step : Step} {steps : List Step}
  {text name : String} {quoted : Bool} {id : Identifier} {form other : Canonical}

/-! No gaps. -/

theorem size_texts_fresh : fresh.size = 83 := by
  unfold Registry.size fresh
  refine (Std.ExtTreeMap.size_ofList (List.Pairwise.imp ?_ (List.pairwise_map.mp
    (?_ : (List.map (·.1) _).Nodup)))).trans rfl
  · exact fun differ same => differ (Std.LawfulEqOrd.eq_of_compare same)
  · simpa [Function.comp_def] using Vocabulary.ids_nodup

theorem fresh_gapless : fresh.Gapless where
  used id positive below := by
    rw [added_fresh] at below
    have predefined : Vocabulary.isPredefined id = true :=
      decide_eq_true (Int32.lt_iff_toInt_lt.mpr below)
    obtain ⟨word, listed⟩ := Vocabulary.exists_common_of_isPredefined predefined positive
    exact ⟨word, ids_fresh.mpr listed⟩
  size := by rw [size_texts_fresh, added_fresh]

theorem Gapless.assign (gapless : registry.Gapless) (sound : registry.Sound)
    (roomy : (registry.assign text).2.added ≤ capacity) : (registry.assign text).2.Gapless := by
  cases found : registry.ids[text]? with
  | some id => rwa [assign_known found]
  | none =>
      have more := sound.added_assign found
      have room : registry.added < capacity := by omega
      have next := sound.toInt_next room
      constructor
      · intro id positive below
        by_cases last : id.value = registry.next
        · exact ⟨text, (ids_assign_iff found).mpr (.inr ⟨rfl, congrArg Identifier.mk last⟩)⟩
        · have earlier : id.value.toInt ≠ registry.next.toInt :=
            fun same => last (Int32.toInt_inj.mp same)
          obtain ⟨name, known⟩ := gapless.used id positive (by omega)
          exact ⟨name, ids_assign_of_known known text⟩
      · have unused : ¬registry.texts.contains ⟨registry.next⟩ := by
          rw [← Std.ExtTreeMap.isSome_getElem?_eq_contains, Option.isSome_iff_exists]
          rintro ⟨name, used⟩
          exact sound.unshown_next room ((sound.texts _ _).mp used)
        have size := gapless.size
        unfold Registry.size at size ⊢
        rw [more, assign_new found, Std.ExtTreeMap.size_insert, if_neg unused, size, Nat.add_assoc]

theorem Grows.added_le (grows : registry.Grows after) : registry.added ≤ after.added := by
  induction grows with
  | refl => exact Nat.le_refl _
  | assign _ name _ ih => exact Nat.le_trans ih (added_le_assign _ name)

theorem Grows.gapless (grows : registry.Grows after) (gapless : registry.Gapless)
    (sound : registry.Sound) (roomy : after.added ≤ capacity) : after.Gapless := by
  induction grows with
  | refl => exact gapless
  | assign grows name _ ih =>
      have roomyBefore := Nat.le_trans (added_le_assign _ name) roomy
      exact (ih roomyBefore).assign (grows.sound sound roomyBefore) roomy

theorem Grows.shown (grows : registry.Grows after) (shown : registry.Shown id text) :
    after.Shown id text := by
  cases shown with
  | reserved listed => exact .reserved listed
  | name known => exact .name (grows.known known)

/-! What one step does. -/

theorem Step.Interns.unique (one : step.Interns form) (two : step.Interns other) :
    form = other := by
  cases one with
  | intern => cases two; rfl
  | roundTrip => cases two; rfl
  | @decode tag quoted text tagged =>
      generalize same : tag :: Text.Utf8.encode text = bytes at two
      cases two with
      | decode otherText otherTagged =>
          obtain ⟨rfl, sameBytes⟩ := List.cons.inj same
          obtain rfl := Text.Utf8.encode_inj sameBytes
          obtain rfl := Option.some.inj (tagged.symm.trans otherTagged)
          rfl

/-- The registry once a canonical form has its identifier. -/
def settle (registry : Registry) : Canonical → Registry
  | .reserved _ => registry
  | .name text => (registry.assign text).2

theorem intern_settle (registry : Registry) (text : String) (quoted : Bool) :
    (registry.intern text quoted).2 = registry.settle (canonical text quoted) := by
  cases stands : canonical text quoted with
  | reserved id => rw [intern_reserved stands, settle]
  | name name => rw [intern_name stands, settle]

theorem Step.Interns.settle (interns : step.Interns form)
    (sound : (registry.settle form).Sound) : (registry.step step).2 = registry.settle form := by
  cases interns with
  | intern text quoted => exact registry.intern_settle text quoted
  | decode text tagged =>
      simp only [Registry.step, decode_tagged tagged]
      exact registry.intern_settle _ _
  | roundTrip text quoted =>
      -- Reading back what was written for the identifier adds nothing.
      rw [← intern_settle] at sound ⊢
      obtain ⟨display, shown⟩ := (registry.intern_binds text quoted).shown
      simp only [Registry.step, sound.decode_encode shown]

theorem step_eq_self (silent : ∀ form, ¬step.Interns form) :
    (registry.step step).2 = registry := by
  cases step with
  | intern text quoted => exact absurd (.intern text quoted) (silent _)
  | roundTrip text quoted => exact absurd (.roundTrip text quoted) (silent _)
  | text id => rfl
  | encode id => rfl
  | isEmpty => rfl
  | decode bytes =>
      cases read : registry.decode bytes with
      | error fault => simp only [Registry.step, read]
      | ok result =>
          obtain ⟨tag, text, quoted, rfl, tagged, _⟩ := decode_eq_ok_iff.mp read
          exact absurd (.decode text tagged) (silent _)

theorem Step.Interns.exists_text (interns : step.Interns form) :
    ∃ text quoted, form = canonical text quoted := by
  cases interns with
  | intern text quoted => exact ⟨text, quoted, rfl⟩
  | decode text tagged => exact ⟨_, _, rfl⟩
  | roundTrip text quoted => exact ⟨text, quoted, rfl⟩

theorem Sound.adds_assign (sound : registry.Sound) (soundAfter : (registry.assign name).2.Sound)
    (new : registry.ids[name]? = none) (roomy : (registry.assign name).2.added < capacity) :
    registry.Adds name (registry.assign name).2 := by
  have more := sound.added_assign new
  have room : registry.added < capacity := by omega
  constructor
  · rw [soundAfter.toInt_next roomy, sound.toInt_next room, more]
    omega
  · refine Option.eq_none_iff_forall_ne_some.mpr fun text named => ?_
    exact sound.unshown_next room ((sound.texts _ _).mp named)
  · intro text
    rw [assign_new new, Std.ExtTreeMap.getElem?_insert]
    simp [@eq_comm _ name]
  · intro id
    rw [assign_new new, text?, text?, Std.ExtTreeMap.getElem?_insert]
    simp [@eq_comm _ id]

theorem Sound.turns (sound : before.Sound) (roomy : (before.step step).2.added < capacity) :
    before.Turns step (before.step step).2 := by
  by_cases interning : ∃ form, step.Interns form
  case neg =>
    have silent := not_exists.mp interning
    rw [step_eq_self silent]
    exact .unchanged fun name interns => absurd interns (silent _)
  obtain ⟨form, interns⟩ := interning
  have settled : (before.settle form).Sound := by
    obtain ⟨text, quoted, rfl⟩ := interns.exists_text
    have room := (before.step_grows step).added_le
    have one := before.added_intern_le text quoted
    rw [← intern_settle]
    exact (before.intern_grows text quoted).sound sound (by omega)
  rw [interns.settle settled] at roomy ⊢
  cases form with
  | reserved id => exact .unchanged fun name also => by cases interns.unique also
  | name name =>
      cases known : before.ids[name]? with
      | none => exact .added interns known (sound.adds_assign settled known roomy)
      | some id =>
          rw [settle, assign_known known]
          refine .unchanged fun other also => ?_
          obtain rfl := Canonical.name.inj (interns.unique also)
          rw [known, Option.isSome_some]

/-! Every moment of a run. -/

theorem Sound.wellKept (sound : registry.Sound) (gapless : registry.Gapless)
    (roomy : registry.added < capacity) : registry.WellKept := by
  have next := sound.toInt_next roomy
  constructor
  · intro id
    constructor
    · intro known
      obtain ⟨text, shown⟩ := sound.shown_of_known known
      cases shown with
      | reserved listed => exact .inl ⟨_, listed⟩
      | name known =>
          have value := sound.value _ _ known
          exact .inr (by omega)
    · rintro (⟨word, listed⟩ | ⟨positive, below⟩)
      · exact Option.isSome_iff_exists.mpr ⟨_, (sound.texts _ _).mpr (.reserved listed)⟩
      · obtain ⟨text, known⟩ := gapless.used id (by omega) (by omega)
        exact Option.isSome_iff_exists.mpr ⟨text, (sound.texts _ _).mpr (.name known)⟩
  · omega
  · have size := gapless.size
    omega
  · intro id text named
    cases (sound.texts id text).mp named with
    | reserved listed => exact Vocabulary.capitals_short listed
    | name known => exact sound.short text id known
  · intro text id
    constructor
    · intro known
      exact ⟨(sound.texts id text).mpr (.name known), sound.isReserved_of_known known⟩
    · rintro ⟨named, unreserved⟩
      cases (sound.texts id text).mp named with
      | reserved listed =>
          rw [isReserved_of_listed listed] at unreserved
          contradiction
      | name known => exact known

theorem Grows.keeps (grows : registry.Grows after) (sound : registry.Sound)
    (soundAfter : after.Sound) : registry.Keeps after where
  ids _ _ known := grows.known known
  texts id text named := (soundAfter.texts id text).mpr (grows.shown ((sound.texts id text).mp named))

theorem after_append (registry : Registry) (front back : List Step) :
    registry.after (front ++ back) = (registry.after front).after back :=
  List.foldl_append

/-- As long as a run does not come to its last value, the registry is well kept, every step of the
run has added the one new name that it interned or changed nothing, and whatever had a name or a
value at any moment has it still. -/
theorem registry_well_kept (steps : List Step) (roomy : (fresh.after steps).added < capacity) :
    (fresh.after steps).WellKept ∧
    (∀ front step back, steps = front ++ step :: back →
      (fresh.after front).Turns step ((fresh.after front).step step).2) ∧
    ∀ front back, steps = front ++ back → (fresh.after front).Keeps (fresh.after steps) := by
  have sound := after_sound (Nat.le_of_lt roomy)
  have roomyBefore (front back : List Step) (split : steps = front ++ back) :
      (fresh.after front).added < capacity := by
    have fewer := ((fresh.after front).after_grows back).added_le
    rw [← after_append, ← split] at fewer
    omega
  refine ⟨?_, ?_, ?_⟩
  · have gapless := (after_grows fresh steps).gapless fresh_gapless fresh_sound (Nat.le_of_lt roomy)
    exact sound.wellKept gapless roomy
  · intro front step back split
    have room := roomyBefore front (step :: back) split
    have roomAfter := roomyBefore (front ++ [step]) back (by simp [split])
    rw [after_append] at roomAfter
    exact (after_sound (Nat.le_of_lt room)).turns roomAfter
  · intro front back split
    have grows := (fresh.after front).after_grows back
    rw [← after_append, ← split] at grows
    exact grows.keeps (after_sound (Nat.le_of_lt (roomyBefore front back split))) sound

/-- In quotes a reserved word is a new name. It is added once, and reading its bytes adds nothing. -/
theorem quoted_keyword_added_once :
    let quoted : Step := .intern "SELECT" true
    let unquoted : Step := .intern "Select" false
    let read : Step := .decode (Encoding.nameTag :: Text.Utf8.encode "SELECT".toList)
    (fresh.after [quoted, unquoted, read]).added < capacity ∧
      (fresh.after [quoted, unquoted, read]).WellKept ∧
      (fresh.after [quoted, unquoted, read]).size = 84 ∧
      fresh.Turns quoted (fresh.step quoted).2 ∧
      (fresh.after [quoted, unquoted]).Turns read ((fresh.after [quoted, unquoted]).step read).2 ∧
      (fresh.after [quoted]).Keeps (fresh.after [quoted, unquoted, read]) := by
  intro quoted unquoted read
  have roomy : (fresh.after [quoted, unquoted, read]).added < capacity := by decide +kernel
  have size : (fresh.after [quoted, unquoted, read]).size = 84 := by decide +kernel
  obtain ⟨wellKept, turns, keeps⟩ := registry_well_kept [quoted, unquoted, read] roomy
  exact ⟨roomy, wellKept, size, turns [] quoted [unquoted, read] rfl,
    turns [quoted, unquoted] read [] rfl, keeps [quoted] [unquoted, read] rfl⟩

end Locking.Registry
