import Locking.Proofs.Name.Inventory
import Mathlib.Data.List.Induction
import Mathlib.Data.Nat.Digits.Defs
import Std.Data.String.ToNat

namespace Locking.Registry

/-!
Running out of values. Values are counted in 32 bits, and nothing stops the count at the last
positive one. A run can rely on its identifiers if and only if it adds no more names than there are
values; the name after these gets a negative value, and about as many names later the reserved words
lose their texts.
-/

/-- The step interns a quoted text. -/
inductive Step.Quotes : Step → Prop where
  | intern (text : String) : Quotes (.intern text true)
  | decode (bytes : List UInt8) : Quotes (.decode (Encoding.nameTag :: bytes))
  | roundTrip (text : String) : Quotes (.roundTrip text true)

/-- What one relies on in the identifiers that a run hands out. -/
structure Reliable (steps : List Step) : Prop where
  /-- A new name gets the next value, which is positive and has no text yet. -/
  new : ∀ front step back name, steps = front ++ step :: back → step.Interns (.name name) →
    (fresh.after front).ids[name]? = none →
    ∃ id, (fresh.after (front ++ [step])).ids[name]? = some id ∧ 0 < id.value.toInt ∧
      (fresh.after front).text? id = none
  quoted : ∀ step answer id, fresh.Answered steps step answer → step.Quotes →
    id ∈ answer.identifiers → id.isReserved = false
  kept : ∀ front back, steps = front ++ back → (fresh.after front).Keeps (fresh.after steps)

/-- The texts are interned one after another, each in quotes. -/
def quoteAll (texts : List String) : List Step :=
  texts.map fun text => .intern text true

def numerals (count : Nat) : List String :=
  (List.range count).map Nat.repr

variable {registry before final : Registry} {step : Step} {steps : List Step} {form : Canonical}
  {text name : String} {texts : List String} {bytes : List UInt8} {id : Identifier} {number : Nat}

/-! The values that new names get. -/

theorem Step.Interns.grows (interns : step.Interns form) :
    (registry.settle form).Grows (registry.step step).2 := by
  cases interns with
  | intern text quoted =>
      rw [← intern_settle]
      exact .refl
  | decode text tagged =>
      simp only [Registry.step, decode_tagged tagged, ← intern_settle]
      exact .refl
  | roundTrip text quoted =>
      rw [← intern_settle]
      simp only [Registry.step]
      generalize registry.intern text quoted = result
      cases read : result.2.decode (result.2.encode result.1) with
      | error fault => exact .refl
      | ok back => exact decode_grows read

theorem Step.Interns.given (interns : step.Interns (.name name))
    (new : before.ids[name]? = none) :
    (before.step step).2.ids[name]? = some ⟨before.next⟩ := by
  have given := before.ids_assign name
  rw [assign_new new] at given
  refine interns.grows.known ?_
  rwa [Registry.settle, assign_new new]

/-- A step that takes the number of names past the capacity does so with the first name that it
interns, for which there is no value left. -/
theorem Sound.overrun (sound : before.Sound) (within : before.added ≤ capacity)
    (beyond : capacity < (before.step step).2.added) :
    ∃ name, step.Interns (.name name) ∧ before.ids[name]? = none ∧ before.added = capacity := by
  by_cases interning : ∃ form, step.Interns form
  case neg =>
    rw [step_eq_self (not_exists.mp interning)] at beyond
    omega
  obtain ⟨form, interns⟩ := interning
  have settled : capacity < (before.settle form).added := by
    by_contra roomy
    obtain ⟨text, quoted, rfl⟩ := interns.exists_text
    have grows := before.intern_grows text quoted
    rw [intern_settle] at grows
    rw [interns.settle (grows.sound sound (Nat.not_lt.mp roomy))] at beyond
    exact roomy beyond
  cases form with
  | reserved id => exact absurd settled (Nat.not_lt.mpr within)
  | name name =>
      have one := before.added_assign_le name
      cases known : before.ids[name]? with
      | some id =>
          rw [settle, assign_known known] at settled
          exact absurd settled (Nat.not_lt.mpr within)
      | none =>
          rw [settle] at settled
          exact ⟨name, interns, known, by omega⟩

theorem Sound.next_at_capacity (sound : registry.Sound) (full : registry.added = capacity) :
    registry.next = Int32.minValue := by
  rw [sound.next, full]
  decide +kernel

theorem exists_overrun (beyond : capacity < (fresh.after steps).added) :
    ∃ front step back, steps = front ++ step :: back ∧ (fresh.after front).added ≤ capacity ∧
      capacity < (fresh.after (front ++ [step])).added := by
  induction steps using List.reverseRecOn with
  | nil =>
      have none : (fresh.after []).added = 0 := added_fresh
      omega
  | append_singleton past step ih =>
      by_cases within : (fresh.after past).added ≤ capacity
      · exact ⟨past, step, [], rfl, within, beyond⟩
      · obtain ⟨front, first, back, rfl, crossing⟩ := ih (Nat.not_le.mp within)
        exact ⟨front, first, back ++ [step], by simp, crossing⟩

/-! Quoted texts. -/

theorem exists_known_of_intern (interned : registry.intern text true = (id, final)) :
    ∃ name : String, final.ids[name]? = some id := by
  have form : canonical text true = .name (cutName text) := if_pos rfl
  rw [intern_name form] at interned
  have given := registry.ids_assign (cutName text)
  rw [interned] at given
  exact ⟨_, given⟩

theorem exists_known_of_decode
    (read : registry.decode (Encoding.nameTag :: bytes) = .ok (id, final)) :
    ∃ name : String, final.ids[name]? = some id := by
  obtain ⟨tag, text, quoted, same, tagged, interned⟩ := decode_eq_ok_iff.mp read
  obtain ⟨rfl, _⟩ := List.cons.inj same
  obtain rfl : true = quoted := Option.some.inj tagged
  exact exists_known_of_intern interned

theorem Step.Quotes.unreserved (quotes : step.Quotes) (sound : final.Sound)
    (grows : (before.step step).2.Grows final) (named : id ∈ (before.step step).1.identifiers) :
    id.isReserved = false := by
  have unreserved {between : Registry} {id : Identifier} (grows : between.Grows final)
      (known : ∃ name : String, between.ids[name]? = some id) : id.isReserved = false := by
    obtain ⟨name, known⟩ := known
    exact sound.isReserved_of_known (grows.known known)
  cases quotes with
  | intern text =>
      obtain rfl := List.mem_singleton.mp named
      exact unreserved grows (exists_known_of_intern rfl)
  | decode bytes =>
      cases read : before.decode (Encoding.nameTag :: bytes) with
      | error fault => simp [Registry.step, read, Answer.identifiers] at named
      | ok result =>
          simp only [Registry.step, read] at named grows
          obtain rfl := List.mem_singleton.mp named
          exact unreserved grows (exists_known_of_decode read)
  | roundTrip text =>
      have interned : ∃ name : String, (before.intern text true).2.ids[name]? =
        some (before.intern text true).1 := exists_known_of_intern rfl
      simp only [Registry.step] at named grows
      generalize before.intern text true = result at interned named grows
      cases read : result.2.decode (result.2.encode result.1) with
      | error fault => simp [read, Answer.identifiers] at named
      | ok back =>
          simp only [read, Answer.identifiers, List.mem_cons, List.not_mem_nil, or_false]
            at named grows
          have first := unreserved ((decode_grows read).trans grows) interned
          rcases named with rfl | rfl
          · exact first
          · -- what is written for an unreserved identifier is read as quoted
            rw [Registry.encode, Encoding.tagOf, if_neg (by simp [first])] at read
            exact unreserved grows (exists_known_of_decode read)

/-! Runs that can be relied on. -/

theorem Reliable.added_le (reliable : Reliable steps) : (fresh.after steps).added ≤ capacity := by
  by_contra beyond
  obtain ⟨front, step, back, split, within, crossing⟩ := exists_overrun (Nat.not_le.mp beyond)
  rw [after_append] at crossing
  have sound := after_sound within
  obtain ⟨name, interns, new, full⟩ := sound.overrun within crossing
  obtain ⟨id, found, positive, _⟩ := reliable.new front step back name split interns new
  rw [after_append] at found
  obtain rfl := Option.some.inj ((interns.given new).symm.trans found)
  rw [sound.next_at_capacity full] at positive
  exact absurd positive (by decide)

theorem reliable_of_added_le (roomy : (fresh.after steps).added ≤ capacity) : Reliable steps := by
  have sound := after_sound roomy
  have grows (front back : List Step) (split : steps = front ++ back) :
      (fresh.after front).Grows (fresh.after steps) := by
    rw [split, after_append]
    exact (fresh.after front).after_grows back
  have earlier (front back : List Step) (split : steps = front ++ back) :
      (fresh.after front).added ≤ capacity :=
    Nat.le_trans (grows front back split).added_le roomy
  constructor
  case new =>
    intro front step back name split interns new
    have after := earlier (front ++ [step]) back (by simp [split])
    have soundFront := after_sound (earlier front _ split)
    have more : ((fresh.after front).settle (.name name)).added ≤
        ((fresh.after front).step step).2.added := interns.grows.added_le
    rw [settle, soundFront.added_assign new] at more
    rw [after_append] at after ⊢
    have room : (fresh.after front).added < capacity := Nat.lt_of_lt_of_le more after
    have value := soundFront.toInt_next room
    refine ⟨_, interns.given new, by dsimp only; omega, ?_⟩
    exact Option.eq_none_iff_forall_ne_some.mpr fun text named =>
      soundFront.unshown_next room ((soundFront.texts _ _).mp named)
  case quoted =>
    intro step answer id answered quotes named
    obtain ⟨before, rfl, grows⟩ := answered.moment
    exact quotes.unreserved sound grows named
  case kept =>
    intro front back split
    exact (grows front back split).keeps (after_sound (earlier front back split)) sound

/-! A run that goes too far. -/

/-- Texts that are new and differ from each other are all added. -/
theorem Counted.after_quoteAll (counted : registry.Counted) (distinct : texts.Nodup)
    (short : ∀ text ∈ texts, Text.byteLength text.toList ≤ maxNameBytes)
    (new : ∀ text ∈ texts, registry.ids[text]? = none) :
    (registry.after (quoteAll texts)).Counted ∧
      (registry.after (quoteAll texts)).added = registry.added + texts.length := by
  induction texts generalizing registry with
  | nil => exact ⟨counted, rfl⟩
  | cons text rest ih =>
      obtain ⟨absent, distinctRest⟩ := List.nodup_cons.mp distinct
      rw [List.forall_mem_cons] at short new
      have interned : (registry.step (.intern text true)).2 = (registry.assign text).2 := by
        rw [← intern_name (canonical_of_short short.1)]
        rfl
      have newRest (other : String) (member : other ∈ rest) :
          (registry.assign text).2.ids[other]? = none := by
        refine Option.eq_none_iff_forall_ne_some.mpr fun id known => ?_
        rcases (ids_assign_iff new.1).mp known with old | ⟨rfl, _⟩
        · rw [new.2 other member] at old
          contradiction
        · exact absent member
      have later := ih (counted.assign new.1) distinctRest short.2 newRest
      rw [counted.added_assign new.1, Nat.add_assoc, Nat.add_comm 1] at later
      rwa [quoteAll, List.map_cons, List.length_cons, after, List.foldl_cons, interned]

theorem answered_last (registry : Registry) (steps : List Step) (step : Step) :
    registry.Answered (steps ++ [step]) step ((registry.after steps).step step).1 := by
  induction steps generalizing registry with
  | nil => exact answered_cons.mpr (.inl ⟨rfl, rfl⟩)
  | cons first rest ih => exact answered_cons.mpr (.inr (ih (registry.step first).2))

theorem step_quoted_new (new : registry.ids[text]? = none)
    (short : Text.byteLength text.toList ≤ maxNameBytes) :
    registry.step (.intern text true) =
      (.named ⟨registry.next⟩ text, (registry.assign text).2) ∧
    (registry.assign text).2.text? ⟨registry.next⟩ = some text := by
  have named : (registry.assign text).2.text? ⟨registry.next⟩ = some text := by
    rw [assign_new new, text?, Std.ExtTreeMap.getElem?_insert_self]
  refine ⟨?_, named⟩
  have shown : (registry.assign text).2.display ⟨registry.next⟩ = text := by rw [display, named]; rfl
  have value : (registry.assign text).1 = ⟨registry.next⟩ := by rw [assign_new new]
  simp only [Registry.step, intern_name (canonical_of_short short), value, shown]

theorem byteLength_numeral_le (small : number < 10 ^ 32) :
    Text.byteLength number.repr.toList ≤ maxNameBytes := by
  have bytes (text : List Char) : Text.byteLength text ≤ 4 * text.length := by
    induction text with
    | nil => simp
    | cons c rest ih =>
        have size := c.utf8Size_le_four
        rw [Text.byteLength_cons, List.length_cons]
        omega
  have digits : number.repr.length ≤ 32 := Nat.repr_length number 32 (by decide) small
  exact Nat.le_trans (bytes _) (by rw [String.length_toList]; exact Nat.mul_le_mul_left 4 digits)

/-- No name is in use from the start that consists of digits. -/
theorem numeral_new (number : Nat) : fresh.ids[number.repr]? = none := by
  refine Option.eq_none_iff_forall_ne_some.mpr fun id known => ?_
  have spelled : Vocabulary.common.all (fun entry => entry.1.toList.any (!·.isDigit)) = true := by
    decide +kernel
  have letters := List.all_eq_true.mp spelled _ (ids_fresh.mp known)
  obtain ⟨c, member, letter⟩ := List.any_eq_true.mp letters
  rw [Nat.repr_eq_ofList_toDigits, String.toList_ofList] at member
  have digit : c.isDigit = true := Nat.isDigit_of_mem_toDigits (by decide) (by decide) member
  simp [digit] at letter

theorem numerals_added (small : number ≤ 10 ^ 32) :
    (fresh.after (quoteAll (numerals number))).Counted ∧
      (fresh.after (quoteAll (numerals number))).added = number := by
  have distinct : (numerals number).Nodup :=
    List.nodup_range.map fun _ _ same => Nat.repr_inj.mp same
  have listed (text : String) (member : text ∈ numerals number) :
      ∃ earlier, earlier < number ∧ earlier.repr = text := by
    simpa [numerals] using member
  have counted := fresh_sound.counted.after_quoteAll distinct
    (fun text member => by
      obtain ⟨earlier, below, rfl⟩ := listed text member
      exact byteLength_numeral_le (Nat.lt_of_lt_of_le below small))
    (fun text member => by
      obtain ⟨earlier, _, rfl⟩ := listed text member
      exact numeral_new earlier)
  rwa [added_fresh, numerals, List.length_map, List.length_range, Nat.zero_add] at counted

/-- The numeral that is interned last gets the value that is reached by then. -/
theorem numeral_given (number : Nat) (small : number < 10 ^ 32) :
    fresh.Answered (quoteAll (numerals (number + 1))) (.intern number.repr true)
      (.named ⟨Vocabulary.firstFree + Int32.ofNat number⟩ number.repr) ∧
    (fresh.after (quoteAll (numerals (number + 1)))).text?
      ⟨Vocabulary.firstFree + Int32.ofNat number⟩ = some number.repr := by
  have short := byteLength_numeral_le small
  have last : quoteAll (numerals (number + 1)) =
      quoteAll (numerals number) ++ [.intern number.repr true] := by
    simp [quoteAll, numerals, List.range_succ]
  obtain ⟨counted, count⟩ := numerals_added (Nat.le_of_lt small)
  have countAfter := (numerals_added (Nat.succ_le_of_lt small)).2
  rw [last, after_append] at countAfter ⊢
  have answered := fresh.answered_last (quoteAll (numerals number)) (.intern number.repr true)
  generalize fresh.after (quoteAll (numerals number)) = before at counted count countAfter answered
  have new : before.ids[number.repr]? = none := by
    cases found : before.ids[number.repr]? with
    | none => rfl
    | some id =>
        -- a known name would not have been counted
        have same : (before.step (.intern number.repr true)).2 = before := by
          simp only [Registry.step, intern_name (canonical_of_short short), assign_known found]
        change (before.step (.intern number.repr true)).2.added = number + 1 at countAfter
        rw [same] at countAfter
        omega
  obtain ⟨step, named⟩ := step_quoted_new new short
  rw [← count, ← counted.next]
  rw [step] at answered
  refine ⟨count ▸ answered, ?_⟩
  change (before.step (.intern before.added.repr true)).2.text? ⟨before.next⟩ = _
  rw [count, step]
  exact named

/-- The identifiers of a run can be relied on if and only if it adds no more names than there are
positive values for them. -/
theorem reliable_iff_within_capacity (steps : List Step) :
    Reliable steps ↔ (fresh.after steps).added ≤ capacity :=
  ⟨Reliable.added_le, reliable_of_added_le⟩

/-- One numeral too many gets the least value there is, as if it were a reserved word. When the
count has come round to the values of the reserved words, it replaces the text of the last one. -/
theorem numerals_overrun :
    ¬Reliable (quoteAll (numerals 2147483620)) ∧
    fresh.Answered (quoteAll (numerals 2147483620)) (.intern "2147483619" true)
      (.named ⟨-2147483648⟩ "2147483619") ∧
    Identifier.isReserved ⟨-2147483648⟩ = true ∧
    fresh.text? ⟨-55⟩ = some "WHERE" ∧
    (fresh.after (quoteAll (numerals 4294967213))).text? ⟨-55⟩ = some "4294967212" := by
  have least := numeral_given 2147483619 (by decide)
  have around := numeral_given 4294967212 (by decide)
  have first : Vocabulary.firstFree + Int32.ofNat 2147483619 = -2147483648 := by decide +kernel
  have second : Vocabulary.firstFree + Int32.ofNat 4294967212 = -55 := by decide +kernel
  have text : Nat.repr 2147483619 = "2147483619" := by decide +kernel
  have otherText : Nat.repr 4294967212 = "4294967212" := by decide +kernel
  rw [first, text] at least
  rw [second, otherText] at around
  refine ⟨fun reliable => ?_, least.1, by decide, by decide +kernel, around.2⟩
  have within := reliable.added_le
  rw [(numerals_added (by decide)).2] at within
  exact absurd within (by decide)

end Locking.Registry
