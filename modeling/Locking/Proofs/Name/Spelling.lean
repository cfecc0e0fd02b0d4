import Locking.Proofs.Name.Canonical
import Locking.Proofs.Name.Sharing
import Locking.Proofs.Text.Fold

namespace Locking

/-!
Spellings of one name. What is displayed for an identifier is a spelling of it. Unquoted spellings
that differ in the case of letters of ASCII lead to the same identifier, and so do all spellings
that agree as far as the longest name kept reaches.
-/

variable {text other more : String} {quoted : Bool}

/-! The canonical form of an unquoted text hangs on its lowercase form alone, once that is cut. -/

theorem canonical_eq_of_folded (same : cutName (foldName text) = cutName (foldName other)) :
    canonical text false = canonical other false := by
  simp only [canonical, same, Bool.false_eq_true, if_false]

theorem cutName_of_short (short : Text.byteLength text.toList ≤ maxNameBytes) :
    cutName text = text := by
  rw [cutName, Text.cut_eq_self_iff.mpr short, String.ofList_toList]

theorem folded_of_name {name : String} (stands : canonical text false = .name name) :
    cutName (foldName text) = name := by
  have stands := standsFor_iff.mpr stands
  cases stands with
  | folded longest free => exact cutName_foldName_eq_iff.mpr longest

theorem folded_of_reserved {id : Identifier} (stands : canonical text false = .reserved id) :
    ∃ word, (word, id) ∈ Vocabulary.reserved ∧ cutName (foldName text) = word := by
  have stands := standsFor_iff.mpr stands
  cases stands with
  | keyword longest listed => exact ⟨_, listed, cutName_foldName_eq_iff.mpr longest⟩

theorem foldName_capitals {word : String} {id : Identifier}
    (listed : (word, id) ∈ Vocabulary.reserved) : foldName (Vocabulary.capitals word) = word := by
  rw [foldName, Vocabulary.capitals, String.toList_ofList, Vocabulary.fold_capitals listed,
    String.ofList_toList]

/-- Folding and cutting once more changes nothing. -/
theorem folded_folded (text : String) :
    cutName (foldName (cutName (foldName text))) = cutName (foldName text) := by
  have again : foldName (cutName (foldName text)) = cutName (foldName text) := by
    simp only [foldName, cutName, String.toList_ofList, Text.fold_cut_fold]
  rw [again, cutName_of_short (Registry.byteLength_cutName_le (foldName text))]

theorem foldName_of_ascii_alike
    (alike : text.toList.map Char.toLower = other.toList.map Char.toLower) :
    foldName text = foldName other := by
  rw [foldName, foldName, ← Text.fold_map_toLower text.toList, alike, Text.fold_map_toLower]

theorem cutName_append (enough : maxNameBytes ≤ Text.byteLength text.toList) :
    cutName (text ++ more) = cutName text := by
  rw [cutName, cutName, String.toList_append, Text.cut_append enough]

theorem folded_append (plain : Text.capitalSigma ∉ text.toList)
    (enough : maxNameBytes ≤ Text.byteLength (Text.fold text.toList)) :
    cutName (foldName (text ++ more)) = cutName (foldName text) := by
  obtain ⟨rest, folded⟩ := Text.fold_isPrefix_fold_append plain more.toList
  simp only [cutName, foldName, String.toList_ofList, String.toList_append]
  rw [← folded, Text.cut_append enough]

namespace Registry

/-- Two texts that are given one identifier, whichever comes first and whatever happens in between;
and the second of them adds nothing to the registry. -/
structure Synonyms (registry : Registry) (text other : String) (quoted : Bool) : Prop where
  same : registry.intern text quoted = registry.intern other quoted
  later : ∀ steps id, (registry.intern text quoted).1 = id →
    ((registry.intern text quoted).2.after steps).intern other quoted =
      (id, (registry.intern text quoted).2.after steps)
  earlier : ∀ steps id, (registry.intern other quoted).1 = id →
    ((registry.intern other quoted).2.after steps).intern text quoted =
      (id, (registry.intern other quoted).2.after steps)

variable {registry after : Registry} {id : Identifier}

theorem intern_of_grows (registry : Registry)
    (same : canonical text quoted = canonical other quoted)
    (grows : (registry.intern text quoted).2.Grows after) :
    after.intern other quoted = ((registry.intern text quoted).1, after) := by
  have binds := grows.binds (registry.intern_binds text quoted)
  rw [same] at binds
  exact binds.intern

theorem synonyms_of_canonical_eq (registry : Registry)
    (same : canonical text quoted = canonical other quoted) :
    registry.Synonyms text other quoted where
  same := by simp only [intern, same]
  later steps id named := by
    rw [intern_of_grows registry same ((registry.intern text quoted).2.after_grows steps), named]
  earlier steps id named := by
    rw [intern_of_grows registry same.symm ((registry.intern other quoted).2.after_grows steps),
      named]

theorem Sound.text?_assign (sound : registry.Sound) (text : String) :
    (registry.assign text).2.text? (registry.assign text).1 = some text := by
  cases known : registry.ids[text]? with
  | some id =>
      rw [assign_known known]
      exact (sound.texts id text).mpr (.name known)
  | none => rw [assign_new known, text?, Std.ExtTreeMap.getElem?_insert_self]

/-- The text displayed for an identifier is folded like the text it was given for. -/
theorem Sound.folded_display (sound : registry.Sound) (text : String) :
    cutName (foldName ((registry.intern text false).2.display (registry.intern text false).1)) =
      cutName (foldName text) := by
  cases stands : canonical text false with
  | reserved keyword =>
      obtain ⟨word, listed, folded⟩ := folded_of_reserved stands
      rw [intern_reserved stands, sound.display_of_shown (.reserved listed),
        foldName_capitals listed, folded, cutName_of_short (Vocabulary.reserved_short listed)]
  | name name =>
      rw [intern_name stands, display, sound.text?_assign name, Option.getD_some,
        ← folded_of_name stands, folded_folded]

/-- Folding is stable. As long as there have been values for all names, the text displayed for an
unquoted text is given the identifier of that text when it is interned in its turn, and adds
nothing: folding and cutting a text that is folded and cut changes nothing, and the reserved words,
displayed in capitals, are folded to themselves. -/
theorem display_interned_again (steps : List Step) (roomy : (fresh.after steps).added ≤ capacity) :
    let registry := fresh.after steps
    (∀ text : String,
      let interned := registry.intern text false
      let shown := interned.2.display interned.1
      cutName (foldName shown) = cutName (foldName text) ∧
        interned.2.intern shown false = interned) ∧
    (∀ text, cutName (foldName (cutName (foldName text))) = cutName (foldName text)) ∧
    ∀ word id, (word, id) ∈ Vocabulary.reserved →
      registry.display id = Vocabulary.capitals word ∧
        foldName (Vocabulary.capitals word) = word := by
  intro registry
  have sound : registry.Sound := after_sound roomy
  refine ⟨?_, folded_folded, ?_⟩
  · intro text interned shown
    have folded : cutName (foldName shown) = cutName (foldName text) := sound.folded_display text
    have again : interned.2.intern shown false = (interned.1, interned.2) :=
      intern_of_grows registry (canonical_eq_of_folded folded.symm) .refl
    refine ⟨folded, ?_⟩
    rw [again]
  · intro word id listed
    exact ⟨sound.display_of_shown (.reserved listed), foldName_capitals listed⟩

/-- The dotted capital I grows when it is folded and the Kelvin sign shrinks; of the two sigmas, one
is at the end of a word. -/
theorem folded_word_interned_again :
    let text := "\u0130\u03A3 \u212A\u03A3"
    let shown := "i\u0307\u03C2 k\u03C2"
    let registry := fresh.after [.intern "k\u03C3" true]
    registry.added ≤ capacity ∧ (registry.intern text false).1 = ⟨30⟩ ∧
      (registry.intern text false).2.display ⟨30⟩ = shown ∧
      (registry.intern text false).2.intern shown false = registry.intern text false := by
  intro text shown registry
  have roomy : registry.added ≤ capacity := by decide +kernel
  have value : (registry.intern text false).1 = ⟨30⟩ := by decide +kernel
  have display : (registry.intern text false).2.display ⟨30⟩ = shown := by decide +kernel
  have again := ((display_interned_again _ roomy).1 text).2
  rw [value, display] at again
  exact ⟨roomy, value, display, again⟩

/-- Unquoted texts that differ at most in the case of some letters of ASCII are given the same
identifier, whatever other characters they have and however long they are. -/
theorem ascii_case_ignored (steps : List Step) (text other : String)
    (alike : text.toList.map Char.toLower = other.toList.map Char.toLower) :
    (fresh.after steps).Synonyms text other false := by
  apply synonyms_of_canonical_eq
  apply canonical_eq_of_folded
  rw [foldName_of_ascii_alike alike]

/-- The letter behind the full stop tells that the sigma is not at the end of a word, in either
case. -/
theorem sigma_between_ascii_letters :
    let steps : List Step := [.intern "x\u03C3.y" true]
    "X\u03A3.y".toList.map Char.toLower = "x\u03A3.Y".toList.map Char.toLower ∧
      (fresh.after steps).Synonyms "X\u03A3.y" "x\u03A3.Y" false ∧
      ((fresh.after steps).intern "x\u03A3.Y" false).1 = ⟨29⟩ := by
  intro steps
  have alike : "X\u03A3.y".toList.map Char.toLower = "x\u03A3.Y".toList.map Char.toLower := by
    decide +kernel
  exact ⟨alike, ascii_case_ignored steps _ _ alike, by decide +kernel⟩

/-- What is appended to a text that reaches the limit has no influence, quoted or not. Unquoted, it
is the folded text that has to reach the limit, and no capital sigma may be in it, as the appended
text could tell whether that is at the end of a word. -/
theorem text_past_limit_ignored (steps : List Step) (text more : String) :
    (128 ≤ Text.byteLength text.toList →
      (fresh.after steps).Synonyms (text ++ more) text true) ∧
    (Text.capitalSigma ∉ text.toList → 128 ≤ Text.byteLength (Text.fold text.toList) →
      (fresh.after steps).Synonyms (text ++ more) text false) := by
  constructor
  · intro enough
    apply synonyms_of_canonical_eq
    simp only [canonical, if_true, cutName_append enough]
  · intro plain enough
    apply synonyms_of_canonical_eq
    exact canonical_eq_of_folded (folded_append plain enough)

/-- The limit falls into the combining dot of the last letter. -/
theorem dotted_letters_past_limit :
    let text := String.ofList (List.replicate 43 '\u0130')
    let quoted := String.ofList (List.replicate 127 'x' ++ ['\u00E9'])
    Text.capitalSigma ∉ text.toList ∧ Text.byteLength (Text.fold text.toList) = 129 ∧
      Text.byteLength quoted.toList = 129 ∧
      (fresh.after []).Synonyms (text ++ "\u03A3ELECT") text false ∧
      (fresh.after []).Synonyms (quoted ++ "\u03A3ELECT") quoted true := by
  intro text quoted
  have letters : text.toList = List.replicate 43 '\u0130' := String.toList_ofList
  have others : quoted.toList = List.replicate 127 'x' ++ ['\u00E9'] := String.toList_ofList
  rw [letters, others]
  have plain : Text.capitalSigma ∉ List.replicate 43 '\u0130' := by decide +kernel
  have folded : Text.byteLength (Text.fold (List.replicate 43 '\u0130')) = 129 := by
    decide +kernel
  have long : Text.byteLength (List.replicate 127 'x' ++ ['\u00E9']) = 129 := by decide +kernel
  refine ⟨plain, folded, long, ?_, ?_⟩
  · apply (text_past_limit_ignored [] text "\u03A3ELECT").2
    · rwa [letters]
    · rw [letters]
      omega
  · apply (text_past_limit_ignored [] quoted "\u03A3ELECT").1
    rw [others]
    omega

end Registry

end Locking
