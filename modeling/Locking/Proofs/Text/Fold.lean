import Locking.Proofs.Text.Cut
import Locking.Text.Fold

namespace Locking.Text

/-!
What folding leaves as it is, what it does not look at, and how far it looks. A folded text has
small letters only, which stay the same when they are folded, wherever they stand. The case of a
letter of ASCII is never seen. And without a capital sigma nothing depends on what follows.
-/

/-- No small letter of `run` is a capital of `other`: they lie on one side of it, or in its gaps. -/
def CapitalRun.spares (run other : CapitalRun) : Bool :=
  Nat.blt (run.lower run.last) other.first || Nat.blt other.last run.target ||
    (run.first == run.last || run.stride == 2) && other.stride == 2 &&
      (run.target + other.first) % 2 == 1

/-- A character that is folded to itself, wherever it stands. -/
structure Small (c : Char) : Prop where
  noSigma : c ≠ capitalSigma
  lower : lower c = [c]

/-- What folding gives without the table of capitals: the two characters for a dotted capital I,
and the two small sigmas. -/
def irregular : List Char :=
  ['i', '\u0307', 'σ', 'ς']

variable {run other : CapitalRun} {code limit : Nat} {c d : Char}
  {text part before left right : List Char}

/-! Capitals and their small letters. -/

theorem CapitalRun.not_contains_of_spares (spares : run.spares other = true)
    (inside : run.Contains code) : ¬other.Contains (run.lower code) := by
  simp only [CapitalRun.spares, CapitalRun.lower, Bool.or_eq_true, Bool.and_eq_true, Nat.blt_eq,
    beq_iff_eq] at spares
  obtain ⟨low, high, step⟩ := inside
  simp only [CapitalRun.Contains, CapitalRun.lower]
  rintro ⟨otherLow, otherHigh, otherStep⟩
  rcases spares with (below | above) | ⟨⟨single | stride, otherStride⟩, odd⟩
  · omega
  · omega
  · rw [otherStride] at otherStep
    omega
  · rw [stride] at step
    rw [otherStride] at otherStep
    omega

theorem capitalRuns_spare :
    (capitalRuns.all fun run => capitalRuns.all fun other => run.spares other) = true := by
  decide +kernel

/-- The small letters are characters, and none of them is the dotted capital I. -/
theorem capitalRuns_lower : ∀ run ∈ capitalRuns,
    (run.lower run.last < 0xD800 ∨ 0xDFFF < run.target ∧ run.lower run.last < 0x110000) ∧
      (run.lower run.last < dottedCapitalI.toNat ∨ dottedCapitalI.toNat < run.target) := by
  decide +kernel

theorem capitalRuns_spare_irregular :
    (capitalRuns.all fun run => irregular.all fun c => !decide (run.Contains c.toNat)) = true := by
  decide +kernel

theorem lowerCode_of_uncontained (small : ∀ run ∈ capitalRuns, ¬run.Contains code) :
    lowerCode code = code := by
  have missing : capitalRuns.find? (fun run => decide (run.Contains code)) = none := by
    simpa using small
  rw [lowerCode, missing]

theorem lower_of_uncontained (small : ∀ run ∈ capitalRuns, ¬run.Contains c.toNat)
    (undotted : c ≠ dottedCapitalI) : lower c = [c] := by
  rw [lower, if_neg undotted, lowerCode_of_uncontained small, Char.ofNat_toNat]

theorem capitalSigma_contained : ∃ run ∈ capitalRuns, run.Contains capitalSigma.toNat := by
  decide +kernel

theorem small_of_uncontained (uncontained : ∀ run ∈ capitalRuns, ¬run.Contains c.toNat)
    (undotted : c ≠ dottedCapitalI) : Small c where
  noSigma same := by
    obtain ⟨run, listed, inside⟩ := capitalSigma_contained
    exact uncontained run listed (same ▸ inside)
  lower := lower_of_uncontained uncontained undotted

/-- The small letter of a capital is small itself. -/
theorem small_ofNat_lower (listed : run ∈ capitalRuns) (inside : run.Contains code) :
    Small (Char.ofNat (run.lower code)) := by
  obtain ⟨valid, undotted⟩ := capitalRuns_lower run listed
  have atMost : run.lower code ≤ run.lower run.last := by
    have := inside.2.1
    simp only [CapitalRun.lower]
    omega
  have atLeast : run.target ≤ run.lower code := Nat.le_add_right _ _
  have toNat : (Char.ofNat (run.lower code)).toNat = run.lower code := by
    have isValid : (run.lower code).isValidChar := by
      unfold Nat.isValidChar
      omega
    rw [Char.ofNat, dif_pos isValid]
    rfl
  apply small_of_uncontained
  · intro other otherListed
    rw [toNat]
    have spared := List.all_eq_true.mp capitalRuns_spare run listed
    exact CapitalRun.not_contains_of_spares (List.all_eq_true.mp spared other otherListed) inside
  · intro same
    rw [← same, toNat] at undotted
    omega

theorem small_of_irregular (member : c ∈ irregular) : Small c := by
  apply small_of_uncontained
  · intro run listed
    have spared := List.all_eq_true.mp capitalRuns_spare_irregular run listed
    simpa using List.all_eq_true.mp spared c member
  · rintro rfl
    exact absurd member (by decide)

theorem small_of_mem_lower (noSigma : c ≠ capitalSigma) (member : d ∈ lower c) : Small d := by
  by_cases dotted : c = dottedCapitalI
  · rw [lower, if_pos dotted] at member
    exact small_of_irregular (List.mem_append_left ['σ', 'ς'] member)
  · rw [lower, if_neg dotted, List.mem_singleton, lowerCode] at member
    cases found : capitalRuns.find? (fun run => decide (run.Contains c.toNat)) with
    | some run =>
        rw [found] at member
        have inside := List.find?_some found
        rw [decide_eq_true_eq] at inside
        rw [member]
        exact small_ofNat_lower (List.mem_of_find?_eq_some found) inside
    | none =>
        rw [found, Char.ofNat_toNat] at member
        subst member
        exact small_of_uncontained (by simpa using found) dotted

theorem small_smallSigma (before after : List Char) : Small (smallSigma before after) := by
  apply small_of_irregular
  rcases smallSigma_cases before after with same | same
  · rw [same]
    decide
  · rw [same]
    decide

/-! Folding what has been folded. -/

theorem small_of_mem_foldAfter (member : c ∈ foldAfter before text) : Small c := by
  induction text generalizing before with
  | nil => simp [foldAfter] at member
  | cons first rest ih =>
      rw [foldAfter, List.mem_append] at member
      rcases member with here | later
      · split at here
        case isTrue sigma =>
          rw [List.mem_singleton.mp here]
          exact small_smallSigma before rest
        case isFalse noSigma => exact small_of_mem_lower noSigma here
      · exact ih later

theorem fold_eq_self (small : ∀ c ∈ text, Small c) : fold text = text := by
  have plain : capitalSigma ∉ text := fun member => (small _ member).noSigma rfl
  rw [fold, foldAfter_eq_flatMap plain]
  clear plain
  induction text with
  | nil => rfl
  | cons c rest ih =>
      have first := (small c List.mem_cons_self).lower
      have others := ih fun d member => small d (List.mem_cons_of_mem c member)
      rw [List.flatMap_cons, first, others, List.singleton_append]

/-- A folded text stays as it is, and so does any piece of it, although a sigma within it may come
to stand at its end. -/
theorem fold_of_subset_fold (piece : part ⊆ fold text) : fold part = part :=
  fold_eq_self fun _ member => small_of_mem_foldAfter (piece member)

theorem fold_cut_fold (limit : Nat) (text : List Char) :
    fold (cut limit (fold text)) = cut limit (fold text) :=
  fold_of_subset_fold (cut_isPrefix limit (fold text)).subset

/-- A sigma that the cut brings to the end of a text is no final sigma, and does not become one. -/
example : cut 3 (fold ['A', 'Σ', 'A']) = ['a', 'σ'] ∧ fold ['a', 'σ'] = ['a', 'σ'] ∧
    fold ['A', 'Σ'] = ['a', 'ς'] := by
  decide +kernel

/-! Letters of ASCII. -/

theorem isUpper_iff : c.isUpper = true ↔ 'A'.toNat ≤ c.toNat ∧ c.toNat ≤ 'Z'.toNat :=
  decide_eq_true_iff

theorem toLower_of_not_isUpper (small : ¬c.isUpper = true) : c.toLower = c :=
  dif_neg (mt isUpper_iff.mpr small)

theorem lower_of_isUpper (capital : c.isUpper = true) :
    lower c = [c.toLower] ∧ c.toLower.toNat = c.toNat + 32 ∧
      isCased c = true ∧ isCased c.toLower = true := by
  obtain ⟨least, most⟩ := isUpper_iff.mp capital
  have all : ∀ code ≤ 'Z'.toNat, 'A'.toNat ≤ code →
      lower (Char.ofNat code) = [(Char.ofNat code).toLower] ∧
        (Char.ofNat code).toLower.toNat = (Char.ofNat code).toNat + 32 ∧
        isCased (Char.ofNat code) = true ∧ isCased (Char.ofNat code).toLower = true := by
    decide +kernel
  have letter := all c.toNat most least
  rwa [Char.ofNat_toNat] at letter

/-- No letter of ASCII is case-ignorable. -/
theorem caseIgnorableRanges_spare : ∀ range ∈ caseIgnorableRanges,
    (range.last < 'A'.toNat ∨ 'Z'.toNat < range.first) ∧
      (range.last < 'a'.toNat ∨ 'z'.toNat < range.first) := by
  decide +kernel

theorem isCaseIgnorable_of_isUpper (capital : c.isUpper = true) :
    isCaseIgnorable c = false ∧ isCaseIgnorable c.toLower = false := by
  obtain ⟨least, most⟩ := isUpper_iff.mp capital
  have small := (lower_of_isUpper capital).2.1
  simp only [Char.reduceToNat] at least most
  simp only [isCaseIgnorable, List.any_eq_false, decide_eq_true_eq]
  constructor
  · rintro range listed ⟨first, last⟩
    have spared := (caseIgnorableRanges_spare range listed).1
    simp only [Char.reduceToNat] at spared
    omega
  · rintro range listed ⟨first, last⟩
    have spared := (caseIgnorableRanges_spare range listed).2
    simp only [Char.reduceToNat] at spared
    omega

/-- Nothing that folding asks about a character depends on the case of a letter of ASCII. -/
structure AsciiBlind (c : Char) : Prop where
  sigma : c.toLower = capitalSigma ↔ c = capitalSigma
  lower : lower c.toLower = lower c
  cased : isCased c.toLower = isCased c
  ignorable : isCaseIgnorable c.toLower = isCaseIgnorable c

theorem asciiBlind (c : Char) : AsciiBlind c := by
  by_cases capital : c.isUpper = true
  · have plain : c ≠ capitalSigma := by
      rintro rfl
      exact absurd capital (by decide)
    obtain ⟨lowered, _, cased, smallCased⟩ := lower_of_isUpper capital
    obtain ⟨ignorable, smallIgnorable⟩ := isCaseIgnorable_of_isUpper capital
    have small : Small c.toLower := by
      apply small_of_mem_lower plain
      rw [lowered]
      exact List.mem_singleton_self _
    constructor
    case sigma => exact iff_of_false small.noSigma plain
    case lower => rw [small.lower, lowered]
    case cased => rw [cased, smallCased]
    case ignorable => rw [ignorable, smallIgnorable]
  · have same := toLower_of_not_isUpper capital
    constructor <;> rw [same]

theorem meetsCased_map_toLower (text : List Char) :
    meetsCased (text.map Char.toLower) = meetsCased text := by
  induction text with
  | nil => rfl
  | cons c rest ih =>
      simp only [List.map_cons, meetsCased, (asciiBlind c).ignorable, (asciiBlind c).cased, ih]

theorem foldAfter_map_toLower (before text : List Char) :
    foldAfter (before.map Char.toLower) (text.map Char.toLower) = foldAfter before text := by
  induction text generalizing before with
  | nil => rfl
  | cons c rest ih =>
      have later := ih (c :: before)
      rw [List.map_cons] at later
      simp only [List.map_cons, foldAfter, smallSigma, meetsCased_map_toLower,
        (asciiBlind c).sigma, (asciiBlind c).lower, later]

theorem fold_map_toLower (text : List Char) : fold (text.map Char.toLower) = fold text :=
  foldAfter_map_toLower [] text

/-! What follows. -/

/-- Up to the end of a text without a capital sigma, folding does not look at what follows it. -/
theorem foldAfter_append (plain : capitalSigma ∉ left) :
    foldAfter before (left ++ right) =
      foldAfter before left ++ foldAfter (left.reverse ++ before) right := by
  induction left generalizing before with
  | nil => rfl
  | cons c rest ih =>
      have differs : c ≠ capitalSigma := fun same => plain (same ▸ List.mem_cons_self)
      have plainRest : capitalSigma ∉ rest := fun member => plain (List.mem_cons_of_mem c member)
      simp only [List.cons_append, foldAfter, if_neg differs, ih plainRest, List.append_assoc,
        List.reverse_cons, List.nil_append]

theorem fold_isPrefix_fold_append (plain : capitalSigma ∉ left) (right : List Char) :
    fold left <+: fold (left ++ right) := by
  rw [fold, fold, foldAfter_append plain]
  exact List.prefix_append _ _

end Locking.Text
