import Locking.Text.CaseTable

namespace Locking.Text

/-!
Folding of text to lowercase. Every character is folded on its own, but for the capital sigma,
whose small form depends on what stands around it: it is the final sigma at the end of a word.
-/

/-- The code point of the small letter, for a capital of the table; any other code point. -/
def lowerCode (code : Nat) : Nat :=
  match capitalRuns.find? (fun run => decide (run.Contains code)) with
  | some run => run.lower code
  | none => code

def dottedCapitalI : Char := 'İ'

def capitalSigma : Char := 'Σ'

/-- The lowercase form of one character out of context. Only the dotted capital I has a form of
two characters: the small i and a combining dot above. -/
def lower (c : Char) : List Char :=
  if c = dottedCapitalI then ['i', '\u0307'] else [Char.ofNat (lowerCode c.toNat)]

def isCased (c : Char) : Bool :=
  casedRanges.any (fun range => decide (range.Contains c.toNat))

def isCaseIgnorable (c : Char) : Bool :=
  caseIgnorableRanges.any (fun range => decide (range.Contains c.toNat))

/-- Whether the first character that is not case-ignorable is a cased one. -/
def meetsCased : List Char → Bool
  | [] => false
  | c :: rest => if isCaseIgnorable c then meetsCased rest else isCased c

/-- The small sigma between `before`, given from its end, and `after`. -/
def smallSigma (before after : List Char) : Char :=
  if meetsCased before && !meetsCased after then 'ς' else 'σ'

/-- Folds what follows `before`, which is given from its end. -/
def foldAfter (before : List Char) : List Char → List Char
  | [] => []
  | c :: rest =>
      (if c = capitalSigma then [smallSigma before rest] else lower c) ++
        foldAfter (c :: before) rest

def fold (text : List Char) : List Char :=
  foldAfter [] text

@[simp] theorem fold_nil : fold [] = [] := rfl

theorem smallSigma_cases (before after : List Char) :
    smallSigma before after = 'ς' ∨ smallSigma before after = 'σ' := by
  unfold smallSigma
  split
  · exact Or.inl rfl
  · exact Or.inr rfl

/-- Without a capital sigma, folding is done character by character. -/
theorem foldAfter_eq_flatMap {before text : List Char} (plain : capitalSigma ∉ text) :
    foldAfter before text = text.flatMap lower := by
  induction text generalizing before with
  | nil => rfl
  | cons c rest ih =>
      have differs : c ≠ capitalSigma := fun same => plain (same ▸ List.mem_cons_self)
      have plainRest : capitalSigma ∉ rest := fun member => plain (List.mem_cons_of_mem c member)
      simp only [foldAfter, if_neg differs, List.flatMap_cons, ih plainRest]

end Locking.Text
