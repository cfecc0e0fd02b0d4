import Locking.Proofs.Cancellation.Agreement
import Mathlib.Data.List.Induction

namespace Locking.Board

/-!
What a handle descends from. The history of a board says of which pair a handle is a copy, through
any number of copies of copies, and whether the canceller of that pair is still there. A handle has
fired if and only if it is not: this is all that the board keeps of the history.
-/

def after (board : Board) (steps : List Step) : Board :=
  steps.foldl step board

def Step.makesPair : Step → Bool
  | .create _ | .discarded _ => true
  | _ => false

/-- How many pairs these steps have made. They are numbered in the order in which they are made. -/
def made (steps : List Step) : PairId :=
  steps.countP Step.makesPair

/-- The step uses the canceller under this name, or puts another one in its place. -/
def Step.Takes (name : String) : Step → Prop
  | .create other | .cancel other | .drop other => other = name
  | _ => False

/-- The step drops the handle under this name, be it for another one. To copy a name without a handle
does nothing. -/
def Rebinds (board : Board) (name : String) : Step → Prop
  | .create other | .discarded other | .never other | .forget other => other = name
  | .copy other source => other = name ∧ (board.handle? source).isSome = true
  | .cancel _ | .drop _ => False

/-- What the handle under this name goes back to after these steps. -/
inductive Descends : List Step → String → Handle → Prop where
  | create (past : List Step) (name : String) :
      Descends (past ++ [.create name]) name (.of (made past))
  | discarded (past : List Step) (name : String) :
      Descends (past ++ [.discarded name]) name (.of (made past))
  | never (past : List Step) (name : String) : Descends (past ++ [.never name]) name .never
  | copy {past : List Step} {source : String} {origin : Handle} (name : String)
      (copied : Descends past source origin) : Descends (past ++ [.copy name source]) name origin
  | kept {past : List Step} {name : String} {origin : Handle} {step : Step}
      (before : Descends past name origin) (untouched : ¬(empty.after past).Rebinds name step) :
      Descends (past ++ [step]) name origin

/-- The canceller under this name is that of this pair. -/
def Holds (steps : List Step) (name : String) (pair : PairId) : Prop :=
  ∃ past since, steps = past ++ .create name :: since ∧ made past = pair ∧
    ∀ step ∈ since, ¬step.Takes name

/-- The canceller of this pair is cancelled or dropped by the step. -/
inductive Ends (past : List Step) (pair : PairId) : Step → Prop where
  | discarded (name : String) (number : made past = pair) : Ends past pair (.discarded name)
  | create (name : String) (holds : Holds past name pair) : Ends past pair (.create name)
  | cancel (name : String) (holds : Holds past name pair) : Ends past pair (.cancel name)
  | drop (name : String) (holds : Holds past name pair) : Ends past pair (.drop name)

/-- The canceller of this pair has been cancelled or dropped. -/
def Gone (steps : List Step) (pair : PairId) : Prop :=
  ∃ past step later, steps = past ++ step :: later ∧ Ends past pair step

/-- The pair whose canceller a step leaves without an owner. -/
def ended? (board : Board) : Step → Option PairId
  | .discarded _ => some board.pairs.next
  | .create name | .cancel name | .drop name => board.cancellers[name]?
  | _ => none

/-- The step puts this handle under this name. -/
def Places (board : Board) (name : String) (handle : Handle) : Step → Prop
  | .create other | .discarded other => other = name ∧ .of board.pairs.next = handle
  | .never other => other = name ∧ .never = handle
  | .copy other source => other = name ∧ board.handle? source = some handle
  | _ => False

variable {board : Board} {steps past : List Step} {step : Step} {name other : String}
  {pair : PairId} {handle origin : Handle}

/-! One step. -/

theorem next_step (board : Board) (step : Step) :
    (board.step step).pairs.next = board.pairs.next + if step.makesPair then 1 else 0 := by
  cases step with
  | create name => exact next_fire _ name
  | discarded name => rfl
  | never name => rfl
  | copy name source =>
      simp only [Board.step, Board.copy]
      split <;> rfl
  | forget name => rfl
  | cancel name => exact next_fire board name
  | drop name => exact next_fire board name

theorem hasFired_step_iff :
    (board.step step).pairs.hasFired handle = true ↔
      (∃ pair, board.ended? step = some pair ∧ handle = .of pair) ∨
        board.pairs.hasFired handle = true := by
  cases step with
  | create name => exact hasFired_fire_iff { board with pairs := board.pairs.create.2 } name handle
  | discarded name =>
      have fired := Pairs.hasFired_fire board.pairs.create.2 board.pairs.next handle
      rw [Pairs.hasFired_create] at fired
      simp only [Board.step, Board.discarded, put, ended?]
      change (board.pairs.create.2.fire board.pairs.next).hasFired handle = true ↔ _
      simp [fired]
  | never name => simp [Board.step, put, ended?]
  | copy name source =>
      simp only [Board.step, Board.copy]
      split <;> simp [put, ended?]
  | forget name => simp [Board.step, ended?]
  | cancel name => exact hasFired_fire_iff board name handle
  | drop name => exact hasFired_fire_iff board name handle

theorem handle?_fire (board : Board) (name other : String) :
    (board.fire name).handle? other = board.handle? other := by
  rw [handle?, handle?, handles_fire]

theorem handle?_put_iff :
    (board.put other origin).handle? name = some handle ↔
      other = name ∧ origin = handle ∨ board.handle? name = some handle ∧ other ≠ name := by
  simp only [put, handle?, Std.ExtTreeMap.getElem?_insert]
  by_cases same : other = name <;> simp [same]

/-- A name has the handle that the step puts there, or keeps the one that it had. -/
theorem handle?_step_iff :
    (board.step step).handle? name = some handle ↔
      board.Places name handle step ∨
        board.handle? name = some handle ∧ ¬board.Rebinds name step := by
  cases step with
  | create other =>
      have placed := @handle?_put_iff
        (({ board with pairs := board.pairs.create.2 } : Board).fire other) name other handle
        (.of board.pairs.next)
      rw [handle?_fire] at placed
      exact placed
  | discarded other => exact handle?_put_iff
  | never other => exact handle?_put_iff
  | copy other source =>
      simp only [Board.step, Board.copy, Places, Rebinds]
      cases found : board.handle? source with
      | none => simp
      | some origin => simpa using handle?_put_iff
  | forget other =>
      simp only [Board.step, handle?, Places, Rebinds, Std.ExtTreeMap.getElem?_erase]
      by_cases same : other = name <;> simp [same]
  | cancel other => simp [Board.step, handle?_fire, Places, Rebinds]
  | drop other => simp [Board.step, handle?_fire, Places, Rebinds]

theorem cancellers_step_iff :
    (board.step step).cancellers[name]? = some pair ↔
      step = .create name ∧ board.pairs.next = pair ∨
        board.cancellers[name]? = some pair ∧ ¬step.Takes name := by
  cases step with
  | create other =>
      simp only [Board.step, Board.create, Std.ExtTreeMap.getElem?_insert, Step.Takes]
      by_cases same : other = name
      · simp [same, Pairs.create]
      · have kept := cancellers_fire { board with pairs := board.pairs.create.2 } other name
        rw [if_neg same] at kept
        simp [same, kept]
  | discarded other => simp [Board.step, Board.discarded, put, Step.Takes]
  | never other => simp [Board.step, put, Step.Takes]
  | copy other source =>
      simp only [Board.step, Board.copy]
      split <;> simp [put, Step.Takes]
  | forget other => simp [Board.step, Step.Takes]
  | cancel other =>
      simp only [Board.step, cancellers_fire, Step.Takes]
      by_cases same : other = name <;> simp [same]
  | drop other =>
      simp only [Board.step, cancellers_fire, Step.Takes]
      by_cases same : other = name <;> simp [same]

/-! Histories. -/

theorem after_append (board : Board) (front back : List Step) :
    board.after (front ++ back) = (board.after front).after back :=
  List.foldl_append

/-- A step of a history that has just grown by one is the new one, or was there before. -/
theorem snoc_eq_append_cons_iff {front later : List Step} {middle : Step} :
    past ++ [step] = front ++ middle :: later ↔
      past = front ∧ step = middle ∧ later = [] ∨
        ∃ between, past = front ++ middle :: between ∧ later = between ++ [step] := by
  cases later using List.reverseRecOn with
  | nil => simp
  | append_singleton between last =>
      rw [← List.cons_append, ← List.append_assoc, List.append_singleton_inj]
      constructor
      · rintro ⟨rfl, rfl⟩
        exact .inr ⟨between, rfl, rfl⟩
      · rintro (⟨_, _, empty⟩ | ⟨between, rfl, same⟩)
        · simp at empty
        · obtain ⟨rfl, rfl⟩ := List.append_singleton_inj.mp same
          exact ⟨rfl, rfl⟩

theorem made_snoc (past : List Step) (step : Step) :
    made (past ++ [step]) = made past + if step.makesPair then 1 else 0 := by
  rw [made, List.countP_append, List.countP_singleton, made]

theorem next_after (steps : List Step) : (empty.after steps).pairs.next = made steps := by
  induction steps using List.reverseRecOn with
  | nil => rfl
  | append_singleton past step ih =>
      rw [after_append, made_snoc, ← ih]
      exact next_step _ step

/-- What the last step has done to the origin of a name. -/
theorem descends_snoc_iff
    (known : ∀ source origin,
      (empty.after past).handle? source = some origin ↔ Descends past source origin) :
    Descends (past ++ [step]) name origin ↔
      (empty.after past).Places name origin step ∨
        Descends past name origin ∧ ¬(empty.after past).Rebinds name step := by
  constructor
  · intro descends
    generalize whole : past ++ [step] = history at descends
    cases descends with
    | create front name =>
        obtain ⟨rfl, rfl⟩ := List.append_singleton_inj.mp whole
        exact .inl ⟨rfl, congrArg Handle.of (next_after past)⟩
    | discarded front name =>
        obtain ⟨rfl, rfl⟩ := List.append_singleton_inj.mp whole
        exact .inl ⟨rfl, congrArg Handle.of (next_after past)⟩
    | never front name =>
        obtain ⟨rfl, rfl⟩ := List.append_singleton_inj.mp whole
        exact .inl ⟨rfl, rfl⟩
    | copy name copied =>
        obtain ⟨rfl, rfl⟩ := List.append_singleton_inj.mp whole
        exact .inl ⟨rfl, (known _ _).mpr copied⟩
    | kept before untouched =>
        obtain ⟨rfl, rfl⟩ := List.append_singleton_inj.mp whole
        exact .inr ⟨before, untouched⟩
  · rintro (placed | ⟨before, untouched⟩)
    · cases step with
      | create other =>
          obtain ⟨rfl, rfl⟩ := placed
          rw [next_after]
          exact .create past other
      | discarded other =>
          obtain ⟨rfl, rfl⟩ := placed
          rw [next_after]
          exact .discarded past other
      | never other =>
          obtain ⟨rfl, rfl⟩ := placed
          exact .never past other
      | copy other source =>
          obtain ⟨rfl, found⟩ := placed
          exact .copy other ((known _ _).mp found)
      | forget other => exact absurd placed id
      | cancel other => exact absurd placed id
      | drop other => exact absurd placed id
    · exact .kept before untouched

theorem handle?_after :
    (empty.after steps).handle? name = some handle ↔ Descends steps name handle := by
  induction steps using List.reverseRecOn generalizing name handle with
  | nil =>
      refine ⟨fun found => by simp [after, empty, handle?] at found, fun descends => ?_⟩
      generalize whole : [] = history at descends
      cases descends <;> simp at whole
  | append_singleton past step ih =>
      rw [after_append, descends_snoc_iff fun source origin => ih, ← ih]
      exact handle?_step_iff

theorem holds_snoc_iff :
    Holds (past ++ [step]) name pair ↔
      step = .create name ∧ made past = pair ∨ Holds past name pair ∧ ¬step.Takes name := by
  constructor
  · rintro ⟨front, since, whole, number, untaken⟩
    rcases snoc_eq_append_cons_iff.mp whole with ⟨rfl, last, _⟩ | ⟨between, before, rfl⟩
    · exact .inl ⟨last, number⟩
    · rw [List.forall_mem_append, List.forall_mem_singleton] at untaken
      exact .inr ⟨⟨front, between, before, number, untaken.1⟩, untaken.2⟩
  · rintro (⟨rfl, number⟩ | ⟨⟨front, since, rfl, number, untaken⟩, kept⟩)
    · exact ⟨past, [], rfl, number, by simp⟩
    · refine ⟨front, since ++ [step], by simp, number, ?_⟩
      rw [List.forall_mem_append, List.forall_mem_singleton]
      exact ⟨untaken, kept⟩

theorem cancellers_after :
    (empty.after steps).cancellers[name]? = some pair ↔ Holds steps name pair := by
  induction steps using List.reverseRecOn generalizing name pair with
  | nil => simp [after, empty, Holds]
  | append_singleton past step ih =>
      rw [after_append, holds_snoc_iff, ← ih, ← next_after]
      exact cancellers_step_iff

theorem ended?_after : (empty.after past).ended? step = some pair ↔ Ends past pair step := by
  constructor
  · intro ended
    cases step with
    | create name => exact .create name (cancellers_after.mp ended)
    | discarded name => exact .discarded name ((next_after past).symm.trans (Option.some.inj ended))
    | never name => contradiction
    | copy name source => contradiction
    | forget name => contradiction
    | cancel name => exact .cancel name (cancellers_after.mp ended)
    | drop name => exact .drop name (cancellers_after.mp ended)
  · intro ends
    cases ends with
    | create name holds => exact cancellers_after.mpr holds
    | discarded name number => exact congrArg some ((next_after past).trans number)
    | cancel name holds => exact cancellers_after.mpr holds
    | drop name holds => exact cancellers_after.mpr holds

theorem gone_snoc_iff : Gone (past ++ [step]) pair ↔ Ends past pair step ∨ Gone past pair := by
  constructor
  · rintro ⟨front, ending, later, whole, ends⟩
    rcases snoc_eq_append_cons_iff.mp whole with ⟨rfl, rfl, _⟩ | ⟨between, before, rfl⟩
    · exact .inl ends
    · exact .inr ⟨front, ending, between, before, ends⟩
  · rintro (ends | ⟨front, ending, later, rfl, ends⟩)
    · exact ⟨past, step, [], rfl, ends⟩
    · exact ⟨front, ending, later ++ [step], by simp, ends⟩

theorem hasFired_after : (empty.after steps).pairs.hasFired (.of pair) = true ↔ Gone steps pair := by
  induction steps using List.reverseRecOn with
  | nil => simp [after, empty, Pairs.initial, Pairs.hasFired, Gone]
  | append_singleton past step ih =>
      rw [after_append, gone_snoc_iff, ← ih, ← ended?_after]
      refine hasFired_step_iff.trans (or_congr_left ⟨?_, fun found => ⟨pair, found, rfl⟩⟩)
      rintro ⟨_, found, same⟩
      rwa [Handle.of.inj same]

theorem mem_firedNames :
    name ∈ board.firedNames ↔
      ∃ handle, board.handle? name = some handle ∧ board.pairs.hasFired handle = true := by
  simp [firedNames, handle?, Std.ExtTreeMap.mem_toList_iff_getElem?_eq_some]

theorem mem_firedNames_after :
    name ∈ (empty.after steps).firedNames ↔
      ∃ pair, Descends steps name (.of pair) ∧ Gone steps pair := by
  rw [mem_firedNames]
  constructor
  · rintro ⟨handle, found, fired⟩
    cases handle with
    | never => simp at fired
    | of pair => exact ⟨pair, handle?_after.mp found, hasFired_after.mp fired⟩
  · rintro ⟨pair, descends, gone⟩
    exact ⟨.of pair, handle?_after.mpr descends, hasFired_after.mpr gone⟩

theorem getElem?_run (board : Board) {steps : List Step} {moment : Nat}
    (within : moment < steps.length) :
    (board.run steps)[moment]? = some (board.after (steps.take (moment + 1))).firedNames := by
  induction steps generalizing board moment with
  | nil => simp at within
  | cons step rest ih =>
      cases moment with
      | zero => rfl
      | succ moment => exact ih (board.step step) (Nat.lt_of_succ_lt_succ within)

theorem hasFired_after_append (more : List Step)
    (fired : (empty.after steps).pairs.hasFired handle = true) :
    (empty.after (steps ++ more)).pairs.hasFired handle = true := by
  induction more using List.reverseRecOn with
  | nil => rwa [List.append_nil]
  | append_singleton more step ih =>
      rw [← List.append_assoc, after_append]
      exact hasFired_step_iff.mpr (.inr ih)

theorem hasFired_after_snoc (unended : ∀ pair, Ends steps pair step → handle ≠ .of pair) :
    (empty.after (steps ++ [step])).pairs.hasFired handle =
      (empty.after steps).pairs.hasFired handle := by
  rw [after_append, Bool.eq_iff_iff]
  refine hasFired_step_iff.trans ⟨fun fired => fired.resolve_left ?_, .inr⟩
  rintro ⟨pair, ended, same⟩
  exact unended pair (ended?_after.mp ended) same

/-- At every moment of a run, those handles have fired that descend from a pair whose canceller is
gone. Every handle has one origin, and every handle that descends from it tells the same. What has
fired stays fired; a step that ends a pair changes nothing for the handles of other pairs; dropping
a handle, also by putting another one under its name, fires nothing; and a handle without a
canceller, or a copy of one, never fires. -/
theorem handles_fire_with_their_canceller (steps : List Step) :
    (∀ moment, moment < steps.length → ∃ names, (empty.run steps)[moment]? = some names ∧
      ∀ name, name ∈ names ↔ ∃ pair, Descends (steps.take (moment + 1)) name (.of pair) ∧
        Gone (steps.take (moment + 1)) pair) ∧
    (∀ name handle, (empty.after steps).handle? name = some handle ↔
      Descends steps name handle) ∧
    (∀ name other origin, Descends steps name origin → Descends steps other origin →
      (name ∈ (empty.after steps).firedNames ↔ other ∈ (empty.after steps).firedNames)) ∧
    (∀ more handle, (empty.after steps).pairs.hasFired handle = true →
      (empty.after (steps ++ more)).pairs.hasFired handle = true) ∧
    (∀ step pair handle, Ends steps pair step → handle ≠ .of pair →
      (empty.after (steps ++ [step])).pairs.hasFired handle =
        (empty.after steps).pairs.hasFired handle) ∧
    (∀ name source step handle, step ∈ [.forget name, .never name, .copy name source] →
      (empty.after (steps ++ [step])).pairs.hasFired handle =
        (empty.after steps).pairs.hasFired handle) ∧
    ∀ name, Descends steps name .never → name ∉ (empty.after steps).firedNames := by
  have fired_iff {name : String} {origin : Handle} (descends : Descends steps name origin) :
      name ∈ (empty.after steps).firedNames ↔
        (empty.after steps).pairs.hasFired origin = true := by
    have found := handle?_after.mpr descends
    simp [mem_firedNames, found]
  refine ⟨fun moment within => ?_, fun name handle => handle?_after, ?_, ?_, ?_, ?_, ?_⟩
  · exact ⟨_, getElem?_run empty within, fun name => mem_firedNames_after⟩
  · intro name other origin one two
    rw [fired_iff one, fired_iff two]
  · exact fun more handle fired => hasFired_after_append more fired
  · intro step pair handle ends different
    refine hasFired_after_snoc fun ended also => ?_
    have found := ended?_after.mpr ends
    rw [ended?_after.mpr also] at found
    obtain rfl := Option.some.inj found
    exact different
  · intro name source step handle dropping
    refine hasFired_after_snoc fun pair ends => ?_
    cases ends <;> simp at dropping
  · intro name descends
    rw [fired_iff descends]
    simp

/-- A handle copied before the firing and one copied after it agree, also once the first is gone. -/
example :
    empty.run [.create "a", .copy "b" "a", .forget "a", .cancel "a", .copy "c" "b", .never "b"] =
      [[], [], [], ["b"], ["b", "c"], ["c"]] := by
  cbv

end Locking.Board
