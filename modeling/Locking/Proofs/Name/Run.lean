import Locking.Name.Steps
import Locking.Proofs.Name.Sound
import Locking.Proofs.Text.Utf8

namespace Locking.Registry

/-!
Runs of a registry. Whatever has been answered at some moment of a run is still true at its end, so
that answers from different moments can be compared there.
-/

/-- The registry after these steps. -/
def after (registry : Registry) (steps : List Step) : Registry :=
  steps.foldl (fun registry step => (registry.step step).2) registry

/-- At some moment of the run this step was taken, and answered so. -/
def Answered (registry : Registry) (steps : List Step) (step : Step) (answer : Answer) : Prop :=
  ∃ size, (step, answer, size) ∈ steps.zip (registry.run steps)

/-- The identifiers that an answer hands out. -/
def Answer.identifiers : Answer → List Identifier
  | .named id _ => [id]
  | .both id back => [id, back]
  | _ => []

/-- The identifiers that there have been from the start, and those handed out in a run. -/
inductive Issued (steps : List Step) (id : Identifier) : Prop where
  | reserved {word : String} (listed : (word, id) ∈ Vocabulary.reserved)
  | common {word : String} (listed : (word, id) ∈ Vocabulary.common)
  | answered {step : Step} {answer : Answer} (answered : fresh.Answered steps step answer)
      (named : id ∈ answer.identifiers)

variable {registry final : Registry} {step : Step} {steps : List Step} {answer : Answer}
  {text display : String} {quoted : Bool} {bytes : List UInt8} {id : Identifier} {form : Canonical}

/-! One step. -/

theorem decode_tagged {tag : UInt8} {text : List Char}
    (tagged : Encoding.quotedBy? tag = some quoted) :
    registry.decode (tag :: Text.Utf8.encode text) =
      .ok (registry.intern (String.ofList text) quoted) := by
  simp only [decode, Text.Utf8.decode_eq_ok_iff.mpr rfl, tagged]

/-- What is read is a tag that says how to take the text, and a text, which is interned. -/
theorem decode_eq_ok_iff :
    registry.decode bytes = .ok (id, final) ↔
      ∃ tag text quoted, bytes = tag :: Text.Utf8.encode text ∧
        Encoding.quotedBy? tag = some quoted ∧
        registry.intern (String.ofList text) quoted = (id, final) := by
  constructor
  · intro read
    unfold decode at read
    split at read
    · cases read
    · rename_i tag bytes
      split at read
      · cases read
      · rename_i text decoded
        split at read
        · cases read
        · rename_i quoted tagged
          exact ⟨tag, text, quoted, by rw [Text.Utf8.decode_eq_ok_iff.mp decoded], tagged,
            Except.ok.inj read⟩
  · rintro ⟨tag, text, quoted, rfl, tagged, interned⟩
    rw [decode_tagged tagged, interned]

theorem decode_grows (read : registry.decode bytes = .ok (id, final)) : registry.Grows final := by
  obtain ⟨_, text, quoted, _, _, interned⟩ := decode_eq_ok_iff.mp read
  have grows := registry.intern_grows (String.ofList text) quoted
  rwa [interned] at grows

theorem decode_binds (read : registry.decode bytes = .ok (id, final)) :
    ∃ form, final.Binds form id := by
  obtain ⟨_, text, quoted, _, _, interned⟩ := decode_eq_ok_iff.mp read
  have binds := registry.intern_binds (String.ofList text) quoted
  rw [interned] at binds
  exact ⟨_, binds⟩

theorem step_grows (registry : Registry) (step : Step) :
    registry.Grows (registry.step step).2 := by
  cases step with
  | intern text quoted => exact registry.intern_grows text quoted
  | text id => exact .refl
  | encode id => exact .refl
  | decode bytes =>
      cases read : registry.decode bytes with
      | error fault => simpa only [Registry.step, read] using .refl
      | ok result => simpa only [Registry.step, read] using decode_grows read
  | roundTrip text quoted =>
      have interned := registry.intern_grows text quoted
      simp only [Registry.step]
      generalize registry.intern text quoted = result at interned
      cases read : result.2.decode (result.2.encode result.1) with
      | error fault => simpa only [read] using interned
      | ok back => simpa only [read] using interned.trans (decode_grows read)
  | isEmpty => exact .refl

/-- The identifiers handed out by a step belong to something from then on. -/
theorem step_binds (named : id ∈ (registry.step step).1.identifiers) :
    ∃ form, (registry.step step).2.Binds form id := by
  cases step with
  | intern text quoted =>
      obtain rfl := List.mem_singleton.mp named
      exact ⟨_, registry.intern_binds text quoted⟩
  | text id => simp [Registry.step, Answer.identifiers] at named
  | encode id => simp [Registry.step, Answer.identifiers] at named
  | decode bytes =>
      cases read : registry.decode bytes with
      | error fault => simp [Registry.step, read, Answer.identifiers] at named
      | ok result =>
          simp only [Registry.step, read] at named ⊢
          obtain rfl := List.mem_singleton.mp named
          exact decode_binds read
  | roundTrip text quoted =>
      have interned := registry.intern_binds text quoted
      simp only [Registry.step] at named ⊢
      generalize registry.intern text quoted = result at interned named
      cases read : result.2.decode (result.2.encode result.1) with
      | error fault => simp [read, Answer.identifiers] at named
      | ok back =>
          simp only [read, Answer.identifiers, List.mem_cons, List.not_mem_nil, or_false] at named ⊢
          rcases named with rfl | rfl
          · exact ⟨_, (decode_grows read).binds interned⟩
          · exact decode_binds read
  | isEmpty => simp [Registry.step, Answer.identifiers] at named

/-! Runs. -/

theorem after_grows (registry : Registry) (steps : List Step) :
    registry.Grows (registry.after steps) := by
  induction steps generalizing registry with
  | nil => exact .refl
  | cons step rest ih => exact (registry.step_grows step).trans (ih (registry.step step).2)

/-- A registry that came about without running out of values is sound. -/
theorem after_sound (roomy : (fresh.after steps).added ≤ capacity) : (fresh.after steps).Sound :=
  (after_grows fresh steps).sound fresh_sound roomy

theorem answered_cons {first : Step} {rest : List Step} :
    registry.Answered (first :: rest) step answer ↔
      (step = first ∧ answer = (registry.step first).1) ∨
        (registry.step first).2.Answered rest step answer := by
  simp only [Answered, run, List.zip_cons_cons, List.mem_cons, Prod.mk.injEq]
  constructor
  · rintro ⟨size, ⟨rfl, rfl, _⟩ | later⟩
    · exact .inl ⟨rfl, rfl⟩
    · exact .inr ⟨size, later⟩
  · rintro (⟨rfl, rfl⟩ | ⟨size, later⟩)
    · exact ⟨_, .inl ⟨rfl, rfl, rfl⟩⟩
    · exact ⟨size, .inr later⟩

theorem Answered.moment (answered : registry.Answered steps step answer) :
    ∃ before : Registry, answer = (before.step step).1 ∧
      (before.step step).2.Grows (registry.after steps) := by
  induction steps generalizing registry with
  | nil => simp [Answered] at answered
  | cons first rest ih =>
      rcases answered_cons.mp answered with ⟨rfl, rfl⟩ | later
      · exact ⟨registry, rfl, after_grows _ rest⟩
      · exact ih later

theorem Answered.binds_of_intern
    (answered : registry.Answered steps (.intern text quoted) (.named id display)) :
    (registry.after steps).Binds (canonical text quoted) id := by
  obtain ⟨before, same, grows⟩ := answered.moment
  obtain ⟨rfl, _⟩ := Answer.named.inj same
  exact grows.binds (before.intern_binds text quoted)

theorem Answered.decoded
    (answered : registry.Answered steps (.decode bytes) (.named id display)) :
    ∃ before middle : Registry, before.decode bytes = .ok (id, middle) ∧
      middle.Grows (registry.after steps) := by
  obtain ⟨before, same, grows⟩ := answered.moment
  cases read : before.decode bytes with
  | error fault => simp [Registry.step, read] at same
  | ok result =>
      simp only [Registry.step, read] at same grows
      obtain ⟨rfl, _⟩ := Answer.named.inj same
      exact ⟨before, result.2, read, grows⟩

/-- Every identifier that has been given out is displayed as something. -/
theorem Issued.shown (issued : Issued steps id) : ∃ text, (fresh.after steps).Shown id text := by
  cases issued with
  | reserved listed => exact ⟨_, .reserved listed⟩
  | common listed =>
      exact ⟨_, .name ((after_grows fresh steps).known (fresh_sound.common _ _ listed))⟩
  | answered answered named =>
      obtain ⟨before, rfl, grows⟩ := answered.moment
      obtain ⟨form, binds⟩ := step_binds named
      exact (grows.binds binds).shown

end Locking.Registry
