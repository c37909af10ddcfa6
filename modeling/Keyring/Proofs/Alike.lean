/-
Module: Keyring.Proofs.Alike
Purpose: Two runs side by side.  Outcomes are alike if both runs report the same events and either
  fail for the same cause or succeed with answers and states that stand in a given relation; what a
  failed run leaves behind does not count.  Runs that are alike stay so when they go on alike.
Main exports: Outcome.Alike, Outcome.Alike.bind, Outcome.Alike.within, Outcome.Alike.withinKeeping,
  Outcome.Alike.inside, Outcome.Alike.when, Outcome.Alike.allOrNothing, Outcome.Alike.log_eq,
  Outcome.Alike.map_result, Outcome.Alike.allOrNothing_eq
-/
import Keyring.Proofs.Op

namespace Keyring.Outcome

variable {σ τ ρ θ α β γ δ : Type}

/-- The outcomes of two runs that report the same and end in the same way.  The relation is between
the answer and the state of one run that succeeds and those of the other. -/
inductive Alike (related : α → σ → β → τ → Prop) : Outcome σ α → Outcome τ β → Prop where
  | done {answer : α} {after : σ} {other : β} {last : τ} (log : List Event)
      (holds : related answer after other last) :
      Alike related ⟨.ok answer, after, log⟩ ⟨.ok other, last, log⟩
  | failed (cause : KeyError) (after : σ) (last : τ) (log : List Event) :
      Alike related ⟨.error cause, after, log⟩ ⟨.error cause, last, log⟩

namespace Alike

variable {related : α → σ → β → τ → Prop} {one : Outcome σ α} {two : Outcome τ β}

/-! ## What can be seen of runs that are alike -/

theorem log_eq (alike : Alike related one two) : one.log = two.log := by
  cases alike with
  | done => rfl
  | failed => rfl

/-- What is told of the answers of both runs in the same way is told of their results. -/
theorem map_result {tell : α → γ} {retell : β → γ} (alike : Alike related one two)
    (same : ∀ answer after other last, related answer after other last →
      tell answer = retell other) :
    one.result.map tell = two.result.map retell := by
  cases alike with
  | done log holds => exact congrArg Except.ok (same _ _ _ _ holds)
  | failed => rfl

/-- Runs without an answer end in the same way. -/
theorem result_eq {related : Unit → σ → Unit → τ → Prop} {one : Outcome σ Unit}
    {two : Outcome τ Unit} (alike : Alike related one two) : one.result = two.result := by
  cases alike with
  | done => rfl
  | failed => rfl

/-! ## Runs made of parts -/

theorem mono {weaker : α → σ → β → τ → Prop} (alike : Alike related one two)
    (sub : ∀ answer after other last, related answer after other last →
      weaker answer after other last) :
    Alike weaker one two := by
  cases alike with
  | done log holds => exact .done log (sub _ _ _ _ holds)
  | failed cause after last log => exact .failed cause after last log

/-- A run is like itself. -/
theorem refl (outcome : Outcome σ α) :
    Alike (fun answer after other last => answer = other ∧ after = last) outcome outcome := by
  rcases outcome with ⟨cause | answer, after, log⟩
  · exact .failed cause after after log
  · exact .done log ⟨rfl, rfl⟩

/-- One computation in both runs. -/
theorem ofExcept (answer : Except KeyError α) (state : σ) (start : τ) :
    Alike (fun one after two last => one = two ∧ after = state ∧ last = start)
      (Op.ofExcept answer state) (Op.ofExcept answer start) := by
  cases answer with
  | error cause => exact .failed cause state start []
  | ok answer => exact .done [] ⟨rfl, rfl, rfl⟩

/-- Two checked steps that succeed with related answers, or fail with the same fault. -/
theorem checked {answers : α → β → Prop} {one : Except Fault α} {two : Except Fault β}
    (same : (∃ fault, one = .error fault ∧ two = .error fault) ∨
      ∃ answer other, one = .ok answer ∧ two = .ok other ∧ answers answer other)
    (state : σ) (start : τ) :
    Alike (fun answer after other last => answers answer other ∧ after = state ∧ last = start)
      (Op.checked one state) (Op.checked two start) := by
  rcases same with ⟨fault, rfl, rfl⟩ | ⟨answer, other, rfl, rfl, holds⟩
  · exact .failed (.fault fault) state start []
  · exact .done [] ⟨holds, rfl, rfl⟩

/-- One checked step in both runs. -/
theorem checked_self (answer : Except Fault α) (state : σ) (start : τ) :
    Alike (fun one after two last => one = two ∧ after = state ∧ last = start)
      (Op.checked answer state) (Op.checked answer start) := by
  apply checked
  cases answer with
  | error fault => exact .inl ⟨fault, rfl, rfl⟩
  | ok answer => exact .inr ⟨answer, answer, rfl, rfl, rfl⟩

theorem get (state : σ) (start : τ) :
    Alike (fun one after two last => one = after ∧ two = last ∧ after = state ∧ last = start)
      (Op.get state) (Op.get start) :=
  .done [] ⟨rfl, rfl, rfl, rfl⟩

theorem pure {answer : α} {after : σ} {other : β} {last : τ}
    (holds : related answer after other last) :
    Alike related ((Pure.pure answer : Op σ α) after) ((Pure.pure other : Op τ β) last) :=
  .done [] holds

/-- Two runs that both succeed are followed with what each of them yields. -/
theorem yields {first : Op σ α} {second : Op τ β} {before : σ} {start : τ}
    (alike : Alike related (first before) (second start)) :
    Alike (fun answer after other last => related answer after other last ∧
      first.Yields before answer after ∧ second.Yields start other last)
      (first before) (second start) := by
  unfold Op.Yields
  generalize first before = one at alike
  generalize second start = two at alike
  cases alike with
  | done log holds => exact .done log ⟨holds, ⟨rfl, rfl⟩, rfl, rfl⟩
  | failed cause after last log => exact .failed cause after last log

/-- Behind runs that are alike, only the ways in which both succeed have to be followed. -/
theorem bind {first : Op σ α} {second : Op τ β} {before : σ} {start : τ} {next : α → Op σ γ}
    {onward : β → Op τ δ} {goal : γ → σ → δ → τ → Prop}
    (alike : Alike related (first before) (second start))
    (later : ∀ answer after other last, related answer after other last →
      Alike goal (next answer after) (onward other last)) :
    Alike goal ((first >>= next) before) ((second >>= onward) start) := by
  rw [Op.bind_apply, Op.bind_apply]
  generalize first before = one at alike
  generalize second start = two at alike
  cases alike with
  | failed cause after last log => exact .failed cause after last log
  | @done answer after other last log holds =>
      have behind := later answer after other last holds
      dsimp only
      generalize next answer after = rest at behind
      generalize onward other last = left at behind
      cases behind with
      | failed cause after last more => exact .failed cause after last (log ++ more)
      | done more holds => exact .done (log ++ more) holds

/-- A step on its own state is seen by its answer only. -/
theorem within {answers : α → β → Prop} {state : σ} {op : Op σ α} {start : τ} {other : Op τ β}
    (alike : Alike (fun answer _ other _ => answers answer other) (op state) (other start))
    (outer : ρ) (last : θ) :
    Alike (fun answer _ other _ => answers answer other) (Op.within state op outer)
      (Op.within start other last) := by
  unfold Op.within
  generalize op state = one at alike
  generalize other start = two at alike
  cases alike with
  | done log holds => exact .done log holds
  | failed cause _ _ log => exact .failed cause outer last log

theorem withinKeeping {state : σ} {op : Op σ α} {start : τ} {other : Op τ β}
    (alike : Alike related (op state) (other start)) (outer : ρ) (last : θ) :
    Alike (fun own _ others _ => related own.1 own.2 others.1 others.2)
      (Op.withinKeeping state op outer) (Op.withinKeeping start other last) := by
  unfold Op.withinKeeping
  generalize op state = one at alike
  generalize other start = two at alike
  cases alike with
  | done log holds => exact .done log holds
  | failed cause _ _ log => exact .failed cause outer last log

/-- A step on a part of the state is seen by what it makes of the whole. -/
theorem inside {part : ρ → σ} {put : σ → ρ → ρ} {op : Op σ α} {place : θ → τ}
    {set : τ → θ → θ} {other : Op τ β} {state : ρ} {start : θ}
    {goal : α → ρ → β → θ → Prop} (alike : Alike related (op (part state)) (other (place start)))
    (carry : ∀ answer after other last, related answer after other last →
      goal answer (put after state) other (set last start)) :
    Alike goal (Op.inside part put op state) (Op.inside place set other start) := by
  unfold Op.inside
  generalize op (part state) = one at alike
  generalize other (place start) = two at alike
  cases alike with
  | done log holds => exact .done log (carry _ _ _ _ holds)
  | failed cause _ _ log => exact .failed cause _ _ log

theorem when {condition : Bool} {op : Op σ Unit} {other : Op τ Unit} {state : σ} {start : τ}
    {related : Unit → σ → Unit → τ → Prop} (kept : related () state () start)
    (alike : condition = true → Alike related (op state) (other start)) :
    Alike related (Op.when condition op state) (Op.when condition other start) := by
  cases condition with
  | false => exact .done [] kept
  | true => exact alike rfl

theorem allOrNothing {op : Op σ α} {other : Op τ β} {state : σ} {start : τ}
    (alike : Alike related (op state) (other start)) :
    Alike related (Op.allOrNothing op state) (Op.allOrNothing other start) := by
  unfold Op.allOrNothing Op.orElseUndo
  generalize op state = one at alike
  generalize other start = two at alike
  cases alike with
  | done log holds => exact .done log holds
  | failed cause _ _ log => exact .failed cause state start log

/-- Runs that undo a failure and leave the same state where they succeed have the same outcome. -/
theorem allOrNothing_eq {op other : Op σ Unit} {state : σ}
    (alike : Alike (fun _ after _ last => after = last) (op state) (other state)) :
    Op.allOrNothing op state = Op.allOrNothing other state := by
  unfold Op.allOrNothing Op.orElseUndo
  generalize op state = one at alike
  generalize other state = two at alike
  cases alike with
  | done log holds => rw [holds]
  | failed => rfl

end Alike

end Keyring.Outcome
