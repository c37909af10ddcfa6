/-
Module: Keyring.Op
Purpose: Operations that may fail, change a state and report events.  The state after a failure is
  part of the outcome: a buffer may be half written and a source of random bytes advanced when an
  operation fails, and an operation that is to leave its state alone says so with `allOrNothing`.
Main exports: Outcome, Op, Op.fail, Op.emit, Op.reject, Op.get, Op.set, Op.within, Op.inside,
  Op.allOrNothing
-/
import Keyring.Error
import Keyring.Event

namespace Keyring

/-- How a run ends: its answer or the cause of its failure, the state it leaves, and the events it
reported, first one first. -/
structure Outcome (σ α : Type) where
  result : Except KeyError α
  state : σ
  log : List Event

/-- An operation on a state. -/
def Op (σ α : Type) : Type := σ → Outcome σ α

namespace Op

variable {σ τ α β : Type}

/-- Run an operation from a state. -/
def run (op : Op σ α) (state : σ) : Outcome σ α := op state

/-- Answer without touching the state. -/
protected def pure (answer : α) : Op σ α :=
  fun state => ⟨.ok answer, state, []⟩

/-- Go on with the answer of an operation; a failure ends the run where it occurred. -/
protected def bind (first : Op σ α) (next : α → Op σ β) : Op σ β := fun state =>
  match first state with
  | ⟨.error cause, after, log⟩ => ⟨.error cause, after, log⟩
  | ⟨.ok answer, after, log⟩ =>
      let rest := next answer after
      ⟨rest.result, rest.state, log ++ rest.log⟩

instance : Monad (Op σ) where
  pure := Op.pure
  bind := Op.bind

/-- Fail for a cause. -/
def fail (cause : KeyError) : Op σ α :=
  fun state => ⟨.error cause, state, []⟩

/-- Report an event. -/
def emit (event : Event) : Op σ Unit :=
  fun state => ⟨.ok (), state, [event]⟩

/-- Report an event and fail. -/
def reject (event : Event) (cause : KeyError) : Op σ α :=
  fun state => ⟨.error cause, state, [event]⟩

/-- The state. -/
def get : Op σ σ :=
  fun state => ⟨.ok state, state, []⟩

/-- Replace the state. -/
def set (state : σ) : Op σ Unit :=
  fun _ => ⟨.ok (), state, []⟩

/-- A pure computation that may fail. -/
def ofExcept : Except KeyError α → Op σ α
  | .ok answer => Op.pure answer
  | .error cause => fail cause

/-- A checked step on bytes, whose fault is a failure of the operation. -/
def checked : Except Fault α → Op σ α
  | .ok answer => Op.pure answer
  | .error fault => fail (.fault fault)

/-- Run an operation only under a condition. -/
def when (condition : Bool) (op : Op σ Unit) : Op σ Unit :=
  if condition then op else Op.pure ()

/-- Run an operation on a state of its own, which nobody sees afterwards. -/
def within (state : τ) (op : Op τ α) : Op σ α := fun outer =>
  let own := op state
  ⟨own.result, outer, own.log⟩

/-- Run an operation on a state of its own, and answer with what it leaves. -/
def withinKeeping (state : τ) (op : Op τ α) : Op σ (α × τ) := fun outer =>
  let own := op state
  ⟨own.result.map (fun answer => (answer, own.state)), outer, own.log⟩

/-- Run an operation on a part of the state. -/
def inside (part : σ → τ) (put : τ → σ → σ) (op : Op τ α) : Op σ α := fun state =>
  let own := op (part state)
  ⟨own.result, put own.state state, own.log⟩

/-- Run an operation on the first half of a state. -/
def onFirst (op : Op σ α) : Op (σ × τ) α :=
  inside Prod.fst (fun part state => (part, state.2)) op

/-- Run an operation on the second half of a state. -/
def onSecond (op : Op τ α) : Op (σ × τ) α :=
  inside Prod.snd (fun part state => (state.1, part)) op

/-- Run an operation so that a failure undoes what it did; `undo before after` is the state that a
failed run leaves. -/
def orElseUndo (undo : σ → σ → σ) (op : Op σ α) : Op σ α := fun state =>
  match op state with
  | ⟨.error cause, after, log⟩ => ⟨.error cause, undo state after, log⟩
  | done => done

/-- Run an operation so that a failure leaves the state as it was. -/
def allOrNothing (op : Op σ α) : Op σ α :=
  orElseUndo (fun before _ => before) op

/-! ## Runs of the building blocks -/

@[simp] theorem pure_apply (answer : α) (state : σ) :
    (pure answer : Op σ α) state = ⟨.ok answer, state, []⟩ := rfl

@[simp] theorem get_apply (state : σ) : (get : Op σ σ) state = ⟨.ok state, state, []⟩ := rfl

@[simp] theorem set_apply (state before : σ) :
    set state before = ⟨.ok (), state, []⟩ := rfl

@[simp] theorem emit_apply (event : Event) (state : σ) :
    emit event state = ⟨.ok (), state, [event]⟩ := rfl

@[simp] theorem fail_apply (cause : KeyError) (state : σ) :
    (fail cause : Op σ α) state = ⟨.error cause, state, []⟩ := rfl

@[simp] theorem reject_apply (event : Event) (cause : KeyError) (state : σ) :
    (reject event cause : Op σ α) state = ⟨.error cause, state, [event]⟩ := rfl

theorem bind_ok {first : Op σ α} {next : α → Op σ β} {state after : σ} {answer : α}
    {log : List Event} (run : first state = ⟨.ok answer, after, log⟩) :
    (first >>= next) state =
      ⟨(next answer after).result, (next answer after).state, log ++ (next answer after).log⟩ := by
  change Op.bind first next state = _
  rw [Op.bind, run]

theorem bind_error {first : Op σ α} {next : α → Op σ β} {state after : σ} {cause : KeyError}
    {log : List Event} (run : first state = ⟨.error cause, after, log⟩) :
    (first >>= next) state = ⟨.error cause, after, log⟩ := by
  change Op.bind first next state = _
  rw [Op.bind, run]

protected theorem bind_pure (op : Op σ α) : Op.bind op Op.pure = op := by
  funext state
  unfold Op.bind Op.pure
  rcases op state with ⟨_ | _, after, log⟩ <;> simp

protected theorem pure_bind (answer : α) (next : α → Op σ β) :
    Op.bind (Op.pure answer) next = next answer := by
  funext state
  simp [Op.bind, Op.pure]

protected theorem bind_assoc {γ : Type} (op : Op σ α) (next : α → Op σ β) (last : β → Op σ γ) :
    Op.bind (Op.bind op next) last = Op.bind op (fun answer => Op.bind (next answer) last) := by
  funext state
  unfold Op.bind
  rcases op state with ⟨_ | answer, after, log⟩
  · rfl
  · dsimp only
    rcases next answer after with ⟨_ | _, _, _⟩ <;> simp

instance : LawfulMonad (Op σ) :=
  LawfulMonad.mk' (Op σ) Op.bind_pure Op.pure_bind Op.bind_assoc

/-- A failed all-or-nothing run changes nothing. -/
theorem allOrNothing_state_of_error {op : Op σ α} {state : σ} {cause : KeyError}
    (failed : (allOrNothing op state).result = .error cause) :
    (allOrNothing op state).state = state := by
  revert failed
  unfold allOrNothing orElseUndo
  rcases op state with ⟨_ | _, after, log⟩ <;> simp

end Op

end Keyring
