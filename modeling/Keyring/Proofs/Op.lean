/-
Module: Keyring.Proofs.Op
Purpose: How runs of operations come apart.  `Yields` follows a run that succeeds through the
  operations it is put together from, `Fails` one that fails; `Keeps` carries an invariant of the
  state through every run, also through one that breaks off in the middle; `each` is the run of
  a caller that goes on after a failure.
Main exports: Op.Yields, Op.Fails, Op.Refuses, Op.yields_bind, Op.fails_bind,
  Op.yields_bind_of_yields, Op.fails_bind_of_yields, Op.Along, Op.each, Op.each_append, Op.Raises,
  Op.Raises.bind, Op.Keeps, Op.Keeps.bind
-/
import Keyring.Op

namespace Keyring.Op

variable {σ τ α β : Type}

/-! ## Steps that are pure -/

@[simp] theorem checked_ok (answer : α) : (checked (.ok answer) : Op σ α) = pure answer := rfl

@[simp] theorem ofExcept_ok (answer : α) : (ofExcept (.ok answer) : Op σ α) = pure answer := rfl

@[simp] theorem ofExcept_error (cause : KeyError) :
    (ofExcept (.error cause) : Op σ α) = fail cause := rfl

/-! ## Runs that succeed and runs that fail -/

/-- From `before` the operation answers `answer` and leaves `after`. -/
def Yields (op : Op σ α) (before : σ) (answer : α) (after : σ) : Prop :=
  (op before).result = .ok answer ∧ (op before).state = after

/-- From `before` the operation fails for `cause`. -/
def Fails (op : Op σ α) (before : σ) (cause : KeyError) : Prop :=
  (op before).result = .error cause

/-- From `before` the operation fails for `cause` and leaves the state as it was. -/
def Refuses (op : Op σ α) (before : σ) (cause : KeyError) : Prop :=
  op.Fails before cause ∧ (op before).state = before

theorem yields_of_result {op : Op σ α} {before : σ} {answer : α}
    (done : (op before).result = .ok answer) : op.Yields before answer (op before).state :=
  ⟨done, rfl⟩

theorem Yields.exists_log {op : Op σ α} {before after : σ} {answer : α}
    (done : op.Yields before answer after) : ∃ log, op before = ⟨.ok answer, after, log⟩ := by
  rcases done with ⟨answered, rfl⟩
  exact ⟨(op before).log, by rw [← answered]⟩

/-- A run has one answer and leaves one state. -/
theorem Yields.unique {op : Op σ α} {before after last : σ} {answer other : α}
    (one : op.Yields before answer after) (two : op.Yields before other last) :
    answer = other ∧ after = last :=
  ⟨Except.ok.inj (one.1.symm.trans two.1), one.2.symm.trans two.2⟩

theorem bind_apply (first : Op σ α) (next : α → Op σ β) (state : σ) :
    (first >>= next) state =
      match first state with
      | ⟨.error cause, after, log⟩ => ⟨.error cause, after, log⟩
      | ⟨.ok answer, after, log⟩ =>
          ⟨(next answer after).result, (next answer after).state,
            log ++ (next answer after).log⟩ := rfl

/-- A report behind an operation changes neither its answer nor the state that it leaves. -/
theorem report_apply (op : Op σ α) (report : α → Event) (state : σ) :
    ((op >>= fun answer => emit (report answer) >>= fun _ => pure answer) state).result =
        (op state).result ∧
      ((op >>= fun answer => emit (report answer) >>= fun _ => pure answer) state).state =
        (op state).state := by
  rw [bind_apply]
  rcases op state with ⟨cause | answer, after, log⟩
  · exact ⟨rfl, rfl⟩
  · exact ⟨rfl, rfl⟩

theorem yields_bind {first : Op σ α} {next : α → Op σ β} {before after : σ} {answer : β} :
    (first >>= next).Yields before answer after ↔
      ∃ middle between, first.Yields before middle between ∧
        (next middle).Yields between answer after := by
  unfold Yields
  rw [bind_apply]
  rcases first before with ⟨cause | middle, between, log⟩
  · simp
  · constructor
    · exact fun rest => ⟨middle, between, ⟨rfl, rfl⟩, rest⟩
    · rintro ⟨_, _, ⟨⟨⟩, rfl⟩, rest⟩
      exact rest

theorem fails_bind {first : Op σ α} {next : α → Op σ β} {before : σ} {cause : KeyError} :
    (first >>= next).Fails before cause ↔
      first.Fails before cause ∨
        ∃ middle between, first.Yields before middle between ∧
          (next middle).Fails between cause := by
  unfold Fails Yields
  rw [bind_apply]
  rcases first before with ⟨other | middle, between, log⟩
  · simp
  · constructor
    · exact fun rest => .inr ⟨middle, between, ⟨rfl, rfl⟩, rest⟩
    · rintro (⟨⟨⟩⟩ | ⟨_, _, ⟨⟨⟩, rfl⟩, rest⟩)
      exact rest

/-- Behind a run that is known to succeed there is one way only to go on. -/
theorem yields_bind_of_yields {first : Op σ α} {next : α → Op σ β} {before between after : σ}
    {middle : α} {answer : β} (done : first.Yields before middle between) :
    (first >>= next).Yields before answer after ↔ (next middle).Yields between answer after := by
  obtain ⟨log, ran⟩ := done.exists_log
  rw [Yields, bind_ok ran]
  exact Iff.rfl

theorem fails_bind_of_yields {first : Op σ α} {next : α → Op σ β} {before between : σ}
    {middle : α} {cause : KeyError} (done : first.Yields before middle between) :
    (first >>= next).Fails before cause ↔ (next middle).Fails between cause := by
  obtain ⟨log, ran⟩ := done.exists_log
  rw [Fails, bind_ok ran]
  exact Iff.rfl

@[simp] theorem yields_pure {answer other : α} {before after : σ} :
    (pure answer : Op σ α).Yields before other after ↔ answer = other ∧ before = after := by
  change Except.ok answer = .ok other ∧ before = after ↔ _
  rw [Except.ok.injEq]

@[simp] theorem yields_emit {event : Event} {answer : Unit} {before after : σ} :
    (emit event).Yields before answer after ↔ before = after := by
  simp [Yields]

@[simp] theorem not_yields_fail {cause : KeyError} {answer : α} {before after : σ} :
    ¬ (fail cause).Yields before answer after := by
  simp [Yields]

@[simp] theorem not_yields_reject {event : Event} {cause : KeyError} {answer : α}
    {before after : σ} : ¬ (reject event cause).Yields before answer after := by
  simp [Yields]

theorem yields_within {state : τ} {op : Op τ α} {before after : σ} {answer : α} :
    (within state op).Yields before answer after ↔
      (op state).result = .ok answer ∧ before = after :=
  Iff.rfl

/-- What is done on a state of its own and without an answer leaves everything as it is. -/
theorem within_unit_apply (op : Op τ α) (state : τ) (outer : σ) :
    (within state op >>= fun _ => pure () : Op σ Unit) outer =
      ⟨(op state).result.map fun _ => (), outer, (op state).log⟩ := by
  rw [bind_apply, within]
  rcases op state with ⟨cause | answer, after, log⟩
  · rfl
  · simp [Except.map]

/-- Undoing what a failed run did changes nothing about a run that succeeds. -/
theorem yields_orElseUndo {undo : σ → σ → σ} {op : Op σ α} {before after : σ} {answer : α} :
    (orElseUndo undo op).Yields before answer after ↔ op.Yields before answer after := by
  unfold Yields orElseUndo
  rcases op before with ⟨cause | other, last, log⟩
  · simp
  · rfl

/-- A run that is undone has failed for the same cause. -/
theorem fails_orElseUndo {undo : σ → σ → σ} {op : Op σ α} {before : σ} {cause : KeyError} :
    (orElseUndo undo op).Fails before cause ↔ op.Fails before cause := by
  unfold Fails orElseUndo
  rcases op before with ⟨other | answer, last, log⟩
  · rfl
  · rfl

theorem orElseUndo_state_of_fails {undo : σ → σ → σ} {op : Op σ α} {before : σ} {cause : KeyError}
    (failed : (orElseUndo undo op).Fails before cause) :
    (orElseUndo undo op before).state = undo before (op before).state := by
  revert failed
  unfold Fails orElseUndo
  rcases op before with ⟨other | answer, last, log⟩
  · intro _
    rfl
  · intro impossible
    cases impossible

theorem yields_allOrNothing {op : Op σ α} {before after : σ} {answer : α} :
    (allOrNothing op).Yields before answer after ↔ op.Yields before answer after :=
  yields_orElseUndo

/-- The items of a list lead from one state to another, each by a step of its own that begins where
the one before it ended. -/
inductive Along {ι : Type} (step : ι → σ → σ → Prop) : List ι → σ → σ → Prop where
  | nil (state : σ) : Along step [] state state
  | cons {item : ι} {rest : List ι} {before between after : σ} (first : step item before between)
      (later : Along step rest between after) : Along step (item :: rest) before after

theorem Along.exists_step {ι : Type} {step : ι → σ → σ → Prop} {items : List ι} {before after : σ}
    (along : Along step items before after) {item : ι} (member : item ∈ items) :
    ∃ first last, step item first last := by
  induction along with
  | nil state => cases member
  | cons first later inductionHypothesis =>
      rcases List.mem_cons.1 member with rfl | behind
      · exact ⟨_, _, first⟩
      · exact inductionHypothesis behind

/-! ## Runs that go on after a failure -/

/-- Run operations one after the other, each from the state that the one before it left, whether
that one succeeded or not.  The answer is how each of them ended, and the state that is left. -/
def each : List (Op σ α) → σ → List (Except KeyError α) × σ
  | [], state => ([], state)
  | op :: rest, state =>
      let later := each rest (op state).state
      ((op state).result :: later.1, later.2)

@[simp] theorem each_nil (state : σ) : each ([] : List (Op σ α)) state = ([], state) := rfl

theorem each_cons (op : Op σ α) (rest : List (Op σ α)) (state : σ) :
    each (op :: rest) state =
      ((op state).result :: (each rest (op state).state).1, (each rest (op state).state).2) := rfl

theorem each_append (first later : List (Op σ α)) (state : σ) :
    each (first ++ later) state =
      ((each first state).1 ++ (each later (each first state).2).1,
        (each later (each first state).2).2) := by
  induction first generalizing state with
  | nil => rfl
  | cons op rest inductionHypothesis =>
      rw [List.cons_append, each_cons, each_cons, inductionHypothesis]
      rfl

/-! ## Causes of failure -/

/-- Every failure of the operation has one of the given causes. -/
def Raises (causes : KeyError → Prop) (op : Op σ α) : Prop :=
  ∀ state cause, op.Fails state cause → causes cause

namespace Raises

variable {causes : KeyError → Prop}

theorem pure (answer : α) : Raises causes (Pure.pure answer : Op σ α) := by
  intro state cause failed
  cases failed

theorem get : Raises causes (Op.get : Op σ σ) := by
  intro state cause failed
  cases failed

theorem set (after : σ) : Raises causes (Op.set after) := by
  intro state cause failed
  cases failed

theorem reject {cause : KeyError} (allowed : causes cause) (event : Event) :
    Raises causes (Op.reject event cause : Op σ α) := by
  intro state other failed
  cases failed
  exact allowed

theorem ofExcept {answer : Except KeyError α}
    (allowed : ∀ cause, answer = .error cause → causes cause) :
    Raises causes (Op.ofExcept answer : Op σ α) := by
  intro state cause failed
  cases answer with
  | ok answer => cases failed
  | error other =>
      cases failed
      exact allowed cause rfl

theorem bind {first : Op σ α} {next : α → Op σ β} (one : Raises causes first)
    (two : ∀ answer, Raises causes (next answer)) : Raises causes (first >>= next) := by
  intro state cause failed
  rcases fails_bind.1 failed with early | ⟨answer, between, _, late⟩
  · exact one state cause early
  · exact two answer between cause late

/-- Causes may be counted among more causes. -/
theorem mono {more : KeyError → Prop} {op : Op σ α} (raises : Raises causes op)
    (sub : ∀ cause, causes cause → more cause) : Raises more op :=
  fun state cause failed => sub cause (raises state cause failed)

theorem emit (event : Event) : Raises causes (Op.emit event : Op σ Unit) := by
  intro state cause failed
  cases failed

theorem when {op : Op σ Unit} (raises : Raises causes op) (condition : Bool) :
    Raises causes (Op.when condition op) := by
  cases condition with
  | false => exact pure ()
  | true => exact raises

/-- Where an operation is run does not change how it fails. -/
theorem within {op : Op τ α} (raises : Raises causes op) (state : τ) :
    Raises causes (Op.within state op : Op σ α) :=
  fun _ => raises state

theorem inside {op : Op τ α} (raises : Raises causes op) (part : σ → τ) (put : τ → σ → σ) :
    Raises causes (Op.inside part put op) :=
  fun state => raises (part state)

theorem allOrNothing {op : Op σ α} (raises : Raises causes op) :
    Raises causes (Op.allOrNothing op) :=
  fun state cause failed => raises state cause (fails_orElseUndo.1 failed)

end Raises

/-! ## Invariants -/

/-- No run of the operation breaks the invariant, whether it succeeds or fails. -/
def Keeps (invariant : σ → Prop) (op : Op σ α) : Prop :=
  ∀ state, invariant state → invariant (op state).state

namespace Keeps

variable {invariant : σ → Prop}

theorem pure (answer : α) : Keeps invariant (Pure.pure answer : Op σ α) :=
  fun _ holds => holds

theorem fail (cause : KeyError) : Keeps invariant (Op.fail cause : Op σ α) :=
  fun _ holds => holds

theorem reject (event : Event) (cause : KeyError) :
    Keeps invariant (Op.reject event cause : Op σ α) :=
  fun _ holds => holds

theorem emit (event : Event) : Keeps invariant (Op.emit event) :=
  fun _ holds => holds

theorem bind {first : Op σ α} {next : α → Op σ β} (one : Keeps invariant first)
    (two : ∀ answer, Keeps invariant (next answer)) : Keeps invariant (first >>= next) := by
  intro state holds
  have between := one state holds
  rw [bind_apply]
  rcases ran : first state with ⟨cause | answer, after, log⟩ <;> rw [ran] at between
  · exact between
  · exact two answer after between

theorem when {op : Op σ Unit} (keeps : Keeps invariant op) (condition : Bool) :
    Keeps invariant (Op.when condition op) := by
  cases condition with
  | false => exact fun _ holds => holds
  | true => exact keeps

theorem allOrNothing {op : Op σ α} (keeps : Keeps invariant op) :
    Keeps invariant (Op.allOrNothing op) := by
  intro state holds
  have after := keeps state holds
  unfold Op.allOrNothing orElseUndo
  rcases ran : op state with ⟨cause | answer, last, log⟩
  · exact holds
  · rwa [ran] at after

end Keeps

end Keyring.Op
