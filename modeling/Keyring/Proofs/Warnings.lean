/-
Module: Keyring.Proofs.Warnings
Purpose: What operations warn of.  A run that refuses bytes for their format has warned of it once,
  and a run that succeeds has warned of nothing, however much it did before; that is so for the
  single steps, and it stays so where they are put together.  A failure for another cause than a
  format is not counted: some are warned of and some are not.
Main exports: Event.warnings, Outcome.WarnsOnce, Op.WarnsOnce, Op.WarnsOnce.bind,
  Rsa.warnsOnce_importHalf, Hmac.warnsOnce_importKey, Store.warnsOnce_importContainer,
  Uint.warnsOnce_serialize, Rsa.warnsOnce_exportHalf, Hmac.warnsOnce_exportKey,
  formats_warned_once
-/
import Keyring.Proofs.Store.Import
import Keyring.Proofs.TwoPass

namespace Keyring

/-! ## Warnings in a log -/

/-- The warnings among some events. -/
def Event.warnings (log : List Event) : List Event :=
  log.filter fun event => event.level == .warn

namespace Event

@[simp] theorem warnings_nil : warnings [] = [] := rfl

@[simp] theorem warnings_append (first later : List Event) :
    warnings (first ++ later) = warnings first ++ warnings later :=
  List.filter_append _ _

theorem warnings_of_warn {event : Event} (warns : event.level = .warn) :
    warnings [event] = [event] := by
  simp [warnings, warns]

theorem warnings_of_quiet {event : Event} (quiet : event.level ≠ .warn) :
    warnings [event] = [] := by
  simp [warnings, quiet]

end Event

open Event

/-- A run that succeeded has warned of nothing; one that failed for the format of bytes has warned
once. -/
structure Outcome.WarnsOnce {σ α : Type} (outcome : Outcome σ α) : Prop where
  quiet : ∀ {answer}, outcome.result = .ok answer → warnings outcome.log = []
  once : ∀ {cause}, outcome.result = .error (.format cause) →
    ∃ event, warnings outcome.log = [event]

namespace Outcome.WarnsOnce

variable {σ τ α β : Type} {state : σ} {log : List Event}

theorem done {answer : α} (quiet : warnings log = []) :
    WarnsOnce (⟨.ok answer, state, log⟩ : Outcome σ α) where
  quiet _ := quiet
  once failed := by cases failed

theorem refused {cause : KeyError} {event : Event} (once : warnings log = [event]) :
    WarnsOnce (⟨.error cause, state, log⟩ : Outcome σ α) where
  quiet succeeded := by cases succeeded
  once _ := ⟨event, once⟩

/-- A run that failed for another cause than a format may have warned or not. -/
theorem failed {cause : KeyError} (other : ∀ format, cause ≠ .format format) :
    WarnsOnce (⟨.error cause, state, log⟩ : Outcome σ α) where
  quiet succeeded := by cases succeeded
  once refused := absurd (Except.error.inj refused) (other _)

/-- Only the log counts, and whether the run succeeded or for which cause it failed. -/
theorem carry {cause : KeyError} {last : τ}
    (warnsOnce : WarnsOnce (⟨.error cause, state, log⟩ : Outcome σ α)) :
    WarnsOnce (⟨.error cause, last, log⟩ : Outcome τ β) where
  quiet succeeded := by cases succeeded
  once refused := by
    cases refused
    exact warnsOnce.once rfl

end Outcome.WarnsOnce

/-! ## Operations put together -/

/-- So it is from every state. -/
def Op.WarnsOnce {σ α : Type} (op : Op σ α) : Prop :=
  ∀ state, (op state).WarnsOnce

namespace Op.WarnsOnce

variable {σ τ α β : Type}

theorem pure (answer : α) : WarnsOnce (Pure.pure answer : Op σ α) :=
  fun _ => .done warnings_nil

theorem get : WarnsOnce (Op.get : Op σ σ) :=
  fun _ => .done warnings_nil

theorem set (state : σ) : WarnsOnce (Op.set state) :=
  fun _ => .done warnings_nil

theorem ofExcept {answer : Except KeyError α}
    (other : ∀ format, answer ≠ .error (.format format)) :
    WarnsOnce (Op.ofExcept answer : Op σ α) := by
  cases answer with
  | ok answer => exact pure answer
  | error cause =>
      intro state
      apply Outcome.WarnsOnce.failed
      intro format same
      exact other format (congrArg Except.error same)

theorem emit {event : Event} (quiet : event.level ≠ .warn) :
    WarnsOnce (Op.emit event : Op σ Unit) :=
  fun _ => .done (warnings_of_quiet quiet)

theorem reject {event : Event} (warns : event.level = .warn) (cause : KeyError) :
    WarnsOnce (Op.reject event cause : Op σ α) :=
  fun _ => .refused (warnings_of_warn warns)

theorem bind {first : Op σ α} {next : α → Op σ β} (one : WarnsOnce first)
    (two : ∀ answer, WarnsOnce (next answer)) : WarnsOnce (first >>= next) := by
  intro state
  have here := one state
  rw [bind_apply]
  generalize first state = outcome at here
  rcases outcome with ⟨cause | answer, after, log⟩
  · exact here.carry
  · have quiet : warnings log = [] := here.quiet rfl
    have behind := two answer after
    constructor
    · intro last succeeded
      rw [warnings_append, quiet, behind.quiet succeeded, List.append_nil]
    · intro cause failed
      obtain ⟨event, once⟩ := behind.once failed
      exact ⟨event, by rw [warnings_append, quiet, once, List.nil_append]⟩

theorem when {op : Op σ Unit} (warnsOnce : WarnsOnce op) (condition : Bool) :
    WarnsOnce (Op.when condition op) := by
  cases condition with
  | false => exact pure ()
  | true => exact warnsOnce

theorem within {op : Op τ α} (warnsOnce : WarnsOnce op) (state : τ) :
    WarnsOnce (Op.within state op : Op σ α) :=
  fun _ => ⟨(warnsOnce state).quiet, (warnsOnce state).once⟩

theorem inside {op : Op τ α} (warnsOnce : WarnsOnce op) (part : σ → τ) (put : τ → σ → σ) :
    WarnsOnce (Op.inside part put op) :=
  fun state => ⟨(warnsOnce (part state)).quiet, (warnsOnce (part state)).once⟩

theorem allOrNothing {op : Op σ α} (warnsOnce : WarnsOnce op) :
    WarnsOnce (Op.allOrNothing op) := by
  intro state
  have here := warnsOnce state
  unfold Op.allOrNothing orElseUndo
  generalize op state = outcome at here
  rcases outcome with ⟨cause | answer, after, log⟩
  · exact here.carry
  · exact here

end Op.WarnsOnce

/-! ## Reading numbers -/

namespace Uint

theorem warnsOnce_read : Op.WarnsOnce read := by
  intro data
  cases front data with
  | short few =>
      rw [read_short few]
      exact .refused rfl
  | cutOff whole few =>
      rw [read_cutOff whole few]
      exact .refused rfl
  | framed fits =>
      rw [read_frame fits]
      exact .done rfl

theorem warnsOnce_reads (count : Nat) : Op.WarnsOnce (reads count) := by
  induction count with
  | zero => exact .pure []
  | succ count inductionHypothesis =>
      exact warnsOnce_read.bind fun n => inductionHypothesis.bind fun rest => .pure (n :: rest)

theorem warnsOnce_finish : Op.WarnsOnce finish := by
  intro data
  cases data with
  | nil => exact .done rfl
  | cons byte rest => exact .refused rfl

end Uint

/-! ## Reading keys -/

theorem Rsa.warnsOnce_importHalf (half : Half) (blob : Bytes) :
    Op.WarnsOnce (importHalf half blob) := by
  have reads : Op.WarnsOnce (readHalf half) := by
    rw [readHalf_eq]
    exact (Uint.warnsOnce_reads _).bind fun numbers =>
      Uint.warnsOnce_finish.bind fun _ => .pure _
  exact (reads.within blob).bind fun key => (Op.WarnsOnce.emit (by nofun)).bind fun _ => .set _

theorem Hmac.warnsOnce_importKey (blob : Bytes) : Op.WarnsOnce (importKey blob) := by
  unfold importKey
  cases HmacKey.ofBytes? blob with
  | none => exact .reject rfl _
  | some key => exact (Op.WarnsOnce.emit (by nofun)).bind fun _ => .set _

namespace Store

theorem warnsOnce_importReported (id : KeyId) (blob : Bytes) :
    Op.WarnsOnce (importReported id blob) := by
  have imports : Op.WarnsOnce (importKey id blob) := by
    unfold importKey
    cases id with
    | rsa id => exact (Rsa.warnsOnce_importHalf id.half blob).inside _ _
    | hmac id => exact (Hmac.warnsOnce_importKey blob).inside _ _
  exact imports.bind fun _ => .emit nofun

theorem warnsOnce_install (mask : KeyMask) (id : KeyId) (data : Bytes) :
    Op.WarnsOnce (install mask id data) :=
  ((warnsOnce_importReported id data).when _).bind fun _ =>
    (warnsOnce_importReported _ data).when _

theorem warnsOnce_importRecords (mask : KeyMask) (container : Bytes) :
    Op.WarnsOnce (importRecords mask container) := by
  induction container using Record.container_induction with
  | nil =>
      rw [importRecords_nil]
      exact .pure ()
  | broken container cause more broken =>
      rw [importRecords_broken mask more broken]
      exact .reject rfl cause
  | record record behind fits inductionHypothesis =>
      rw [importRecords_bytes mask fits]
      cases KeyId.ofRecordType? record.code with
      | none => exact .reject rfl _
      | some id => exact (warnsOnce_install mask id record.data).bind fun _ => inductionHypothesis

/-- A container that is refused for its format is warned of once, and one that is read to its end
not at all. -/
theorem warnsOnce_importContainer (container : Bytes) (mask : KeyMask) :
    Op.WarnsOnce (importContainer container mask) :=
  (warnsOnce_importRecords mask container).allOrNothing

end Store

/-! ## Writing numbers -/

namespace Uint

theorem warnsOnce_accumulate {σ : Type} (total more : Nat) :
    Op.WarnsOnce (Op.ofExcept (accumulate total more) : Op σ Nat) := by
  apply Op.WarnsOnce.ofExcept
  intro format refused
  cases accumulate_eq_error refused

theorem warnsOnce_encodedLength {σ : Type} (n : Nat) :
    Op.WarnsOnce (Op.ofExcept (encodedLength n) : Op σ Nat) := by
  apply Op.WarnsOnce.ofExcept
  intro format refused
  cases encodedLength_eq_error refused

/-- A buffer that ends inside a number is warned of where it ends, and a number beyond the failure
mark not at all. -/
theorem warnsOnce_encodeInto (n : Nat) : Op.WarnsOnce (encodeInto n) := by
  intro out
  have ends := encodeInto_ends n out
  generalize encodeInto n out = outcome at ends
  cases ends with
  | overflow => exact .failed nofun
  | noRoom => exact .refused rfl
  | done => exact .done rfl

theorem warnsOnce_fill (n : Nat) (written ahead : Bytes) :
    Op.WarnsOnce (fill n written ahead) := by
  intro sink
  have here := warnsOnce_encodeInto n ahead
  unfold fill
  generalize encodeInto n ahead = outcome at here
  rcases outcome with ⟨cause | length, after, log⟩
  · exact here.carry
  · have quiet : warnings log = [] := here.quiet rfl
    dsimp only
    cases Bytes.cut after length with
    | error fault => exact .failed nofun
    | ok parts => exact .done quiet

theorem warnsOnce_write (n : Nat) : Op.WarnsOnce (write n) := by
  have puts : Op.WarnsOnce (put n) := by
    apply Op.WarnsOnce.get.bind
    intro sink
    cases sink with
    | filling written ahead => exact warnsOnce_fill n written ahead
    | absent => exact warnsOnce_encodedLength n
    | lost contents => exact warnsOnce_encodedLength n
  exact (puts.inside _ _).bind fun length => Op.WarnsOnce.get.bind fun writer =>
    (warnsOnce_accumulate _ _).bind fun total => .set _

theorem warnsOnce_writeAll (numbers : List Nat) : Op.WarnsOnce (writeAll numbers) := by
  induction numbers with
  | nil => exact .pure ()
  | cons n rest inductionHypothesis =>
      exact (warnsOnce_write n).bind fun _ => inductionHypothesis

theorem warnsOnce_serialize (numbers : List Nat) : Op.WarnsOnce (serialize numbers) := by
  intro out
  have here := warnsOnce_writeAll numbers (Writer.start out)
  unfold serialize
  generalize writeAll numbers (Writer.start out) = outcome at here
  rcases outcome with ⟨cause | answer, writer, log⟩
  · exact here.carry
  · exact .done (here.quiet rfl)

end Uint

/-! ## Writing keys -/

theorem Slot.warnsOnce_require {σ κ : Type} (slot : Slot κ) :
    Op.WarnsOnce (slot.require : Op σ κ) := by
  cases slot with
  | none => exact .reject rfl _
  | some key => exact .pure key

theorem Rsa.warnsOnce_exportHalf (half : Half) (slot : Slot RsaKey) :
    Op.WarnsOnce (exportHalf half slot) := by
  have listed (key : RsaKey) (format : FormatError) : fields half key ≠ .error (.format format) := by
    intro refused
    cases (encoded_of_fields_error refused).2
  exact (Slot.warnsOnce_require slot).bind fun key =>
    (Op.WarnsOnce.ofExcept (listed key)).bind fun numbers =>
      (Uint.warnsOnce_serialize numbers).bind fun length =>
        (Op.WarnsOnce.emit (by nofun)).bind fun _ => .pure length

theorem Hmac.warnsOnce_exportKey (slot : Slot HmacKey) : Op.WarnsOnce (exportKey slot) := by
  cases slot with
  | none => exact fun out => .refused rfl
  | some key =>
      intro out
      cases out with
      | none => exact .done rfl
      | some out =>
          by_cases few : out.length < key.bytes.length
          · rw [exportKey_short key few]
            exact .refused rfl
          · rw [exportKey_enough key (Nat.le_of_not_lt few)]
            exact .done rfl

/-- Whichever blob is read, into whatever slot, whichever slot is exported, into whatever buffer or
none, and whichever container is read, into whatever store and under whatever mask: a run that fails
for a format has warned exactly once, and a run that succeeds not at all. -/
theorem formats_warned_once :
    (∀ blob, Op.WarnsOnce (Rsa.importPrivate blob)) ∧
    (∀ blob, Op.WarnsOnce (Rsa.importPublic blob)) ∧
    (∀ blob, Op.WarnsOnce (Hmac.importKey blob)) ∧
    (∀ slot, Op.WarnsOnce (Rsa.exportPrivate slot)) ∧
    (∀ slot, Op.WarnsOnce (Rsa.exportPublic slot)) ∧
    (∀ slot, Op.WarnsOnce (Hmac.exportKey slot)) ∧
    ∀ container mask, Op.WarnsOnce (Store.importContainer container mask) :=
  ⟨Rsa.warnsOnce_importHalf .privateHalf, Rsa.warnsOnce_importHalf .publicHalf,
    Hmac.warnsOnce_importKey, Rsa.warnsOnce_exportHalf .privateHalf,
    Rsa.warnsOnce_exportHalf .publicHalf, Hmac.warnsOnce_exportKey,
    Store.warnsOnce_importContainer⟩

/-- The second number ends too early, and only that is warned of. -/
example : warnings (Rsa.importPublic [1, 0, 0, 0, 7, 2, 0, 0, 0, 1] none).log =
    [.dataEnds .integers] := by decide

end Keyring
