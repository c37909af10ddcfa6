/-
Module: Keyring.Proofs.Faultless
Purpose: Runs that never slip.  A cut, a copy or a narrowing that is out of bounds is not made but
  fails the run with a fault.  No run fails so, whatever bytes, numbers, keys, stores and masks it is
  given: each of them is in bounds for what was checked, measured or written before it.
Main exports: KeyError.IsSlip, Op.Faultless, Uint.faultless_decode, Uint.faultless_write,
  Store.faultless_importContainer, Store.faultless_exportContainer, Store.faultless_exportAuth,
  Store.fillRecords_reaches, operations_faultless
-/
import Keyring.Proofs.Length
import Keyring.Proofs.Store.Auth

namespace Keyring

variable {σ : Type}

/-- A failure that no input may bring about: a cut, a copy or a narrowing that is out of bounds, or a
length field that names more bytes than any buffer can hold. -/
def KeyError.IsSlip : KeyError → Prop
  | .fault _ => True
  | .format (.lengthTooLarge _) => True
  | _ => False

/-- No run of the operation slips, from whatever state. -/
abbrev Op.Faultless {α : Type} (op : Op σ α) : Prop :=
  op.Raises fun cause => ¬ cause.IsSlip

/-! ## What is checked -/

/-- A cut is out of bounds exactly if it is behind the end. -/
theorem Bytes.cut_fault_iff {bytes : Bytes} {offset : Nat} :
    (∃ fault, bytes.cut offset = .error fault) ↔ bytes.length < offset := by
  by_cases few : bytes.length < offset
  · simp [Bytes.cut, few]
  · simp [Bytes.cut_eq_ok (Nat.le_of_not_lt few), few]

/-- A copy is out of bounds exactly if its two sides differ in length. -/
theorem Bytes.overwrite_fault_iff {target source : Bytes} :
    (∃ fault, target.overwrite source = .error fault) ↔ target.length ≠ source.length := by
  by_cases same : target.length = source.length
  · simp [Bytes.overwrite_eq_ok same, same]
  · simp [Bytes.overwrite, same]

/-- A narrowing that is not refused loses nothing. -/
theorem narrow32_eq_ok_iff {value narrow : Nat} :
    narrow32 value = .ok narrow ↔ narrow = value ∧ value < 2 ^ 32 := by
  unfold narrow32
  split
  · next small =>
      constructor
      · intro same
        cases same
        exact ⟨rfl, small⟩
      · rintro ⟨rfl, -⟩
        rfl
  · next large =>
      constructor
      · intro impossible
        cases impossible
      · rintro ⟨-, small⟩
        exact absurd small large

/-- What a check refuses fails the run. -/
theorem Op.checked_fails_iff {α : Type} {step : Except Fault α} {state : σ} {fault : Fault} :
    (Op.checked step).Fails state (.fault fault) ↔ step = .error fault := by
  cases step with
  | ok answer => exact ⟨nofun, nofun⟩
  | error other => simp [Op.Fails, Op.checked]

/-! ## Numbers -/

namespace Uint

/-- What was read stays in bounds for what is read next, and a length field of 32 bits names no more
bytes than a buffer can hold. -/
theorem faultless_decode (data : Bytes) : (decode data : Op σ (Nat × Nat)).Faultless := by
  intro state cause failed
  cases front data with
  | short few =>
      rw [Op.Fails, decode_short few] at failed
      cases failed
      exact id
  | cutOff whole few =>
      rw [Op.Fails, decode_lengthField whole, if_pos few] at failed
      cases failed
      exact id
  | framed fits =>
      rw [Op.Fails, decode_frame fits] at failed
      cases failed

theorem DataEnds.not_isSlip {cause : KeyError} (ends : DataEnds cause) : ¬ cause.IsSlip := by
  obtain ⟨needed, remaining, rfl⟩ := ends
  exact id

theorem faultless_read : read.Faultless :=
  raises_read.mono fun _ => DataEnds.not_isSlip

theorem faultless_reads (count : Nat) : (reads count).Faultless :=
  (raises_reads count).mono fun _ => DataEnds.not_isSlip

theorem faultless_finish : finish.Faultless := by
  intro data cause failed
  rw [(fails_finish.1 failed).2]
  exact id

theorem WriteFailure.not_isSlip {cause : KeyError} (failure : WriteFailure cause) :
    ¬ cause.IsSlip := by
  cases failure with
  | overflow => exact id
  | noRoom => exact id

theorem faultless_accumulate (total more : Nat) :
    (Op.ofExcept (accumulate total more) : Op σ Nat).Faultless :=
  (raises_accumulate total more).mono fun _ => WriteFailure.not_isSlip

theorem faultless_encode (n : Nat) : (encode n).Faultless :=
  (raises_encode n).mono fun _ => WriteFailure.not_isSlip

theorem faultless_write (n : Nat) : (write n).Faultless :=
  (raises_write n).mono fun _ => WriteFailure.not_isSlip

theorem faultless_serialize (numbers : List Nat) : (serialize numbers).Faultless :=
  (raises_serialize numbers).mono fun _ => WriteFailure.not_isSlip

end Uint

/-! ## Keys -/

theorem Rsa.faultless_importHalf (half : Half) (blob : Bytes) :
    (importHalf half blob).Faultless := by
  have reads : (readHalf half).Faultless := by
    rw [readHalf_eq]
    exact (Uint.faultless_reads _).bind fun numbers =>
      Uint.faultless_finish.bind fun _ => .pure _
  exact (reads.within blob).bind fun key => (Op.Raises.emit _).bind fun _ => .set _

theorem Hmac.faultless_importKey (blob : Bytes) : (importKey blob).Faultless := by
  unfold importKey
  cases HmacKey.ofBytes? blob with
  | none => exact .reject id _
  | some key => exact (Op.Raises.emit _).bind fun _ => .set _

theorem Rsa.faultless_exportHalf (half : Half) (slot : Slot RsaKey) :
    (exportHalf half slot).Faultless := by
  cases slot with
  | none =>
      intro out cause failed
      cases failed
      exact id
  | some key =>
      cases listed : fields half key with
      | ok numbers =>
          exact (raises_exportHalf listed).mono fun _ => Uint.WriteFailure.not_isSlip
      | error cause =>
          intro out other failed
          rw [Op.Fails, exportHalf_refused listed] at failed
          cases failed
          rw [(encoded_of_fields_error listed).2]
          exact id

theorem Hmac.faultless_exportKey (slot : Slot HmacKey) : (exportKey slot).Faultless := by
  intro out cause failed
  cases slot with
  | none =>
      cases failed
      exact id
  | some key =>
      cases out with
      | none => cases failed
      | some out =>
          by_cases few : out.length < key.bytes.length
          · rw [Op.Fails, exportKey_short key few] at failed
            cases failed
            exact id
          · rw [Op.Fails, exportKey_enough key (Nat.le_of_not_lt few)] at failed
            cases failed

namespace Store

/-! ## Containers that are read -/

theorem faultless_importReported (id : KeyId) (blob : Bytes) :
    (importReported id blob).Faultless := by
  have imports : (importKey id blob).Faultless := by
    unfold importKey
    cases id with
    | rsa id => exact (Rsa.faultless_importHalf id.half blob).inside _ _
    | hmac id => exact (Hmac.faultless_importKey blob).inside _ _
  exact imports.bind fun _ => .emit _

theorem faultless_install (mask : KeyMask) (id : KeyId) (data : Bytes) :
    (install mask id data).Faultless :=
  ((faultless_importReported id data).when _).bind fun _ =>
    (faultless_importReported _ data).when _

/-- Records are cut off where there are whole ones, and a container that ends inside of one is
refused for that. -/
theorem not_isSlip_of_next? {container : Bytes} {cause : KeyError}
    (broken : Record.next? container = .error cause) : ¬ cause.IsSlip := by
  cases Record.front container with
  | short few =>
      rw [Record.next?_short few] at broken
      cases broken
      exact id
  | cutOff code whole few =>
      rw [Record.next?_header code whole, if_pos few] at broken
      cases broken
      exact id
  | record fits =>
      rw [Record.next?_bytes fits] at broken
      cases broken

theorem faultless_importRecords (mask : KeyMask) (container : Bytes) :
    (importRecords mask container).Faultless := by
  induction container using Record.container_induction with
  | nil =>
      rw [importRecords_nil]
      exact .pure ()
  | broken container cause more broken =>
      rw [importRecords_broken mask more broken]
      exact .reject (not_isSlip_of_next? broken) _
  | record record behind fits inductionHypothesis =>
      rw [importRecords_bytes mask fits]
      cases KeyId.ofRecordType? record.code with
      | none => exact .reject id _
      | some id => exact (faultless_install mask id record.data).bind fun _ => inductionHypothesis

theorem faultless_importContainer (container : Bytes) (mask : KeyMask) :
    (importContainer container mask).Faultless :=
  (faultless_importRecords mask container).allOrNothing

/-! ## Containers that are written -/

theorem faultless_exportKey (store : Store) (id : KeyId) : (store.exportKey id).Faultless := by
  cases id with
  | rsa id => exact Rsa.faultless_exportHalf id.half (store.rsa id)
  | hmac id => exact Hmac.faultless_exportKey (store.hmac id)

theorem faultless_containerLength (store : Store) (ids : List KeyId) (total : Nat) :
    (containerLength store ids total : Op σ Nat).Faultless := by
  induction ids generalizing total with
  | nil => exact .pure total
  | cons id rest inductionHypothesis =>
      rw [containerLength]
      exact ((faultless_exportKey store id).within none).bind fun length =>
        (Uint.faultless_accumulate _ _).bind fun header =>
          (Uint.faultless_accumulate _ _).bind fun whole => inductionHypothesis whole

theorem ExportFails.not_isSlip {store : Store} {mask : KeyMask} {cause : KeyError}
    (failure : store.ExportFails mask cause) : ¬ cause.IsSlip := by
  cases failure with
  | rootPublic => exact id
  | fileWrite => exact id
  | unknownBits => exact id
  | sizing allowed failed =>
      cases failed with
      | missing => exact id
      | ownLength => exact id
      | runningTotal => exact id

/-- What was measured is written without a failure, so all that can fail is the measuring. -/
theorem faultless_exportContainer (store : Store) (mask : KeyMask) :
    (exportContainer store mask : Op σ Bytes).Faultless := by
  intro outer cause failed
  rcases store.user_or_exportFails mask with allowed | ⟨other, failure⟩
  · have passes := failed
    rw [exportContainer, exportableIds_of_user allowed, pure_bind] at passes
    rcases Op.fails_bind.1 passes with early | ⟨total, between, measured, -⟩
    · exact faultless_containerLength store mask.ids 0 outer cause early
    · obtain ⟨blob, sized⟩ := exists_sized_of_measured measured
      cases failed.symm.trans (yields_exportContainer allowed sized outer).1
  · cases failed.symm.trans (failure.fails outer)
    exact failure.not_isSlip

theorem faultless_exportAuth (store : Store) : (exportAuth store : Op σ Bytes).Faultless := by
  intro outer cause failed
  rcases store.exportAuth_cases outer with held | ⟨missing, -⟩
  · cases failed.symm.trans (exportAuth_held held outer).1.1
  · cases failed.symm.trans missing
    exact id

/-- In front of every key the second pass has come as far as the records of the keys before it reach,
which is not behind the end of the buffer, and what is left of the buffer takes the records of the
other keys, to its end. -/
theorem fillRecords_reaches {store : Store} {first later : List KeyId} {total : Nat}
    {outer after : σ}
    (measured : (containerLength store (first ++ later) 0).Yields outer total after) :
    ∃ position filled rest,
      (fillRecords store first 0 (List.replicate total 0)).Yields outer (position, filled) outer ∧
        position ≤ total ∧ filled.length = total ∧
        (fillRecords store later position (filled.drop position)).Yields outer (total, rest)
          outer := by
  obtain ⟨blob, sized⟩ := exists_sized_of_measured measured
  obtain ⟨part, others, firstSized, laterSized, rfl⟩ := sized.split
  have zeros (length : Nat) : (List.replicate length (0 : UInt8)).length = length :=
    List.length_replicate
  have firstFilled := fillRecords_sized firstSized (zeros part) (List.replicate others 0) 0 outer
  rw [← List.replicate_add, Nat.zero_add] at firstFilled
  have laterFilled := fillRecords_sized laterSized (zeros others) [] part outer
  rw [List.append_nil] at laterFilled
  refine ⟨part, Record.join (records first blob) ++ List.replicate others 0,
    Record.join (records later blob) ++ [], firstFilled, Nat.le_add_right part others, ?_, ?_⟩
  · rw [List.length_append, firstSized.length_join, zeros]
  · rw [List.drop_left' firstSized.length_join]
    exact laterFilled

end Store

/-- A cut is refused exactly if it is behind the end, a copy exactly if its two sides differ in
length, and a narrowing to 32 bits exactly if it loses something, and a refusal fails the run with a
fault.  No run of any of the operations fails with one, or for a length field that names more bytes
than a buffer can hold: neither numbers that are read or written, in whatever state the reader or the
writer is, nor keys that are exported, nor containers that are read or written, nor the raw form of
the authorization keys.  In front of every record that is written the position is inside the output,
and what is left from there takes the later records. -/
theorem operations_faultless :
    (∀ (bytes : Bytes) (offset : Nat),
      (∃ fault, bytes.cut offset = .error fault) ↔ bytes.length < offset) ∧
    (∀ target source : Bytes,
      (∃ fault, target.overwrite source = .error fault) ↔ target.length ≠ source.length) ∧
    (∀ value narrow, narrow32 value = .ok narrow ↔ narrow = value ∧ value < 2 ^ 32) ∧
    (∀ (σ α : Type) (step : Except Fault α) (state : σ) (fault : Fault),
      (Op.checked step).Fails state (.fault fault) ↔ step = .error fault) ∧
    (∀ (σ : Type) (data : Bytes), (Uint.decode data : Op σ (Nat × Nat)).Faultless) ∧
    (∀ n, (Uint.encode n).Faultless) ∧
    Uint.read.Faultless ∧
    (∀ n, (Uint.write n).Faultless) ∧
    (∀ numbers, (Uint.serialize numbers).Faultless) ∧
    (∀ half slot, (Rsa.exportHalf half slot).Faultless) ∧
    (∀ slot, (Hmac.exportKey slot).Faultless) ∧
    (∀ container mask, (Store.importContainer container mask).Faultless) ∧
    (∀ (σ : Type) (store : Store) (mask : KeyMask),
      (Store.exportContainer store mask : Op σ Bytes).Faultless) ∧
    (∀ (σ : Type) (store : Store), (Store.exportAuth store : Op σ Bytes).Faultless) ∧
    ∀ (σ : Type) (store : Store) (first later : List KeyId) (total : Nat) (outer after : σ),
      (Store.containerLength store (first ++ later) 0).Yields outer total after →
        ∃ position filled rest,
          (Store.fillRecords store first 0 (List.replicate total 0)).Yields outer
              (position, filled) outer ∧
            position ≤ total ∧ filled.length = total ∧
            (Store.fillRecords store later position (filled.drop position)).Yields outer
              (total, rest) outer :=
  ⟨fun _ _ => Bytes.cut_fault_iff, fun _ _ => Bytes.overwrite_fault_iff,
    fun _ _ => narrow32_eq_ok_iff, fun _ _ _ _ _ => Op.checked_fails_iff,
    fun _ => Uint.faultless_decode, Uint.faultless_encode, Uint.faultless_read,
    Uint.faultless_write, Uint.faultless_serialize, Rsa.faultless_exportHalf,
    Hmac.faultless_exportKey, Store.faultless_importContainer,
    fun _ => Store.faultless_exportContainer, fun _ => Store.faultless_exportAuth,
    fun _ _ _ _ _ _ _ => Store.fillRecords_reaches⟩

end Keyring
