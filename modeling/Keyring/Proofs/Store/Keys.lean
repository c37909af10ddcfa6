/-
Module: Keyring.Proofs.Store.Keys
Purpose: The store as a map from ids to keys of either kind, and what one key is outside of it.
  `Key.IsData` says which bytes the record of an id may hold and which key they stand for; reading
  them puts that key under the id and touches nothing else.  `Store.data?` is what is written for a
  key that is held, and `Store.ownExport` writes it on its own, without a container around it.
Main exports: Key, Key.IsData, KeyKind.Admits, exists_isData_iff, Store.key?, Store.ext_key?,
  Store.key?_setRsa, Store.key?_setHmac, Store.put, importKey_of_isData, importKey_refused,
  Store.data?, Store.blob, Store.ownExport, exportKey_eq_ownExport, ownExport_none, ownExport_room,
  ownExport_overflow, ownExport_missing
-/
import Keyring.Proofs.Hmac.Blob
import Keyring.Proofs.Rsa.Blob
import Keyring.Store.Export
import Keyring.Store.Import

namespace Keyring

open LittleEndian

/-- A key of either kind. -/
inductive Key where
  | rsa (key : RsaKey)
  | hmac (key : HmacKey)
deriving DecidableEq

/-! ## Bytes of one key -/

/-- The data stand for the key in the record of the given id. -/
inductive Key.IsData : KeyId → Bytes → Key → Prop where
  | rsa {id : RsaKeyId} {data : Bytes} {key : RsaKey} (isBlob : Rsa.IsBlob id.half data key) :
      IsData (.rsa id) data (.rsa key)
  | hmac {id : HmacKeyId} {data : Bytes} {key : HmacKey} (same : key.bytes = data) :
      IsData (.hmac id) data (.hmac key)

namespace Uint

/-- The bytes are so many complete numbers, each behind its length, and nothing else. -/
def IsFrames (count : Nat) (data : Bytes) : Prop :=
  ∃ magnitudes : List Bytes, magnitudes.length = count ∧
    (∀ magnitude ∈ magnitudes, magnitude.Fits) ∧ data = frames magnitudes

end Uint

/-- Which data a record of each kind of key may hold. -/
def KeyKind.Admits : KeyKind → Bytes → Prop
  | .rsaPrivate, data => Uint.IsFrames 8 data
  | .rsaPublic, data => Uint.IsFrames 2 data
  | .hmac, data => data.length = 32

theorem Rsa.exists_isBlob_iff {half : Half} {blob : Bytes} :
    (∃ key, IsBlob half blob key) ↔ Uint.IsFrames half.numberCount blob := by
  constructor
  · rintro ⟨key, magnitudes, fits, whole, made⟩
    have count := length_of_keyOfNumbers? made
    rw [List.length_map] at count
    exact ⟨magnitudes, count, fits, whole⟩
  · rintro ⟨magnitudes, count, fits, whole⟩
    obtain ⟨key, made⟩ := exists_keyOfNumbers? ((List.length_map value).trans count)
    exact ⟨key, magnitudes, fits, whole, made⟩

namespace Key

/-- The data that stand for a key are those that its kind admits. -/
theorem exists_isData_iff {id : KeyId} {data : Bytes} :
    (∃ key, IsData id data key) ↔ id.kind.Admits data := by
  rcases id with id | id
  · have admits : (KeyId.rsa id).kind.Admits data ↔ Uint.IsFrames id.half.numberCount data := by
      cases id <;> exact Iff.rfl
    rw [admits, ← Rsa.exists_isBlob_iff]
    constructor
    · rintro ⟨_, ⟨isBlob⟩⟩
      exact ⟨_, isBlob⟩
    · rintro ⟨key, isBlob⟩
      exact ⟨.rsa key, .rsa isBlob⟩
  · constructor
    · rintro ⟨_, isData⟩
      cases isData with
      | @hmac _ _ key same => exact same ▸ key.length_bytes
    · intro enough
      exact ⟨.hmac ⟨data, enough⟩, .hmac rfl⟩

/-- Data stand for one key only. -/
theorem IsData.unique {id : KeyId} {data : Bytes} {key other : Key} (one : IsData id data key)
    (two : IsData id data other) : key = other := by
  cases one with
  | rsa isBlob =>
      cases two with
      | rsa otherBlob => rw [isBlob.unique otherBlob]
  | @hmac _ _ held same =>
      cases two with
      | @hmac _ _ found otherSame =>
          rcases held with ⟨bytes, length⟩
          rcases found with ⟨otherBytes, otherLength⟩
          cases same
          cases otherSame
          rfl

/-- What is written for a key in the record of the given id. -/
def data? : KeyId → Key → Option Bytes
  | .rsa id, .rsa key => (Rsa.fields id.half key).toOption.map Uint.join
  | .hmac _, .hmac key => some key.bytes
  | _, _ => none

/-- What a successful read of a key reports. -/
def imported : Key → List Event
  | .rsa key => [.importedRsa key.half key.summary]
  | .hmac _ => [.importedHmac]

end Key

namespace Store

/-! ## Keys by their ids -/

/-- The key that is held under an id. -/
def key? (store : Store) : KeyId → Option Key
  | .rsa id => (store.rsa id).map .rsa
  | .hmac id => (store.hmac id).map .hmac

theorem has_eq_isSome (store : Store) (id : KeyId) : store.has id = (store.key? id).isSome := by
  rcases id with id | id <;> simp [has, key?]

theorem key?_rsa_eq_some {store : Store} {id : RsaKeyId} {key : RsaKey} :
    store.key? (.rsa id) = some (.rsa key) ↔ store.rsa id = some key := by
  simp [key?]

theorem key?_hmac_eq_some {store : Store} {id : HmacKeyId} {key : HmacKey} :
    store.key? (.hmac id) = some (.hmac key) ↔ store.hmac id = some key := by
  simp [key?]

theorem key?_eq_none {store : Store} {id : KeyId} (absent : store.has id = false) :
    store.key? id = none := by
  rwa [has_eq_isSome, Option.isSome_eq_false_iff, Option.isNone_iff_eq_none] at absent

/-- Two stores that hold the same keys are the same. -/
theorem ext_key? {first second : Store} (same : ∀ id, first.key? id = second.key? id) :
    first = second := by
  apply ext_slots
  · intro id
    exact Option.map_injective (fun _ _ => Key.rsa.inj) (same (.rsa id))
  · intro id
    exact Option.map_injective (fun _ _ => Key.hmac.inj) (same (.hmac id))

theorem key?_setRsa (store : Store) (id : RsaKeyId) (slot : Slot RsaKey) (other : KeyId) :
    (store.setRsa id slot).key? other =
      if other = .rsa id then slot.map .rsa else store.key? other := by
  rcases other with other | other
  · simp only [key?, rsa_setRsa, KeyId.rsa.injEq]
    split <;> rfl
  · simp [key?]

theorem key?_setHmac (store : Store) (id : HmacKeyId) (slot : Slot HmacKey) (other : KeyId) :
    (store.setHmac id slot).key? other =
      if other = .hmac id then slot.map .hmac else store.key? other := by
  rcases other with other | other
  · simp [key?]
  · simp only [key?, hmac_setHmac, KeyId.hmac.injEq]
    split <;> rfl

/-- The store with a key put under an id of its kind. -/
def put (store : Store) : KeyId → Key → Store
  | .rsa id, .rsa key => store.setRsa id (some key)
  | .hmac id, .hmac key => store.setHmac id (some key)
  | _, _ => store

/-- A key that was read is held under its id, and every other id keeps what it had. -/
theorem key?_put {id : KeyId} {data : Bytes} {key : Key} (isData : Key.IsData id data key)
    (store : Store) (other : KeyId) :
    (store.put id key).key? other = if other = id then some key else store.key? other := by
  cases isData with
  | rsa => exact key?_setRsa store _ _ other
  | hmac => exact key?_setHmac store _ _ other

/-! ## Reading one key -/

theorem importKey_of_isData {id : KeyId} {data : Bytes} {key : Key}
    (isData : Key.IsData id data key) (store : Store) :
    importKey id data store = ⟨.ok (), store.put id key, key.imported⟩ := by
  cases isData with
  | rsa isBlob =>
      rw [importKey, onRsa, Op.inside, Rsa.importHalf_of_isBlob isBlob, Key.imported,
        isBlob.half_eq]
      rfl
  | @hmac _ _ key same =>
      rw [importKey, onHmac, Op.inside, Hmac.importKey, HmacKey.ofBytes?_eq_some.2 same]
      rfl

/-- Bytes that stand for no key are refused, for a cause that does not depend on the store, and the
store stays as it is. -/
theorem importKey_refused {id : KeyId} {data : Bytes} (bad : ¬ ∃ key, Key.IsData id data key) :
    ∃ cause log, ∀ store, importKey id data store = ⟨.error cause, store, log⟩ := by
  rcases id with id | id
  · have noBlob : ¬ ∃ key, Rsa.IsBlob id.half data key := by
      rintro ⟨key, isBlob⟩
      exact bad ⟨.rsa key, .rsa isBlob⟩
    obtain ⟨cause, log, refused⟩ := Rsa.importHalf_refused noBlob
    refine ⟨cause, log, fun store => ?_⟩
    simp only [importKey, onRsa, Op.inside, refused, setRsa_rsa]
  · have wrong : HmacKey.ofBytes? data = none := by
      rw [HmacKey.ofBytes?, dif_neg]
      intro enough
      exact bad ⟨.hmac ⟨data, enough⟩, .hmac rfl⟩
    refine ⟨.format (.hmacLength data.length), [.hmacLength data.length], fun store => ?_⟩
    simp only [importKey, onHmac, Op.inside, Hmac.importKey, wrong, Op.reject_apply,
      setHmac_hmac]

/-! ## Writing one key -/

/-- What is written for the key that is held under an id. -/
def data? (store : Store) (id : KeyId) : Option Bytes :=
  (store.key? id).bind (Key.data? id)

/-- What is written for a key; nothing, if it is not held. -/
def blob (store : Store) (id : KeyId) : Bytes :=
  (store.data? id).getD []

/-- What a successful export of a key reports. -/
def exported : KeyId → Nat → List Event
  | .rsa id, length => [.exportedRsa id.half length]
  | .hmac _, _ => []

variable {store : Store} {id : KeyId} {data : Bytes}

theorem data?_eq_some :
    store.data? id = some data ↔ ∃ key, store.key? id = some key ∧ Key.data? id key = some data :=
  Option.bind_eq_some_iff

theorem blob_of_data? (written : store.data? id = some data) : store.blob id = data := by
  rw [blob, written]
  rfl

theorem data?_hmac {id : HmacKeyId} {key : HmacKey} (held : store.hmac id = some key) :
    store.data? (.hmac id) = some key.bytes :=
  data?_eq_some.2 ⟨.hmac key, key?_hmac_eq_some.2 held, rfl⟩

theorem data?_rsa {id : RsaKeyId} {key : RsaKey} {numbers : List Nat}
    (held : store.rsa id = some key) (listed : Rsa.fields id.half key = .ok numbers) :
    store.data? (.rsa id) = some (Uint.join numbers) := by
  refine data?_eq_some.2 ⟨.rsa key, key?_rsa_eq_some.2 held, ?_⟩
  rw [Key.data?, listed]
  rfl

/-- The key behind the data of an RSA record, and its numbers. -/
theorem exists_fields_of_data? {id : RsaKeyId} (written : store.data? (.rsa id) = some data) :
    ∃ key numbers, store.rsa id = some key ∧ Rsa.fields id.half key = .ok numbers ∧
      data = Uint.join numbers := by
  obtain ⟨key, found, made⟩ := data?_eq_some.1 written
  obtain ⟨rsaKey, held, rfl⟩ := Option.map_eq_some_iff.1 found
  obtain ⟨numbers, listed, rfl⟩ := Option.map_eq_some_iff.1 made
  refine ⟨rsaKey, numbers, held, ?_, rfl⟩
  cases read : Rsa.fields id.half rsaKey with
  | error cause => simp [read, Except.toOption] at listed
  | ok others =>
      rw [read] at listed
      cases listed
      rfl

/-- The key behind the data of an HMAC record. -/
theorem exists_hmac_of_data? {id : HmacKeyId} (written : store.data? (.hmac id) = some data) :
    ∃ key, store.hmac id = some key ∧ data = key.bytes := by
  obtain ⟨key, found, made⟩ := data?_eq_some.1 written
  obtain ⟨hmacKey, held, rfl⟩ := Option.map_eq_some_iff.1 found
  cases made
  exact ⟨hmacKey, held, rfl⟩

/-- The export of the key under an id on its own, which is that of its kind of key. -/
def ownExport (store : Store) : KeyId → Op (Option Bytes) Nat
  | .rsa id =>
      match id.half with
      | .privateHalf => Rsa.exportPrivate (store.rsa id)
      | .publicHalf => Rsa.exportPublic (store.rsa id)
  | .hmac id => Hmac.exportKey (store.hmac id)

theorem ownExport_rsa (store : Store) (id : RsaKeyId) :
    store.ownExport (.rsa id) = Rsa.exportHalf id.half (store.rsa id) := by
  rw [ownExport]
  cases id.half with
  | privateHalf => rfl
  | publicHalf => rfl

/-- Within a container a key is exported as on its own. -/
theorem exportKey_eq_ownExport (store : Store) (id : KeyId) :
    store.exportKey id = store.ownExport id := by
  rcases id with id | id
  · exact (store.ownExport_rsa id).symm
  · rfl

theorem ownExport_none (written : store.data? id = some data)
    (bound : data.length ≤ Uint.maxTotal) :
    store.ownExport id none = ⟨.ok data.length, none, exported id data.length⟩ := by
  rcases id with id | id
  · obtain ⟨key, numbers, held, listed, rfl⟩ := exists_fields_of_data? written
    rw [ownExport_rsa, held]
    exact Rsa.exportHalf_of_serialize listed (Uint.serialize_none bound)
  · obtain ⟨key, held, rfl⟩ := exists_hmac_of_data? written
    rw [ownExport, held, key.length_bytes]
    rfl

theorem ownExport_room (written : store.data? id = some data)
    (bound : data.length ≤ Uint.maxTotal) {room : Bytes} (sized : room.length = data.length)
    (behind : Bytes) :
    store.ownExport id (some (room ++ behind)) =
      ⟨.ok data.length, some (data ++ behind), exported id data.length⟩ := by
  rcases id with id | id
  · obtain ⟨key, numbers, held, listed, rfl⟩ := exists_fields_of_data? written
    rw [ownExport_rsa, held]
    exact Rsa.exportHalf_of_serialize listed (Uint.serialize_room bound sized behind)
  · obtain ⟨key, held, rfl⟩ := exists_hmac_of_data? written
    rw [ownExport, held]
    exact Hmac.exportKey_room key sized behind

/-- Only the blob of an RSA key can be too long on its own. -/
theorem ownExport_overflow (written : store.data? id = some data)
    (exceeds : Uint.maxTotal < data.length) :
    store.ownExport id none = ⟨.error .lengthOverflow, none, []⟩ := by
  rcases id with id | id
  · obtain ⟨key, numbers, held, listed, rfl⟩ := exists_fields_of_data? written
    rw [ownExport_rsa, held]
    exact Rsa.exportHalf_overflow listed exceeds
  · obtain ⟨key, held, rfl⟩ := exists_hmac_of_data? written
    exact absurd key.length_bytes_le_maxTotal (Nat.not_le_of_lt exceeds)

theorem ownExport_missing (absent : store.key? id = none) (out : Option Bytes) :
    store.ownExport id out = ⟨.error .missingKey, out, [.missingKey]⟩ := by
  rcases id with id | id
  · rw [ownExport_rsa, Option.map_eq_none_iff.1 absent]
    rfl
  · rw [ownExport, Option.map_eq_none_iff.1 absent]
    rfl

end Store

end Keyring
