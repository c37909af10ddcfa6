/-
Module: Keyring.Proofs.Store.Reachable
Purpose: The stores that imports and generations lead to.  Nothing in the type of a slot says which
  half of a pair it is for; that every RSA key is in a slot of its own half holds of the empty store
  and is kept by each call, whether it succeeds or fails.
Main exports: Store.Sound, Store.Step, Store.Reachable, Store.keeps_importContainer,
  Store.Installed.sound, Store.keeps_generate, Store.Step.sound, Store.Reachable.sound,
  Store.firstKeys, Store.reachable_halves
-/
import Keyring.Proofs.Rsa.Provider
import Keyring.Proofs.Store.Import
import Keyring.Store.Generate
import Keyring.Store.Lookup

namespace Keyring.Store

/-- Every RSA key is held in a slot of its own half. -/
def Sound (store : Store) : Prop :=
  ∀ id key, store.rsa id = some key → key.half = id.half

/-- One call on a store, whether it succeeds or fails.  A generation may use any provider that
derives public keys in the default way, and any source of random bytes. -/
inductive Step : Store → Store → Prop where
  | imported (store : Store) (container : Bytes) (mask : KeyMask) :
      Step store (importContainer container mask store).state
  | generated {π ε : Type} (shop : Workshop π ε) (make : Rsa.KeyParams → Op π RsaKey)
      (source : EntropySource ε) (mask : KeyMask) :
      Step shop.store (generate { generate := make } source mask shop).state.store

/-- The stores that a sequence of calls on a new store can leave. -/
inductive Reachable : Store → Prop where
  | empty : Reachable .empty
  | step {store after : Store} (reachable : Reachable store) (step : Step store after) :
      Reachable after

namespace Sound

variable {store : Store}

theorem empty : Sound .empty := by
  intro id key held
  cases id <;> cases held

theorem setRsa (sound : Sound store) {id : RsaKeyId} {slot : Slot RsaKey}
    (own : ∀ key, slot = some key → key.half = id.half) : Sound (store.setRsa id slot) := by
  intro other key held
  rw [rsa_setRsa] at held
  split at held
  · next same => exact same ▸ own key held
  · exact sound other key held

theorem setHmac (sound : Sound store) (id : HmacKeyId) (slot : Slot HmacKey) :
    Sound (store.setHmac id slot) := by
  intro other key held
  rw [rsa_setHmac] at held
  exact sound other key held

theorem put (sound : Sound store) {id : KeyId} {data : Bytes} {key : Key}
    (isData : Key.IsData id data key) : Sound (store.put id key) := by
  cases isData with
  | rsa isBlob =>
      apply sound.setRsa
      intro key held
      cases held
      exact isBlob.half_eq
  | hmac => exact sound.setHmac _ _

end Sound

/-! ## Imports -/

theorem keeps_importKey (id : KeyId) (data : Bytes) : Op.Keeps Sound (importKey id data) := by
  intro store sound
  by_cases good : ∃ key, Key.IsData id data key
  · obtain ⟨key, isData⟩ := good
    rw [importKey_of_isData isData]
    exact sound.put isData
  · obtain ⟨cause, log, refused⟩ := importKey_refused good
    rw [refused]
    exact sound

theorem keeps_install (mask : KeyMask) (id : KeyId) (data : Bytes) :
    Op.Keeps Sound (install mask id data) := by
  have reported (slot : KeyId) : Op.Keeps Sound (importReported slot data) :=
    (keeps_importKey slot data).bind fun _ => .emit _
  exact ((reported id).when _).bind fun _ => (reported _).when _

theorem keeps_importRecords (mask : KeyMask) (container : Bytes) :
    Op.Keeps Sound (importRecords mask container) := by
  induction container using Record.container_induction with
  | nil =>
      rw [importRecords_nil]
      exact .pure ()
  | broken container cause more broken =>
      rw [importRecords_broken mask more broken]
      exact .reject _ _
  | record record behind fits inductionHypothesis =>
      rw [importRecords_bytes mask fits]
      split
      · exact .reject _ _
      · exact (keeps_install mask _ record.data).bind fun _ => inductionHypothesis

theorem keeps_importContainer (container : Bytes) (mask : KeyMask) :
    Op.Keeps Sound (importContainer container mask) :=
  (keeps_importRecords mask container).allOrNothing

/-- Records bring keys of the right halves only. -/
theorem Installed.sound {mask : KeyMask} {records : List Record} {before after : Store}
    (installed : Installed mask records before after) (sound : Sound before) : Sound after := by
  intro id key held
  have found := key?_rsa_eq_some.2 held
  by_cases filled :
    mask.has (.rsa id) = true → Record.last? (KeyId.rsa id).source.code records = none
  · rw [installed.kept _ filled] at found
    exact sound id key (key?_rsa_eq_some.1 found)
  · rw [Classical.not_imp, ← ne_eq, Option.ne_none_iff_exists'] at filled
    obtain ⟨asked, record, last⟩ := filled
    obtain ⟨other, isData, read⟩ := installed.read _ record asked last
    rw [found] at read
    cases read
    cases isData with
    | rsa isBlob => exact isBlob.half_eq

/-! ## Generations -/

section Generation

variable {π ε : Type}

/-- The store of a workshop is sound. -/
def SoundShop (shop : Workshop π ε) : Prop :=
  Sound shop.store

/-- The private half of a pair comes first. -/
theorem halves_of_mem_rsaPairs :
    ∀ pair ∈ rsaPairs, pair.1.half = .privateHalf ∧ pair.2.half = .publicHalf := by
  decide

theorem half_of_isPrivate {key : RsaKey} (isPrivate : key.isPrivate = true) :
    key.half = .privateHalf := by
  rw [RsaKey.half, if_pos isPrivate]

/-- A pair that was made goes into the slots of its halves, and a failure leaves both slots. -/
theorem keeps_onPair (make : Rsa.KeyParams → Op π RsaKey) {pair : RsaKeyId × RsaKeyId}
    (privateFirst : pair.1.half = .privateHalf) (publicSecond : pair.2.half = .publicHalf) :
    Op.Keeps (SoundShop (ε := ε)) (onPair pair (Rsa.generateInto { generate := make })) := by
  intro shop sound
  simp only [SoundShop, onPair, Op.inside, Rsa.generateInto_apply]
  rcases ran : Rsa.generatePair { generate := make } shop.provider with
    ⟨cause | ⟨privateKey, publicKey⟩, after, log⟩
  · simpa [SoundShop] using sound
  · have made : (Rsa.generatePair { generate := make }).Yields shop.provider
        (privateKey, publicKey) after := by
      rw [Op.Yields, ran]
      exact ⟨rfl, rfl⟩
    obtain ⟨between, generated, derived⟩ := Rsa.yields_generatePair.1 made
    obtain ⟨-, isPrivate, -⟩ := Rsa.yields_generate.1 generated
    obtain ⟨rfl, -⟩ := Op.yields_pure.1 derived
    apply Sound.setRsa
    · apply sound.setRsa
      intro key held
      cases held
      rw [privateFirst, half_of_isPrivate isPrivate]
    · intro key held
      cases held
      rw [publicSecond]
      rfl

theorem keeps_generatePair (make : Rsa.KeyParams → Op π RsaKey) (wanted : KeyMask)
    {pair : RsaKeyId × RsaKeyId} (privateFirst : pair.1.half = .privateHalf)
    (publicSecond : pair.2.half = .publicHalf) :
    Op.Keeps (SoundShop (ε := ε)) (generatePair { generate := make } wanted pair) := by
  unfold generatePair
  split
  · exact keeps_onPair make privateFirst publicSecond
  · exact .reject _ _
  · exact .reject _ _
  · exact .pure ()

theorem keeps_generatePairs (make : Rsa.KeyParams → Op π RsaKey)
    {pairs : List (RsaKeyId × RsaKeyId)}
    (halves : ∀ pair ∈ pairs, pair.1.half = .privateHalf ∧ pair.2.half = .publicHalf)
    (wanted : KeyMask) :
    Op.Keeps (SoundShop (ε := ε)) (generatePairs { generate := make } pairs wanted) := by
  induction pairs generalizing wanted with
  | nil => exact .pure wanted
  | cons pair rest inductionHypothesis =>
      rw [List.forall_mem_cons] at halves
      exact (keeps_generatePair make wanted halves.1.1 halves.1.2).bind fun _ =>
        inductionHypothesis halves.2 _

theorem keeps_onHmacSource (id : HmacKeyId) (op : Op (Slot HmacKey × ε) Unit) :
    Op.Keeps (SoundShop (π := π)) (onHmacSource id op) :=
  fun _ sound => Sound.setHmac sound id _

theorem keeps_generateHmacs (source : EntropySource ε) (ids : List HmacKeyId) (wanted : KeyMask) :
    Op.Keeps (SoundShop (π := π)) (generateHmacs source ids wanted) := by
  induction ids generalizing wanted with
  | nil => exact .pure wanted
  | cons id rest inductionHypothesis =>
      exact ((keeps_onHmacSource id _).when _).bind fun _ => inductionHypothesis _

theorem keeps_generateStaged (make : Rsa.KeyParams → Op π RsaKey) (source : EntropySource ε)
    (mask : KeyMask) :
    Op.Keeps SoundShop (generateStaged { generate := make } source mask) := by
  have refused : Op.Keeps (SoundShop (π := π) (ε := ε)) (refuseImportOnly mask) := by
    unfold refuseImportOnly
    split
    · exact .fail _
    · exact .pure ()
  have pairs := keeps_generatePairs (ε := ε) make halves_of_mem_rsaPairs mask
  refine refused.bind fun _ => pairs.bind fun wanted =>
    (keeps_generateHmacs source generatedHmacIds wanted).bind fun rest => ?_
  split
  · exact .emit _
  · exact .reject _ _

/-- A failed generation puts back the store that it began with. -/
theorem keeps_generate (make : Rsa.KeyParams → Op π RsaKey) (source : EntropySource ε)
    (mask : KeyMask) : Op.Keeps SoundShop (generate { generate := make } source mask) := by
  intro shop sound
  have staged := keeps_generateStaged make source mask shop sound
  unfold generate Op.orElseUndo
  rcases ran : generateStaged { generate := make } source mask shop with
    ⟨cause | answer, after, log⟩
  · exact sound
  · rwa [ran] at staged

end Generation

/-! ## Every store that is reached -/

theorem Step.sound {store after : Store} (step : Step store after) (sound : Sound store) :
    Sound after := by
  cases step with
  | imported _ container mask => exact keeps_importContainer container mask store sound
  | generated shop make source mask => exact keeps_generate make source mask shop sound

theorem Reachable.sound {store : Store} (reachable : Reachable store) : Sound store := by
  induction reachable with
  | empty => exact .empty
  | step reachable step inductionHypothesis => exact step.sound inductionHypothesis

namespace Sound

variable {store : Store} {id : RsaKeyId} {key : RsaKey}

theorem exists_secret (sound : Sound store) (ofPrivate : id.half = .privateHalf)
    (held : store.rsa id = some key) : ∃ secret, key.secret = some secret := by
  have half := (sound id key held).trans ofPrivate
  rcases key with ⟨n, e, _ | secret⟩
  · cases half
  · exact ⟨secret, rfl⟩

theorem secret_eq_none (sound : Sound store) (ofPublic : id.half = .publicHalf)
    (held : store.rsa id = some key) : key.secret = none := by
  have half := (sound id key held).trans ofPublic
  rcases key with ⟨n, e, _ | secret⟩
  · rfl
  · cases half

/-- What is held under an id can be written as the half that the id asks for. -/
theorem exportHalf_ne_notPrivate (sound : Sound store) (id : RsaKeyId) (out : Option Bytes) :
    (Rsa.exportHalf id.half (store.rsa id) out).result ≠ .error .notPrivate := by
  intro failed
  cases held : store.rsa id with
  | none =>
      rw [held] at failed
      cases failed
  | some key =>
      obtain ⟨numbers, listed⟩ := Rsa.exists_fields (sound id key held)
      rw [held] at failed
      cases Rsa.raises_exportHalf listed out _ failed

end Sound

/-! ## A store with its first keys -/

/-- The mask of a signing pair and of the file HMAC. -/
def firstMask : KeyMask :=
  .sign ∪ .single (.hmac .file)

/-- A provider that makes the same private key each time. -/
def firstMake : Rsa.KeyParams → Op Unit RsaKey :=
  fun _ => pure ⟨2 ^ 2047 + 1, 65537, some ⟨3, 5, 7, 11, 13, 17⟩⟩

/-- A new store, that provider, and random bytes for one HMAC key. -/
def newShop : Workshop Unit Bytes :=
  ⟨.empty, (), List.replicate HmacKey.length 1⟩

/-- What the first generation leaves in the store. -/
def firstKeys : Store :=
  (generate { generate := firstMake } .pool firstMask newShop).state.store

theorem reachable_firstKeys : Reachable firstKeys :=
  .step .empty (.generated newShop firstMake .pool firstMask)

/-! ## Which half is where -/

/-- Whatever calls led to a store, its private slots hold keys with all their private integers and
its public slots hold keys without any; so a private slot can be written as a private key, and a
public key that is looked up shows no private integer. -/
theorem reachable_halves {store : Store} (reachable : Reachable store) :
    (∀ id ∈ [RsaKeyId.signPrivate, .encryptPrivate], ∀ key, store.rsa id = some key →
      ∃ secret, key.secret = some secret) ∧
    (∀ id ∈ [RsaKeyId.signPublic, .encryptPublic, .rootPublic], ∀ key, store.rsa id = some key →
      key.secret = none) ∧
    (∀ id ∈ [RsaKeyId.signPrivate, .encryptPrivate], ∀ out,
      (Rsa.exportPrivate (store.rsa id) out).result ≠ .error .notPrivate) ∧
    ∀ id ∈ [RsaKeyId.signPublic, .encryptPublic, .rootPublic], ∀ (σ : Type) (state : σ) key,
      (lookupRsa store (.rsa id) state).result = .ok key → key.secret = none := by
  have sound := reachable.sound
  have privateIds : ∀ id ∈ [RsaKeyId.signPrivate, .encryptPrivate], id.half = .privateHalf := by
    decide
  have publicIds : ∀ id ∈ [RsaKeyId.signPublic, .encryptPublic, .rootPublic],
      id.half = .publicHalf := by
    decide
  refine ⟨?_, ?_, ?_, ?_⟩
  · intro id listed key held
    exact sound.exists_secret (privateIds id listed) held
  · intro id listed key held
    exact sound.secret_eq_none (publicIds id listed) held
  · intro id listed out
    have written := sound.exportHalf_ne_notPrivate id out
    rwa [privateIds id listed] at written
  · intro id listed σ state key found
    cases held : store.rsa id with
    | none =>
        rw [lookupRsa, held] at found
        cases found
    | some other =>
        rw [lookupRsa, held] at found
        cases found
        exact sound.secret_eq_none (publicIds id listed) held

theorem firstKeys_halves :
    (∃ key secret, firstKeys.rsa .signPrivate = some key ∧ key.secret = some secret) ∧
      ∃ key, firstKeys.rsa .signPublic = some key ∧ key.secret = none := by
  have halves := reachable_halves reachable_firstKeys
  have privateMade : (firstKeys.rsa .signPrivate).isSome = true := by decide +kernel
  have publicMade : (firstKeys.rsa .signPublic).isSome = true := by decide +kernel
  obtain ⟨privateKey, privateHeld⟩ := Option.isSome_iff_exists.1 privateMade
  obtain ⟨publicKey, publicHeld⟩ := Option.isSome_iff_exists.1 publicMade
  obtain ⟨secret, whole⟩ := halves.1 .signPrivate (by decide) privateKey privateHeld
  have bare := halves.2.1 .signPublic (by decide) publicKey publicHeld
  exact ⟨⟨privateKey, secret, privateHeld, whole⟩, publicKey, publicHeld, bare⟩

end Keyring.Store
