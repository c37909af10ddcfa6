/-
Module: Keyring.Proofs.Store.Pairs
Purpose: Generations, lookups of missing keys and exports agree on masks and on pairs.  What a
  generation makes does not depend on what the store held, so an export of the same mask goes the
  way it goes for a new store: every key is there, and the two records of a pair match.
Main exports: Store.MatchedRecords, Task.Done.has, exists_renewed, Sound.exportOverflows,
  exists_matched, MatchedRecords.of_held, generated_pairs_match
-/
import Keyring.Proofs.Store.Export
import Keyring.Proofs.Store.Generate
import Keyring.Proofs.Store.Independence

namespace Keyring.Store

variable {π ε : Type} {mask : KeyMask} {store : Store}

/-- The data of two records stand for a private key and for its public half, and those of the public
record are the front of those of the private one: the modulus and the public exponent, without the
private integers behind them. -/
structure MatchedRecords (blob : KeyId → Bytes) (pair : RsaKeyId × RsaKeyId) (n e : Nat)
    (secret : RsaSecret) : Prop where
  privateData : Rsa.IsBlob .privateHalf (blob (.rsa pair.1)) ⟨n, e, some secret⟩
  publicData : Rsa.IsBlob .publicHalf (blob (.rsa pair.2)) ⟨n, e, none⟩
  front : blob (.rsa pair.2) = Uint.join [n, e]
  whole : blob (.rsa pair.1) = blob (.rsa pair.2) ++
    Uint.join [secret.d, secret.p, secret.q, secret.dp, secret.dq, secret.qInv]
  shorter : (blob (.rsa pair.2)).length < (blob (.rsa pair.1)).length

/-! ## What a generation makes -/

theorem Task.Done.has {provider : Rsa.Provider π} {source : EntropySource ε} {task : Task}
    {before last : π × ε} (done : task.Done provider source mask store before last) {id : KeyId}
    (own : id ∈ task.ids) (asked : mask.has id = true) : store.has id = true := by
  rw [has_eq_isSome]
  cases done with
  | made _ _ _ privateHeld publicHeld =>
      simp only [Task.ids, List.mem_cons, List.not_mem_nil, or_false] at own
      rcases own with rfl | rfl
      · rw [key?_rsa_eq_some.2 privateHeld]
        rfl
      · rw [key?_rsa_eq_some.2 publicHeld]
        rfl
  | drawn _ _ held =>
      rw [Task.ids, List.mem_singleton] at own
      rw [own, key?_hmac_eq_some.2 held]
      rfl
  | passed unasked =>
      rw [unasked id own] at asked
      cases asked

/-- Two stores that hold the same under the ids of a mask are the same to an export of it. -/
theorem AgreeOn.of_key? {one two : Store}
    (same : ∀ id, mask.has id = true → one.key? id = two.key? id) : AgreeOn mask one two where
  privateSlots id asked _ := Option.map_injective (fun _ _ => Key.rsa.inj) (same (.rsa id) asked)
  publicSlots id asked _ := by
    have slots : one.rsa id = two.rsa id :=
      Option.map_injective (fun _ _ => Key.rsa.inj) (same (.rsa id) asked)
    rw [slots]
  secrets id asked := Option.map_injective (fun _ _ => Key.hmac.inj) (same (.hmac id) asked)

section Generated

variable {make : Rsa.KeyParams → Op π RsaKey} {source : EntropySource ε} {shop after : Workshop π ε}

/-- The mask of a generation that succeeds has only keys that users hold, and every task is done. -/
theorem user_and_along
    (generated : (generate { generate := make } source mask).Yields shop () after) :
    KeyMask.user.contains mask = true ∧
      Op.Along (Task.Done { generate := make } source mask after.store) tasks shop.supplies
        after.supplies := by
  rw [generate, Op.yields_orElseUndo, yields_generateStaged] at generated
  obtain ⟨allowed, made⟩ := generated
  exact ⟨allowed, (along_of_yields apart_tasks (fun _ _ _ _ => rfl) made).2.1⟩

theorem has_of_generated
    (generated : (generate { generate := make } source mask).Yields shop () after) {id : KeyId}
    (asked : mask.has id = true) : after.store.has id = true := by
  obtain ⟨allowed, along⟩ := user_and_along generated
  rcases importOnly_or_task id with importOnly | ⟨task, listed, own⟩
  · rw [(KeyMask.user_contains_iff.1 allowed).1 id asked] at importOnly
    cases importOnly
  · obtain ⟨_, _, done⟩ := along.exists_step listed
    exact done.has own asked

/-- A generation would have made the same keys in a new store. -/
theorem exists_renewed
    (generated : (generate { generate := make } source mask).Yields shop () after) :
    ∃ fresh, Reachable fresh ∧
      ∀ id, mask.has id = true → fresh.key? id = after.store.key? id := by
  obtain ⟨allowed, along⟩ := user_and_along generated
  -- What a task does depends on the provider and the source, never on what the slots hold.
  let renewed : Workshop π ε := ⟨.empty, shop.provider, shop.entropy⟩
  have sameSupplies : renewed.supplies = shop.supplies := rfl
  rw [← sameSupplies] at along
  obtain ⟨last, made, -, same⟩ := exists_makeTasks_of_user allowed along
  have yields : (generate { generate := make } source mask).Yields renewed () last := by
    rw [generate, Op.yields_orElseUndo, yields_generateStaged]
    exact ⟨allowed, made⟩
  refine ⟨last.store, ?_, same⟩
  rw [← yields.2]
  exact .step .empty (.generated renewed make source mask)

/-- If one half of a pair is in the mask the other one is, and the slots hold one private key and
its public half. -/
theorem exists_pair (generated : (generate { generate := make } source mask).Yields shop () after)
    {pair : RsaKeyId × RsaKeyId} (listed : pair ∈ rsaPairs)
    (asked : mask.has (.rsa pair.1) = true ∨ mask.has (.rsa pair.2) = true) :
    mask.has (.rsa pair.1) = true ∧ mask.has (.rsa pair.2) = true ∧
      ∃ n e secret, after.store.rsa pair.1 = some ⟨n, e, some secret⟩ ∧
        after.store.rsa pair.2 = some ⟨n, e, none⟩ := by
  have isTask : ∀ pair ∈ rsaPairs, Task.pair pair.1 pair.2 ∈ tasks := by decide
  obtain ⟨_, along⟩ := user_and_along generated
  obtain ⟨_, _, done⟩ := along.exists_step (isTask pair listed)
  cases done with
  | @made _ _ privateKey _ _ _ privateAsked publicAsked makes privateHeld publicHeld =>
      obtain ⟨_, _, derived⟩ := makes.made
      obtain ⟨rfl, -⟩ := Op.yields_pure.1 derived
      obtain ⟨secret, whole⟩ := Option.isSome_iff_exists.1 makes.isPrivate
      refine ⟨privateAsked, publicAsked, privateKey.n, privateKey.e, secret, ?_, publicHeld⟩
      rw [privateHeld, ← whole]
  | passed unasked =>
      rcases asked with asked | asked
      · rw [unasked (.rsa pair.1) (by simp [Task.ids])] at asked
        cases asked
      · rw [unasked (.rsa pair.2) (by simp [Task.ids])] at asked
        cases asked

end Generated

/-! ## Exports of what is there -/

/-- Where the keys of a mask are held an export fails only for want of room. -/
theorem Sound.exportOverflows {σ : Type} {outer : σ} {cause : KeyError} (sound : Sound store)
    (allowed : KeyMask.user.contains mask = true)
    (held : ∀ id, mask.has id = true → store.has id = true)
    (failed : (exportContainer store mask).Fails outer cause) : cause = .lengthOverflow := by
  obtain ⟨exportable, known⟩ := KeyMask.user_contains_iff.1 allowed
  obtain ⟨noRoot, noWrite⟩ := KeyMask.exportable_iff.1 exportable
  cases sound.exportFails failed with
  | rootPublic asked => cases asked.symm.trans noRoot
  | fileWrite _ asked => cases asked.symm.trans noWrite
  | unknownBits _ _ left some =>
      rw [← KeyMask.unknown_eq left] at some
      exact absurd known (KeyMask.not_isEmpty_iff.2 some)
  | sizing _ failed =>
      cases failed with
      | @missing first later id blob total order sized absent =>
          have listed : id ∈ mask.ids := by simp [order]
          cases absent.symm.trans (held id (KeyMask.mem_ids.1 listed))
      | ownLength => rfl
      | runningTotal => rfl

/-- The records of a sound store hold what is written for the keys in its slots. -/
theorem Sized.data_eq {blob : KeyId → Bytes} {total : Nat} {id : RsaKeyId} {key : RsaKey}
    {numbers : List Nat} (sized : store.Sized mask.ids blob total) (sound : Sound store)
    (asked : mask.has (.rsa id) = true) (held : store.rsa id = some key)
    (listed : Rsa.fields id.half key = .ok numbers) :
    blob (.rsa id) = Uint.join numbers ∧ Rsa.IsBlob id.half (blob (.rsa id)) key := by
  have writes := sized.writes (.rsa id) (KeyMask.mem_ids.2 asked)
  obtain ⟨written, bound⟩ := writes_iff.1 writes
  obtain ⟨other, others, found, otherListed, made⟩ := exists_fields_of_data? written
  obtain rfl := Option.some.inj (held.symm.trans found)
  obtain rfl := Except.ok.inj (listed.symm.trans otherListed)
  rw [made] at bound ⊢
  exact ⟨rfl, Rsa.isBlob_join (sound id key held) listed bound⟩

theorem Sized.matchedRecords {blob : KeyId → Bytes} {total : Nat} {pair : RsaKeyId × RsaKeyId}
    {n e : Nat} {secret : RsaSecret} (sized : store.Sized mask.ids blob total)
    (sound : Sound store) (listed : pair ∈ rsaPairs)
    (privateAsked : mask.has (.rsa pair.1) = true) (publicAsked : mask.has (.rsa pair.2) = true)
    (privateHeld : store.rsa pair.1 = some ⟨n, e, some secret⟩)
    (publicHeld : store.rsa pair.2 = some ⟨n, e, none⟩) : MatchedRecords blob pair n e secret := by
  obtain ⟨privateHalf, publicHalf⟩ := halves_of_mem_rsaPairs pair listed
  obtain ⟨privateMade, privateData⟩ := sized.data_eq sound privateAsked privateHeld
    (by rw [privateHalf]; rfl)
  obtain ⟨publicMade, publicData⟩ := sized.data_eq sound publicAsked publicHeld
    (by rw [publicHalf]; rfl)
  rw [privateHalf] at privateData
  rw [publicHalf] at publicData
  have whole : blob (.rsa pair.1) = blob (.rsa pair.2) ++
      Uint.join [secret.d, secret.p, secret.q, secret.dp, secret.dq, secret.qInv] := by
    rw [privateMade, publicMade, ← Uint.join_append]
    rfl
  refine ⟨privateData, publicData, publicMade, whole, ?_⟩
  have behind : 0 < (Uint.bytes secret.d).length := by
    rw [Uint.length_bytes]
    exact Nat.lt_of_lt_of_le (by decide) (Nat.le_add_right _ _)
  rw [whole, Uint.join_cons, List.length_append, List.length_append]
  omega

/-! ## Masks and pairs -/

/-- After a generation that succeeds, whatever the store held before, no key of the mask is missing,
and an export of the mask fails only for want of room.  In a container that is exported the records
of a pair match: the public one carries the modulus and the public exponent of the private one, and
its data are a proper front of the private data. -/
theorem generated_pairs_match {make : Rsa.KeyParams → Op π RsaKey} {source : EntropySource ε}
    {mask : KeyMask} {shop after : Workshop π ε}
    (generated : (generate { generate := make } source mask).Yields shop () after) :
    after.store.missing? mask = none ∧
    (∀ (σ : Type) (outer : σ) (cause : KeyError),
      (exportContainer after.store mask).Fails outer cause → cause = .lengthOverflow) ∧
    ∀ (σ : Type) (outer : σ) (container : Bytes),
      (exportContainer after.store mask outer).result = .ok container →
      ∃ blob, container = Record.join (records mask.ids blob) ∧
        ∀ pair ∈ rsaPairs, mask.has (.rsa pair.1) = true ∨ mask.has (.rsa pair.2) = true →
          KeyId.rsa pair.1 ∈ mask.ids ∧ KeyId.rsa pair.2 ∈ mask.ids ∧
            ∃ n e secret, after.store.rsa pair.1 = some ⟨n, e, some secret⟩ ∧
              after.store.rsa pair.2 = some ⟨n, e, none⟩ ∧
              MatchedRecords blob pair n e secret := by
  have held (id : KeyId) (asked : mask.has id = true) := has_of_generated generated asked
  obtain ⟨fresh, reachable, same⟩ := exists_renewed generated
  have sound := reachable.sound
  refine ⟨?_, ?_, ?_⟩
  · apply List.find?_eq_none.2
    intro id listed
    simp [held id (KeyMask.mem_ids.1 listed)]
  · intro σ outer cause failed
    rw [← exportContainer_congr (.of_key? same)] at failed
    refine sound.exportOverflows (user_and_along generated).1 ?_ failed
    intro id asked
    rw [has_eq_isSome, same id asked, ← has_eq_isSome]
    exact held id asked
  · intro σ outer container exported
    rw [← exportContainer_congr (.of_key? same)] at exported
    obtain ⟨-, blob, total, sized, made⟩ := sound.exists_sized exported
    refine ⟨blob, made, ?_⟩
    intro pair listed asked
    obtain ⟨privateAsked, publicAsked, n, e, secret, privateHeld, publicHeld⟩ :=
      exists_pair generated listed asked
    refine ⟨KeyMask.mem_ids.2 privateAsked, KeyMask.mem_ids.2 publicAsked, n, e, secret,
      privateHeld, publicHeld, ?_⟩
    apply sized.matchedRecords sound listed privateAsked publicAsked
    · rw [← key?_rsa_eq_some, same _ privateAsked, key?_rsa_eq_some, privateHeld]
    · rw [← key?_rsa_eq_some, same _ publicAsked, key?_rsa_eq_some, publicHeld]

/-- The signing pair of a new store, made together with a file HMAC, is exported as it was made. -/
theorem firstKeys_pairs_match :
    firstKeys.missing? firstMask = none ∧
      ∃ container blob n e secret, (exportContainer firstKeys firstMask ()).result = .ok container ∧
        container = Record.join (records firstMask.ids blob) ∧
          MatchedRecords blob (.signPrivate, .signPublic) n e secret := by
  have made : (generate { generate := firstMake } .pool firstMask newShop).result = .ok () := by
    decide +kernel
  obtain ⟨complete, -, exported⟩ := generated_pairs_match (Op.yields_of_result made)
  obtain ⟨container, done⟩ := exists_firstContainer
  obtain ⟨blob, joined, matched⟩ := exported Unit () container done
  obtain ⟨-, -, n, e, secret, -, -, signing⟩ := matched (.signPrivate, .signPublic) (by decide)
    (by decide)
  exact ⟨complete, container, blob, n, e, secret, done, joined, signing⟩

end Keyring.Store
