/-
Module: Keyring.Proofs.Store.Generate
Purpose: What a generation makes and how it fails.  Pairs and secrets are tasks in one list; the
  tasks that a mask asks for are done in the order of the list, each from the state in which the
  one before it left the provider and the source, and the first that cannot be done ends the run.
Main exports: Store.Task, Store.tasks, Store.Task.Done, Store.Task.Stops, Store.GenerateFails,
  Store.makeTasks, Store.along_of_yields, Store.exists_yields_of_along, Store.fails_makeTasks,
  Store.generateStaged_eq, Store.generate_allOrNothing
-/
import Keyring.Proofs.KeyMask
import Keyring.Proofs.Rsa.Provider
import Keyring.Proofs.Store.Keys
import Keyring.Store.Generate

namespace Keyring

/-! ## One secret -/

namespace Hmac

variable {ε : Type} {source : EntropySource ε}

theorem yields_generate {before after : ε} {key : HmacKey} :
    (generate source).Yields before key after ↔
      (source.fill 32).Yields before ⟨key.bytes, key.length_bytes⟩ after := by
  unfold generate
  simp only [Op.yields_bind, Op.yields_emit, Op.yields_pure]
  constructor
  · rintro ⟨drawn, _, filled, _, _, rfl, rfl, rfl⟩
    exact filled
  · intro filled
    exact ⟨_, _, filled, (), _, rfl, rfl, rfl⟩

theorem fails_generate {before : ε} {cause : KeyError} :
    (generate source).Fails before cause ↔ (source.fill 32).Fails before cause := by
  unfold generate
  rw [Op.fails_bind]
  constructor
  · rintro (failed | ⟨drawn, between, -, failed⟩)
    · exact failed
    · cases failed
  · exact Or.inl

/-- A failure leaves the slot, a success replaces it. -/
theorem generateInto_apply (source : EntropySource ε) (slot : Slot HmacKey) (state : ε) :
    generateInto source (slot, state) =
      match generate source state with
      | ⟨.error cause, after, log⟩ => ⟨.error cause, (slot, after), log⟩
      | ⟨.ok key, after, log⟩ => ⟨.ok (), (some key, after), log⟩ := by
  unfold generateInto
  rw [Op.bind_apply, Op.onSecond, Op.inside]
  rcases generate source state with ⟨cause | key, after, log⟩
  · rfl
  · simp [Op.onFirst, Op.inside]

end Hmac

namespace Store

/-! ## Tasks -/

/-- One thing that a generation makes: the two halves of a pair, or one secret. -/
inductive Task where
  | pair (privateId publicId : RsaKeyId)
  | secret (id : HmacKeyId)
deriving DecidableEq

/-- The keys that a task makes. -/
def Task.ids : Task → List KeyId
  | .pair privateId publicId => [.rsa privateId, .rsa publicId]
  | .secret id => [.hmac id]

/-- All that can be made, in the order in which it is made. -/
def tasks : List Task :=
  [.pair .signPrivate .signPublic, .pair .encryptPrivate .encryptPublic, .secret .file,
    .secret .chunk, .secret .name, .secret .params, .secret .authPut, .secret .authGet,
    .secret .authDelete]

variable {π ε : Type}

/-- A task that is done, or not asked for.  It leads the provider and the source from one state to
another, and what it makes is found in `keys`. -/
inductive Task.Done (provider : Rsa.Provider π) (source : EntropySource ε) (mask : KeyMask)
    (keys : Store) : Task → π × ε → π × ε → Prop where
  /-- Both halves are asked for, and the provider makes them. -/
  | made {privateId publicId : RsaKeyId} {privateKey publicKey : RsaKey} {before after : π}
      (privateAsked : mask.has (.rsa privateId) = true)
      (publicAsked : mask.has (.rsa publicId) = true)
      (makes : Rsa.MakesPair provider before privateKey publicKey after)
      (privateHeld : keys.rsa privateId = some privateKey)
      (publicHeld : keys.rsa publicId = some publicKey) (entropy : ε) :
      Done provider source mask keys (.pair privateId publicId) (before, entropy) (after, entropy)
  /-- The secret is asked for, and it is the next 32 bytes of the source. -/
  | drawn {id : HmacKeyId} {key : HmacKey} {before after : ε}
      (asked : mask.has (.hmac id) = true)
      (filled : (source.fill 32).Yields before ⟨key.bytes, key.length_bytes⟩ after)
      (held : keys.hmac id = some key) (state : π) :
      Done provider source mask keys (.secret id) (state, before) (state, after)
  /-- Nothing is asked for. -/
  | passed {task : Task} (unasked : ∀ id ∈ task.ids, mask.has id = false) (state : π × ε) :
      Done provider source mask keys task state state

/-- Why a task cannot be done. -/
inductive Task.Stops (provider : Rsa.Provider π) (source : EntropySource ε) (mask : KeyMask) :
    Task → π × ε → KeyError → Prop where
  | privateAlone {privateId publicId : RsaKeyId} {state : π × ε}
      (asked : mask.has (.rsa privateId) = true) (alone : mask.has (.rsa publicId) = false) :
      Stops provider source mask (.pair privateId publicId) state
        (.store (.unpaired .privateHalf))
  | publicAlone {privateId publicId : RsaKeyId} {state : π × ε}
      (alone : mask.has (.rsa privateId) = false) (asked : mask.has (.rsa publicId) = true) :
      Stops provider source mask (.pair privateId publicId) state (.store (.unpaired .publicHalf))
  | unmade {privateId publicId : RsaKeyId} {state : π × ε} {cause : KeyError}
      (privateAsked : mask.has (.rsa privateId) = true)
      (publicAsked : mask.has (.rsa publicId) = true)
      (fails : Rsa.PairFails provider state.1 cause) :
      Stops provider source mask (.pair privateId publicId) state cause
  | undrawn {id : HmacKeyId} {state : π × ε} {cause : KeyError}
      (asked : mask.has (.hmac id) = true) (failed : (source.fill 32).Fails state.2 cause) :
      Stops provider source mask (.secret id) state cause

/-- The states of the provider and of the source in a workshop. -/
def Workshop.supplies (shop : Workshop π ε) : π × ε := (shop.provider, shop.entropy)

/-- Why the keys of a mask cannot be generated.  The keys that can only be imported come first, the
tasks in their order second, and the bits of no key last. -/
inductive GenerateFails (provider : Rsa.Provider π) (source : EntropySource ε) (mask : KeyMask)
    (shop : Workshop π ε) : KeyError → Prop where
  | rootPublic (asked : mask.has (.rsa .rootPublic) = true) :
      GenerateFails provider source mask shop (.store (.importOnly (.rsa .rootPublic)))
  | fileWrite (noRoot : mask.has (.rsa .rootPublic) = false)
      (asked : mask.has (.hmac .fileWrite) = true) :
      GenerateFails provider source mask shop (.store (.importOnly (.hmac .fileWrite)))
  | task {first later : List Task} {task : Task} {keys : Store} {between : π × ε}
      {cause : KeyError} (noRoot : mask.has (.rsa .rootPublic) = false)
      (noWrite : mask.has (.hmac .fileWrite) = false) (order : tasks = first ++ task :: later)
      (done : Op.Along (Task.Done provider source mask keys) first shop.supplies between)
      (stops : task.Stops provider source mask between cause) :
      GenerateFails provider source mask shop cause
  | unknownBits {keys : Store} {last : π × ε} {rest : KeyMask}
      (noRoot : mask.has (.rsa .rootPublic) = false)
      (noWrite : mask.has (.hmac .fileWrite) = false)
      (done : Op.Along (Task.Done provider source mask keys) tasks shop.supplies last)
      (left : ∀ i, rest.bits.getLsbD i = true ↔
        mask.bits.getLsbD i = true ∧ ∀ id : KeyId, id.code.toNat ≠ i)
      (some : ∃ i, rest.bits.getLsbD i = true) :
      GenerateFails provider source mask shop (.store (.unknownBits rest))

variable {provider : Rsa.Provider π} {source : EntropySource ε} {mask wanted rest : KeyMask}
  {keys : Store} {shop after : Workshop π ε} {cause : KeyError}

/-! ## One task -/

theorem yields_onPair {pair : RsaKeyId × RsaKeyId} :
    (onPair pair (Rsa.generateInto provider)).Yields shop () after ↔
      ∃ privateKey publicKey last,
        Rsa.MakesPair provider shop.provider privateKey publicKey last ∧
          after = { shop with
            store := (shop.store.setRsa pair.1 (some privateKey)).setRsa pair.2 (some publicKey)
            provider := last } := by
  simp only [← Rsa.yields_generatePair_iff, Op.Yields, onPair, Op.inside, Rsa.generateInto_apply]
  rcases Rsa.generatePair provider shop.provider with ⟨cause | ⟨privateKey, publicKey⟩, last, log⟩
  · simp
  · constructor
    · rintro ⟨-, rfl⟩
      exact ⟨privateKey, publicKey, last, ⟨rfl, rfl⟩, rfl⟩
    · rintro ⟨_, _, _, ⟨⟨⟩, rfl⟩, rfl⟩
      exact ⟨rfl, rfl⟩

theorem fails_onPair {pair : RsaKeyId × RsaKeyId} :
    (onPair pair (Rsa.generateInto provider)).Fails shop cause ↔
      Rsa.PairFails provider shop.provider cause := by
  simp only [← Rsa.fails_generatePair_iff, Op.Fails, onPair, Op.inside, Rsa.generateInto_apply]
  rcases Rsa.generatePair provider shop.provider with ⟨other | ⟨privateKey, publicKey⟩, last, log⟩
  · simp
  · simp

theorem yields_onHmacSource {id : HmacKeyId} :
    (onHmacSource id (Hmac.generateInto source)).Yields shop () after ↔
      ∃ key last, (source.fill 32).Yields shop.entropy ⟨key.bytes, key.length_bytes⟩ last ∧
        after = { shop with store := shop.store.setHmac id (some key), entropy := last } := by
  have own : (onHmacSource id (Hmac.generateInto source)).Yields shop () after ↔
      ∃ key last, (Hmac.generate source).Yields shop.entropy key last ∧
        after = { shop with store := shop.store.setHmac id (some key), entropy := last } := by
    simp only [Op.Yields, onHmacSource, Op.inside, Hmac.generateInto_apply]
    rcases Hmac.generate source shop.entropy with ⟨cause | key, last, log⟩
    · simp
    · constructor
      · rintro ⟨-, rfl⟩
        exact ⟨key, last, ⟨rfl, rfl⟩, rfl⟩
      · rintro ⟨_, _, ⟨⟨⟩, rfl⟩, rfl⟩
        exact ⟨rfl, rfl⟩
  simpa only [Hmac.yields_generate] using own

theorem fails_onHmacSource {id : HmacKeyId} :
    (onHmacSource id (Hmac.generateInto source)).Fails shop cause ↔
      (source.fill 32).Fails shop.entropy cause := by
  rw [← Hmac.fails_generate]
  simp only [Op.Fails, onHmacSource, Op.inside, Hmac.generateInto_apply]
  rcases Hmac.generate source shop.entropy with ⟨other | key, last, log⟩
  · simp
  · simp

/-- Do a task, as far as it is wanted. -/
def makeTask (provider : Rsa.Provider π) (source : EntropySource ε) (wanted : KeyMask) :
    Task → Op (Workshop π ε) Unit
  | .pair privateId publicId => generatePair provider wanted (privateId, publicId)
  | .secret id => Op.when (wanted.has (.hmac id)) (onHmacSource id (Hmac.generateInto source))

/-- A task is done as well with other keys, if they are the same where it finds its own. -/
theorem Task.Done.of_held {task : Task} {other : Store} {before last : π × ε}
    (done : task.Done provider source mask keys before last)
    (held : ∀ id ∈ task.ids, other.key? id = keys.key? id) :
    task.Done provider source mask other before last := by
  cases done with
  | @made privateId publicId _ _ _ _ privateAsked publicAsked makes privateHeld publicHeld =>
      have privateSame := held (.rsa privateId) (by simp [Task.ids])
      have publicSame := held (.rsa publicId) (by simp [Task.ids])
      rw [key?_rsa_eq_some.2 privateHeld] at privateSame
      rw [key?_rsa_eq_some.2 publicHeld] at publicSame
      exact .made privateAsked publicAsked makes (key?_rsa_eq_some.1 privateSame)
        (key?_rsa_eq_some.1 publicSame) _
  | @drawn id key _ _ asked filled ownHeld =>
      have same := held (.hmac id) (by simp [Task.ids])
      rw [key?_hmac_eq_some.2 ownHeld] at same
      exact .drawn asked filled (key?_hmac_eq_some.1 same) _
  | passed unasked => exact .passed unasked _

/-- What a task does depends on its own bits of the mask. -/
theorem makeTask_congr {task : Task} (same : ∀ id ∈ task.ids, wanted.has id = mask.has id) :
    makeTask provider source wanted task = makeTask provider source mask task := by
  cases task with
  | pair privateId publicId =>
      have privateSame := same (.rsa privateId) (by simp [Task.ids])
      have publicSame := same (.rsa publicId) (by simp [Task.ids])
      simp only [makeTask, generatePair, privateSame, publicSame]
  | secret id =>
      have own := same (.hmac id) (by simp [Task.ids])
      simp only [makeTask, own]

theorem done_of_yields {task : Task} (distinct : task.ids.Nodup)
    (yields : (makeTask provider source mask task).Yields shop () after) :
    task.Done provider source mask after.store shop.supplies after.supplies ∧
      ∀ id, (id ∈ task.ids → mask.has id = false) →
        after.store.key? id = shop.store.key? id := by
  cases task with
  | pair privateId publicId =>
      have apart : privateId ≠ publicId := by simpa [Task.ids] using distinct
      rw [makeTask, generatePair] at yields
      cases privateAsked : mask.has (.rsa privateId) <;>
        cases publicAsked : mask.has (.rsa publicId) <;>
        simp only [privateAsked, publicAsked] at yields
      · obtain ⟨-, rfl⟩ := Op.yields_pure.1 yields
        refine ⟨.passed ?_ _, fun _ _ => rfl⟩
        simp [Task.ids, privateAsked, publicAsked]
      · exact absurd yields Op.not_yields_reject
      · exact absurd yields Op.not_yields_reject
      · obtain ⟨privateKey, publicKey, last, makes, rfl⟩ := yields_onPair.1 yields
        refine ⟨.made privateAsked publicAsked makes (by simp [apart]) (by simp) _, ?_⟩
        intro id unasked
        have notPublic : id ≠ .rsa publicId := by
          rintro rfl
          rw [unasked (by simp [Task.ids])] at publicAsked
          cases publicAsked
        have notPrivate : id ≠ .rsa privateId := by
          rintro rfl
          rw [unasked (by simp [Task.ids])] at privateAsked
          cases privateAsked
        rw [key?_setRsa, if_neg notPublic, key?_setRsa, if_neg notPrivate]
  | secret id =>
      rw [makeTask] at yields
      cases asked : mask.has (.hmac id) with
      | false =>
          rw [asked] at yields
          obtain ⟨-, rfl⟩ := Op.yields_pure.1 yields
          refine ⟨.passed ?_ _, fun _ _ => rfl⟩
          simp [Task.ids, asked]
      | true =>
          rw [asked] at yields
          obtain ⟨key, last, filled, rfl⟩ := yields_onHmacSource.1 yields
          refine ⟨.drawn asked filled (by simp) _, ?_⟩
          intro other unasked
          have apart : other ≠ .hmac id := by
            rintro rfl
            rw [unasked (by simp [Task.ids])] at asked
            cases asked
          rw [key?_setHmac, if_neg apart]

theorem exists_yields_of_done {task : Task} {last : π × ε}
    (done : task.Done provider source mask keys shop.supplies last) :
    ∃ after, (makeTask provider source mask task).Yields shop () after ∧ after.supplies = last ∧
      ∀ id ∈ task.ids, mask.has id = true → after.store.key? id = keys.key? id := by
  generalize start : shop.supplies = before at done
  cases done with
  | @made privateId publicId privateKey publicKey first last privateAsked publicAsked makes
      privateHeld publicHeld entropy =>
      cases start
      refine ⟨⟨(shop.store.setRsa privateId (some privateKey)).setRsa publicId (some publicKey),
        last, shop.entropy⟩, ?_, rfl, ?_⟩
      · rw [makeTask, generatePair, privateAsked, publicAsked]
        exact yields_onPair.2 ⟨privateKey, publicKey, last, makes, rfl⟩
      · intro id member _
        simp only [Task.ids, List.mem_cons, List.not_mem_nil, or_false] at member
        rcases member with rfl | rfl
        · rw [key?_setRsa]
          split
          · next same =>
              cases same
              rw [key?, publicHeld]
          · rw [key?_setRsa, if_pos rfl, key?, privateHeld]
        · rw [key?_setRsa, if_pos rfl, key?, publicHeld]
  | @drawn id key first last asked filled held state =>
      cases start
      refine ⟨⟨shop.store.setHmac id (some key), shop.provider, last⟩, ?_, rfl, ?_⟩
      · rw [makeTask, asked]
        exact yields_onHmacSource.2 ⟨key, last, filled, rfl⟩
      · intro other member _
        rw [Task.ids, List.mem_singleton] at member
        subst member
        rw [key?_setHmac, if_pos rfl, key?, held]
  | passed unasked state =>
      refine ⟨shop, ?_, start, ?_⟩
      · cases task with
        | pair privateId publicId =>
            rw [makeTask, generatePair, unasked (.rsa privateId) (by simp [Task.ids]),
              unasked (.rsa publicId) (by simp [Task.ids])]
            exact Op.yields_pure.2 ⟨rfl, rfl⟩
        | secret id =>
            rw [makeTask, unasked (.hmac id) (by simp [Task.ids])]
            exact Op.yields_pure.2 ⟨rfl, rfl⟩
      · intro id member asked
        rw [unasked id member] at asked
        cases asked

theorem fails_makeTask {task : Task} :
    (makeTask provider source mask task).Fails shop cause ↔
      task.Stops provider source mask shop.supplies cause := by
  constructor
  · intro failed
    cases task with
    | pair privateId publicId =>
        rw [makeTask, generatePair] at failed
        cases privateAsked : mask.has (.rsa privateId) <;>
          cases publicAsked : mask.has (.rsa publicId) <;>
          simp only [privateAsked, publicAsked] at failed
        · cases failed
        · cases failed
          exact .publicAlone privateAsked publicAsked
        · cases failed
          exact .privateAlone privateAsked publicAsked
        · exact .unmade privateAsked publicAsked (fails_onPair.1 failed)
    | secret id =>
        rw [makeTask] at failed
        cases asked : mask.has (.hmac id) with
        | false =>
            rw [asked] at failed
            cases failed
        | true =>
            rw [asked] at failed
            exact .undrawn asked (fails_onHmacSource.1 failed)
  · intro stops
    cases stops with
    | privateAlone asked alone =>
        rw [makeTask, generatePair, asked, alone]
        rfl
    | publicAlone alone asked =>
        rw [makeTask, generatePair, asked, alone]
        rfl
    | unmade privateAsked publicAsked fails =>
        rw [makeTask, generatePair, privateAsked, publicAsked]
        exact fails_onPair.2 fails
    | undrawn asked failed =>
        rw [makeTask, asked]
        exact fails_onHmacSource.2 failed

/-! ## Tasks one after the other -/

/-- Do the tasks of a list, and answer what is wanted besides. -/
def makeTasks (provider : Rsa.Provider π) (source : EntropySource ε) :
    List Task → KeyMask → Op (Workshop π ε) KeyMask
  | [], wanted => return wanted
  | task :: rest, wanted => do
      makeTask provider source wanted task
      makeTasks provider source rest (wanted \ KeyMask.ofIds task.ids)

/-- A mask without the keys of some tasks. -/
def remaining : List Task → KeyMask → KeyMask
  | [], wanted => wanted
  | task :: rest, wanted => remaining rest (wanted \ KeyMask.ofIds task.ids)

theorem bit_remaining (list : List Task) (wanted : KeyMask) (i : Nat) :
    (remaining list wanted).bits.getLsbD i = true ↔
      wanted.bits.getLsbD i = true ∧ ∀ task ∈ list, ∀ id ∈ task.ids, id.code.toNat ≠ i := by
  induction list generalizing wanted with
  | nil => simp [remaining]
  | cons task rest inductionHypothesis =>
      rw [remaining, inductionHypothesis, KeyMask.bit_remove, KeyMask.bit_ofIds,
        List.forall_mem_cons]
      push Not
      exact and_assoc

theorem makeTasks_append (first later : List Task) (wanted : KeyMask) :
    makeTasks provider source (first ++ later) wanted =
      makeTasks provider source first wanted >>= makeTasks provider source later := by
  induction first generalizing wanted with
  | nil => rfl
  | cons task rest inductionHypothesis =>
      rw [List.cons_append, makeTasks, makeTasks, bind_assoc]
      simp only [inductionHypothesis]

section Loop

variable {list : List Task}

/-- The mask that is threaded through the tasks has lost only bits of earlier ones. -/
theorem has_rest {task : Task} {rest : List Task} (apart : ((task :: rest).flatMap Task.ids).Nodup)
    (same : ∀ other ∈ task :: rest, ∀ id ∈ other.ids, wanted.has id = mask.has id) :
    ∀ other ∈ rest, ∀ id ∈ other.ids,
      (wanted \ KeyMask.ofIds task.ids).has id = mask.has id := by
  intro other listed id member
  have notOwn : id ∉ task.ids := by
    intro own
    rw [List.flatMap_cons, List.nodup_append] at apart
    exact apart.2.2 id own id (List.mem_flatMap_of_mem listed member) rfl
  rw [KeyMask.has_remove, KeyMask.has_ofIds, decide_eq_false notOwn,
    same other (List.mem_cons_of_mem task listed) id member]
  simp

theorem along_of_yields (apart : (list.flatMap Task.ids).Nodup)
    (same : ∀ task ∈ list, ∀ id ∈ task.ids, wanted.has id = mask.has id)
    (yields : (makeTasks provider source list wanted).Yields shop rest after) :
    rest = remaining list wanted ∧
      Op.Along (Task.Done provider source mask after.store) list shop.supplies after.supplies ∧
      ∀ id, (∀ task ∈ list, id ∈ task.ids → mask.has id = false) →
        after.store.key? id = shop.store.key? id := by
  induction list generalizing wanted shop with
  | nil =>
      obtain ⟨rfl, rfl⟩ := Op.yields_pure.1 yields
      exact ⟨rfl, .nil _, fun _ _ => rfl⟩
  | cons task later inductionHypothesis =>
      rw [makeTasks, makeTask_congr (List.forall_mem_cons.1 same).1] at yields
      obtain ⟨_, between, first, others⟩ := Op.yields_bind.1 yields
      have split := apart
      rw [List.flatMap_cons, List.nodup_append] at split
      obtain ⟨done, kept⟩ := done_of_yields split.1 first
      obtain ⟨answer, along, keptLater⟩ :=
        inductionHypothesis split.2.1 (has_rest apart same) others
      -- Later tasks write other slots, so what the first one made is still held.
      have held (id : KeyId) (own : id ∈ task.ids) :
          after.store.key? id = between.store.key? id := by
        apply keptLater
        intro other listed member
        exact absurd rfl (split.2.2 id own id (List.mem_flatMap_of_mem listed member))
      refine ⟨answer, .cons (done.of_held held) along, ?_⟩
      intro id unasked
      rw [List.forall_mem_cons] at unasked
      exact (keptLater id unasked.2).trans (kept id unasked.1)

/-- Tasks that can be done are done, and what they make is what was to be made. -/
theorem exists_yields_of_along {last : π × ε} (apart : (list.flatMap Task.ids).Nodup)
    (same : ∀ task ∈ list, ∀ id ∈ task.ids, wanted.has id = mask.has id)
    (along : Op.Along (Task.Done provider source mask keys) list shop.supplies last) :
    ∃ after, (makeTasks provider source list wanted).Yields shop (remaining list wanted) after ∧
      after.supplies = last ∧
      ∀ task ∈ list, ∀ id ∈ task.ids, mask.has id = true →
        after.store.key? id = keys.key? id := by
  induction list generalizing wanted shop with
  | nil =>
      generalize start : shop.supplies = before at along
      cases along
      exact ⟨shop, Op.yields_pure.2 ⟨rfl, rfl⟩, start, by simp⟩
  | cons task later inductionHypothesis =>
      generalize start : shop.supplies = before at along
      cases along with
      | cons done others =>
          subst start
          obtain ⟨between, first, rfl, made⟩ := exists_yields_of_done done
          have split := apart
          rw [List.flatMap_cons, List.nodup_append] at split
          obtain ⟨after, yields, supplies, madeLater⟩ :=
            inductionHypothesis split.2.1 (has_rest apart same) others
          obtain ⟨-, -, kept⟩ := along_of_yields split.2.1 (has_rest apart same) yields
          refine ⟨after, ?_, supplies, List.forall_mem_cons.2 ⟨?_, madeLater⟩⟩
          · rw [makeTasks, makeTask_congr (List.forall_mem_cons.1 same).1]
            exact Op.yields_bind.2 ⟨(), between, first, yields⟩
          · intro id own asked
            rw [← made id own asked]
            apply kept
            intro other listed member
            exact absurd rfl (split.2.2 id own id (List.mem_flatMap_of_mem listed member))

/-- The first task that cannot be done ends the run. -/
theorem fails_makeTasks :
    (makeTasks provider source list wanted).Fails shop cause ↔
      ∃ first task later left between, list = first ++ task :: later ∧
        (makeTasks provider source first wanted).Yields shop left between ∧
        (makeTask provider source left task).Fails between cause := by
  constructor
  · intro failed
    induction list generalizing wanted shop with
    | nil => cases failed
    | cons task later inductionHypothesis =>
        rw [makeTasks] at failed
        rcases Op.fails_bind.1 failed with own | ⟨_, between, done, others⟩
        · exact ⟨[], task, later, wanted, shop, rfl, Op.yields_pure.2 ⟨rfl, rfl⟩, own⟩
        · obtain ⟨first, stopped, behind, left, last, rfl, yields, fails⟩ :=
            inductionHypothesis others
          refine ⟨task :: first, stopped, behind, left, last, rfl, ?_, fails⟩
          rw [makeTasks]
          exact Op.yields_bind.2 ⟨(), between, done, yields⟩
  · rintro ⟨first, task, later, left, between, rfl, yields, fails⟩
    rw [makeTasks_append]
    apply Op.fails_bind.2
    refine .inr ⟨left, between, yields, ?_⟩
    rw [makeTasks]
    exact Op.fails_bind.2 (.inl fails)

end Loop

/-! ## A whole generation -/

theorem generatePairs_eq (pairs : List (RsaKeyId × RsaKeyId)) (wanted : KeyMask) :
    generatePairs provider pairs wanted =
      makeTasks provider source (pairs.map fun pair => .pair pair.1 pair.2) wanted := by
  induction pairs generalizing wanted with
  | nil => rfl
  | cons pair rest inductionHypothesis =>
      rw [generatePairs, List.map_cons, makeTasks]
      simp only [inductionHypothesis]
      rfl

theorem generateHmacs_eq (ids : List HmacKeyId) (wanted : KeyMask) :
    generateHmacs source ids wanted = makeTasks provider source (ids.map .secret) wanted := by
  induction ids generalizing wanted with
  | nil => rfl
  | cons id rest inductionHypothesis =>
      rw [generateHmacs, List.map_cons, makeTasks, Task.ids, KeyMask.ofIds_singleton]
      simp only [inductionHypothesis]
      rfl

theorem generateStaged_eq (provider : Rsa.Provider π) (source : EntropySource ε)
    (mask : KeyMask) :
    generateStaged provider source mask =
      refuseImportOnly mask >>= fun _ =>
        makeTasks provider source tasks mask >>= fun rest =>
          if rest.isEmpty then Op.emit (.generatedKeys mask)
          else Op.reject (.unknownBits rest) (.store (.unknownBits rest)) := by
  have order : tasks = (rsaPairs.map fun pair => .pair pair.1 pair.2) ++
      generatedHmacIds.map .secret := rfl
  have secrets : makeTasks provider source (generatedHmacIds.map .secret) =
      generateHmacs source generatedHmacIds :=
    funext fun wanted => (generateHmacs_eq generatedHmacIds wanted).symm
  rw [order, makeTasks_append, secrets, ← generatePairs_eq, bind_assoc]
  rfl

/-- Every key can only be imported or is made by a task. -/
theorem importOnly_or_task (id : KeyId) :
    id.isImportOnly = true ∨ ∃ task ∈ tasks, id ∈ task.ids := by
  rcases id with id | id <;> cases id <;> decide

theorem remaining_tasks (noRoot : mask.has (.rsa .rootPublic) = false)
    (noWrite : mask.has (.hmac .fileWrite) = false) : remaining tasks mask = mask.unknown := by
  apply KeyMask.ext_bits
  intro i
  rw [bit_remaining, KeyMask.bit_unknown]
  refine and_congr_right fun held => ⟨?_, fun none task _ id _ => none id⟩
  intro none id same
  have asked : mask.has id = true := by rwa [KeyMask.has, same]
  rcases importOnly_or_task id with importOnly | ⟨task, listed, member⟩
  · rw [KeyMask.exportable_iff.2 ⟨noRoot, noWrite⟩ id asked] at importOnly
    cases importOnly
  · exact none task listed id member same

/-- The keys that can only be imported are refused, that of the lower code first. -/
theorem refuseImportOnly_eq {σ : Type} (mask : KeyMask) :
    (refuseImportOnly mask : Op σ Unit) =
      if mask.has (.rsa .rootPublic) then Op.fail (.store (.importOnly (.rsa .rootPublic)))
      else if mask.has (.hmac .fileWrite) then Op.fail (.store (.importOnly (.hmac .fileWrite)))
      else pure () := by
  rw [refuseImportOnly, KeyMask.find?_isImportOnly]
  cases mask.has (.rsa .rootPublic) with
  | true => rfl
  | false =>
      cases mask.has (.hmac .fileWrite) with
      | true => rfl
      | false => rfl

theorem generateStaged_of_rootPublic (asked : mask.has (.rsa .rootPublic) = true) :
    generateStaged provider source mask = Op.fail (.store (.importOnly (.rsa .rootPublic))) := by
  rw [generateStaged_eq, refuseImportOnly_eq, asked]
  rfl

theorem generateStaged_of_fileWrite (noRoot : mask.has (.rsa .rootPublic) = false)
    (asked : mask.has (.hmac .fileWrite) = true) :
    generateStaged provider source mask = Op.fail (.store (.importOnly (.hmac .fileWrite))) := by
  rw [generateStaged_eq, refuseImportOnly_eq, noRoot, asked]
  rfl

theorem generateStaged_of_exportable (noRoot : mask.has (.rsa .rootPublic) = false)
    (noWrite : mask.has (.hmac .fileWrite) = false) :
    generateStaged provider source mask =
      makeTasks provider source tasks mask >>= fun rest =>
        if rest.isEmpty then Op.emit (.generatedKeys mask)
        else Op.reject (.unknownBits rest) (.store (.unknownBits rest)) := by
  rw [generateStaged_eq, refuseImportOnly_eq, noRoot, noWrite]
  exact pure_bind _ _

theorem apart_tasks : (tasks.flatMap Task.ids).Nodup := by decide

theorem yields_generateStaged :
    (generateStaged provider source mask).Yields shop () after ↔
      KeyMask.user.contains mask = true ∧
        (makeTasks provider source tasks mask).Yields shop mask.unknown after := by
  rw [KeyMask.user_contains_iff, KeyMask.exportable_iff]
  cases root : mask.has (.rsa .rootPublic) with
  | true => simp [generateStaged_of_rootPublic root]
  | false =>
      cases write : mask.has (.hmac .fileWrite) with
      | true => simp [generateStaged_of_fileWrite root write]
      | false =>
          rw [generateStaged_of_exportable root write, Op.yields_bind]
          constructor
          · rintro ⟨rest, between, made, ended⟩
            obtain ⟨rfl, -, -⟩ := along_of_yields apart_tasks (fun _ _ _ _ => rfl) made
            rw [remaining_tasks root write] at made ended
            split at ended
            · next known =>
                obtain rfl := Op.yields_emit.1 ended
                exact ⟨⟨⟨rfl, rfl⟩, known⟩, made⟩
            · exact absurd ended Op.not_yields_reject
          · rintro ⟨⟨-, known⟩, made⟩
            refine ⟨mask.unknown, after, made, ?_⟩
            rw [if_pos known]
            exact Op.yields_emit.2 rfl

/-- The tasks in front of another one make other keys, so behind them it is wanted as before. -/
theorem apart_of_order {first later : List Task} {task : Task}
    (order : tasks = first ++ task :: later) :
    (first.flatMap Task.ids).Nodup ∧
      ∀ id ∈ task.ids, (remaining first mask).has id = mask.has id := by
  have apart := apart_tasks
  rw [order, List.flatMap_append, List.nodup_append] at apart
  refine ⟨apart.1, ?_⟩
  intro id own
  apply Bool.eq_iff_iff.2
  refine (bit_remaining first mask _).trans (and_iff_left ?_)
  intro other listed earlier member same
  have equal : earlier = id := KeyId.code_injective (UInt8.toNat_inj.1 same)
  apply apart.2.2 earlier (List.mem_flatMap_of_mem listed member) id _ equal
  exact List.mem_flatMap_of_mem List.mem_cons_self own

/-- The tasks fail at the first that cannot be done. -/
theorem fails_tasks :
    (makeTasks provider source tasks mask).Fails shop cause ↔
      ∃ first task later keys between, tasks = first ++ task :: later ∧
        Op.Along (Task.Done provider source mask keys) first shop.supplies between ∧
        task.Stops provider source mask between cause := by
  rw [fails_makeTasks]
  constructor
  · rintro ⟨first, task, later, left, between, order, made, failed⟩
    obtain ⟨apart, wanted⟩ := apart_of_order order
    obtain ⟨rfl, along, -⟩ := along_of_yields apart (fun _ _ _ _ => rfl) made
    rw [makeTask_congr wanted] at failed
    exact ⟨first, task, later, between.store, between.supplies, order, along,
      fails_makeTask.1 failed⟩
  · rintro ⟨first, task, later, keys, between, order, along, stops⟩
    obtain ⟨apart, wanted⟩ := apart_of_order order
    obtain ⟨last, made, rfl, -⟩ := exists_yields_of_along apart (fun _ _ _ _ => rfl) along
    refine ⟨first, task, later, _, last, order, made, ?_⟩
    rw [makeTask_congr wanted]
    exact fails_makeTask.2 stops

theorem fails_generateStaged :
    (generateStaged provider source mask).Fails shop cause ↔
      GenerateFails provider source mask shop cause := by
  constructor
  · intro failed
    cases root : mask.has (.rsa .rootPublic) with
    | true =>
        rw [generateStaged_of_rootPublic root] at failed
        cases failed
        exact .rootPublic root
    | false =>
        cases write : mask.has (.hmac .fileWrite) with
        | true =>
            rw [generateStaged_of_fileWrite root write] at failed
            cases failed
            exact .fileWrite root write
        | false =>
            rw [generateStaged_of_exportable root write] at failed
            rcases Op.fails_bind.1 failed with stopped | ⟨rest, last, made, ended⟩
            · obtain ⟨first, task, later, keys, between, order, along, stops⟩ :=
                fails_tasks.1 stopped
              exact .task root write order along stops
            · obtain ⟨rfl, along, -⟩ := along_of_yields apart_tasks (fun _ _ _ _ => rfl) made
              rw [remaining_tasks root write] at ended
              split at ended
              · cases ended
              · next known =>
                  cases ended
                  exact .unknownBits root write along (KeyMask.bit_unknown mask)
                    (KeyMask.not_isEmpty_iff.1 known)
  · intro failure
    cases failure with
    | rootPublic asked =>
        rw [generateStaged_of_rootPublic asked]
        rfl
    | fileWrite noRoot asked =>
        rw [generateStaged_of_fileWrite noRoot asked]
        rfl
    | task noRoot noWrite order along stops =>
        rw [generateStaged_of_exportable noRoot noWrite]
        exact Op.fails_bind.2 (.inl (fails_tasks.2 ⟨_, _, _, _, _, order, along, stops⟩))
    | @unknownBits keys supplies rest noRoot noWrite along left some =>
        obtain ⟨last, made, -, -⟩ :=
          exists_yields_of_along apart_tasks (fun _ _ _ _ => rfl) along
        rw [remaining_tasks noRoot noWrite] at made
        rw [generateStaged_of_exportable noRoot noWrite]
        refine Op.fails_bind.2 (.inr ⟨mask.unknown, last, made, ?_⟩)
        rw [KeyMask.unknown_eq left, if_neg (KeyMask.not_isEmpty_iff.2 some)]
        rfl

/-- A task of a pair is done only if both halves are asked for or none is. -/
theorem Task.Done.paired {privateId publicId : RsaKeyId} {before last : π × ε}
    (done : Task.Done provider source mask keys (.pair privateId publicId) before last) :
    mask.has (.rsa privateId) = mask.has (.rsa publicId) := by
  cases done with
  | made privateAsked publicAsked => rw [privateAsked, publicAsked]
  | passed unasked =>
      rw [unasked (.rsa privateId) (by simp [Task.ids]),
        unasked (.rsa publicId) (by simp [Task.ids])]

/-- The tasks of a mask of exportable keys are done if they can be, only bits of no key are left,
and a key that was asked for is one of those that are made. -/
theorem exists_makeTasks_of_user (allowed : KeyMask.user.contains mask = true) {last : π × ε}
    (along : Op.Along (Task.Done provider source mask keys) tasks shop.supplies last) :
    ∃ after, (makeTasks provider source tasks mask).Yields shop mask.unknown after ∧
      after.supplies = last ∧
      ∀ id, mask.has id = true → after.store.key? id = keys.key? id := by
  obtain ⟨exportable, -⟩ := KeyMask.user_contains_iff.1 allowed
  obtain ⟨noRoot, noWrite⟩ := KeyMask.exportable_iff.1 exportable
  obtain ⟨after, yields, supplies, made⟩ :=
    exists_yields_of_along apart_tasks (fun _ _ _ _ => rfl) along
  rw [remaining_tasks noRoot noWrite] at yields
  refine ⟨after, yields, supplies, ?_⟩
  intro id asked
  rcases importOnly_or_task id with importOnly | ⟨task, listed, member⟩
  · rw [exportable id asked] at importOnly
    cases importOnly
  · exact made task listed id member asked

/-- A generation succeeds exactly if the mask has no other bits than those of keys that users hold
and every task can be done in its turn, a pair only with both halves or neither; then the store
holds what the tasks made, and every other key as before.  It fails for the first of the reasons
that are listed, and then the store is as it was. -/
theorem generate_allOrNothing (provider : Rsa.Provider π) (source : EntropySource ε)
    (mask : KeyMask) (shop : Workshop π ε) :
    tasks.flatMap (fun task => task.ids.map KeyId.code) = [0, 1, 2, 3, 4, 5, 6, 7, 10, 11, 12] ∧
    ((∃ after, (generate provider source mask).Yields shop () after) ↔
      KeyMask.user.contains mask = true ∧
        ∃ keys last, Op.Along (Task.Done provider source mask keys) tasks shop.supplies last) ∧
    (∀ after, (generate provider source mask).Yields shop () after ↔
      KeyMask.user.contains mask = true ∧
        mask.has (.rsa .signPrivate) = mask.has (.rsa .signPublic) ∧
        mask.has (.rsa .encryptPrivate) = mask.has (.rsa .encryptPublic) ∧
        Op.Along (Task.Done provider source mask after.store) tasks shop.supplies
          after.supplies ∧
        ∀ id, mask.has id = false → after.store.key? id = shop.store.key? id) ∧
    (∀ cause, (generate provider source mask).Fails shop cause ↔
      GenerateFails provider source mask shop cause) ∧
    ∀ cause, (generate provider source mask).Fails shop cause →
      (generate provider source mask shop).state.store = shop.store := by
  refine ⟨rfl, ?_, ?_, ?_, ?_⟩
  · simp only [generate, Op.yields_orElseUndo, yields_generateStaged, exists_and_left]
    refine and_congr_right fun allowed => ⟨?_, ?_⟩
    · rintro ⟨after, made⟩
      obtain ⟨-, along, -⟩ := along_of_yields apart_tasks (fun _ _ _ _ => rfl) made
      exact ⟨after.store, after.supplies, along⟩
    · rintro ⟨keys, last, along⟩
      obtain ⟨after, made, -, -⟩ := exists_makeTasks_of_user allowed along
      exact ⟨after, made⟩
  · intro after
    rw [generate, Op.yields_orElseUndo, yields_generateStaged]
    constructor
    · rintro ⟨allowed, yields⟩
      obtain ⟨-, along, kept⟩ := along_of_yields apart_tasks (fun _ _ _ _ => rfl) yields
      obtain ⟨_, _, sign⟩ := along.exists_step (List.mem_cons_self)
      obtain ⟨_, _, encrypt⟩ := along.exists_step (List.mem_cons_of_mem _ List.mem_cons_self)
      refine ⟨allowed, sign.paired, encrypt.paired, along, ?_⟩
      intro id unasked
      exact kept id fun _ _ _ => unasked
    · rintro ⟨allowed, -, -, along, kept⟩
      obtain ⟨last, yields, supplies, made⟩ := exists_makeTasks_of_user allowed along
      obtain ⟨-, -, others⟩ := along_of_yields apart_tasks (fun _ _ _ _ => rfl) yields
      have sameStore : last.store = after.store := by
        apply ext_key?
        intro id
        cases asked : mask.has id with
        | true => exact made id asked
        | false => exact (others id fun _ _ _ => asked).trans (kept id asked).symm
      have same : last = after := by
        rcases last with ⟨store, provider, entropy⟩
        rcases after with ⟨otherStore, otherProvider, otherEntropy⟩
        cases sameStore
        cases supplies
        rfl
      exact ⟨allowed, same ▸ yields⟩
  · intro cause
    rw [generate, Op.fails_orElseUndo, fails_generateStaged]
  · intro cause failed
    rw [generate, Op.orElseUndo_state_of_fails failed]

end Store

end Keyring
