/-
Module: Keyring.Proofs.Slots
Purpose: Slots through any sequence of calls.  A call that succeeds writes all slots that it is for,
  and no other; a call that fails writes none.  So a slot holds what the last successful call for it
  has left there, or what it held at the start.
Main exports: Bench, Call, Call.run, Call.targets, Call.Leaves, Call.Ends, Call.ends, Call.key?_run,
  Call.runAll, Call.Spares, Call.key?_runAll, Call.slots_hold_last
-/
import Mathlib.Logic.Function.Basic
import Keyring.Proofs.Store.Generate
import Keyring.Proofs.Store.Reachable

namespace Keyring

variable {ρ η π ε : Type}

/-! ## Slots and calls -/

/-- The slots of a caller, each under a name of its own, and the states of the provider of RSA keys
and of the source of random bytes. -/
structure Bench (ρ η π ε : Type) where
  rsa : ρ → Slot RsaKey
  hmac : η → Slot HmacKey
  provider : π
  entropy : ε

namespace Bench

/-- The key in a slot of either kind. -/
def key? (bench : Bench ρ η π ε) : ρ ⊕ η → Option Key
  | .inl slot => (bench.rsa slot).map .rsa
  | .inr slot => (bench.hmac slot).map .hmac

/-- The keys are those of the slots, whatever the states of the provider and of the source. -/
theorem key?_congr {one two : Bench ρ η π ε} (rsa : one.rsa = two.rsa)
    (hmac : one.hmac = two.hmac) : one.key? = two.key? := by
  funext place
  rcases place with place | place
  · rw [key?, key?, rsa]
  · rw [key?, key?, hmac]

end Bench

/-- A call on slots.  A caller cannot hand out one slot as both slots of a pair. -/
inductive Call (ρ η : Type) where
  | importRsa (half : Half) (slot : ρ) (blob : Bytes)
  | importHmac (slot : η) (blob : Bytes)
  | generateRsa (privateSlot publicSlot : ρ) (apart : privateSlot ≠ publicSlot)
  | generateHmac (slot : η)
  | exportRsa (half : Half) (slot : ρ) (out : Option Bytes)
  | exportHmac (slot : η) (out : Option Bytes)
  | freeRsa (slot : ρ)
  | freeHmac (slot : η)

namespace Call

/-- The slots that a call is to write. -/
def targets : Call ρ η → List (ρ ⊕ η)
  | .importRsa _ slot _ => [.inl slot]
  | .importHmac slot _ => [.inr slot]
  | .generateRsa privateSlot publicSlot _ => [.inl privateSlot, .inl publicSlot]
  | .generateHmac slot => [.inr slot]
  | .exportRsa _ _ _ => []
  | .exportHmac _ _ => []
  | .freeRsa slot => [.inl slot]
  | .freeHmac slot => [.inr slot]

variable (provider : Rsa.Provider π) (source : EntropySource ε)

/-- What a successful call leaves in a slot that it is for: the key that the blob stands for, the
keys of the pair that was made, the secret that was drawn, or nothing. -/
inductive Leaves (bench : Bench ρ η π ε) : Call ρ η → ρ ⊕ η → Option Key → Prop where
  | importedRsa {half : Half} {slot : ρ} {blob : Bytes} {key : RsaKey}
      (isBlob : Rsa.IsBlob half blob key) :
      Leaves bench (.importRsa half slot blob) (.inl slot) (some (.rsa key))
  | importedHmac {slot : η} {blob : Bytes} {key : HmacKey} (same : key.bytes = blob) :
      Leaves bench (.importHmac slot blob) (.inr slot) (some (.hmac key))
  | madePrivate {privateSlot publicSlot : ρ} {apart : privateSlot ≠ publicSlot}
      {privateKey publicKey : RsaKey} {after : π}
      (makes : Rsa.MakesPair provider bench.provider privateKey publicKey after) :
      Leaves bench (.generateRsa privateSlot publicSlot apart) (.inl privateSlot)
        (some (.rsa privateKey))
  | madePublic {privateSlot publicSlot : ρ} {apart : privateSlot ≠ publicSlot}
      {privateKey publicKey : RsaKey} {after : π}
      (makes : Rsa.MakesPair provider bench.provider privateKey publicKey after) :
      Leaves bench (.generateRsa privateSlot publicSlot apart) (.inl publicSlot)
        (some (.rsa publicKey))
  | drawn {slot : η} {key : HmacKey} {after : ε}
      (filled : (source.fill 32).Yields bench.entropy ⟨key.bytes, key.length_bytes⟩ after) :
      Leaves bench (.generateHmac slot) (.inr slot) (some (.hmac key))
  | freedRsa (slot : ρ) : Leaves bench (.freeRsa slot) (.inl slot) none
  | freedHmac (slot : η) : Leaves bench (.freeHmac slot) (.inr slot) none

namespace Leaves

variable {provider source} {bench : Bench ρ η π ε} {call : Call ρ η} {place : ρ ⊕ η}
  {content other : Option Key}

theorem mem_targets (leaves : call.Leaves provider source bench place content) :
    place ∈ call.targets := by
  cases leaves <;> simp [targets]

/-- A call leaves one key in a slot. -/
theorem unique (one : call.Leaves provider source bench place content)
    (two : call.Leaves provider source bench place other) : content = other := by
  have samePair {privateKey publicKey privateToo publicToo : RsaKey} {after last : π}
      (first : Rsa.MakesPair provider bench.provider privateKey publicKey after)
      (second : Rsa.MakesPair provider bench.provider privateToo publicToo last) :
      privateKey = privateToo ∧ publicKey = publicToo :=
    Prod.mk.inj ((Rsa.yields_generatePair_iff.2 first).unique
      (Rsa.yields_generatePair_iff.2 second)).1
  cases one with
  | importedRsa isBlob =>
      cases two with
      | importedRsa otherBlob => rw [isBlob.unique otherBlob]
  | importedHmac same =>
      cases two with
      | importedHmac otherSame =>
          have found := HmacKey.ofBytes?_eq_some.2 same
          rw [HmacKey.ofBytes?_eq_some.2 otherSame] at found
          rw [Option.some.inj found]
  | @madePrivate _ _ apart _ _ _ makes =>
      cases two with
      | madePrivate others => rw [(samePair makes others).1]
      | madePublic => exact absurd rfl apart
  | @madePublic _ _ apart _ _ _ makes =>
      cases two with
      | madePrivate => exact absurd rfl apart
      | madePublic others => rw [(samePair makes others).2]
  | drawn filled =>
      cases two with
      | drawn others =>
          have same := ((Hmac.yields_generate.2 filled).unique (Hmac.yields_generate.2 others)).1
          rw [same]
  | freedRsa =>
      cases two
      rfl
  | freedHmac =>
      cases two
      rfl

end Leaves

end Call

variable [DecidableEq ρ] [DecidableEq η]

namespace Bench

variable {α : Type}

/-- Run an operation on one slot of an RSA key. -/
def onRsa (slot : ρ) (op : Op (Slot RsaKey) α) : Op (Bench ρ η π ε) α :=
  Op.inside (fun bench => bench.rsa slot)
    (fun held bench => { bench with rsa := Function.update bench.rsa slot held }) op

/-- Run an operation on one slot of an HMAC key. -/
def onHmac (slot : η) (op : Op (Slot HmacKey) α) : Op (Bench ρ η π ε) α :=
  Op.inside (fun bench => bench.hmac slot)
    (fun held bench => { bench with hmac := Function.update bench.hmac slot held }) op

/-- Run an operation on the two slots of a pair and on the provider. -/
def onPair (privateSlot publicSlot : ρ) (op : Op (Rsa.RsaPair × π) α) : Op (Bench ρ η π ε) α :=
  Op.inside (fun bench => (⟨bench.rsa privateSlot, bench.rsa publicSlot⟩, bench.provider))
    (fun (held, provider) bench =>
      { bench with
        rsa := Function.update (Function.update bench.rsa privateSlot held.privateSlot) publicSlot
          held.publicSlot
        provider })
    op

/-- Run an operation on one slot of an HMAC key and on the source of random bytes. -/
def onSource (slot : η) (op : Op (Slot HmacKey × ε) α) : Op (Bench ρ η π ε) α :=
  Op.inside (fun bench => (bench.hmac slot, bench.entropy))
    (fun (held, entropy) bench =>
      { bench with hmac := Function.update bench.hmac slot held, entropy })
    op

theorem key?_update_rsa (rsa : ρ → Slot RsaKey) (hmac : η → Slot HmacKey) (provider : π)
    (entropy : ε) (slot : ρ) (held : Slot RsaKey) (place : ρ ⊕ η) :
    (⟨Function.update rsa slot held, hmac, provider, entropy⟩ : Bench ρ η π ε).key? place =
      if place = .inl slot then held.map .rsa
      else (⟨rsa, hmac, provider, entropy⟩ : Bench ρ η π ε).key? place := by
  rcases place with place | place
  · simp only [key?, Function.update_apply, Sum.inl.injEq]
    split <;> rfl
  · simp [key?]

theorem key?_update_hmac (rsa : ρ → Slot RsaKey) (hmac : η → Slot HmacKey) (provider : π)
    (entropy : ε) (slot : η) (held : Slot HmacKey) (place : ρ ⊕ η) :
    (⟨rsa, Function.update hmac slot held, provider, entropy⟩ : Bench ρ η π ε).key? place =
      if place = .inr slot then held.map .hmac
      else (⟨rsa, hmac, provider, entropy⟩ : Bench ρ η π ε).key? place := by
  rcases place with place | place
  · simp [key?]
  · simp only [key?, Function.update_apply, Sum.inr.injEq]
    split <;> rfl

end Bench

namespace Call

/-- Carry out a call. -/
def run (provider : Rsa.Provider π) (source : EntropySource ε) :
    Call ρ η → Op (Bench ρ η π ε) Unit
  | .importRsa half slot blob => Bench.onRsa slot (Rsa.importHalf half blob)
  | .importHmac slot blob => Bench.onHmac slot (Hmac.importKey blob)
  | .generateRsa privateSlot publicSlot _ =>
      Bench.onPair privateSlot publicSlot (Rsa.generateInto provider)
  | .generateHmac slot => Bench.onSource slot (Hmac.generateInto source)
  | .exportRsa half slot out => do
      let bench ← Op.get
      let _ ← Op.within out (Rsa.exportHalf half (bench.rsa slot))
  | .exportHmac slot out => do
      let bench ← Op.get
      let _ ← Op.within out (Hmac.exportKey (bench.hmac slot))
  | .freeRsa slot => Bench.onRsa slot Slot.free
  | .freeHmac slot => Bench.onHmac slot Slot.free

variable (provider : Rsa.Provider π) (source : EntropySource ε)

/-- The call succeeds when it is made with the given slots and states. -/
def Succeeds (bench : Bench ρ η π ε) (call : Call ρ η) : Prop :=
  (call.run provider source bench).result = .ok ()

/-- How a call ends: it fails and changes no slot, or it succeeds, writes all slots that it is for,
and changes no other. -/
inductive Ends (bench : Bench ρ η π ε) (call : Call ρ η) : Prop where
  | failed (cause : KeyError) (failed : (call.run provider source).Fails bench cause)
      (rsa : (call.run provider source bench).state.rsa = bench.rsa)
      (hmac : (call.run provider source bench).state.hmac = bench.hmac) : Ends bench call
  | done (succeeds : call.Succeeds provider source bench)
      (written : ∀ place ∈ call.targets,
        call.Leaves provider source bench place ((call.run provider source bench).state.key? place))
      (kept : ∀ place, place ∉ call.targets →
        (call.run provider source bench).state.key? place = bench.key? place) : Ends bench call

/-! ## What each call does -/

section Runs

variable (bench : Bench ρ η π ε)

theorem run_importRsa {half : Half} {blob : Bytes} {key : RsaKey}
    (isBlob : Rsa.IsBlob half blob key) (slot : ρ) :
    (Call.importRsa half slot blob).run provider source bench =
      ⟨.ok (), { bench with rsa := Function.update bench.rsa slot (some key) },
        [.importedRsa half key.summary]⟩ := by
  rw [run, Bench.onRsa, Op.inside, Rsa.importHalf_of_isBlob isBlob]

theorem run_importHmac {blob : Bytes} {key : HmacKey} (same : key.bytes = blob) (slot : η) :
    (Call.importHmac slot blob).run provider source bench =
      ⟨.ok (), { bench with hmac := Function.update bench.hmac slot (some key) },
        [.importedHmac]⟩ := by
  rw [run, Bench.onHmac, Op.inside, Hmac.importKey, HmacKey.ofBytes?_eq_some.2 same]
  rfl

/-- Both slots of a pair are written, or none is. -/
theorem run_generateRsa (privateSlot publicSlot : ρ) (apart : privateSlot ≠ publicSlot) :
    (Call.generateRsa privateSlot publicSlot apart).run provider source bench =
      match Rsa.generatePair provider bench.provider with
      | ⟨.error cause, last, log⟩ => ⟨.error cause, { bench with provider := last }, log⟩
      | ⟨.ok (privateKey, publicKey), last, log⟩ =>
          ⟨.ok (), { bench with
            rsa := Function.update (Function.update bench.rsa privateSlot (some privateKey))
              publicSlot (some publicKey)
            provider := last }, log⟩ := by
  rw [run, Bench.onPair, Op.inside, Rsa.generateInto_apply]
  rcases Rsa.generatePair provider bench.provider with ⟨cause | ⟨privateKey, publicKey⟩, last, log⟩
  · dsimp only
    rw [Function.update_eq_self, Function.update_eq_self]
  · rfl

theorem run_generateHmac (slot : η) :
    (Call.generateHmac slot).run provider source bench =
      match Hmac.generate source bench.entropy with
      | ⟨.error cause, last, log⟩ => ⟨.error cause, { bench with entropy := last }, log⟩
      | ⟨.ok key, last, log⟩ =>
          ⟨.ok (), { bench with
            hmac := Function.update bench.hmac slot (some key), entropy := last }, log⟩ := by
  rw [run, Bench.onSource, Op.inside, Hmac.generateInto_apply]
  rcases Hmac.generate source bench.entropy with ⟨cause | key, last, log⟩
  · dsimp only
    rw [Function.update_eq_self]
  · rfl

theorem run_exportRsa (half : Half) (slot : ρ) (out : Option Bytes) :
    (Call.exportRsa half slot out).run provider source bench =
      ⟨(Rsa.exportHalf half (bench.rsa slot) out).result.map fun _ => (), bench,
        (Rsa.exportHalf half (bench.rsa slot) out).log⟩ :=
  Op.within_unit_apply _ out bench

theorem run_exportHmac (slot : η) (out : Option Bytes) :
    (Call.exportHmac slot out).run provider source bench =
      ⟨(Hmac.exportKey (bench.hmac slot) out).result.map fun _ => (), bench,
        (Hmac.exportKey (bench.hmac slot) out).log⟩ :=
  Op.within_unit_apply _ out bench

/-- A pair is made and both of its slots hold it, or none is made and no slot changes. -/
theorem pair_or_neither (privateSlot publicSlot : ρ) (apart : privateSlot ≠ publicSlot) :
    (∃ privateKey publicKey last,
      Rsa.MakesPair provider bench.provider privateKey publicKey last ∧
        ((Call.generateRsa privateSlot publicSlot apart).run provider source).Yields bench ()
          { bench with
            rsa := Function.update (Function.update bench.rsa privateSlot (some privateKey))
              publicSlot (some publicKey)
            provider := last }) ∨
    ∃ cause last, Rsa.PairFails provider bench.provider cause ∧
      ((Call.generateRsa privateSlot publicSlot apart).run provider source).Fails bench cause ∧
      ((Call.generateRsa privateSlot publicSlot apart).run provider source bench).state =
        { bench with provider := last } := by
  have ran := run_generateRsa provider source bench privateSlot publicSlot apart
  rcases made : Rsa.generatePair provider bench.provider with
    ⟨cause | ⟨privateKey, publicKey⟩, last, log⟩
  · rw [made] at ran
    refine .inr ⟨cause, last, ?_, ?_, ?_⟩
    · rw [← Rsa.fails_generatePair_iff, Op.Fails, made]
    · rw [Op.Fails, ran]
    · rw [ran]
  · rw [made] at ran
    refine .inl ⟨privateKey, publicKey, last, ?_, ?_⟩
    · rw [← Rsa.yields_generatePair_iff, Op.Yields, made]
      exact ⟨rfl, rfl⟩
    · rw [Op.Yields, ran]
      exact ⟨rfl, rfl⟩

end Runs

/-! ## How a call ends -/

section Endings

variable {provider source} {bench : Bench ρ η π ε} {call : Call ρ η} {log : List Event}

/-- A failure may move the provider and the source on. -/
theorem Ends.of_error {cause : KeyError} {state : π} {entropy : ε}
    (ran : call.run provider source bench =
      ⟨.error cause, ⟨bench.rsa, bench.hmac, state, entropy⟩, log⟩) :
    Ends provider source bench call :=
  .failed cause (by rw [Op.Fails, ran]) (by rw [ran]) (by rw [ran])

theorem Ends.of_rsa {slot : ρ} {held : Slot RsaKey} (own : call.targets = [.inl slot])
    (ran : call.run provider source bench =
      ⟨.ok (), { bench with rsa := Function.update bench.rsa slot held }, log⟩)
    (leaves : call.Leaves provider source bench (.inl slot) (held.map .rsa)) :
    Ends provider source bench call := by
  refine .done (by rw [Succeeds, ran]) ?_ ?_
  · rintro place listed
    rw [own, List.mem_singleton] at listed
    rw [ran, listed, Bench.key?_update_rsa, if_pos rfl]
    exact leaves
  · intro place apart
    rw [own, List.mem_singleton] at apart
    rw [ran, Bench.key?_update_rsa, if_neg apart]

theorem Ends.of_hmac {slot : η} {held : Slot HmacKey} {entropy : ε}
    (own : call.targets = [.inr slot])
    (ran : call.run provider source bench =
      ⟨.ok (), { bench with hmac := Function.update bench.hmac slot held, entropy }, log⟩)
    (leaves : call.Leaves provider source bench (.inr slot) (held.map .hmac)) :
    Ends provider source bench call := by
  refine .done (by rw [Succeeds, ran]) ?_ ?_
  · rintro place listed
    rw [own, List.mem_singleton] at listed
    rw [ran, listed, Bench.key?_update_hmac, if_pos rfl]
    exact leaves
  · intro place apart
    rw [own, List.mem_singleton] at apart
    rw [ran, Bench.key?_update_hmac, if_neg apart]
    exact congrFun (Bench.key?_congr rfl rfl) place

theorem Ends.of_looking {result : Except KeyError Unit} (own : call.targets = [])
    (ran : call.run provider source bench = ⟨result, bench, log⟩) :
    Ends provider source bench call := by
  cases result with
  | error cause => exact .of_error ran
  | ok =>
      refine .done (by rw [Succeeds, ran]) ?_ fun place _ => by rw [ran]
      intro place listed
      rw [own] at listed
      cases listed

theorem ends_importRsa (half : Half) (slot : ρ) (blob : Bytes) :
    Ends provider source bench (.importRsa half slot blob) := by
  by_cases good : ∃ key, Rsa.IsBlob half blob key
  · obtain ⟨key, isBlob⟩ := good
    exact .of_rsa rfl (run_importRsa _ _ bench isBlob slot) (.importedRsa isBlob)
  · obtain ⟨cause, log, refused⟩ := Rsa.importHalf_refused good
    have ran : (Call.importRsa half slot blob).run provider source bench =
        ⟨.error cause, bench, log⟩ := by
      rw [run, Bench.onRsa, Op.inside, refused, Function.update_eq_self]
    exact .of_error ran

theorem ends_importHmac (slot : η) (blob : Bytes) :
    Ends provider source bench (.importHmac slot blob) := by
  cases found : HmacKey.ofBytes? blob with
  | some key =>
      have same := HmacKey.ofBytes?_eq_some.1 found
      exact .of_hmac rfl (run_importHmac _ _ bench same slot) (.importedHmac same)
  | none =>
      have ran : (Call.importHmac slot blob).run provider source bench =
          ⟨.error (.format (.hmacLength blob.length)), bench, [.hmacLength blob.length]⟩ := by
        rw [run, Bench.onHmac, Op.inside, Hmac.importKey, found]
        dsimp only [Op.reject_apply]
        rw [Function.update_eq_self]
      exact .of_error ran

theorem ends_generateHmac (slot : η) : Ends provider source bench (.generateHmac slot) := by
  have ran := run_generateHmac provider source bench slot
  rcases drawn : Hmac.generate source bench.entropy with ⟨cause | key, last, log⟩
  · rw [drawn] at ran
    exact .of_error ran
  · rw [drawn] at ran
    have filled : (source.fill 32).Yields bench.entropy ⟨key.bytes, key.length_bytes⟩ last := by
      rw [← Hmac.yields_generate, Op.Yields, drawn]
      exact ⟨rfl, rfl⟩
    exact .of_hmac rfl ran (.drawn filled)

theorem ends_generateRsa (privateSlot publicSlot : ρ) (apart : privateSlot ≠ publicSlot) :
    Ends provider source bench (.generateRsa privateSlot publicSlot apart) := by
  rcases pair_or_neither provider source bench privateSlot publicSlot apart with
    ⟨privateKey, publicKey, last, makes, succeeds, left⟩ | ⟨cause, last, -, failed, left⟩
  · refine .done succeeds ?_ ?_
    · intro place listed
      simp only [targets, List.mem_cons, List.not_mem_nil, or_false] at listed
      rw [left, Bench.key?_update_rsa, Bench.key?_update_rsa]
      rcases listed with rfl | rfl
      · rw [if_neg (by simpa using apart), if_pos rfl]
        exact .madePrivate makes
      · rw [if_pos rfl]
        exact .madePublic makes
    · intro place other
      simp only [targets, List.mem_cons, List.not_mem_nil, or_false, not_or] at other
      rw [left, Bench.key?_update_rsa, if_neg other.2, Bench.key?_update_rsa, if_neg other.1]
      exact congrFun (Bench.key?_congr rfl rfl) place
  · exact .failed cause failed (by rw [left]) (by rw [left])

end Endings

variable {provider source}

theorem ends (bench : Bench ρ η π ε) (call : Call ρ η) : Ends provider source bench call := by
  cases call with
  | importRsa half slot blob => exact ends_importRsa half slot blob
  | importHmac slot blob => exact ends_importHmac slot blob
  | generateRsa privateSlot publicSlot apart => exact ends_generateRsa privateSlot publicSlot apart
  | generateHmac slot => exact ends_generateHmac slot
  | exportRsa half slot out => exact .of_looking rfl (run_exportRsa _ _ bench half slot out)
  | exportHmac slot out => exact .of_looking rfl (run_exportHmac _ _ bench slot out)
  | freeRsa slot => exact .of_rsa rfl rfl (.freedRsa slot)
  | freeHmac slot => exact .of_hmac rfl rfl (.freedHmac slot)

variable {bench start : Bench ρ η π ε} {call : Call ρ η} {place : ρ ⊕ η} {content : Option Key}

namespace Leaves

theorem succeeds (leaves : call.Leaves provider source bench place content) :
    call.Succeeds provider source bench := by
  have ofPair {privateSlot publicSlot : ρ} {apart : privateSlot ≠ publicSlot}
      {privateKey publicKey : RsaKey} {after : π}
      (makes : Rsa.MakesPair provider bench.provider privateKey publicKey after) :
      (Call.generateRsa privateSlot publicSlot apart).Succeeds provider source bench := by
    obtain ⟨log, made⟩ := (Rsa.yields_generatePair_iff.2 makes).exists_log
    rw [Succeeds, run_generateRsa, made]
  cases leaves with
  | importedRsa isBlob => rw [Succeeds, run_importRsa _ _ bench isBlob]
  | importedHmac same => rw [Succeeds, run_importHmac _ _ bench same]
  | madePrivate makes => exact ofPair makes
  | madePublic makes => exact ofPair makes
  | drawn filled =>
      obtain ⟨log, drawn⟩ := (Hmac.yields_generate.2 filled).exists_log
      rw [Succeeds, run_generateHmac, drawn]
  | freedRsa => rfl
  | freedHmac => rfl

end Leaves

/-- A slot holds after a call what the call has left there, or what it held before if the call was
not for it or has failed. -/
theorem key?_run (call : Call ρ η) (bench : Bench ρ η π ε) (place : ρ ⊕ η) (content : Option Key) :
    (call.run provider source bench).state.key? place = content ↔
      call.Leaves provider source bench place content ∨
        bench.key? place = content ∧
          (place ∈ call.targets → ¬ call.Succeeds provider source bench) := by
  have ended : Ends provider source bench call := ends bench call
  constructor
  · rintro rfl
    cases ended with
    | failed cause failed rsa hmac =>
        refine .inr ⟨?_, fun _ succeeds => ?_⟩
        · rw [Bench.key?_congr rsa hmac]
        · cases succeeds.symm.trans failed
    | done succeeds written kept =>
        by_cases own : place ∈ call.targets
        · exact .inl (written place own)
        · exact .inr ⟨(kept place own).symm, fun listed => absurd listed own⟩
  · rintro (leaves | ⟨rfl, spared⟩)
    · cases ended with
      | failed cause failed => cases leaves.succeeds.symm.trans failed
      | done _ written => exact (written place leaves.mem_targets).unique leaves
    · cases ended with
      | failed cause failed rsa hmac => rw [Bench.key?_congr rsa hmac]
      | done succeeds _ kept => exact kept place fun own => spared own succeeds

/-! ## Any number of calls -/

/-- Carry out calls one after the other, whatever becomes of each. -/
def runAll (provider : Rsa.Provider π) (source : EntropySource ε) :
    List (Call ρ η) → Bench ρ η π ε → Bench ρ η π ε
  | [], bench => bench
  | call :: rest, bench => runAll provider source rest (call.run provider source bench).state

/-- Of the calls that are for a slot none succeeds. -/
def Spares (provider : Rsa.Provider π) (source : EntropySource ε) (place : ρ ⊕ η) :
    List (Call ρ η) → Bench ρ η π ε → Prop
  | [], _ => True
  | call :: rest, bench =>
      (place ∈ call.targets → ¬ call.Succeeds provider source bench) ∧
        Spares provider source place rest (call.run provider source bench).state

theorem key?_runAll (calls : List (Call ρ η)) (start : Bench ρ η π ε) (place : ρ ⊕ η)
    (content : Option Key) :
    (runAll provider source calls start).key? place = content ↔
      (∃ earlier call later, calls = earlier ++ call :: later ∧
        call.Leaves provider source (runAll provider source earlier start) place content ∧
        Spares provider source place later (runAll provider source (earlier ++ [call]) start)) ∨
      start.key? place = content ∧ Spares provider source place calls start := by
  induction calls generalizing start with
  | nil => simp [runAll, Spares]
  | cons first rest inductionHypothesis =>
      rw [runAll, inductionHypothesis, key?_run]
      -- The call that counts is one of the rest, or the first one and the rest spares the slot.
      constructor
      · rintro (⟨earlier, call, later, rfl, leaves, spared⟩ | ⟨leaves | ⟨same, own⟩, spared⟩)
        · exact .inl ⟨first :: earlier, call, later, rfl, leaves, spared⟩
        · exact .inl ⟨[], first, rest, rfl, leaves, spared⟩
        · exact .inr ⟨same, own, spared⟩
      · rintro (⟨earlier, call, later, order, leaves, spared⟩ | ⟨same, own, spared⟩)
        · cases earlier with
          | nil =>
              obtain ⟨rfl, rfl⟩ := List.cons.inj order
              exact .inr ⟨.inl leaves, spared⟩
          | cons front between =>
              obtain ⟨rfl, rfl⟩ := List.cons.inj order
              exact .inl ⟨between, call, later, rfl, leaves, spared⟩
        · exact .inr ⟨.inr ⟨same, own⟩, spared⟩

/-! ## What slots hold -/

theorem Succeeds.exists_leaves (succeeds : call.Succeeds provider source bench)
    (own : place ∈ call.targets) :
    ∃ content, call.Leaves provider source bench place content := by
  rcases (key?_run call bench place _).1 rfl with leaves | ⟨-, spared⟩
  · exact ⟨_, leaves⟩
  · exact absurd succeeds (spared own)

theorem slots_eq_of_fails {cause : KeyError}
    (failed : (call.run provider source).Fails bench cause) :
    (call.run provider source bench).state.rsa = bench.rsa ∧
      (call.run provider source bench).state.hmac = bench.hmac := by
  have ended : Ends provider source bench call := ends bench call
  cases ended with
  | failed cause _ rsa hmac => exact ⟨rsa, hmac⟩
  | done succeeds => cases succeeds.symm.trans failed

/-- After any calls a slot holds what the last call for it that succeeded has left there, or what it
held at the start if none did.  A call that succeeds leaves a key, or nothing if it frees, in every
slot that it is for; a call that fails changes no slot, no more than an export does; and the two
slots of a pair are replaced together or not at all. -/
theorem slots_hold_last (provider : Rsa.Provider π) (source : EntropySource ε) :
    (∀ (calls : List (Call ρ η)) (start : Bench ρ η π ε) (place : ρ ⊕ η) (content : Option Key),
      (runAll provider source calls start).key? place = content ↔
        (∃ earlier call later, calls = earlier ++ call :: later ∧
          call.Leaves provider source (runAll provider source earlier start) place content ∧
          Spares provider source place later (runAll provider source (earlier ++ [call]) start)) ∨
        start.key? place = content ∧ Spares provider source place calls start) ∧
    (∀ (call : Call ρ η) (bench : Bench ρ η π ε),
      call.Succeeds provider source bench → ∀ place ∈ call.targets,
        ∃ content, call.Leaves provider source bench place content) ∧
    (∀ (call : Call ρ η) (bench : Bench ρ η π ε) (place : ρ ⊕ η) (content : Option Key),
      call.Leaves provider source bench place content →
        place ∈ call.targets ∧ call.Succeeds provider source bench) ∧
    (∀ (call : Call ρ η) (bench : Bench ρ η π ε) (cause : KeyError),
      (call.run provider source).Fails bench cause →
        (call.run provider source bench).state.rsa = bench.rsa ∧
          (call.run provider source bench).state.hmac = bench.hmac) ∧
    (∀ (bench : Bench ρ η π ε) (half : Half) (slot : ρ) (out : Option Bytes),
      ((Call.exportRsa half slot out).run provider source bench).state = bench) ∧
    (∀ (bench : Bench ρ η π ε) (slot : η) (out : Option Bytes),
      ((Call.exportHmac slot out).run provider source bench).state = bench) ∧
    ∀ (bench : Bench ρ η π ε) (privateSlot publicSlot : ρ) (apart : privateSlot ≠ publicSlot),
      (∃ privateKey publicKey last,
        Rsa.MakesPair provider bench.provider privateKey publicKey last ∧
          ((Call.generateRsa privateSlot publicSlot apart).run provider source).Yields bench ()
            { bench with
              rsa := Function.update (Function.update bench.rsa privateSlot (some privateKey))
                publicSlot (some publicKey)
              provider := last }) ∨
      ∃ cause last, Rsa.PairFails provider bench.provider cause ∧
        ((Call.generateRsa privateSlot publicSlot apart).run provider source).Fails bench cause ∧
        ((Call.generateRsa privateSlot publicSlot apart).run provider source bench).state =
          { bench with provider := last } := by
  refine ⟨key?_runAll, ?_, ?_, ?_, ?_, ?_, pair_or_neither provider source⟩
  · intro call bench succeeds place own
    exact succeeds.exists_leaves own
  · intro call bench place content leaves
    exact ⟨leaves.mem_targets, leaves.succeeds⟩
  · intro call bench cause failed
    exact slots_eq_of_fails failed
  · intro bench half slot out
    rw [run_exportRsa]
  · intro bench slot out
    rw [run_exportHmac]

/-- No slot holds a key, and no random bytes are left. -/
def emptyBench : Bench Bool Unit Unit Bytes :=
  ⟨fun _ => none, fun _ => none, (), []⟩

/-- The provider that makes the same private key each time. -/
def firstProvider : Rsa.Provider Unit :=
  { generate := Store.firstMake }

/-- A new pair, into both slots. -/
def firstPair : Call Bool Unit :=
  .generateRsa false true Bool.false_ne_true

/-- Into one slot of the pair a public key is read, then bytes that are none; no secret is drawn for
want of random bytes; last the key is exported. -/
def firstCalls : List (Call Bool Unit) :=
  [firstPair, .importRsa .publicHalf true (Uint.join [15, 3]), .importRsa .publicHalf true [0],
    .generateHmac (), .exportRsa .publicHalf true none]

theorem firstProvider_makes (state : Unit) :
    Rsa.MakesPair firstProvider state ⟨2 ^ 2047 + 1, 65537, some ⟨3, 5, 7, 11, 13, 17⟩⟩
      ⟨2 ^ 2047 + 1, 65537, none⟩ () where
  made := ⟨(), ⟨rfl, rfl⟩, ⟨rfl, rfl⟩⟩
  isPrivate := rfl
  sized := Rsa.hasStandardSize_iff.1 (by decide +kernel)

/-- The public key that was read stays, and so does the private key of the pair. -/
theorem firstCalls_hold_last :
    (runAll firstProvider .pool firstCalls emptyBench).key? (.inl true) =
        some (.rsa ⟨15, 3, none⟩) ∧
      (runAll firstProvider .pool firstCalls emptyBench).key? (.inl false) =
        some (.rsa ⟨2 ^ 2047 + 1, 65537, some ⟨3, 5, 7, 11, 13, 17⟩⟩) ∧
      (∃ content, firstPair.Leaves firstProvider .pool emptyBench (.inl true) content) ∧
      (∃ privateKey publicKey,
        (firstPair.run firstProvider .pool emptyBench).state.rsa false = some privateKey ∧
          (firstPair.run firstProvider .pool emptyBench).state.rsa true = some publicKey) ∧
      ((Call.generateHmac () : Call Bool Unit).run firstProvider .pool emptyBench).state.hmac =
        emptyBench.hmac := by
  obtain ⟨last, complete, sound, unchanged, -, -, pairs⟩ :=
    slots_hold_last (ρ := Bool) (η := Unit) firstProvider .pool
  have isBlob : Rsa.IsBlob .publicHalf (Uint.join [15, 3]) ⟨15, 3, none⟩ :=
    Rsa.isBlob_join rfl rfl (by decide)
  have refused (bench : Bench Bool Unit Unit Bytes) :
      ¬ (Call.importRsa .publicHalf true [0]).Succeeds firstProvider .pool bench := by
    intro succeeds
    cases succeeds
  obtain ⟨own, succeeds⟩ := sound firstPair emptyBench _ _ (.madePublic (firstProvider_makes _))
  refine ⟨?_, ?_, complete _ _ succeeds _ own, ?_, ?_⟩
  · refine (last _ _ _ _).2 (.inl ⟨[firstPair], _, _, rfl, .importedRsa isBlob, ?_⟩)
    exact ⟨fun _ => refused _, by simp [targets], by simp [targets], trivial⟩
  · refine (last _ _ _ _).2 (.inl ⟨[], _, _, rfl, .madePrivate (firstProvider_makes _), ?_⟩)
    exact ⟨by simp [targets], by simp [targets], by simp [targets], by simp [targets], trivial⟩
  · rcases pairs emptyBench false true Bool.false_ne_true with
      ⟨privateKey, publicKey, _, -, -, left⟩ | ⟨cause, _, -, failed, -⟩
    · exact ⟨privateKey, publicKey, by rw [firstPair, left]; rfl, by rw [firstPair, left]; rfl⟩
    · cases succeeds.symm.trans failed
  · refine (unchanged (.generateHmac ()) _ (.entropy "the supply of random bytes is used up") ?_).2
    rfl

end Call

end Keyring
