import Groth16.Proofs.Batch.Recording
import Groth16.Proofs.Calls
import Groth16.Proofs.Verification.KeyEncoding
import Groth16.Verifier

/-!
# The key slot of a verifier

Which key is in the slot after a run of calls is decided by the last call that changes the slot:
a key that was set or that could be read, and no key after one that could not be read. What a
verifier answers depends on no earlier key.
-/

namespace Groth16
namespace Verifier

/-- A call of a verifier. -/
inductive Call where
  | loadKey (bytes : List UInt8)
  | setKey (key : VerifyingKey)
  | unload
  | verify (proof : List UInt8) (inputs : List (List UInt8)) (nanoseconds : Nat)
  | verifyBatch
    (proofs : List (List UInt8))
    (inputs : List (List (List UInt8)))
    (weights : Nat → Weight)

/-- What a call answers. -/
inductive Answer where
  | loaded (icLength : Except VerifyError Nat)
  | verified (holds : Except VerifyError Bool)
  | batchVerified (outcomes : Except VerifyError (List Batch.Outcome))
  | done

/-- Performs a call of a verifier, with the engine that verifies. -/
def perform : Call → StateM (Verifier × Engine) Answer
  | .loadKey bytes => fun (verifier, engine) =>
    let (icLength, verifier) := (loadKey bytes).run verifier
    (.loaded icLength, verifier, engine)
  | .setKey key => fun (verifier, engine) => (.done, verifier.setKey key, engine)
  | .unload => fun (verifier, engine) => (.done, verifier.unload, engine)
  | .verify proof inputs nanoseconds => fun (verifier, engine) =>
    let (holds, engine) := (verifier.verify proof inputs nanoseconds).run.run engine
    (.verified holds, verifier, engine)
  | .verifyBatch proofs inputs weights => fun (verifier, engine) =>
    let (outcomes, engine) := (verifier.verifyBatch proofs inputs weights).run.run engine
    (.batchVerified outcomes, verifier, engine)

namespace Call

/-- Whether the call is one of those that change the slot. -/
def changesSlot : Call → Bool
  | loadKey _ | setKey _ | unload => true
  | verify .. | verifyBatch .. => false

/-- The call puts the key into the slot: it sets the key or reads it from bytes. -/
inductive Installs (key : VerifyingKey) : Call → Prop where
  | setKey : Installs key (setKey key)
  | loadKey
    {bytes : List UInt8}
    (accepted : VerifyingKey.ofBytes? bytes = .ok key) : Installs key (loadKey bytes)

end Call

section Step

variable (call : Call) (verifier : Verifier) (engine : Engine)

/-- A call that changes the slot leaves a key there if it installs it. -/
theorem key_perform_of_changesSlot
    {call : Call}
    (changes : call.changesSlot = true)
    (key : VerifyingKey) :
    ((perform call).run (verifier, engine)).2.1.key = some key ↔ call.Installs key := by
  cases call with
  | loadKey bytes =>
      change (loadKey bytes verifier).2.key = some key ↔ _
      unfold loadKey
      cases read : VerifyingKey.ofBytes? bytes with
      | ok other =>
          constructor
          · intro same
            cases same
            exact .loadKey read
          · intro installs
            cases installs with
            | loadKey accepted =>
                rw [read, Except.ok.injEq] at accepted
                exact congrArg some accepted
      | error error =>
          refine iff_of_false nofun fun installs => ?_
          cases installs with
          | loadKey accepted =>
              rw [read] at accepted
              cases accepted
  | setKey other =>
      constructor
      · intro same
        cases same
        exact .setKey
      · rintro ⟨⟩
        rfl
  | unload => exact iff_of_false nofun nofun
  | verify proof inputs nanoseconds => cases changes
  | verifyBatch proofs inputs weights => cases changes

/-- Any other call leaves the verifier as it is. -/
theorem perform_of_not_changesSlot
    {call : Call}
    (keeps : call.changesSlot = false) :
    ((perform call).run (verifier, engine)).2.1 = verifier := by
  cases call with
  | loadKey bytes => cases keeps
  | setKey key => cases keeps
  | unload => cases keeps
  | verify proof inputs nanoseconds => rfl
  | verifyBatch proofs inputs weights => rfl

theorem config_perform :
    ((perform call).run (verifier, engine)).2.1.config = verifier.config := by
  cases call with
  | loadKey bytes =>
      change (loadKey bytes verifier).2.config = verifier.config
      unfold loadKey
      cases VerifyingKey.ofBytes? bytes <;> rfl
  | _ => rfl

end Step

section Run

variable (config : EngineConfig) (engine : Engine) (calls : List Call)

theorem config_run : (Calls.run perform (make config, engine) calls).2.1.config = config := by
  refine Calls.holds_run (fun state : Verifier × Engine => state.1.config = config) rfl ?_ calls
  rintro ⟨verifier, engine⟩ same call
  exact (config_perform call verifier engine).trans same

/-- The last call that changes the slot decides which key is there. -/
theorem key_run_eq_some_iff (key : VerifyingKey) :
    (Calls.run perform (make config, engine) calls).2.1.key = some key ↔
      ∃ call, Calls.last? Call.changesSlot calls = some call ∧ call.Installs key := by
  induction calls using List.reverseRecOn with
  | nil => exact iff_of_false nofun fun ⟨_, last, _⟩ => nomatch last
  | append_singleton calls call inductionHypothesis =>
      rw [Calls.run_append_singleton]
      cases changes : call.changesSlot with
      | true =>
          rw [Calls.last?_append_singleton_of_pos calls changes,
            key_perform_of_changesSlot _ _ changes]
          simp only [Option.some_inj, exists_eq_left']
      | false =>
          rw [Calls.last?_append_singleton_of_neg calls changes,
            perform_of_not_changesSlot _ _ changes, inductionHypothesis]

end Run

/-- The verifier works under the key and no other. -/
structure Uses (verifier : Verifier) (key : VerifyingKey) : Prop where
  icLength_eq : verifier.icLength = key.ic.length
  verify_eq : ∀ proof inputs nanoseconds engine,
    ((perform (.verify proof inputs nanoseconds)).run (verifier, engine)).1 =
      .verified (key.verifyBytes proof inputs)
  /-- Verifying many proofs is a batch under this key. -/
  verifyBatch_eq : ∀ proofs inputs weights engine,
    ((perform (.verifyBatch proofs inputs weights)).run (verifier, engine)).1 =
      .batchVerified
        ((Engine.verifyBatch ⟨0, key⟩ proofs inputs verifier.config weights).run.run engine).1

/-- The verifier has no key, and refuses to verify anything. -/
structure RefusesAll (verifier : Verifier) : Prop where
  icLength_eq : verifier.icLength = 0
  verify_eq : ∀ proof inputs nanoseconds engine,
    (perform (.verify proof inputs nanoseconds)).run (verifier, engine) =
      (.verified (.error .keyNotLoaded), verifier, engine)
  verifyBatch_eq : ∀ proofs inputs weights engine,
    (perform (.verifyBatch proofs inputs weights)).run (verifier, engine) =
      (.batchVerified (.error .keyNotLoaded), verifier, engine)

theorem uses_of_key_eq_some
    {verifier : Verifier}
    {key : VerifyingKey}
    (installed : verifier.key = some key) :
    verifier.Uses key := by
  obtain ⟨config, slot⟩ := verifier
  cases installed
  refine ⟨rfl, fun proof inputs nanoseconds engine => ?_, fun _ _ _ _ => rfl⟩
  obtain ⟨statistics, run, -⟩ := Engine.verify_run key proof inputs nanoseconds engine
  exact congrArg (Answer.verified ·.1) run

theorem refusesAll_of_key_eq_none
    {verifier : Verifier}
    (empty : verifier.key = none) :
    verifier.RefusesAll := by
  obtain ⟨config, slot⟩ := verifier
  cases empty
  exact ⟨rfl, fun _ _ _ _ => rfl, fun _ _ _ _ => rfl⟩

/-- After any calls of a new verifier, with any engine, a key is in the slot if and only if the
last call that changes the slot installs it: sets it or reads it from bytes. The verifier then
works under this key. Without a key it refuses to verify, and verifying never changes the slot. -/
theorem slot_run
    (config : EngineConfig)
    (engine : Engine)
    (calls : List Call) :
    let verifier := (Calls.run perform (make config, engine) calls).2.1
    verifier.config = config ∧
      (∀ key, verifier.key = some key ↔
        ∃ call, Calls.last? Call.changesSlot calls = some call ∧ call.Installs key) ∧
      (∀ key, verifier.key = some key → verifier.Uses key) ∧
      (verifier.key = none → verifier.RefusesAll) ∧
      ∀ call, call.changesSlot = false → ∀ engine,
        ((perform call).run (verifier, engine)).2.1 = verifier :=
  ⟨config_run config engine calls, key_run_eq_some_iff config engine calls,
    fun _ installed => uses_of_key_eq_some installed,
    fun empty => refusesAll_of_key_eq_none empty,
    fun _ keeps engine => perform_of_not_changesSlot _ engine keeps⟩

/-- A key that is loaded takes the place of a key without points that was set before; bytes that are
no key leave the verifier without a key. -/
theorem slot_run_generators :
    ∃ bytes, VerifyingKey.ofBytes? bytes = .ok .generators ∧
      (Calls.run perform (make {}, .initial)
        [.setKey ⟨.identity, .identity, .identity, .identity, []⟩, .loadKey bytes,
          .verify [] [] 0]).2.1.Uses .generators ∧
      (Calls.run perform (make {}, .initial)
        [.loadKey bytes, .verify [] [] 0, .loadKey []]).2.1.RefusesAll := by
  obtain ⟨bytes, accepted⟩ : ∃ bytes, VerifyingKey.ofBytes? bytes = .ok .generators :=
    ⟨_, VerifyingKey.ofBytes?_generators⟩
  refine ⟨bytes, accepted, ?_⟩
  obtain ⟨-, installed, uses, -, -⟩ := slot_run {} .initial
    [.setKey ⟨.identity, .identity, .identity, .identity, []⟩, .loadKey bytes, .verify [] [] 0]
  obtain ⟨-, installedFailed, -, refuses, -⟩ :=
    slot_run {} .initial [.loadKey bytes, .verify [] [] 0, .loadKey []]
  constructor
  · apply uses
    rw [installed]
    exact ⟨.loadKey bytes, rfl, .loadKey accepted⟩
  · apply refuses
    rw [Option.eq_none_iff_forall_ne_some]
    intro key same
    obtain ⟨call, last, installs⟩ := (installedFailed key).mp same
    cases last
    cases installs with
    | loadKey accepted => cases accepted

end Verifier
end Groth16
