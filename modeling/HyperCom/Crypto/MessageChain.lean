import HyperCom.Crypto.DirectMessage

/-!
# Skipping in the symmetric ratchet

`dm_message_chain::advance_to_counter` catches up on messages that arrived out
of order: it derives the keys it jumps over and hands them to the caller. A
jump is that many single steps, whatever the chain went through before; and the
counter names the message as long as it has not come round to zero.

The counter is a `u32` that the source increments without a check, so it comes round after
2^32 messages. Until then, one chain and one counter are one key, on both sides.
-/

namespace HyperCom

variable [Sodium]

namespace DmMessageChain

/-- `MAX_SKIPPED_MESSAGE_KEYS` -/
def maxSkippedMessageKeys : UInt32 := 1000

/-- The loop of `advance_to_counter`: one step for each key to skip. -/
def skipKeys : ℕ → DmMessageChain → List SymmetricKey → DmMessageChain × List SymmetricKey
  | 0, chain, skipped => (chain, skipped)
  | steps + 1, chain, skipped =>
    let (messageKey, advanced) := chain.deriveNextMessageKey
    skipKeys steps advanced (skipped ++ [messageKey])

/-- `advance_to_counter`: what it returns, the chain and the skipped keys. A key
derivation does not fail here, so neither does the loop. -/
def advanceToCounter (chain : DmMessageChain) (target : UInt32) (skipped : List SymmetricKey) :
    Bool × DmMessageChain × List SymmetricKey :=
  if target < chain.counter then (false, chain, skipped)
  else
    let distance := target - chain.counter
    if distance > maxSkippedMessageKeys then (false, chain, skipped)
    else (true, skipKeys distance.toNat chain skipped)

/-! ## Single steps -/

/-- `count` successive calls of `derive_next_message_key`: their keys, in order,
and the chain they leave. -/
def stepTimes : ℕ → DmMessageChain → List SymmetricKey × DmMessageChain
  | 0, chain => ([], chain)
  | count + 1, chain =>
    let (messageKey, advanced) := chain.deriveNextMessageKey
    let (laterKeys, last) := stepTimes count advanced
    (messageKey :: laterKeys, last)

@[simp] theorem stepTimes_zero (chain : DmMessageChain) : chain.stepTimes 0 = ([], chain) := rfl

@[simp] theorem stepTimes_keys_length (count : ℕ) (chain : DmMessageChain) :
    (chain.stepTimes count).1.length = count := by
  induction count generalizing chain with
  | zero => rfl
  | succ count ih => simp [stepTimes, ih]

/-- Steps in two lots. -/
theorem stepTimes_add (first second : ℕ) (chain : DmMessageChain) :
    chain.stepTimes (first + second) =
      ((chain.stepTimes first).1 ++ ((chain.stepTimes first).2.stepTimes second).1,
        ((chain.stepTimes first).2.stepTimes second).2) := by
  induction first generalizing chain with
  | zero => simp
  | succ first ih =>
    rw [Nat.add_right_comm]
    simp only [stepTimes, ih, List.cons_append]

/-- Every step counts one up, modulo `2 ^ 32`. -/
theorem stepTimes_counter (count : ℕ) (chain : DmMessageChain) :
    (chain.stepTimes count).2.counter = chain.counter + UInt32.ofNat count := by
  induction count generalizing chain with
  | zero => simp
  | succ count ih =>
    have hnext : chain.deriveNextMessageKey.2.counter = chain.counter + 1 := rfl
    simp only [stepTimes, ih, hnext, UInt32.ofNat_add, UInt32.add_assoc]
    rw [UInt32.add_comm 1]
    rfl

/-- The loop of `advance_to_counter` is single steps, their keys appended. -/
theorem skipKeys_eq (steps : ℕ) (chain : DmMessageChain) (skipped : List SymmetricKey) :
    chain.skipKeys steps skipped =
      ((chain.stepTimes steps).2, skipped ++ (chain.stepTimes steps).1) := by
  induction steps generalizing chain skipped with
  | zero => simp [skipKeys]
  | succ steps ih => simp [skipKeys, stepTimes, ih]

/-! ## One call -/

/-- A target within reach: the call takes the steps up to it. -/
theorem advanceToCounter_of_le {chain : DmMessageChain} {target : UInt32}
    (hforward : chain.counter.toNat ≤ target.toNat)
    (hreach : target.toNat ≤ chain.counter.toNat + maxSkippedMessageKeys.toNat)
    (skipped : List SymmetricKey) :
    chain.advanceToCounter target skipped =
      (true, (chain.stepTimes (target.toNat - chain.counter.toNat)).2,
        skipped ++ (chain.stepTimes (target.toNat - chain.counter.toNat)).1) := by
  have hdistance : (target - chain.counter).toNat = target.toNat - chain.counter.toNat :=
    UInt32.toNat_sub_of_le _ _ (UInt32.le_iff_toNat_le.mpr hforward)
  have hnear : ¬ target - chain.counter > maxSkippedMessageKeys := by
    rw [gt_iff_lt, UInt32.lt_iff_toNat_lt, hdistance]
    omega
  have hnotBehind : ¬ target < chain.counter := by
    rw [UInt32.lt_iff_toNat_lt]
    omega
  simp only [advanceToCounter, if_neg hnotBehind, if_neg hnear, hdistance, skipKeys_eq]

/-- A target behind the chain or out of reach: nothing changes. -/
theorem advanceToCounter_of_not_reachable {chain : DmMessageChain} {target : UInt32}
    (hout : target.toNat < chain.counter.toNat ∨
      chain.counter.toNat + maxSkippedMessageKeys.toNat < target.toNat)
    (skipped : List SymmetricKey) :
    chain.advanceToCounter target skipped = (false, chain, skipped) := by
  by_cases hbehind : target < chain.counter
  · rw [advanceToCounter, if_pos hbehind]
  have hforward : chain.counter ≤ target := UInt32.not_lt.mp hbehind
  have hfar : target - chain.counter > maxSkippedMessageKeys := by
    rw [gt_iff_lt, UInt32.lt_iff_toNat_lt, UInt32.toNat_sub_of_le _ _ hforward]
    rw [UInt32.le_iff_toNat_le] at hforward
    omega
  simp only [advanceToCounter, if_neg hbehind, if_pos hfar]

/-- The steps up to a target within reach end at that counter. -/
theorem stepTimes_counter_of_le {chain : DmMessageChain} {target : UInt32}
    (hforward : chain.counter.toNat ≤ target.toNat) :
    (chain.stepTimes (target.toNat - chain.counter.toNat)).2.counter = target := by
  rw [stepTimes_counter, ← UInt32.toNat_inj, UInt32.toNat_add, UInt32.toNat_ofNat']
  have hsmall := target.toNat_lt
  omega

/-! ## Mixtures of steps and jumps -/

/-- The constructor: a chain starts at its root, with counter zero. -/
def start (initialChainKey : SymmetricKey) : DmMessageChain := { chainKey := initialChainKey }

/-- A call on a chain. -/
inductive Call where
  | deriveNextMessageKey
  | advanceToCounter (target : UInt32)

/-- The keys a call hands out, and the chain it leaves. -/
def perform (chain : DmMessageChain) : Call → List SymmetricKey × DmMessageChain
  | .deriveNextMessageKey =>
    let (messageKey, advanced) := chain.deriveNextMessageKey
    ([messageKey], advanced)
  | .advanceToCounter target =>
    let (_, advanced, skipped) := chain.advanceToCounter target []
    (skipped, advanced)

/-- Call after call: all the keys handed out, and the last chain. -/
def run : DmMessageChain → List Call → List SymmetricKey × DmMessageChain
  | chain, [] => ([], chain)
  | chain, call :: calls =>
    let (keys, advanced) := chain.perform call
    let (laterKeys, last) := advanced.run calls
    (keys ++ laterKeys, last)

/-- The key of message `index` under a root: what step number `index` returns. -/
def messageKeyAt (root : SymmetricKey) (index : ℕ) : SymmetricKey :=
  ((start root).stepTimes index).2.deriveNextMessageKey.1

/-- Whatever a call hands out, it is that many single steps. -/
theorem perform_eq_stepTimes (chain : DmMessageChain) (call : Call) :
    chain.perform call = chain.stepTimes (chain.perform call).1.length := by
  cases call with
  | deriveNextMessageKey => rfl
  | advanceToCounter target =>
    by_cases hreach : chain.counter.toNat ≤ target.toNat ∧
        target.toNat ≤ chain.counter.toNat + maxSkippedMessageKeys.toNat
    · simp [perform, advanceToCounter_of_le hreach.1 hreach.2]
    · have hout : target.toNat < chain.counter.toNat ∨
          chain.counter.toNat + maxSkippedMessageKeys.toNat < target.toNat := by omega
      simp [perform, advanceToCounter_of_not_reachable hout]

/-- Any mixture of calls is single steps, as many as it handed out keys. -/
theorem run_eq_stepTimes (chain : DmMessageChain) (calls : List Call) :
    chain.run calls = chain.stepTimes (chain.run calls).1.length := by
  induction calls generalizing chain with
  | nil => rfl
  | cons call calls ih =>
    have hcall := perform_eq_stepTimes chain call
    have hrest := ih (chain.perform call).2
    simp only [run, List.length_append, stepTimes_add]
    rw [← hcall, ← hrest]

/-- While fewer than `2 ^ 32` keys were handed out, the counter says how many. -/
theorem run_counter (root : SymmetricKey) (calls : List Call)
    (hfew : ((start root).run calls).1.length < 2 ^ 32) :
    ((start root).run calls).2.counter.toNat = ((start root).run calls).1.length := by
  have hcounter : ((start root).run calls).2.counter =
      0 + UInt32.ofNat ((start root).run calls).1.length := by
    conv_lhs => rw [run_eq_stepTimes]
    exact stepTimes_counter _ _
  rw [hcounter, UInt32.zero_add, UInt32.toNat_ofNat']
  exact Nat.mod_eq_of_lt hfew

/-- Two mixtures under one root that stand at one counter left the same chain. -/
theorem run_chain_eq {root : SymmetricKey} {calls calls' : List Call}
    (hfew : ((start root).run calls).1.length < 2 ^ 32)
    (hfew' : ((start root).run calls').1.length < 2 ^ 32)
    (hcounter : ((start root).run calls).2.counter = ((start root).run calls').2.counter) :
    ((start root).run calls).2 = ((start root).run calls').2 := by
  have hlengths : ((start root).run calls).1.length = ((start root).run calls').1.length := by
    rw [← run_counter root calls hfew, ← run_counter root calls' hfew', hcounter]
  rw [run_eq_stepTimes (start root) calls, run_eq_stepTimes (start root) calls', hlengths]

/-- After a jump to `target` the next key is the key of message `target`. -/
theorem next_key_after_steps {root : SymmetricKey} {calls : List Call} {target : UInt32}
    (hfew : ((start root).run calls).1.length < 2 ^ 32)
    (hforward : ((start root).run calls).2.counter.toNat ≤ target.toNat) :
    (((start root).run calls).2.stepTimes
        (target.toNat - ((start root).run calls).2.counter.toNat)).2.deriveNextMessageKey.1 =
      messageKeyAt root target.toNat := by
  have hcount := run_counter root calls hfew
  have hsum : ((start root).run calls).1.length +
      (target.toNat - ((start root).run calls).2.counter.toNat) = target.toNat := by omega
  rw [messageKeyAt, ← hsum, stepTimes_add, ← run_eq_stepTimes, hsum]

/-- `advance_to_counter` against `derive_next_message_key`, on a chain that any
mixture of the two left. A target from the counter up to
`MAX_SKIPPED_MESSAGE_KEYS` beyond it: the call succeeds, appends the keys of the
single steps and leaves their chain. Any other target: nothing changes. As long
as fewer than `2 ^ 32` keys were handed out, the next key is the target's, and
two mixtures that stand at one counter agree on all later keys. -/
theorem advance_equals_stepping (root : SymmetricKey) (calls : List Call) :
    let keys := ((start root).run calls).1
    let chain := ((start root).run calls).2
    (∀ (target : UInt32) (skipped : List SymmetricKey),
      chain.counter.toNat ≤ target.toNat →
      target.toNat ≤ chain.counter.toNat + maxSkippedMessageKeys.toNat →
      let steps := chain.stepTimes (target.toNat - chain.counter.toNat)
      chain.advanceToCounter target skipped = (true, steps.2, skipped ++ steps.1) ∧
        steps.2.counter = target ∧
        (keys.length < 2 ^ 32 →
          steps.2.deriveNextMessageKey.1 = messageKeyAt root target.toNat)) ∧
    (∀ (target : UInt32) (skipped : List SymmetricKey),
      target.toNat < chain.counter.toNat ∨
        chain.counter.toNat + maxSkippedMessageKeys.toNat < target.toNat →
      chain.advanceToCounter target skipped = (false, chain, skipped)) ∧
    (∀ calls' later : List Call,
      let keys' := ((start root).run calls').1
      let chain' := ((start root).run calls').2
      keys.length < 2 ^ 32 → keys'.length < 2 ^ 32 → chain.counter = chain'.counter →
      (chain.run later).1 = (chain'.run later).1) := by
  intro keys chain
  refine ⟨?_, ?_, ?_⟩
  · intro target skipped hforward hreach steps
    refine ⟨advanceToCounter_of_le hforward hreach skipped, stepTimes_counter_of_le hforward, ?_⟩
    intro hfew
    exact next_key_after_steps hfew hforward
  · intro target skipped hout
    exact advanceToCounter_of_not_reachable hout skipped
  · intro calls' later keys' chain' hfew hfew' hcounter
    have hsame : chain = chain' := run_chain_eq hfew hfew' hcounter
    rw [hsame]

/-! ## A full turn of the counter -/

omit [Sodium]

/-- libsodium with a keyed hash that lets message keys show the chain key and
makes every next chain key zero. -/
@[reducible] def fadingSodium : Sodium :=
  { transparentSodium with
    authHmacSha256 := fun key data => if data.getLast? = some 0x01 then key else FixedBytes.zero 32 }

/-- Under the fading hash every chain that took a step is at the zero key. -/
theorem fading_chainKey (chain : DmMessageChain) (count : ℕ) :
    letI := fadingSodium
    (chain.stepTimes (count + 1)).2.chainKey = FixedBytes.zero 32 := by
  let := fadingSodium
  have hstep : ∀ chain : DmMessageChain,
      chain.deriveNextMessageKey.2.chainKey = FixedBytes.zero 32 := fun _ => by
    simp only [deriveNextMessageKey, expandKeyBlock, computeHmac]
    rfl
  rw [stepTimes_add]
  exact hstep _

/-- Single steps, as calls. -/
theorem run_replicate [Sodium] (count : ℕ) (chain : DmMessageChain) :
    chain.run (List.replicate count .deriveNextMessageKey) = chain.stepTimes count := by
  induction count generalizing chain with
  | zero => rfl
  | succ count ih => simp [List.replicate_succ, run, perform, stepTimes, ih]

/-- After `2 ^ 32` keys the counter is zero again, the chain key is not the
root: two chains under one root, at one counter, and their next keys differ. -/
theorem counter_turns_over :
    letI := fadingSodium
    ¬ ∀ (root : SymmetricKey) (calls calls' later : List Call),
      ((start root).run calls).2.counter = ((start root).run calls').2.counter →
      (((start root).run calls).2.run later).1 = (((start root).run calls').2.run later).1 := by
  let := fadingSodium
  intro hagree
  obtain ⟨count, hturn⟩ : ∃ count, UInt32.ofNat (count + 1) = 0 := ⟨2 ^ 32 - 1, by decide⟩
  have hcalls' := run_replicate (count + 1) (start (repeatedBytes 32 1))
  have hcounter : ((start (repeatedBytes 32 1)).run []).2.counter =
      ((start (repeatedBytes 32 1)).run
        (List.replicate (count + 1) .deriveNextMessageKey)).2.counter := by
    rw [hcalls', stepTimes_counter, hturn]
    rfl
  have hkeys := hagree (repeatedBytes 32 1) []
    (List.replicate (count + 1) .deriveNextMessageKey) [.deriveNextMessageKey] hcounter
  rw [hcalls'] at hkeys
  have hfaded := fading_chainKey (start (repeatedBytes 32 1)) count
  generalize ((start (repeatedBytes 32 1)).stepTimes (count + 1)).2 = turned at hkeys hfaded
  have hnext : ∀ chain : DmMessageChain,
      (chain.run [.deriveNextMessageKey]).1 = [chain.chainKey] := fun chain => by
    simp only [run, perform, deriveNextMessageKey, expandKeyBlock, computeHmac]
    rfl
  rw [hnext, hnext, hfaded] at hkeys
  revert hkeys
  decide

end DmMessageChain

end HyperCom
