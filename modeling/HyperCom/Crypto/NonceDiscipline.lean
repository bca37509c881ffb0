import HyperCom.Crypto.KeyAgreement
import HyperCom.Lib.Run

/-!
# Nonces, and the channel they make

A cipher state uses each value of its counter once, whatever is asked of it. Over
a run this is what keeps two transports together: the `n`-th message one end
sealed is the only thing the other opens as its `n`-th.

An attacker between them can inject what it likes. With one key for both
directions it could also send an end its own messages back
(`reflected_message_opens`); the keys of `split_transport_keys` are two.
-/

namespace HyperCom

open StepRun

variable [Sodium]

/-! ## One cipher state -/

namespace NoiseCipherState

omit [Sodium] in
/-- The nonce tells the counter. -/
theorem buildNonce_injective {first second : UInt64} (h : buildNonce first = buildNonce second) :
    first = second := by
  have hbytes : storeLittleEndian first = storeLittleEndian second :=
    List.append_cancel_left (congrArg Subtype.val h)
  have hload := loadLittleEndian_store first []
  rw [hbytes, loadLittleEndian_store second []] at hload
  exact (Option.some.inj hload).symm

/-- What `encrypt_with_ad` does with a key. -/
theorem encryptWithAd_keyed {state : NoiseCipherState} (keyed : state.hasKey = true)
    (associatedData plaintext : ByteString) :
    (encryptWithAd associatedData plaintext state = (none, state) ∧
      state.nonceCounter = exhausted) ∨
    (encryptWithAd associatedData plaintext state =
        (some (Sodium.chachaEncrypt state.key (buildNonce state.nonceCounter) associatedData
          plaintext), { state with nonceCounter := state.nonceCounter + 1 }) ∧
      state.nonceCounter ≠ exhausted) := by
  by_cases hmax : state.nonceCounter = exhausted
  · exact .inl ⟨by simp [encryptWithAd, keyed, hmax], hmax⟩
  · exact .inr ⟨by simp [encryptWithAd, keyed, hmax], hmax⟩

/-- What `decrypt_with_ad` does with a key. -/
theorem decryptWithAd_keyed {state : NoiseCipherState} (keyed : state.hasKey = true)
    (associatedData ciphertext : ByteString) :
    decryptWithAd associatedData ciphertext state = (none, state) ∨
    ∃ plaintext, decryptWithAd associatedData ciphertext state =
        (some plaintext, { state with nonceCounter := state.nonceCounter + 1 }) ∧
      state.nonceCounter ≠ exhausted ∧
      Sodium.chachaDecrypt state.key (buildNonce state.nonceCounter) associatedData ciphertext =
        some plaintext := by
  by_cases hshort : ciphertext.length < aeadTagSize
  · exact .inl (by simp [decryptWithAd, keyed, hshort])
  by_cases hmax : state.nonceCounter = exhausted
  · exact .inl (by simp [decryptWithAd, keyed, hshort, hmax])
  cases hopen : Sodium.chachaDecrypt state.key (buildNonce state.nonceCounter) associatedData
      ciphertext with
  | none => exact .inl (by simp [decryptWithAd, keyed, hshort, hmax, hopen])
  | some plaintext =>
    exact .inr ⟨plaintext, by simp [decryptWithAd, keyed, hshort, hmax, hopen], hmax, rfl⟩

end NoiseCipherState

/-- A call on a cipher state. -/
inductive CipherCall where
  | encrypt (associatedData plaintext : ByteString)
  | decrypt (associatedData ciphertext : ByteString)

/-- A message that was sealed: what went into the AEAD and what came out. -/
structure Sealing where
  key : SymmetricKey
  nonce : FixedBytes chachaIetfNonceSize
  associatedData : ByteString := []
  plaintext : ByteString
  ciphertext : ByteString
deriving DecidableEq

/-- The ciphertext is the AEAD's, under the key and the nonce of the record. -/
def Sealing.Genuine (message : Sealing) : Prop :=
  message.ciphertext =
    Sodium.chachaEncrypt message.key message.nonce message.associatedData message.plaintext

/-- A cipher state and the caller's buffer that its calls write to. `used` is a
log of the encryptions that succeeded, with the ciphertext each of them returned. -/
structure CipherUse where
  state : NoiseCipherState
  out : ByteString := []
  used : List Sealing := []

namespace CipherUse

/-- A call: whether it succeeds, and what it leaves. Only a success writes to the
buffer. -/
def call (use : CipherUse) : CipherCall → Bool × CipherUse
  | .encrypt associatedData plaintext =>
    match NoiseCipherState.encryptWithAd associatedData plaintext use.state with
    | (none, state) => (false, { use with state })
    | (some out, state) =>
      (true, { state, out
               used := use.used ++ [{
                 key := use.state.key
                 nonce := NoiseCipherState.buildNonce use.state.nonceCounter
                 associatedData, plaintext
                 ciphertext := out }] })
  | .decrypt associatedData ciphertext =>
    match NoiseCipherState.decryptWithAd associatedData ciphertext use.state with
    | (none, state) => (false, { use with state })
    | (some out, state) => (true, { use with state, out })

/-- The calls one after the other. -/
def calls (use : CipherUse) (sequence : List CipherCall) : CipherUse :=
  sequence.foldl (fun use request => (use.call request).2) use

/-- Everything a call can do with a key: fail and change nothing, or move the
counter on by one. An encryption logs what the AEAD made under the nonce of the
counter. -/
theorem call_cases {use : CipherUse} (keyed : use.state.hasKey = true) (request : CipherCall) :
    use.call request = (false, use) ∨
    (use.state.nonceCounter ≠ NoiseCipherState.exhausted ∧ ∃ out used,
      use.call request = (true,
        { state := { use.state with nonceCounter := use.state.nonceCounter + 1 }, out, used }) ∧
      (used = use.used ∨ ∃ message : Sealing, used = use.used ++ [message] ∧ message.Genuine ∧
        message.key = use.state.key ∧
        message.nonce = NoiseCipherState.buildNonce use.state.nonceCounter)) := by
  cases request with
  | encrypt associatedData plaintext =>
    rcases NoiseCipherState.encryptWithAd_keyed keyed associatedData plaintext with
      ⟨hfail, -⟩ | ⟨hdone, hleft⟩
    · exact .inl (by simp [call, hfail])
    · let message : Sealing := {
        key := use.state.key
        nonce := NoiseCipherState.buildNonce use.state.nonceCounter
        associatedData, plaintext
        ciphertext := Sodium.chachaEncrypt use.state.key
          (NoiseCipherState.buildNonce use.state.nonceCounter) associatedData plaintext }
      refine .inr ⟨hleft, message.ciphertext, use.used ++ [message], ?_, .inr ⟨message, rfl, ?_⟩⟩
      · simp only [call, hdone]
        rfl
      · exact ⟨rfl, rfl, rfl⟩
  | decrypt associatedData ciphertext =>
    rcases NoiseCipherState.decryptWithAd_keyed keyed associatedData ciphertext with
      hfail | ⟨plaintext, hdone, hleft, -⟩
    · exact .inl (by simp [call, hfail])
    · exact .inr ⟨hleft, plaintext, _, by simp only [call, hdone], .inl rfl⟩

/-- What an encryption returns is in its log. -/
theorem call_encrypt_logged {use : CipherUse} {associatedData plaintext : ByteString}
    (h : (use.call (.encrypt associatedData plaintext)).1 = true) : ∃ message : Sealing,
      (use.call (.encrypt associatedData plaintext)).2.used = use.used ++ [message] ∧
      message.associatedData = associatedData ∧ message.plaintext = plaintext ∧
      message.ciphertext = (use.call (.encrypt associatedData plaintext)).2.out := by
  rw [call] at h ⊢
  split at h
  · cases h
  · exact ⟨_, rfl, rfl, rfl, rfl⟩

/-- The messages of the log are the AEAD's under one key, and their nonces those of
earlier counter values, each there once. -/
structure Disciplined (key : SymmetricKey) (use : CipherUse) : Prop where
  keyed : use.state.hasKey = true
  sameKey : use.state.key = key
  genuine : ∀ message ∈ use.used, message.Genuine ∧ message.key = key
  distinct : (use.used.map Sealing.nonce).Nodup
  earlier : ∀ message ∈ use.used, ∃ counter : UInt64,
    message.nonce = NoiseCipherState.buildNonce counter ∧
      counter.toNat < use.state.nonceCounter.toNat

theorem Disciplined.call {key : SymmetricKey} {use : CipherUse} (h : use.Disciplined key)
    (request : CipherCall) : (use.call request).2.Disciplined key := by
  rcases call_cases h.keyed request with hfail | ⟨hleft, out, used, hdone, hused⟩
  · rw [hfail]
    exact h
  rw [hdone]
  have hnext := NoiseTransport.counter_succ hleft
  have hearlier : ∀ message ∈ use.used, ∃ counter : UInt64,
      message.nonce = NoiseCipherState.buildNonce counter ∧
        counter.toNat < (use.state.nonceCounter + 1).toNat := by
    intro message hmem
    obtain ⟨counter, hnonce, hlt⟩ := h.earlier message hmem
    exact ⟨counter, hnonce, by omega⟩
  rcases hused with rfl | ⟨message, rfl, hgenuine, hkey, hnonce⟩
  · exact ⟨h.keyed, h.sameKey, h.genuine, h.distinct, hearlier⟩
  · -- the nonce just used is new: the log has smaller counters only
    have hfresh : message.nonce ∉ use.used.map Sealing.nonce := by
      intro hmem
      obtain ⟨old, hold, hsame⟩ := List.mem_map.mp hmem
      obtain ⟨counter, hcounter, hlt⟩ := h.earlier old hold
      rw [NoiseCipherState.buildNonce_injective (hcounter.symm.trans (hsame.trans hnonce))] at hlt
      exact lt_irrefl _ hlt
    refine ⟨h.keyed, h.sameKey, ?_, ?_, ?_⟩
    · exact List.forall_mem_append.mpr ⟨h.genuine, List.forall_mem_singleton.mpr
        ⟨hgenuine, hkey.trans h.sameKey⟩⟩
    · rw [List.map_append]
      refine List.nodup_append.mpr ⟨h.distinct, by simp, ?_⟩
      rintro nonce hmem other hother rfl
      rw [List.map_singleton, List.mem_singleton] at hother
      exact hfresh (hother ▸ hmem)
    · exact List.forall_mem_append.mpr ⟨hearlier, List.forall_mem_singleton.mpr
        ⟨_, hnonce, by simp only [hnext]; omega⟩⟩

theorem Disciplined.calls {key : SymmetricKey} {use : CipherUse} (h : use.Disciplined key)
    (sequence : List CipherCall) : (use.calls sequence).Disciplined key := by
  induction sequence generalizing use with
  | nil => exact h
  | cons request sequence ih => exact ih (h.call request)

end CipherUse

/-! ## Two transports -/

/-- The two ends of a channel. -/
inductive Side where
  | near
  | far
deriving DecidableEq

def Side.other : Side → Side
  | .near => .far
  | .far => .near

omit [Sodium] in
@[simp] theorem Side.other_other (side : Side) : side.other.other = side := by
  cases side <;> rfl

/-- An end: its transport, what it sealed, how many messages of its peer the
network has handed it, and what it opened. -/
structure ChannelEnd where
  transport : NoiseTransport
  sent : List Sealing := []
  delivered : ℕ := 0
  received : List ByteString := []

/-- What can happen on the channel. -/
inductive ChannelEvent where
  /-- `encrypt_message` -/
  | send (side : Side) (plaintext : ByteString)
  /-- `decrypt_message` on the next message the peer sent -/
  | deliver (side : Side)
  /-- `decrypt_message` on anything -/
  | inject (side : Side) (ciphertext : ByteString)

/-- `encrypt_message`, with a record of what it sealed. -/
def ChannelEnd.send (e : ChannelEnd) (plaintext : ByteString) : ChannelEnd :=
  match e.transport.encryptMessage plaintext with
  | (none, transport) => { e with transport }
  | (some ciphertext, transport) =>
    { e with
      transport
      sent := e.sent ++ [{
        key := e.transport.sendKey
        nonce := NoiseCipherState.buildNonce e.transport.sendState.nonceCounter
        plaintext, ciphertext }] }

/-- `decrypt_message`, with a record of what it opened. -/
def ChannelEnd.receive (e : ChannelEnd) (ciphertext : ByteString) : ChannelEnd :=
  match e.transport.decryptMessage ciphertext with
  | (none, transport) => { e with transport }
  | (some plaintext, transport) => { e with transport, received := e.received ++ [plaintext] }

/-- Both ends. -/
abbrev Channel : Type := Side → ChannelEnd

namespace Channel

/-- One event; `none` when there is no message left to hand over. -/
def step (channel : Channel) : ChannelEvent → Option Channel
  | .send side plaintext => some (Function.update channel side ((channel side).send plaintext))
  | .deliver side =>
    match (channel side.other).sent[(channel side).delivered]? with
    | none => none
    | some message =>
      let e := (channel side).receive message.ciphertext
      some (Function.update channel side { e with delivered := e.delivered + 1 })
  | .inject side ciphertext =>
    some (Function.update channel side ((channel side).receive ciphertext))

/-- Two transports with crossed keys. -/
def crossed (nearKey farKey : SymmetricKey) : Channel
  | .near => { transport := .create nearKey farKey }
  | .far => { transport := .create farKey nearKey }

/-- The AEAD opens this, at this end, only if it was sealed under the key and the
nonce that are expected there. -/
def OpensOnlySealed (channel : Channel) (side : Side) (ciphertext : ByteString) : Prop :=
  let state := (channel side).transport.receiveState
  (Sodium.chachaDecrypt state.key (NoiseCipherState.buildNonce state.nonceCounter) []
    ciphertext).isSome = true →
  ∃ message ∈ (channel .near).sent ++ (channel .far).sent, message.key = state.key ∧
    message.nonce = NoiseCipherState.buildNonce state.nonceCounter ∧
    message.ciphertext = ciphertext

/-- The assumption on the AEAD, for the ciphertext an event presents. -/
def Authentic (channel : Channel) : ChannelEvent → Prop
  | .send _ _ => True
  | .deliver side => ∀ message, (channel side.other).sent[(channel side).delivered]? = some message →
    channel.OpensOnlySealed side message.ciphertext
  | .inject side ciphertext => channel.OpensOnlySealed side ciphertext

/-- The event does not present a message that is still to be handed over. -/
def ForgedOrReplayed (channel : Channel) : ChannelEvent → Prop
  | .inject side ciphertext =>
    ∀ message ∈ (channel side.other).sent.drop (channel side).delivered,
      message.ciphertext ≠ ciphertext
  | _ => True

/-! ## What holds at both ends -/

/-- An end towards its peer. -/
structure EndInStep (e peer : ChannelEnd) : Prop where
  /-- the keys cross -/
  key : peer.transport.sendKey = e.transport.receiveState.key
  /-- the peer's next nonce is the number of its messages -/
  counter : peer.transport.sendCounter = peer.sent.length
  /-- message number `n` was sealed under nonce `n` -/
  sealed : ∀ (n : ℕ) (message : Sealing), peer.sent[n]? = some message →
    message.key = peer.transport.sendKey ∧
    message.nonce = NoiseCipherState.buildNonce (UInt64.ofNat n) ∧
    message.ciphertext = Sodium.chachaEncrypt message.key message.nonce [] message.plaintext
  /-- the nonce expected is the number of messages opened -/
  opened : e.transport.receiveCounter = e.received.length
  /-- these are the first ones the peer sent -/
  inOrder : e.received = (peer.sent.take e.received.length).map Sealing.plaintext
  room : e.received.length ≤ peer.sent.length
  /-- among them all that were handed over -/
  handed : e.delivered ≤ e.received.length

/-- Both ends, with two different keys. -/
structure InStep (channel : Channel) : Prop where
  ends : ∀ side, EndInStep (channel side) (channel side.other)
  distinct : (channel .near).transport.sendKey ≠ (channel .far).transport.sendKey

end Channel

/-! ## One event -/

namespace ChannelEnd

/-- What sending does. -/
theorem send_cases (e : ChannelEnd) (plaintext : ByteString) :
    e.send plaintext = e ∨
    ∃ transport : NoiseTransport, transport.sendCounter = e.transport.sendCounter + 1 ∧
      transport.sendKey = e.transport.sendKey ∧
      transport.receiveState = e.transport.receiveState ∧
      e.send plaintext = { e with
        transport
        sent := e.sent ++ [{
          key := e.transport.sendKey
          nonce := NoiseCipherState.buildNonce (UInt64.ofNat e.transport.sendCounter)
          plaintext
          ciphertext := sealedMessage e.transport.sendKey e.transport.sendCounter plaintext }] } := by
  rcases hout : e.transport.encryptMessage plaintext with ⟨sealed?, transport⟩
  rcases NoiseTransport.encryptMessage_cases hout with ⟨rfl, rfl⟩ | ⟨rfl, hcounter, hkey, hreceive⟩
  · exact .inl (by simp only [send, hout])
  · refine .inr ⟨transport, hcounter, hkey, hreceive, ?_⟩
    simp only [send, hout, NoiseTransport.sendCounter, UInt64.ofNat_toNat]

/-- What receiving does. -/
theorem receive_cases (e : ChannelEnd) (ciphertext : ByteString) :
    e.receive ciphertext = e ∨
    ∃ (plaintext : ByteString) (transport : NoiseTransport),
      Sodium.chachaDecrypt e.transport.receiveState.key
        (NoiseCipherState.buildNonce e.transport.receiveState.nonceCounter) [] ciphertext =
        some plaintext ∧
      transport.receiveCounter = e.transport.receiveCounter + 1 ∧
      transport.receiveState.key = e.transport.receiveState.key ∧
      transport.sendState = e.transport.sendState ∧
      e.receive ciphertext = { e with transport, received := e.received ++ [plaintext] } := by
  rcases NoiseCipherState.decryptWithAd_keyed e.transport.receiveKeyed [] ciphertext with
    hfail | ⟨plaintext, hdone, hleft, hopen⟩
  · left
    simp only [receive, NoiseTransport.decryptMessage, hfail]
  · refine .inr ⟨plaintext, (e.transport.decryptMessage ciphertext).2, hopen, ?_, ?_, rfl, ?_⟩
    · simp only [NoiseTransport.receiveCounter, NoiseTransport.decryptMessage, hdone]
      exact NoiseTransport.counter_succ hleft
    · simp only [NoiseTransport.decryptMessage, hdone]
    · simp only [receive, NoiseTransport.decryptMessage, hdone]

theorem receive_sendKey (e : ChannelEnd) (ciphertext : ByteString) :
    (e.receive ciphertext).transport.sendKey = e.transport.sendKey := by
  rcases e.receive_cases ciphertext with hsame | ⟨_, transport, -, -, -, hsend, hopened⟩
  · rw [hsame]
  · rw [hopened, NoiseTransport.sendKey, hsend]
    rfl

theorem receive_delivered (e : ChannelEnd) (ciphertext : ByteString) :
    (e.receive ciphertext).delivered = e.delivered := by
  rcases e.receive_cases ciphertext with hsame | ⟨_, _, -, -, -, -, hopened⟩
  · rw [hsame]
  · rw [hopened]

end ChannelEnd

namespace Channel

variable {channel channel' : Channel} {side : Side} {event : ChannelEvent}

/-- What an end opens is the next message its peer sent. -/
theorem InStep.opened_next (h : channel.InStep) {ciphertext plaintext : ByteString}
    (honly : channel.OpensOnlySealed side ciphertext)
    (hopen : Sodium.chachaDecrypt (channel side).transport.receiveState.key
      (NoiseCipherState.buildNonce (channel side).transport.receiveState.nonceCounter) []
      ciphertext = some plaintext) :
    ∃ message, (channel side.other).sent[(channel side).received.length]? = some message ∧
      message.ciphertext = ciphertext ∧ message.plaintext = plaintext := by
  obtain ⟨message, hmem, hkey, hnonce, hciphertext⟩ := honly (by rw [hopen]; rfl)
  have hends := h.ends side
  -- it is not one of its own, which are under the other key
  have hpeer : message ∈ (channel side.other).sent := by
    have hown : message ∉ (channel side).sent := by
      intro hown
      obtain ⟨n, hn⟩ := List.mem_iff_getElem?.mp hown
      have hsealed := (h.ends side.other).sealed n message (by rwa [Side.other_other])
      rw [Side.other_other, hkey, ← hends.key] at hsealed
      have hdistinct := h.distinct
      cases side with
      | near => exact hdistinct hsealed.1.symm
      | far => exact hdistinct hsealed.1
    cases side with
    | near => exact (List.mem_append.mp hmem).resolve_left hown
    | far => exact (List.mem_append.mp hmem).resolve_right hown
  obtain ⟨n, hn⟩ := List.mem_iff_getElem?.mp hpeer
  obtain ⟨-, hnonce', hsealed⟩ := hends.sealed n message hn
  have hposition : n = (channel side).received.length := by
    have hcounter := NoiseCipherState.buildNonce_injective (hnonce'.symm.trans hnonce)
    have hlt : n < 2 ^ 64 := by
      have hlength := (List.getElem?_eq_some_iff.mp hn).1
      have hsmall := (channel side.other).transport.sendState.nonceCounter.toNat_lt
      have hsent := hends.counter
      rw [NoiseTransport.sendCounter] at hsent
      omega
    rw [← hends.opened, NoiseTransport.receiveCounter, ← hcounter]
    exact (UInt64.toNat_ofNat_of_lt' hlt).symm
  refine ⟨message, hposition ▸ hn, hciphertext, ?_⟩
  have hinverse := Sodium.chachaDecrypt_encrypt message.key message.nonce [] message.plaintext
  rw [← hsealed, hciphertext, hkey, hnonce, hopen] at hinverse
  exact (Option.some.inj hinverse).symm

namespace EndInStep

variable {e peer : ChannelEnd}

/-- Sending changes nothing about what an end receives. -/
theorem send_self (h : EndInStep e peer) (plaintext : ByteString) :
    EndInStep (e.send plaintext) peer := by
  rcases e.send_cases plaintext with hsame | ⟨transport, -, -, hreceive, hsend⟩
  · rw [hsame]
    exact h
  · rw [hsend]
    refine ⟨?_, h.counter, h.sealed, ?_, h.inOrder, h.room, h.handed⟩
    · rw [hreceive]
      exact h.key
    · rw [NoiseTransport.receiveCounter, hreceive]
      exact h.opened

/-- One more message of the peer. -/
theorem send_peer (h : EndInStep e peer) (plaintext : ByteString) :
    EndInStep e (peer.send plaintext) := by
  rcases peer.send_cases plaintext with hsame | ⟨transport, hcounter, hkey, -, hsend⟩
  · rw [hsame]
    exact h
  rw [hsend]
  refine ⟨hkey.trans h.key, ?_, ?_, h.opened, ?_, ?_, h.handed⟩
  · rw [hcounter, h.counter, List.length_append]
    rfl
  · intro n message hn
    rw [List.getElem?_append] at hn
    split at hn
    · obtain ⟨hmessageKey, hrest⟩ := h.sealed n message hn
      exact ⟨hmessageKey.trans hkey.symm, hrest⟩
    · next hlast =>
      -- the new one: its nonce is the number of messages before it
      obtain ⟨hposition, hmessage⟩ := List.getElem?_eq_some_iff.mp hn
      rw [List.length_singleton] at hposition
      have hn' : n = peer.transport.sendCounter := by
        rw [h.counter]
        omega
      simp only [List.getElem_singleton] at hmessage
      subst hmessage
      rw [hn']
      exact ⟨hkey.symm, rfl, rfl⟩
  · rw [List.take_append_of_le_length h.room]
    exact h.inOrder
  · rw [List.length_append]
    exact h.room.trans (Nat.le_add_right ..)

/-- What the peer opens does not matter. -/
theorem receive_peer (h : EndInStep e peer) (ciphertext : ByteString) :
    EndInStep e (peer.receive ciphertext) := by
  rcases peer.receive_cases ciphertext with hsame | ⟨plaintext, transport, -, -, -, hsend, hopened⟩
  · rw [hsame]
    exact h
  · rw [hopened]
    refine ⟨?_, ?_, ?_, h.opened, h.inOrder, h.room, h.handed⟩
    · rw [NoiseTransport.sendKey, hsend]
      exact h.key
    · rw [NoiseTransport.sendCounter, hsend]
      exact h.counter
    · rw [NoiseTransport.sendKey, hsend]
      exact h.sealed

/-- An end that opens nothing but the next message stays in step, and says by how
much it got ahead. -/
theorem receive_self (h : EndInStep e peer) {ciphertext : ByteString}
    (hnext : ∀ plaintext, Sodium.chachaDecrypt e.transport.receiveState.key
      (NoiseCipherState.buildNonce e.transport.receiveState.nonceCounter) [] ciphertext =
        some plaintext →
      ∃ message, peer.sent[e.received.length]? = some message ∧ message.plaintext = plaintext) :
    EndInStep (e.receive ciphertext) peer := by
  rcases e.receive_cases ciphertext with hsame |
    ⟨plaintext, transport, hopen, hcounter, hkey, -, hopened⟩
  · rw [hsame]
    exact h
  obtain ⟨message, hmessage, hplaintext⟩ := hnext plaintext hopen
  rw [hopened]
  refine ⟨h.key.trans hkey.symm, h.counter, h.sealed, ?_, ?_, ?_, ?_⟩
  · rw [hcounter, h.opened, List.length_append]
    rfl
  · conv_lhs => rw [h.inOrder]
    rw [List.length_append, List.length_singleton, List.take_add_one, hmessage]
    simp [hplaintext]
  · rw [List.length_append, List.length_singleton]
    exact (List.getElem?_eq_some_iff.mp hmessage).1
  · rw [List.length_append]
    exact h.handed.trans (Nat.le_add_right ..)

/-- The next message of the peer opens. -/
theorem receive_next (h : EndInStep e peer) {message : Sealing}
    (hmessage : peer.sent[e.received.length]? = some message) :
    (e.receive message.ciphertext).received = e.received ++ [message.plaintext] := by
  obtain ⟨hmessageKey, hnonce, hsealed⟩ := h.sealed _ _ hmessage
  have hleft : e.transport.receiveState.nonceCounter ≠ NoiseCipherState.exhausted := by
    -- the peer could not have sealed it either
    have hlength := (List.getElem?_eq_some_iff.mp hmessage).1
    have hsmall := peer.transport.sendState.nonceCounter.toNat_lt
    have hsent := h.counter
    have hopened := h.opened
    rw [NoiseTransport.sendCounter] at hsent
    exact NoiseTransport.ne_exhausted (show e.transport.receiveCounter < _ by omega)
  have hciphertext : message.ciphertext =
      sealedMessage e.transport.receiveState.key e.transport.receiveCounter message.plaintext := by
    rw [hsealed, hmessageKey, hnonce, h.key, h.opened, sealedMessage]
  obtain ⟨transport, hopen, -⟩ := NoiseTransport.decryptMessage_sealed message.plaintext hleft
  rw [← hciphertext] at hopen
  simp only [ChannelEnd.receive, hopen]

end EndInStep

/-- Replacing one end. -/
theorem InStep.update (h : channel.InStep) {e : ChannelEnd}
    (hself : EndInStep e (channel side.other)) (hpeer : EndInStep (channel side.other) e)
    (hkey : e.transport.sendKey = (channel side).transport.sendKey) :
    InStep (Function.update channel side e) := by
  refine ⟨?_, ?_⟩
  · intro s
    cases side <;> cases s
    · exact hself
    · exact hpeer
    · exact hpeer
    · exact hself
  · have hdistinct := h.distinct
    cases side
    · exact fun heq => hdistinct (hkey.symm.trans heq)
    · exact fun heq => hdistinct (heq.trans hkey)

theorem InStep.peer (h : channel.InStep) (side : Side) :
    EndInStep (channel side.other) (channel side) := by
  have hends := h.ends side.other
  rwa [Side.other_other] at hends

/-- Presenting a ciphertext to an end. -/
theorem InStep.receive (h : channel.InStep) {ciphertext : ByteString}
    (honly : channel.OpensOnlySealed side ciphertext) :
    InStep (Function.update channel side ((channel side).receive ciphertext)) := by
  refine h.update ((h.ends side).receive_self ?_) ((h.peer side).receive_peer ciphertext)
    (ChannelEnd.receive_sendKey _ ciphertext)
  intro plaintext hopen
  obtain ⟨message, hmessage, -, hplaintext⟩ := h.opened_next honly hopen
  exact ⟨message, hmessage, hplaintext⟩

/-- The message the network hands over is opened, if it was not before. -/
theorem InStep.receive_handed (h : channel.InStep) {message : Sealing}
    (hmessage : (channel side.other).sent[(channel side).delivered]? = some message) :
    (channel side).delivered < ((channel side).receive message.ciphertext).received.length := by
  rcases (h.ends side).handed.lt_or_eq with hahead | hnext
  · refine lt_of_lt_of_le hahead ?_
    rcases (channel side).receive_cases message.ciphertext with hsame | ⟨_, _, -, -, -, -, hopened⟩
    · rw [hsame]
    · rw [hopened, List.length_append]
      exact Nat.le_add_right ..
  · rw [hnext] at hmessage
    rw [(h.ends side).receive_next hmessage, List.length_append, hnext]
    exact Nat.lt_succ_self _

/-- Every event whose ciphertext the AEAD opens only if it was sealed. -/
theorem InStep.step (h : channel.InStep) (hauthentic : channel.Authentic event)
    (hstep : channel.step event = some channel') : channel'.InStep := by
  cases event with
  | send side plaintext =>
    obtain rfl := Option.some.inj hstep
    refine h.update ((h.ends side).send_self plaintext) ((h.peer side).send_peer plaintext) ?_
    rcases (channel side).send_cases plaintext with hsame | ⟨_, -, hkey, -, hsend⟩
    · rw [hsame]
    · rw [hsend]
      exact hkey
  | inject side ciphertext =>
    obtain rfl := Option.some.inj hstep
    exact h.receive hauthentic
  | deliver side =>
    rw [Channel.step] at hstep
    split at hstep
    · cases hstep
    next message hmessage =>
    obtain rfl := Option.some.inj hstep
    have hreceived := h.receive (hauthentic message hmessage)
    have hself := hreceived.ends side
    have hpeer := hreceived.peer side
    have hhanded := h.receive_handed hmessage
    have hother : Function.update channel side ((channel side).receive message.ciphertext)
        side.other = channel side.other := by
      cases side <;> rfl
    rw [Function.update_self, hother] at hself hpeer
    -- only the number of messages handed over is different
    refine h.update ⟨hself.key, hself.counter, hself.sealed, hself.opened, hself.inOrder,
      hself.room, ?_⟩ ⟨hpeer.key, hpeer.counter, hpeer.sealed, hpeer.opened, hpeer.inOrder,
      hpeer.room, hpeer.handed⟩ (ChannelEnd.receive_sendKey _ _)
    rw [ChannelEnd.receive_delivered]
    exact hhanded

/-- An end has opened as many messages as were handed to it. -/
def NothingAhead (channel : Channel) : Prop :=
  ∀ side, (channel side).delivered = (channel side).received.length

/-- If what is injected is not a message still on its way, nothing is opened
ahead of its turn. -/
theorem InStep.nothingAhead (h : channel.InStep) (hnothing : channel.NothingAhead)
    (hauthentic : channel.Authentic event) (hforged : channel.ForgedOrReplayed event)
    (hstep : channel.step event = some channel') : channel'.NothingAhead := by
  -- the end that the event is about; the other one is as before
  have hupdate : ∀ {side : Side} {e : ChannelEnd}, e.delivered = e.received.length →
      NothingAhead (Function.update channel side e) := by
    intro side e he s
    by_cases hs : s = side
    · rw [hs, Function.update_self]
      exact he
    · rw [Function.update_of_ne hs]
      exact hnothing s
  cases event with
  | send side plaintext =>
    obtain rfl := Option.some.inj hstep
    refine hupdate ?_
    rcases (channel side).send_cases plaintext with hsame | ⟨_, -, -, -, hsend⟩
    · rw [hsame]
      exact hnothing side
    · rw [hsend]
      exact hnothing side
  | inject side ciphertext =>
    obtain rfl := Option.some.inj hstep
    refine hupdate ?_
    rcases (channel side).receive_cases ciphertext with hsame | ⟨plaintext, _, hopen, -⟩
    · rw [hsame]
      exact hnothing side
    · -- it would have to be the message that is next
      obtain ⟨message, hmessage, hciphertext, -⟩ := h.opened_next hauthentic hopen
      rw [← hnothing side] at hmessage
      have hwaiting : message ∈ (channel side.other).sent.drop (channel side).delivered := by
        refine List.mem_of_getElem? (i := 0) ?_
        rw [List.getElem?_drop, Nat.add_zero]
        exact hmessage
      exact absurd hciphertext (hforged message hwaiting)
  | deliver side =>
    rw [Channel.step] at hstep
    split at hstep
    · cases hstep
    next message hmessage =>
    obtain rfl := Option.some.inj hstep
    refine hupdate ?_
    rw [hnothing side] at hmessage
    simp only [ChannelEnd.receive_delivered, (h.ends side).receive_next hmessage, List.length_append,
      List.length_singleton, hnothing side]

/-- The channel at its start. -/
theorem crossed_inStep {nearKey farKey : SymmetricKey} (hdistinct : nearKey ≠ farKey) :
    (crossed nearKey farKey).InStep := by
  refine ⟨?_, hdistinct⟩
  intro side
  cases side
  · exact ⟨rfl, rfl, by simp [crossed, Side.other], rfl, rfl, le_rfl, le_rfl⟩
  · exact ⟨rfl, rfl, by simp [crossed, Side.other], rfl, rfl, le_rfl, le_rfl⟩

end Channel

/-! ## Every run -/

/-- Whatever is asked of a keyed cipher state, what its encryptions return is the
AEAD's ciphertext under the key and under nonces that are distinct, a call that fails changes nothing, one that succeeds moves the counter on
without wrapping, and none succeeds at the last value. And on a channel with two
keys, whatever is sent and injected, each end opens the messages of its peer in
the order they were sent: all that were handed to it, and no others, unless they
were injected ahead of their turn. -/
theorem nonce_discipline :
    (∀ (state : NoiseCipherState) (out : ByteString) (sequence : List CipherCall),
      state.hasKey = true →
      let use := CipherUse.calls { state, out } sequence
      (∀ message ∈ use.used, message.key = state.key ∧ message.ciphertext =
        Sodium.chachaEncrypt state.key message.nonce message.associatedData message.plaintext) ∧
      (use.used.map Sealing.nonce).Nodup ∧ ∀ request,
        ((use.call request).1 = true → ∀ associatedData plaintext,
          request = .encrypt associatedData plaintext → ∃ message : Sealing,
            (use.call request).2.used = use.used ++ [message] ∧
            message.associatedData = associatedData ∧ message.plaintext = plaintext ∧
            message.ciphertext = (use.call request).2.out) ∧
        ((use.call request).1 = false →
          (use.call request).2.state = use.state ∧ (use.call request).2.out = use.out) ∧
        ((use.call request).1 = true → (use.call request).2.state.nonceCounter.toNat =
          use.state.nonceCounter.toNat + 1) ∧
        (use.state.nonceCounter = NoiseCipherState.exhausted → (use.call request).1 = false)) ∧
    (∀ (nearKey farKey : SymmetricKey) (events : List ChannelEvent) (channel : Channel),
      nearKey ≠ farKey →
      Along Channel.step Channel.Authentic (Channel.crossed nearKey farKey) events →
      after Channel.step (Channel.crossed nearKey farKey) events = some channel → ∀ side,
        (channel side).received = ((channel side.other).sent.take
          (channel side).received.length).map Sealing.plaintext ∧
        (channel side).delivered ≤ (channel side).received.length ∧
        (Along Channel.step Channel.ForgedOrReplayed (Channel.crossed nearKey farKey) events →
          (channel side).delivered = (channel side).received.length)) := by
  refine ⟨?_, ?_⟩
  · intro state out sequence keyed
    have hstart : CipherUse.Disciplined state.key { state, out } :=
      ⟨keyed, rfl, nofun, List.nodup_nil, nofun⟩
    have hdisciplined := hstart.calls sequence
    refine ⟨fun message hmem => ?_, hdisciplined.distinct, fun request => ⟨?_, ?_⟩⟩
    · obtain ⟨hgenuine, hkey⟩ := hdisciplined.genuine message hmem
      exact ⟨hkey, hkey ▸ hgenuine⟩
    · rintro hdone associatedData plaintext rfl
      exact CipherUse.call_encrypt_logged hdone
    rcases CipherUse.call_cases hdisciplined.keyed request with hfail | ⟨hleft, _, _, hdone, -⟩
    · rw [hfail]
      exact ⟨fun _ => ⟨rfl, rfl⟩, nofun, fun _ => rfl⟩
    · rw [hdone]
      exact ⟨nofun, fun _ => NoiseTransport.counter_succ hleft, fun hmax => absurd hmax hleft⟩
  · intro nearKey farKey events channel hdistinct hauthentic hrun side
    have hinStep : channel.InStep := after_invariant (fun h hevent hstep => h.step hevent hstep)
      (Channel.crossed_inStep hdistinct) hauthentic hrun
    refine ⟨(hinStep.ends side).inOrder, (hinStep.ends side).handed, fun hforged => ?_⟩
    have hboth : channel.InStep ∧ channel.NothingAhead :=
      after_invariant (I := fun channel : Channel => channel.InStep ∧ channel.NothingAhead)
        (fun h hevent hstep => ⟨h.1.step hevent.1 hstep,
          h.1.nothingAhead h.2 hevent.1 hevent.2 hstep⟩)
        ⟨Channel.crossed_inStep hdistinct, fun side => by cases side <;> rfl⟩
        (hauthentic.and hforged) hrun
    exact hboth.2 side

/-! ## Two keys and one -/

namespace Channel

variable (channel : Channel)

instance (side : Side) (ciphertext : ByteString) :
    Decidable (channel.OpensOnlySealed side ciphertext) :=
  inferInstanceAs (Decidable (_ → ∃ message ∈ _, _))

instance : (event : ChannelEvent) → Decidable (channel.Authentic event)
  | .send _ _ => isTrue trivial
  | .deliver side => inferInstanceAs (Decidable (∀ message,
      message ∈ (channel side.other).sent[(channel side).delivered]? →
        channel.OpensOnlySealed side message.ciphertext))
  | .inject side ciphertext => inferInstanceAs (Decidable (channel.OpensOnlySealed side ciphertext))

instance : (event : ChannelEvent) → Decidable (channel.ForgedOrReplayed event)
  | .send _ _ => isTrue trivial
  | .deliver _ => isTrue trivial
  | .inject _ _ => inferInstanceAs (Decidable (∀ message ∈ _, _))

end Channel

omit [Sodium]

/-- The near end sends a message, and before it the far end is given bytes that
are none. -/
def disturbedEvents : List ChannelEvent :=
  [.send .near [97], .inject .far [1, 2, 3], .deliver .far]

theorem disturbedEvents_authentic :
    letI := transparentSodium
    Along Channel.step Channel.Authentic
      (Channel.crossed (repeatedBytes 32 1) (repeatedBytes 32 2)) disturbedEvents := by
  decide +kernel

theorem disturbedEvents_forged :
    letI := transparentSodium
    Along Channel.step Channel.ForgedOrReplayed
      (Channel.crossed (repeatedBytes 32 1) (repeatedBytes 32 2)) disturbedEvents := by
  decide +kernel

theorem nonce_discipline_disturbed :
    letI := transparentSodium
    ((CipherUse.calls { state := NoiseCipherState.initializeKey (repeatedBytes 32 1) }
      [.encrypt [] [97], .decrypt [] [1], .encrypt [5] [98]]).used.map Sealing.nonce).Nodup ∧
    ∃ channel, after Channel.step (Channel.crossed (repeatedBytes 32 1) (repeatedBytes 32 2))
        disturbedEvents = some channel ∧
      (channel .far).delivered = 1 ∧ (channel .far).received.length = 1 ∧
      (channel .far).received = ((channel .near).sent.take 1).map Sealing.plaintext := by
  let _ := transparentSodium
  refine ⟨(nonce_discipline.1 _ [] [.encrypt [] [97], .decrypt [] [1], .encrypt [5] [98]] rfl).2.1,
    _, rfl, rfl, ?_, ?_⟩
  · have hexact := (nonce_discipline.2 _ _ disturbedEvents _ (by decide +kernel)
      disturbedEvents_authentic rfl .far).2.2 disturbedEvents_forged
    exact hexact.symm
  · exact (nonce_discipline.2 _ _ disturbedEvents _ (by decide +kernel) disturbedEvents_authentic
      rfl .far).1

/-- The near end sends a message and is given it back. -/
def reflectedEvents : List ChannelEvent := [.send .near [97], .inject .near (97 :: transparentTag)]

theorem reflectedEvents_authentic :
    letI := transparentSodium
    Along Channel.step Channel.Authentic
      (Channel.crossed (repeatedBytes 32 1) (repeatedBytes 32 1)) reflectedEvents := by
  decide +kernel

/-- With one key for both directions, an end opens its own message as one of its
peer, which sent none. It was sealed under the key and the nonce expected. -/
theorem reflected_message_opens :
    letI := transparentSodium
    Along Channel.step Channel.Authentic
      (Channel.crossed (repeatedBytes 32 1) (repeatedBytes 32 1)) reflectedEvents ∧
    Along Channel.step Channel.ForgedOrReplayed
      (Channel.crossed (repeatedBytes 32 1) (repeatedBytes 32 1)) reflectedEvents ∧
    ∃ channel, after Channel.step (Channel.crossed (repeatedBytes 32 1) (repeatedBytes 32 1))
        reflectedEvents = some channel ∧
      (channel .far).sent = [] ∧ (channel .near).received = [[97]] ∧
      (channel .near).received ≠ ((channel .far).sent.take
        (channel .near).received.length).map Sealing.plaintext := by
  let _ := transparentSodium
  exact ⟨reflectedEvents_authentic, by decide +kernel, _, rfl, rfl, rfl, by decide +kernel⟩

end HyperCom
