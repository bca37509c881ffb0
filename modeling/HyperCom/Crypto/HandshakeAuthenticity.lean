import HyperCom.Crypto.Handshake
import HyperCom.Lib.Transcript

/-!
# A handshake with somebody in between

An initiator pinned to a key, a responder with a static key pair, and between
them an attacker that delivers whatever bytes it likes to either. What each side
has sent and read so far is in its handshake hash, which is the associated data of
the next payload. So the second message opens at the initiator only if the
responder's view of both messages is the initiator's, bit for bit.

The attacker's means are a log of what it sealed: the keys come from products of
secrets that it holds. `handshake_authentic` excludes one thing, an attacker who
holds the secret of the pinned key. Such an attacker is the pinned server as far
as anyone can tell (`pinned_secret_impersonates`).
-/

namespace HyperCom

open Transcript

variable [Sodium]

/-! ## The transcript -/

/-- `mix_hash` as it acts on the hash. -/
def absorbHash (handshakeHash : FixedBytes 32) (data : ByteString) : FixedBytes 32 :=
  Sodium.hashSha256 (handshakeHash.1 ++ data)

/-- The hash of what went over the wire, from the protocol name on. -/
def transcriptHash (entries : List ByteString) : FixedBytes 32 :=
  absorbAll absorbHash (initializeSymmetricState noiseProtocolName).handshakeHash entries

/-- The key of a payload, after the products that were mixed in. -/
def derivedKeys (products : List SymmetricKey) : SymmetricKey × SymmetricKey :=
  products.foldl (fun keys product => deriveKeyPair keys.1 product.1)
    ((initializeSymmetricState noiseProtocolName).chainingKey, FixedBytes.zero _)

/-! ## The log of what was sealed -/

/-- A secret, and the public key of another. -/
abbrev Exchange25519 : Type := X25519SecretKey × X25519PublicKey

/-- The products of several exchanges, of those that succeed. -/
def productsOf (exchanges : List Exchange25519) : List SymmetricKey :=
  exchanges.filterMap fun exchange => computeSharedSecret exchange.1 exchange.2

/-- The arguments of `crypto_aead_chacha20poly1305_ietf_encrypt`. -/
structure AeadSealing where
  key : SymmetricKey
  nonce : FixedBytes chachaIetfNonceSize
  associatedData : ByteString
  plaintext : ByteString
deriving DecidableEq

/-- The result. -/
def AeadSealing.ciphertext (sealing : AeadSealing) : ByteString :=
  Sodium.chachaEncrypt sealing.key sealing.nonce sealing.associatedData sealing.plaintext

/-- What `encrypt_and_hash` seals right after `mix_key`. -/
def payloadSealing (state : NoiseSymmetricState) (shared : SymmetricKey) (payload : ByteString) :
    AeadSealing where
  key := (mixKey state shared.1).cipher.key
  nonce := NoiseCipherState.buildNonce 0
  associatedData := state.handshakeHash.1
  plaintext := payload

/-- What somebody else seals, under a key derived from exchanges it can make. -/
structure ForeignSealing where
  exchanges : List Exchange25519
  nonce : FixedBytes chachaIetfNonceSize
  associatedData : ByteString
  plaintext : ByteString

def ForeignSealing.sealing (foreign : ForeignSealing) : AeadSealing where
  key := (derivedKeys (productsOf foreign.exchanges)).2
  nonce := foreign.nonce
  associatedData := foreign.associatedData
  plaintext := foreign.plaintext

/-! ## The run -/

/-- A responder: its keys, what it says, and what is delivered for it. -/
structure ResponderSession where
  staticPublic : X25519PublicKey
  staticSecret : X25519SecretKey
  ephemeral : EphemeralKeypair
  payload : ByteString := []
  delivered : ByteString

namespace ResponderSession

/-- It reads what is delivered. -/
def firstRead (session : ResponderSession) : Option ByteString × NoiseHandshakeResponder :=
  NoiseHandshakeResponder.readFirstMessage session.delivered
    (.create session.staticPublic session.staticSecret)

/-- It writes the second message. -/
def second (session : ResponderSession) : Option ByteString × NoiseHandshakeResponder :=
  NoiseHandshakeResponder.writeSecondMessage session.ephemeral session.payload session.firstRead.2

/-- What it has read and sent. The prologue comes first. -/
def transcript (session : ResponderSession) : List ByteString :=
  [noisePrologue, session.staticPublic.1, session.delivered.take 32, session.delivered.drop 32,
    (session.second.1.getD []).take 32]

/-- The payload of its message. -/
def sealing (session : ResponderSession) : Option AeadSealing := do
  let _ ← session.second.1
  let (ephemeralPublic, ephemeralSecret) ← session.ephemeral
  let shared ← computeSharedSecret ephemeralSecret session.firstRead.2.remoteEphemeral
  pure (payloadSealing (mixHash session.firstRead.2.state ephemeralPublic.1) shared session.payload)

end ResponderSession

/-- An initiator, the responders there are, and what the attacker makes of it:
what it delivers to each, and what it seals itself. -/
structure HandshakeRun where
  pinned : X25519PublicKey
  ephemeral : EphemeralKeypair
  payload : ByteString := []
  sessions : List ResponderSession
  delivered : ByteString
  foreign : List ForeignSealing := []

namespace HandshakeRun

/-- The initiator writes the first message. -/
def first (run : HandshakeRun) : Option ByteString × NoiseHandshakeInitiator :=
  NoiseHandshakeInitiator.writeFirstMessage run.ephemeral run.payload (.create run.pinned)

/-- The initiator reads what is delivered. -/
def secondRead (run : HandshakeRun) : Option ByteString × NoiseHandshakeInitiator :=
  NoiseHandshakeInitiator.readSecondMessage run.delivered run.first.2

/-- With each responder something is not as it should be: another key is pinned,
or a message is not delivered as it was sent. -/
def Altered (run : HandshakeRun) : Prop :=
  ∀ session ∈ run.sessions, run.pinned ≠ session.staticPublic ∨
    run.first.1 ≠ some session.delivered ∨ session.second.1 ≠ some run.delivered

/-- The handshake completes with none of them: either the responder or the
initiator fails, and has no transport keys. -/
def Refused (run : HandshakeRun) : Prop :=
  ∀ session ∈ run.sessions,
    (session.firstRead.1 = none ∧ session.second.2.exportTransportKeys = none) ∨
      (run.secondRead.1 = none ∧ run.secondRead.2.exportTransportKeys = none)

/-! ## What is assumed -/

/-- What the initiator has sent and read. -/
def transcript (run : HandshakeRun) : List ByteString :=
  let message := run.first.1.getD []
  [noisePrologue, run.pinned.1, message.take 32, message.drop 32, run.delivered.take 32]

/-- The absorptions of both sides. -/
def absorbed (run : HandshakeRun) : List (FixedBytes 32 × ByteString) :=
  let start := (initializeSymmetricState noiseProtocolName).handshakeHash
  absorptions absorbHash start run.transcript ++
    run.sessions.flatMap fun session => absorptions absorbHash start session.transcript

/-- The exchanges of the initiator. -/
def exchanges (run : HandshakeRun) : List Exchange25519 :=
  [(run.first.2.ephemeralSecret, run.pinned),
    (run.first.2.ephemeralSecret, FixedBytes.copyFrom 32 run.delivered)]

/-- The payload of the initiator's message. -/
def sealing (run : HandshakeRun) : Option AeadSealing := do
  let (ephemeralPublic, ephemeralSecret) ← run.ephemeral
  let shared ← computeSharedSecret ephemeralSecret run.pinned
  let state := (NoiseHandshakeInitiator.create run.pinned).state
  pure (payloadSealing (mixHash state ephemeralPublic.1) shared run.payload)

/-- Everything that was sealed. -/
def sealings (run : HandshakeRun) : List AeadSealing :=
  run.sealing.toList ++ run.sessions.filterMap ResponderSession.sealing ++
    run.foreign.map ForeignSealing.sealing

/-- The key and the associated data under which the initiator tries to open the
payload of the second message. -/
def opening (run : HandshakeRun) : Option (SymmetricKey × ByteString) := do
  let remoteEphemeral := FixedBytes.copyFrom 32 run.delivered
  let shared ← computeSharedSecret run.first.2.ephemeralSecret remoteEphemeral
  let state := mixHash run.first.2.state remoteEphemeral.1
  pure ((mixKey state shared.1).cipher.key, state.handshakeHash.1)

/-- The cryptography holds in this run. -/
structure Sound (run : HandshakeRun) : Prop where
  /-- SHA-256 is collision-free -/
  hash : ∀ input ∈ run.absorbed, ∀ other ∈ run.absorbed,
    Sodium.hashSha256 (input.1.1 ++ input.2) = Sodium.hashSha256 (other.1.1 ++ other.2) →
    input.1.1 ++ input.2 = other.1.1 ++ other.2
  /-- and so is the derivation of keys -/
  kdf : ∀ foreign ∈ run.foreign,
    (derivedKeys (productsOf foreign.exchanges)).2 = (derivedKeys (productsOf run.exchanges)).2 →
    productsOf foreign.exchanges = productsOf run.exchanges
  /-- what opens was sealed under the same key, nonce and associated data -/
  aead : ∀ opening ∈ run.opening,
    (Sodium.chachaDecrypt opening.1 (NoiseCipherState.buildNonce 0) opening.2
      (run.delivered.drop 32)).isSome = true →
    ∃ sealing ∈ run.sealings, sealing.key = opening.1 ∧
      sealing.nonce = NoiseCipherState.buildNonce 0 ∧ sealing.associatedData = opening.2 ∧
      sealing.ciphertext = run.delivered.drop 32
  /-- a product takes one of its two secrets -/
  product : ∀ foreign ∈ run.foreign, ∀ exchange ∈ foreign.exchanges,
    (computeSharedSecret exchange.1 exchange.2).isSome = true →
    computeSharedSecret exchange.1 exchange.2 =
      computeSharedSecret run.first.2.ephemeralSecret run.pinned →
    exchange.1 = run.first.2.ephemeralSecret ∨ computePublicFromSecret exchange.1 = run.pinned
  /-- the initiator keeps the secret that it drew -/
  kept : ∀ foreign ∈ run.foreign, ∀ exchange ∈ foreign.exchanges,
    exchange.1 ≠ run.first.2.ephemeralSecret

/-- Nobody but the responders uses a secret of the pinned key. -/
def Unheld (run : HandshakeRun) : Prop :=
  ∀ foreign ∈ run.foreign, ∀ exchange ∈ foreign.exchanges,
    computePublicFromSecret exchange.1 ≠ run.pinned

/-! ## What the two sides have in their hash -/

omit [Sodium] in
/-- An entry that is longer than the prologue is not it. -/
theorem ne_prologue {entry : ByteString} (h : aeadTagSize ≤ entry.length) : entry ≠ noisePrologue := by
  rintro rfl
  exact absurd h (by decide)

/-- Two views of one hash are one view. -/
theorem Sound.transcript_injective {run : HandshakeRun} (sound : run.Sound)
    {entries entries' : List ByteString}
    (hused : absorptions absorbHash (initializeSymmetricState noiseProtocolName).handshakeHash
      (noisePrologue :: entries) ⊆ run.absorbed)
    (hused' : absorptions absorbHash (initializeSymmetricState noiseProtocolName).handshakeHash
      (noisePrologue :: entries') ⊆ run.absorbed)
    (hlong : ∀ entry ∈ entries, aeadTagSize ≤ entry.length)
    (hlong' : ∀ entry ∈ entries', aeadTagSize ≤ entry.length)
    (h : transcriptHash (noisePrologue :: entries) = transcriptHash (noisePrologue :: entries')) :
    entries = entries' := by
  have free : CollisionFree absorbHash run.absorbed := by
    rintro ⟨digest, data⟩ hinput ⟨digest', data'⟩ hother hequal
    obtain ⟨hdigest, hdata⟩ := List.append_inj (sound.hash _ hinput _ hother hequal)
      (digest.2.trans digest'.2.symm)
    exact Prod.ext (Subtype.ext hdigest) hdata
  have hequal := absorbAll_injective (· = noisePrologue) free hused hused' rfl rfl
    (fun entry hmem => ne_prologue (hlong entry hmem))
    (fun entry hmem => ne_prologue (hlong' entry hmem)) h
  exact (List.cons.inj hequal).2

/-- What the initiator has done when it reads a second message. -/
structure Opened (run : HandshakeRun) (ephemeralPublic : X25519PublicKey)
    (ephemeralSecret : X25519SecretKey) (es ee : SymmetricKey) : Prop where
  drawn : run.ephemeral = some (ephemeralPublic, ephemeralSecret)
  secret : run.first.2.ephemeralSecret = ephemeralSecret
  static : computeSharedSecret ephemeralSecret run.pinned = some es
  ephemeral : computeSharedSecret ephemeralSecret (FixedBytes.copyFrom 32 run.delivered) = some ee
  long : noiseHandshakeMessageSize ≤ run.delivered.length
  message : run.first.1 = some (ephemeralPublic.1 ++
    sealedPayload (mixHash (NoiseHandshakeInitiator.create run.pinned).state ephemeralPublic.1) es.1
      run.payload)
  opening : run.opening =
    some ((derivedKeys [es, ee]).2, (transcriptHash run.transcript).1)

theorem opened_of_secondRead {run : HandshakeRun} {payload : ByteString}
    (h : run.secondRead.1 = some payload) :
    ∃ ephemeralPublic ephemeralSecret es ee,
      run.Opened ephemeralPublic ephemeralSecret es ee ∧
      (Sodium.chachaDecrypt (derivedKeys [es, ee]).2 (NoiseCipherState.buildNonce 0)
        (transcriptHash run.transcript).1 (run.delivered.drop 32)).isSome = true := by
  obtain ⟨hsent, hlong, ee, hee, hopen⟩ := NoiseHandshakeInitiator.exists_of_readSecondMessage h
  obtain ⟨ephemeralPublic, ephemeralSecret, es, hdrawn, hes⟩ :=
    NoiseHandshakeInitiator.exists_of_firstMessageSent rfl hsent
  set state := mixHash (NoiseHandshakeInitiator.create run.pinned).state ephemeralPublic.1 with hstate
  set sealed := sealedPayload state es.1 run.payload with hsealed
  have hfirst : run.first = (some (ephemeralPublic.1 ++ sealed),
      { NoiseHandshakeInitiator.create run.pinned with
        ephemeralSecret, firstMessageSent := true, state := exchangedState state es.1 sealed }) := by
    rw [first, hdrawn]
    exact NoiseHandshakeInitiator.writeFirstMessage_eq ephemeralPublic run.payload rfl hes
  rw [hfirst] at hee hopen
  have htranscript : run.transcript =
      [noisePrologue, run.pinned.1, ephemeralPublic.1, sealed, run.delivered.take 32] := by
    simp [transcript, hfirst, List.take_left' ephemeralPublic.2, List.drop_left' ephemeralPublic.2]
  have hcopy : (FixedBytes.copyFrom 32 run.delivered).1 = run.delivered.take 32 :=
    FixedBytes.copyFrom_val (le_trans (by decide) hlong)
  have hhash : (mixHash (exchangedState state es.1 sealed)
      (FixedBytes.copyFrom 32 run.delivered).1).handshakeHash = transcriptHash run.transcript := by
    rw [htranscript, hcopy]
    rfl
  have hopening : run.opening = some ((derivedKeys [es, ee]).2, (transcriptHash run.transcript).1) := by
    rw [opening, hfirst, ← hhash]
    simp only [computeSharedSecret, hee]
    rfl
  refine ⟨ephemeralPublic, ephemeralSecret, es, ee, ⟨hdrawn, by rw [hfirst], hes, hee, hlong,
    by rw [hfirst], hopening⟩, ?_⟩
  rw [hhash] at hopen
  exact Option.isSome_iff_exists.mpr ⟨payload, hopen⟩

/-- What the initiator has sent and read. -/
theorem Opened.transcript_eq {run : HandshakeRun} {ephemeralPublic : X25519PublicKey}
    {ephemeralSecret : X25519SecretKey} {es ee : SymmetricKey}
    (opened : run.Opened ephemeralPublic ephemeralSecret es ee) :
    run.transcript = [noisePrologue, run.pinned.1, ephemeralPublic.1,
      sealedPayload (mixHash (NoiseHandshakeInitiator.create run.pinned).state ephemeralPublic.1)
        es.1 run.payload, run.delivered.take 32] := by
  simp [transcript, opened.message, List.take_left' ephemeralPublic.2,
    List.drop_left' ephemeralPublic.2]

/-- The entries of the initiator are no prologue. -/
theorem Opened.long_entries {run : HandshakeRun} {ephemeralPublic : X25519PublicKey}
    {ephemeralSecret : X25519SecretKey} {es ee : SymmetricKey}
    (opened : run.Opened ephemeralPublic ephemeralSecret es ee) :
    ∀ entry ∈ run.transcript.tail, aeadTagSize ≤ entry.length := by
  have hread : aeadTagSize ≤ (run.delivered.take 32).length := by
    have hlong := opened.long
    simp only [noiseHandshakeMessageSize, aeadTagSize, List.length_take] at hlong ⊢
    omega
  rw [opened.transcript_eq]
  simp only [List.tail_cons, List.mem_cons, List.not_mem_nil, or_false]
  rintro entry (rfl | rfl | rfl | rfl)
  · rw [run.pinned.2]
    decide
  · rw [ephemeralPublic.2]
    decide
  · rw [sealedPayload_length]
    exact Nat.le_add_left ..
  · exact hread

end HandshakeRun

/-- What a responder that wrote its message has read and sealed. -/
theorem ResponderSession.of_sealing {session : ResponderSession} {sealing : AeadSealing}
    (h : session.sealing = some sealing) :
    ∃ ephemeralPublic : X25519PublicKey,
      session.second.1 = some (ephemeralPublic.1 ++ sealing.ciphertext) ∧
      sealing.associatedData = (transcriptHash session.transcript).1 ∧
      session.transcript = [noisePrologue, session.staticPublic.1, session.delivered.take 32,
        session.delivered.drop 32, ephemeralPublic.1] ∧
      noiseHandshakeMessageSize ≤ session.delivered.length := by
  obtain ⟨message, hmessage, hrest⟩ := Option.bind_eq_some_iff.mp h
  obtain ⟨hread, ephemeralPublic, ephemeralSecret, shared, hdrawn, hshared, rfl⟩ :=
    NoiseHandshakeResponder.exists_of_writeSecondMessage hmessage
  obtain rfl : payloadSealing (mixHash session.firstRead.2.state ephemeralPublic.1) shared
      session.payload = sealing := by
    simpa [hdrawn, computeSharedSecret, hshared] using hrest
  obtain ⟨hlong, product, hstate⟩ := NoiseHandshakeResponder.exists_of_firstMessageRead rfl hread
  have hcopy : (FixedBytes.copyFrom 32 session.delivered).1 = session.delivered.take 32 :=
    FixedBytes.copyFrom_val (le_trans (by decide) hlong)
  have htranscript : session.transcript = [noisePrologue, session.staticPublic.1,
      session.delivered.take 32, session.delivered.drop 32, ephemeralPublic.1] := by
    simp [transcript, hmessage, List.take_left' ephemeralPublic.2]
  refine ⟨ephemeralPublic, hmessage, ?_, htranscript, hlong⟩
  have hhash : (mixHash session.firstRead.2.state ephemeralPublic.1).handshakeHash =
      transcriptHash session.transcript := by
    rw [firstRead, hstate, htranscript, ← hcopy]
    rfl
  exact congrArg Subtype.val hhash

namespace HandshakeRun

/-- The initiator's own payload has another associated data. -/
theorem Opened.not_own {run : HandshakeRun} {ephemeralPublic : X25519PublicKey}
    {ephemeralSecret : X25519SecretKey} {es ee : SymmetricKey}
    (opened : run.Opened ephemeralPublic ephemeralSecret es ee) (sound : run.Sound)
    {sealing : AeadSealing} (h : run.sealing = some sealing) :
    sealing.associatedData ≠ (transcriptHash run.transcript).1 := by
  have hsealing : payloadSealing (mixHash (NoiseHandshakeInitiator.create run.pinned).state
      ephemeralPublic.1) es run.payload = sealing := by
    simpa [HandshakeRun.sealing, opened.drawn, opened.static] using h
  intro had
  -- it was sealed two entries earlier
  have hhash : transcriptHash (noisePrologue :: [run.pinned.1, ephemeralPublic.1]) =
      transcriptHash run.transcript := by
    refine Subtype.ext (Eq.trans ?_ had)
    rw [← hsealing]
    rfl
  have hused : absorptions absorbHash (initializeSymmetricState noiseProtocolName).handshakeHash
      run.transcript ⊆ run.absorbed := fun _ hmem => List.mem_append_left _ hmem
  have hlong := opened.long_entries
  rw [opened.transcript_eq] at hused hlong hhash
  have hused' : absorptions absorbHash (initializeSymmetricState noiseProtocolName).handshakeHash
      (noisePrologue :: [run.pinned.1, ephemeralPublic.1]) ⊆ run.absorbed := init_subset hused
  have hshort := sound.transcript_injective hused' hused
    (fun entry hmem => hlong entry (List.mem_append_left [_, _] hmem)) hlong hhash
  exact absurd (congrArg List.length hshort) (by simp)

/-- A responder's payload has the initiator's associated data only where the two
agree on everything. -/
theorem Opened.unaltered {run : HandshakeRun} {ephemeralPublic : X25519PublicKey}
    {ephemeralSecret : X25519SecretKey} {es ee : SymmetricKey}
    (opened : run.Opened ephemeralPublic ephemeralSecret es ee) (sound : run.Sound)
    {session : ResponderSession} (hmem : session ∈ run.sessions) {sealing : AeadSealing}
    (h : session.sealing = some sealing)
    (had : sealing.associatedData = (transcriptHash run.transcript).1)
    (hbody : sealing.ciphertext = run.delivered.drop 32) :
    run.pinned = session.staticPublic ∧ run.first.1 = some session.delivered ∧
      session.second.1 = some run.delivered := by
  obtain ⟨responderEphemeral, hsecond, had', htranscript, hread⟩ := ResponderSession.of_sealing h
  have hhash : transcriptHash run.transcript = transcriptHash session.transcript :=
    Subtype.ext (had.symm.trans had')
  have hused : absorptions absorbHash (initializeSymmetricState noiseProtocolName).handshakeHash
      run.transcript ⊆ run.absorbed := fun _ hmem => List.mem_append_left _ hmem
  have hused' : absorptions absorbHash (initializeSymmetricState noiseProtocolName).handshakeHash
      session.transcript ⊆ run.absorbed := fun _ hinput =>
    List.mem_append_right _ (List.mem_flatMap.mpr ⟨session, hmem, hinput⟩)
  have hlong := opened.long_entries
  rw [opened.transcript_eq] at hused hlong hhash
  rw [htranscript] at hused' hhash
  have hlong' : ∀ entry ∈ [session.staticPublic.1, session.delivered.take 32,
      session.delivered.drop 32, responderEphemeral.1], aeadTagSize ≤ entry.length := by
    simp only [noiseHandshakeMessageSize, aeadTagSize] at hread ⊢
    simp only [List.mem_cons, List.not_mem_nil, or_false]
    rintro entry (rfl | rfl | rfl | rfl)
    · rw [session.staticPublic.2]
      decide
    · rw [List.length_take]
      omega
    · rw [List.length_drop]
      omega
    · rw [responderEphemeral.2]
      decide
  have hequal := sound.transcript_injective hused hused' hlong hlong' hhash
  simp only [List.cons.injEq, and_true] at hequal
  obtain ⟨hstatic, hephemeral, hpayload, hanswer⟩ := hequal
  refine ⟨Subtype.ext hstatic, ?_, ?_⟩
  · rw [opened.message, hpayload, hephemeral, List.take_append_drop]
  · rw [hsecond, hbody, ← hanswer, List.take_append_drop]

/-- Somebody else does not derive the key. -/
theorem Opened.not_foreign {run : HandshakeRun} {ephemeralPublic : X25519PublicKey}
    {ephemeralSecret : X25519SecretKey} {es ee : SymmetricKey}
    (opened : run.Opened ephemeralPublic ephemeralSecret es ee) (sound : run.Sound)
    (unheld : run.Unheld) {foreign : ForeignSealing} (hmem : foreign ∈ run.foreign) :
    foreign.sealing.key ≠ (derivedKeys [es, ee]).2 := by
  have hproducts : productsOf run.exchanges = [es, ee] := by
    simp [productsOf, exchanges, opened.secret, opened.static, opened.ephemeral]
  intro hkey
  -- the first product would be one the attacker computed
  have hequal := sound.kdf foreign hmem (hkey.trans (by rw [hproducts]))
  have hes : es ∈ productsOf foreign.exchanges := by
    rw [hequal, hproducts]
    exact List.mem_cons_self
  obtain ⟨exchange, hexchange, hproduct⟩ := List.mem_filterMap.mp hes
  have hstatic : computeSharedSecret run.first.2.ephemeralSecret run.pinned = some es := by
    rw [opened.secret, opened.static]
  rcases sound.product foreign hmem exchange hexchange (by rw [hproduct]; rfl)
    (hproduct.trans hstatic.symm) with hown | hpinned
  · exact sound.kept foreign hmem exchange hexchange hown
  · exact unheld foreign hmem exchange hexchange hpinned

/-- An initiator that reads a second message reads the one a responder with the
pinned key sent, and that responder has read the initiator's first. -/
theorem exists_session {run : HandshakeRun} (sound : run.Sound) (unheld : run.Unheld)
    {payload : ByteString} (h : run.secondRead.1 = some payload) :
    ∃ session ∈ run.sessions, run.pinned = session.staticPublic ∧
      run.first.1 = some session.delivered ∧ session.second.1 = some run.delivered := by
  obtain ⟨ephemeralPublic, ephemeralSecret, es, ee, opened, hopens⟩ := opened_of_secondRead h
  obtain ⟨sealing, hmem, hkey, -, had, hbody⟩ := sound.aead _ opened.opening hopens
  -- who sealed it
  rcases List.mem_append.mp hmem with hmem | hforeign
  · rcases List.mem_append.mp hmem with hown | hsession
    · rw [Option.mem_toList] at hown
      exact absurd had (opened.not_own sound hown)
    · obtain ⟨session, hsession, hsealing⟩ := List.mem_filterMap.mp hsession
      exact ⟨session, hsession, opened.unaltered sound hsession hsealing had hbody⟩
  · obtain ⟨foreign, hmade, rfl⟩ := List.mem_map.mp hforeign
    exact absurd hkey (opened.not_foreign sound unheld hmade)

/-- An initiator that refuses the second message has no keys to export. -/
theorem secondRead_refused {run : HandshakeRun} (h : run.secondRead.1 = none) :
    run.secondRead.2.exportTransportKeys = none := by
  have hcomplete : run.secondRead.2.complete = false := by
    rw [secondRead, NoiseHandshakeInitiator.readSecondMessage_refused h, first,
      NoiseHandshakeInitiator.writeFirstMessage_complete]
    rfl
  simp [NoiseHandshakeInitiator.exportTransportKeys, hcomplete]

end HandshakeRun

/-- Neither has a responder that refuses the first. -/
theorem ResponderSession.firstRead_refused {session : ResponderSession}
    (h : session.firstRead.1 = none) : session.second.2.exportTransportKeys = none := by
  obtain ⟨hunread, hcomplete⟩ := NoiseHandshakeResponder.readFirstMessage_refused h
  have hsecond : session.second = (none, session.firstRead.2) :=
    NoiseHandshakeResponder.writeSecondMessage_unread _ _ hunread
  rw [hsecond, NoiseHandshakeResponder.exportTransportKeys]
  have hincomplete : session.firstRead.2.complete = false := hcomplete
  simp [hincomplete]

/-- For every pinned key, any responders and whatever an attacker delivers and
seals, without a secret of the pinned key: where with every responder the key is
another or a message was changed, no handshake completes. It is the initiator
that fails, and a side that fails exports no keys. -/
theorem handshake_authentic {run : HandshakeRun} (sound : run.Sound) (unheld : run.Unheld)
    (altered : run.Altered) :
    run.Refused ∧ run.secondRead.1 = none ∧ run.secondRead.2.exportTransportKeys = none ∧
      ∀ session ∈ run.sessions, session.firstRead.1 = none →
        session.second.2.exportTransportKeys = none := by
  have hnone : run.secondRead.1 = none := by
    rw [Option.eq_none_iff_forall_not_mem]
    intro payload hread
    obtain ⟨session, hmem, hpinned, hfirst, hsecond⟩ := HandshakeRun.exists_session sound unheld hread
    rcases altered session hmem with hother | hother | hother
    · exact hother hpinned
    · exact hother hfirst
    · exact hother hsecond
  have hkeys := HandshakeRun.secondRead_refused hnone
  exact ⟨fun _ _ => .inr ⟨hnone, hkeys⟩, hnone, hkeys, fun session _ hrefused =>
    session.firstRead_refused hrefused⟩

/-! ## Two attackers -/

omit [Sodium]

/-- The key pair of the stand-in whose bytes are all the same. -/
def repeatedKeypair (byte : UInt8) : EphemeralKeypair :=
  some (repeatedBytes 32 byte, repeatedBytes 32 byte)

/-- A message of the handshake, as far as there is one. -/
def wireOf (message : Option ByteString) : ByteString := message.getD []

/-- The initiator and the responder mean the key of sevens. One bit of the second
message is changed on its way, in the ephemeral key. -/
def tamperedRun : HandshakeRun :=
  let _ := keyedSodium
  let first := NoiseHandshakeInitiator.writeFirstMessage (repeatedKeypair 1) []
    (.create (repeatedBytes 32 7))
  let session : ResponderSession :=
    { staticPublic := repeatedBytes 32 7, staticSecret := repeatedBytes 32 7
      ephemeral := repeatedKeypair 2, delivered := wireOf first.1 }
  { pinned := repeatedBytes 32 7, ephemeral := repeatedKeypair 1, sessions := [session]
    delivered := (wireOf session.second.1).modify 0 (· ^^^ 1) }

/-- The pinned key is the attacker's. It answers the initiator itself, and opens
a session of its own with the responder. -/
def impersonatedRun : HandshakeRun :=
  let _ := keyedSodium
  let first := NoiseHandshakeInitiator.writeFirstMessage (repeatedKeypair 1) []
    (.create (repeatedBytes 32 7))
  let answer : ResponderSession :=
    { staticPublic := repeatedBytes 32 7, staticSecret := repeatedBytes 32 7
      ephemeral := repeatedKeypair 3, delivered := wireOf first.1 }
  let request := NoiseHandshakeInitiator.writeFirstMessage (repeatedKeypair 3) []
    (.create (repeatedBytes 32 5))
  { pinned := repeatedBytes 32 7, ephemeral := repeatedKeypair 1
    sessions := [{ staticPublic := repeatedBytes 32 5, staticSecret := repeatedBytes 32 5
                   ephemeral := repeatedKeypair 2, delivered := wireOf request.1 }]
    delivered := wireOf answer.second.1
    foreign := [
      { exchanges := [(repeatedBytes 32 7, repeatedBytes 32 1), (repeatedBytes 32 3, repeatedBytes 32 1)]
        nonce := NoiseCipherState.buildNonce 0
        associatedData := (transcriptHash answer.transcript).1, plaintext := [] }] }

theorem handshake_authentic_tampered :
    letI := keyedSodium
    tamperedRun.Refused ∧ tamperedRun.secondRead.1 = none ∧
      tamperedRun.secondRead.2.exportTransportKeys = none ∧
      ∀ session ∈ tamperedRun.sessions, session.firstRead.1 = none →
        session.second.2.exportTransportKeys = none := by
  let _ := keyedSodium
  have haltered : tamperedRun.Altered := by
    intro session hmem
    obtain rfl := List.mem_singleton.mp hmem
    exact .inr (.inr (by decide +kernel))
  have hsound : tamperedRun.Sound := by
    refine ⟨by decide +kernel, fun _ hmem => (nomatch hmem), ?_, fun _ hmem => (nomatch hmem),
      fun _ hmem => (nomatch hmem)⟩
    decide +kernel
  exact handshake_authentic hsound (fun _ hmem => nomatch hmem) haltered

/-- An attacker that holds the secret of the pinned key completes the handshake
with both sides. -/
theorem pinned_secret_impersonates :
    letI := keyedSodium
    impersonatedRun.Sound ∧ impersonatedRun.Altered ∧ ¬ impersonatedRun.Refused := by
  let _ := keyedSodium
  have hproduct : ∀ foreign ∈ impersonatedRun.foreign, ∀ exchange ∈ foreign.exchanges,
      (computeSharedSecret exchange.1 exchange.2).isSome = true →
      computeSharedSecret exchange.1 exchange.2 =
        computeSharedSecret impersonatedRun.first.2.ephemeralSecret impersonatedRun.pinned →
      exchange.1 = impersonatedRun.first.2.ephemeralSecret ∨
        computePublicFromSecret exchange.1 = impersonatedRun.pinned := by
    intro foreign hmem
    obtain rfl := List.mem_singleton.mp hmem
    decide +kernel
  refine ⟨⟨by decide +kernel, by decide +kernel, by decide +kernel, hproduct, by decide +kernel⟩,
    ?_, ?_⟩
  · intro session hmem
    obtain rfl := List.mem_singleton.mp hmem
    exact .inl (by decide +kernel)
  · intro hrefused
    have hread : impersonatedRun.secondRead.1 ≠ none := by decide +kernel
    have hsessions : ∀ session ∈ impersonatedRun.sessions, session.firstRead.1 ≠ none := by
      decide +kernel
    rcases hrefused _ List.mem_cons_self with ⟨hnone, -⟩ | ⟨hnone, -⟩
    · exact hsessions _ List.mem_cons_self hnone
    · exact hread hnone

end HyperCom
