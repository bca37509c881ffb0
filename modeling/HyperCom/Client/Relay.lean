import HyperCom.Client.Correspondence
import HyperCom.Client.Registry
import HyperCom.Lib.Run
import HyperCom.Server.Authentication

/-!
# Challenges that are passed on

Several servers, honest or not, and clients that log in to them. A client proves
its key by signing `domain || nonce || key`: the nonce is whatever the server it
talks to sends, and the server's own key is not signed. So a server can hand out
a challenge that another one has just issued, and use the answer there.

`authentication_not_relayed` says that this is the only way: as long as no login
is given a challenge of a server other than the one it is pinned to, a server
authenticates a key only if its holder logged in to that server.
-/

namespace HyperCom

open BinaryCodec Interaction StepRun

variable [Sodium]

/-! ## Which identity is used where -/

/-- `IDENTITY_DERIVATION_SALT` -/
def identityDerivationSalt : ByteString := ascii "hypercom-server-identity-v1"

/-- `derive_server_identity` -/
def deriveServerIdentity (masterSeed : FixedBytes 32) (serverKey : X25519PublicKey) :
    Option IdentityKeypair := do
  let pseudoRandomKey ← extractPseudoRandomKey identityDerivationSalt masterSeed.1
  pure (.deriveFromSeed (expandKeyBlock pseudoRandomKey serverKey.1 1))

/-- `resolve_identity`, once the stores are unlocked: what they hold is a master
seed and the key pair of the imported file. `--identity` is an imported one. -/
def resolveIdentity (entry : ServerEntry) (masterSeed : FixedBytes 32) (stored : IdentityKeypair) :
    Option IdentityKeypair :=
  match entry.source with
  | .imported => some stored
  | .derived => deriveServerIdentity masterSeed entry.serverKey

/-! ## A login -/

/-- A run of `client_session::authenticate`, on a connection pinned to the key of
an entry. The answers are the peer's, whoever that is. -/
structure Login where
  entry : ServerEntry
  masterSeed : FixedBytes 32
  stored : IdentityKeypair
  identity : IdentityKeypair
  resolved : resolveIdentity entry masterSeed stored = some identity
  session : ClientSession
  trace : ClientTrace
  result : Except ByteString ClientSession
  performed : (authenticate identity session).run.Performs trace result

namespace Login

/-- The challenge it was given. -/
def challenge (login : Login) : Option AuthChallenge :=
  replyMessage .helloRequest .authChallenge AuthChallenge.readFrom login.trace

/-- It was given this nonce. -/
def Answers (login : Login) (nonce : WireNonce) : Prop :=
  ∃ challenge, login.challenge = some challenge ∧ challenge.nonce = nonce

/-- What it signed. -/
def signed (login : Login) : List ByteString :=
  login.challenge.toList.map fun challenge =>
    buildAuthSigningInput challenge.nonce login.identity.publicKey

/-- The answers that were sent are the signatures of that. -/
theorem sentFrames_eq (login : Login) :
    sentFrames .authResponse login.trace = login.signed.map fun input =>
      AuthResponse.writeTo { signature := login.identity.signMessage input } := by
  rcases Dialogue.performs_bindExcept.mp login.performed with
    ⟨error, hchallenge, -⟩ | ⟨first, rest, challenge, htrace, hchallenge, hsigned⟩
  · -- without a challenge nothing is signed
    rcases performs_requestReply hchallenge with ⟨htrace, -⟩ | ⟨answer, htrace, herror⟩
    · have hnone : login.challenge = none := by
        rw [Login.challenge, htrace]
        exact replyMessage_unanswered
      rw [signed, hnone, htrace]
      rfl
    · have hnone : login.challenge = none := by
        rw [Option.eq_none_iff_forall_not_mem]
        intro challenge hgiven
        rw [Login.challenge, htrace] at hgiven
        cases herror.trans (decodeReply_of_replyMessage (by decide) hgiven)
      rw [signed, hnone, htrace]
      rfl
  · obtain ⟨reply, rfl, hread⟩ := performs_requestReply_ok hchallenge
    have hgiven : login.challenge = some challenge := by
      rw [Login.challenge, htrace]
      simp only [List.cons_append, List.nil_append]
      rw [replyMessage_answered]
      simp [hread]
    have hsent : sentFrames .authResponse rest = [AuthResponse.writeTo
        { signature := login.identity.signMessage
            (buildAuthSigningInput challenge.nonce login.identity.publicKey) }] := by
      rcases Dialogue.performs_bindExcept.mp hsigned with
        ⟨error, hsend, -⟩ | ⟨second, rest, _, rfl, hsend, hanswered⟩
      · obtain ⟨sent, rfl, -⟩ := performs_requireSent hsend
        simp [sentFrames]
      · obtain rfl := performs_requireSent_ok hsend
        -- what follows only receives
        have hreceives : (do
            let frame ← receiveFrame
            ExceptT.mk (pure (concludeAuthentication login.session frame)) :
              ClientCommand ClientSession).run.Only (fun call => call = .receiveFrame) :=
          Dialogue.Only.bindExcept (Dialogue.only_call rfl) fun _ => .done
        have hquiet : sentFrames .authResponse rest = [] :=
          sentFrames_eq_nil (P := fun call => call = .receiveFrame)
            (hreceives.of_performs hanswered) fun payload hcall => by cases hcall
        rw [sentFrames_append, hquiet]
        simp [sentFrames]
    rw [signed, hgiven, htrace, sentFrames_append, hsent]
    rfl

end Login

/-! ## The network -/

/-- How a server is started. -/
structure ServerSetup where
  config : ServerConfig := {}
  staticPublic : X25519PublicKey
  staticSecret : X25519SecretKey
  policy : RatePolicy
  tables : Tables := {}
  consistent : tables.Consistent

/-- The honest servers, and what the honest clients have signed: their logins,
and the prekeys they published. All else is the attacker. -/
structure Network (ι : Type) where
  servers : ι → ServerRuntime
  logins : List Login := []
  published : List IdentityKeypair := []

/-- A step of a server, whose inputs the attacker may choose; a login, whose
answers it may choose; the publication of a prekey. A login takes effect on others
when it signs. -/
inductive NetworkEvent (ι : Type) where
  | server (index : ι) (event : ServerEvent)
  | login (login : Login)
  | publish (identity : IdentityKeypair)

/-- The nonces that are drawn in an event. -/
def ServerEvent.Draws (event : ServerEvent) (nonce : WireNonce) : Prop :=
  match event with
  | .input _ _ _ world => ∃ count, (world count).randomNonce = nonce
  | _ => False

/-- A connection is still there on which the key was announced and given this
challenge. -/
def ServerRuntime.Challenged (runtime : ServerRuntime) (pubkey : WirePublicKey)
    (nonce : WireNonce) : Prop :=
  ∃ number logged, runtime.connections number = some logged ∧
    ∃ hello ∈ logged.log, hello.acceptedHello = true ∧ hello.drawnNonce = nonce ∧
      ∃ request, hello.decodeAs .helloRequest HelloRequest.readFrom = some request ∧
        request.clientPubkey = pubkey

namespace Network

variable {ι : Type} [DecidableEq ι]

/-- All servers started, nobody logged in. -/
def start (setups : ι → ServerSetup) : Network ι where
  servers := fun index => ServerRuntime.start (setups index).config (setups index).staticPublic
    (setups index).staticSecret (setups index).policy (setups index).tables

/-- One step. -/
def step (network : Network ι) : NetworkEvent ι → Network ι
  | .server index event =>
    { network with servers :=
      Function.update network.servers index ((network.servers index).step event) }
  | .login login => { network with logins := network.logins ++ [login] }
  | .publish identity => { network with published := network.published ++ [identity] }

/-- The network is never over. -/
def next (network : Network ι) (event : NetworkEvent ι) : Option (Network ι) :=
  some (network.step event)

theorem after_next (network : Network ι) (events : List (NetworkEvent ι)) :
    after next network events = some (events.foldl step network) := by
  induction events generalizing network with
  | nil => rfl
  | cons event events ih => exact ih (network.step event)

omit [DecidableEq ι]

/-- What the holder of the key has signed. -/
def signedBy (network : Network ι) (pubkey : Ed25519PublicKey) : List ByteString :=
  (network.logins.filter fun login => login.identity.publicKey = pubkey).flatMap Login.signed ++
  (network.published.filter fun identity => identity.publicKey = pubkey).map fun identity =>
    buildPrekeySigningInput identity.publicKey (prekeyPublication identity).prekey

/-- Signatures are not forged: an honest key has proved itself to a server only
with something its holder signed. -/
def Unforged (honest : WirePublicKey → Prop) (network : Network ι) : Prop :=
  ∀ index number logged, (network.servers index).connections number = some logged →
    honest logged.connection.session.announcedPubkey →
    Proven logged.connection.session logged.log →
    buildAuthSigningInput logged.connection.session.challengeNonce
      logged.connection.session.announcedPubkey ∈
      network.signedBy logged.connection.session.announcedPubkey

/-- The random generator does not draw what a login at another server has
answered before. -/
def DrawsFresh (network : Network ι) : NetworkEvent ι → Prop
  | .server index event => ∀ login ∈ network.logins,
      login.entry.serverKey ≠ (network.servers index).staticPublic →
      ∀ nonce, event.Draws nonce → ¬ login.Answers nonce
  | _ => True

/-- A login is not given a challenge that its key has from a server other than
the one it is pinned to. -/
def GivesOwnChallenge (network : Network ι) : NetworkEvent ι → Prop
  | .login login => ∀ index, login.entry.serverKey ≠ (network.servers index).staticPublic →
      ∀ nonce, login.Answers nonce →
        ¬ (network.servers index).Challenged login.identity.publicKey nonce
  | _ => True

/-- Where an honest key is authenticated, its holder has logged in to this server. -/
def Authorised (honest : WirePublicKey → Prop) (network : Network ι) : Prop :=
  ∀ index number logged, (network.servers index).connections number = some logged →
    logged.connection.session.phase = .authenticated →
    honest logged.connection.session.announcedPubkey →
    ∃ login ∈ network.logins,
      login.identity.publicKey = logged.connection.session.announcedPubkey ∧
      login.entry.serverKey = (network.servers index).staticPublic

end Network

/-! ## What a server's step does to its logs -/

section Server

variable {runtime : ServerRuntime} {event : ServerEvent} {number : ℕ} {logged' : LoggedConnection}

/-- The frames on a connection were received before, or are handled in this
event with the nonces it draws. -/
theorem ServerRuntime.step_received (hlogged : (runtime.step event).connections number = some logged')
    {received : ReceivedFrame} (hmem : received ∈ logged'.log) :
    (∃ logged, runtime.connections number = some logged ∧ received ∈ logged.log) ∨
      event.Draws received.drawnNonce := by
  cases event with
  | accept peerAddress connectedAt =>
    rcases ServerRuntime.withConnection_cases hlogged with ⟨-, hnew⟩ | ⟨-, hold⟩
    · obtain rfl := Option.some.inj hnew
      cases hmem
    · exact .inl ⟨logged', hold, hmem⟩
  | input target bytes stillOpen world =>
    rw [ServerRuntime.step] at hlogged
    split at hlogged
    · exact .inl ⟨logged', hlogged, hmem⟩
    · next logged hbefore =>
      rcases ServerRuntime.withConnection_cases hlogged with ⟨rfl, hsome⟩ | ⟨-, hold⟩
      · split at hsome
        · obtain rfl := Option.some.inj hsome
          rcases mem_processBufferLog hmem with hold | ⟨count, entered, message, hentry⟩
          · exact .inl ⟨logged, hbefore, hold⟩
          · exact .inr ⟨count, (drawnNonce_of_logEntry hentry).symm⟩
        · cases hsome
      · exact .inl ⟨logged', hold, hmem⟩
  | flush target count =>
    rw [ServerRuntime.step] at hlogged
    split at hlogged
    · exact .inl ⟨logged', hlogged, hmem⟩
    · next logged hbefore =>
      rcases ServerRuntime.withConnection_cases hlogged with ⟨rfl, hsome⟩ | ⟨-, hold⟩
      · obtain rfl := Option.some.inj hsome
        exact .inl ⟨logged, hbefore, hmem⟩
      · exact .inl ⟨logged', hold, hmem⟩
  | close target =>
    rcases ServerRuntime.withConnection_cases hlogged with ⟨-, hgone⟩ | ⟨-, hold⟩
    · cases hgone
    · exact .inl ⟨logged', hold, hmem⟩
  | sweep now => exact .inl ⟨logged', hlogged, hmem⟩
  | ban sqlFaults pubkey banned => exact .inl ⟨logged', hlogged, hmem⟩

/-- A challenge is an old one, or is drawn in this event. -/
theorem ServerRuntime.Challenged.of_step {pubkey : WirePublicKey} {nonce : WireNonce}
    (h : (runtime.step event).Challenged pubkey nonce) :
    runtime.Challenged pubkey nonce ∨ event.Draws nonce := by
  obtain ⟨number, logged', hlogged, hello, hmem, haccepted, rfl, request, hdecode, hkey⟩ := h
  rcases ServerRuntime.step_received hlogged hmem with ⟨logged, hbefore, hold⟩ | hdrawn
  · exact .inl ⟨number, logged, hbefore, hello, hold, haccepted, rfl, request, hdecode, hkey⟩
  · exact .inr hdrawn

theorem ServerRuntime.step_staticPublic (runtime : ServerRuntime) (event : ServerEvent) :
    (runtime.step event).staticPublic = runtime.staticPublic := by
  cases event with
  | input number received stillOpen world =>
    rw [ServerRuntime.step]
    split <;> rfl
  | flush number count =>
    rw [ServerRuntime.step]
    split <;> rfl
  | _ => rfl

end Server

/-! ## No relay -/

namespace Network

variable {ι : Type} [DecidableEq ι] {network network' : Network ι} {event : NetworkEvent ι}

omit [DecidableEq ι] in
/-- Every server's sessions are what its logs account for. -/
def Sound (network : Network ι) : Prop := ∀ index, (network.servers index).Sound

omit [DecidableEq ι] in
theorem start_sound (setups : ι → ServerSetup) : (Network.start setups).Sound :=
  fun index => ServerRuntime.start_sound _ _ _ _ (setups index).consistent

theorem step_server (network : Network ι) (target : ι) (event : ServerEvent) (index : ι) :
    (network.step (.server target event)).servers index =
      if index = target then (network.servers target).step event else network.servers index :=
  Function.update_apply ..

theorem Sound.step (h : network.Sound) (event : NetworkEvent ι) : (network.step event).Sound := by
  cases event with
  | server target event =>
    intro index
    rw [step_server]
    split
    · exact (h target).step event
    · exact h index
  | login login => exact h
  | publish identity => exact h

theorem Sound.run (h : network.Sound) (events : List (NetworkEvent ι)) :
    (events.foldl Network.step network).Sound := by
  induction events generalizing network with
  | nil => exact h
  | cons event events ih => exact ih (h.step event)

/-- The servers keep their keys. -/
theorem run_staticPublic (network : Network ι) (events : List (NetworkEvent ι)) (index : ι) :
    ((events.foldl step network).servers index).staticPublic =
      (network.servers index).staticPublic := by
  induction events generalizing network with
  | nil => rfl
  | cons event events ih =>
    refine (ih (network.step event)).trans ?_
    cases event with
    | server target event =>
      rw [step_server]
      split
      · next hindex => rw [ServerRuntime.step_staticPublic, hindex]
      · rfl
    | login login => rfl
    | publish identity => rfl

omit [DecidableEq ι] in
/-- What the logins have answered is not what a server other than theirs has
challenged their key with. -/
structure Apart (network : Network ι) : Prop where
  sound : network.Sound
  apart : ∀ index, ∀ login ∈ network.logins,
    login.entry.serverKey ≠ (network.servers index).staticPublic →
    ∀ nonce, login.Answers nonce →
      ¬ (network.servers index).Challenged login.identity.publicKey nonce

omit [DecidableEq ι] in
theorem start_apart (setups : ι → ServerSetup) : (Network.start setups).Apart where
  sound := start_sound setups
  apart := fun _ _ hmem => nomatch hmem

theorem Apart.step (h : network.Apart) (fresh : network.DrawsFresh event)
    (own : network.GivesOwnChallenge event) : (network.step event).Apart := by
  refine ⟨h.sound.step event, ?_⟩
  cases event with
  | server target event =>
    intro index login hmem hother nonce hanswers hchallenged
    rw [step_server] at hother hchallenged
    split at hother
    · next hindex =>
      rw [if_pos hindex] at hchallenged
      rw [ServerRuntime.step_staticPublic] at hother
      rcases hchallenged.of_step with hold | hdrawn
      · exact h.apart target login hmem hother nonce hanswers hold
      · exact fresh login hmem hother nonce hdrawn hanswers
    · next hindex =>
      rw [if_neg hindex] at hchallenged
      exact h.apart index login hmem hother nonce hanswers hchallenged
  | login login =>
    intro index other hmem
    rcases List.mem_append.mp hmem with hold | hnew
    · exact h.apart index other hold
    · obtain rfl := List.mem_singleton.mp hnew
      exact own index
  | publish identity => exact h.apart

omit [Sodium] in
/-- What is signed for a login says which nonce it answers, and for which key. -/
theorem buildAuthSigningInput_injective {nonce nonce' : WireNonce} {pubkey pubkey' : WirePublicKey}
    (h : buildAuthSigningInput nonce pubkey = buildAuthSigningInput nonce' pubkey') :
    nonce = nonce' ∧ pubkey = pubkey' := by
  simp only [buildAuthSigningInput, writeFixedBytes, List.flatten_cons, List.flatten_nil,
    List.append_nil] at h
  obtain ⟨hnonce, hpubkey⟩ := List.append_inj (List.append_cancel_left h)
    (nonce.2.trans nonce'.2.symm)
  exact ⟨Subtype.ext hnonce, Subtype.ext hpubkey⟩

omit [Sodium] in
/-- A prekey is signed in another domain. -/
theorem buildPrekeySigningInput_ne (nonce : WireNonce) (pubkey identityPubkey prekey : WirePublicKey) :
    buildPrekeySigningInput identityPubkey prekey ≠ buildAuthSigningInput nonce pubkey := by
  intro h
  have hlength := congrArg List.length h
  simp only [buildPrekeySigningInput, buildAuthSigningInput, writeFixedBytes, List.flatten_cons,
    List.flatten_nil, List.append_nil, List.length_append, nonce.2, pubkey.2, identityPubkey.2,
    prekey.2] at hlength
  exact absurd hlength (by decide)

omit [DecidableEq ι] in
/-- An input for a login that a holder has signed was signed in a login that was
given the nonce. -/
theorem exists_login_of_signed {pubkey : Ed25519PublicKey} {nonce : WireNonce}
    (h : buildAuthSigningInput nonce pubkey ∈ network.signedBy pubkey) :
    ∃ login ∈ network.logins, login.identity.publicKey = pubkey ∧ login.Answers nonce := by
  rcases List.mem_append.mp h with hlogin | hpublished
  · obtain ⟨login, hmem, hsigned⟩ := List.mem_flatMap.mp hlogin
    obtain ⟨hmem, hkey⟩ := List.mem_filter.mp hmem
    obtain ⟨challenge, hchallenge, hinput⟩ := List.mem_map.mp hsigned
    rw [Option.mem_toList] at hchallenge
    exact ⟨login, hmem, of_decide_eq_true hkey, challenge, hchallenge,
      (buildAuthSigningInput_injective hinput).1⟩
  · obtain ⟨identity, -, hinput⟩ := List.mem_map.mp hpublished
    exact (buildPrekeySigningInput_ne _ _ _ _ hinput).elim

omit [DecidableEq ι] in
theorem Apart.authorised (h : network.Apart) {honest : WirePublicKey → Prop}
    (unforged : network.Unforged honest) : network.Authorised honest := by
  intro index number logged hlogged hphase hhonest
  have hauthentic := (h.sound index).authentic hlogged
  obtain ⟨login, hmem, hkey, hanswers⟩ := exists_login_of_signed
    (unforged index number logged hlogged hhonest (hauthentic.proven hphase))
  refine ⟨login, hmem, hkey, ?_⟩
  -- pinned to another server it would have answered this server's challenge
  by_contra hother
  obtain ⟨hello, request, hfilter, hdecode, -, hpubkey, hnonce⟩ := hauthentic.greeted (.inr hphase)
  have hhello : hello ∈ logged.log.filter ReceivedFrame.acceptedHello := by
    rw [hfilter]
    exact List.mem_singleton_self _
  obtain ⟨hreceived, haccepted⟩ := List.mem_filter.mp hhello
  exact h.apart index login hmem hother _ hanswers ⟨number, logged, hlogged, hello, hreceived,
    haccepted, hnonce.symm, request, hdecode, hpubkey.symm.trans hkey.symm⟩

end Network

/-- For any servers, any identities, whatever the malicious servers answer and
whatever reaches the honest ones, in any interleaving: in every run in which no
login is given a challenge that its key has from a server other than its own, an
honest key is authenticated at a server only if its holder has logged in to that
server. -/
theorem authentication_not_relayed {ι : Type} [DecidableEq ι] (honest : WirePublicKey → Prop)
    (setups : ι → ServerSetup) {events : List (NetworkEvent ι)} {network : Network ι}
    (h : after Network.next (Network.start setups) events = some network)
    (fresh : Along Network.next Network.DrawsFresh (Network.start setups) events)
    (unforged : network.Unforged honest)
    (own : Along Network.next Network.GivesOwnChallenge (Network.start setups) events) :
    network.Authorised honest := by
  have happart : network.Apart := by
    refine after_invariant (I := Network.Apart) ?_ (Network.start_apart setups) (fresh.and own) h
    intro network event network' happart hstep hnext
    obtain rfl := Option.some.inj hnext
    exact happart.step hstep.1 hstep.2
  exact happart.authorised unforged

/-! ## A server that passes a challenge on -/

section Relayed

omit [Sodium]

/-- The identity of fives, from a file. -/
def importedIdentity : IdentityKeypair :=
  let _ := transparentSodium
  .deriveFromSeed (repeatedBytes 32 5)

/-- A login of this identity to the server with the given key, which gives it the
nonce of sevens. -/
def loginTo (serverKey : X25519PublicKey) : @Login transparentSodium :=
  let _ := transparentSodium
  let answers := [(MessageType.authChallenge, AuthChallenge.writeTo { nonce := repeatedBytes 32 7 }),
    (MessageType.statusOk, StatusOkResponse.writeTo {})]
  let out := (authenticate importedIdentity {}).run.run (scripted none) answers
  { entry := { serverKey, source := .imported }
    masterSeed := FixedBytes.zero _
    stored := importedIdentity
    identity := importedIdentity
    resolved := rfl
    session := {}
    trace := out.2.1
    result := out.1
    performed := Dialogue.run_performs (scripted none) _ answers }

/-- The honest server. -/
def onlyServer (_ : Unit) : ServerSetup where
  staticPublic := FixedBytes.zero _
  staticSecret := FixedBytes.zero _
  policy := { perAddress := 0, perIdentity := 0 }
  consistent := ⟨le_rfl, by simp, by simp⟩

/-- A message for its first connection, while the random generator repeats one
byte. -/
def relayedInput (drawn : UInt8) (message : ByteString) : NetworkEvent Unit :=
  .server () (.input 0 (appendLengthPrefixedMessage message) true fun _ =>
    { ephemeral := some (FixedBytes.zero _, FixedBytes.zero _), randomNonce := repeatedBytes 32 drawn })

/-- Somebody announces the key of fives to the honest server, has it challenged,
and hands over what the holder signs in a login to the server `serverKey`. -/
def relayRun (serverKey : X25519PublicKey) : List (@NetworkEvent transparentSodium Unit) :=
  let _ := transparentSodium
  let login := loginTo serverKey
  [.server () (.accept [] 0),
    relayedInput 1 (List.replicate noiseHandshakeMessageSize 0),
    relayedInput 7 (frameBytes .helloRequest
      (HelloRequest.writeTo { clientPubkey := repeatedBytes 32 5 }) ++ transparentTag),
    .login login,
    relayedInput 2 (frameBytes .authResponse ((sentFrames .authResponse login.trace).headD []) ++
      transparentTag)]

/-- Its end. -/
def relayed (serverKey : X25519PublicKey) : @Network transparentSodium Unit :=
  let _ := transparentSodium
  (relayRun serverKey).foldl Network.step (Network.start onlyServer)

/-- The login was given the nonce of sevens, whatever server it is pinned to. -/
theorem loginTo_challenge (serverKey : X25519PublicKey) :
    letI := transparentSodium
    ∃ challenge, (loginTo serverKey).challenge = some challenge ∧
      challenge.nonce = (repeatedBytes 32 7 : WireNonce) := by
  let _ := transparentSodium
  have hclosed : (loginTo (FixedBytes.zero _)).challenge.map (fun challenge => challenge.nonce.1) =
      some (List.replicate 32 7) := by decide +kernel
  obtain ⟨challenge, hchallenge, hbytes⟩ := Option.map_eq_some_iff.mp hclosed
  exact ⟨challenge, hchallenge, Subtype.ext hbytes⟩

/-- What has become of the honest server's connection. -/
theorem relayed_connection (serverKey : X25519PublicKey) :
    letI := transparentSodium
    ∃ logged, ((relayed serverKey).servers ()).connections 0 = some logged ∧
      logged.connection.session.phase = .authenticated ∧
      logged.connection.session.announcedPubkey = (repeatedBytes 32 5 : WirePublicKey) ∧
      logged.connection.session.challengeNonce = (repeatedBytes 32 7 : WireNonce) := by
  let _ := transparentSodium
  have hclosed : (((relayed (FixedBytes.zero _)).servers ()).connections 0).map (fun logged =>
      decide (logged.connection.session.phase = .authenticated ∧
        logged.connection.session.announcedPubkey.1 = List.replicate 32 5 ∧
        logged.connection.session.challengeNonce.1 = List.replicate 32 7)) = some true := by
    decide +kernel
  obtain ⟨logged, hlogged, hsession⟩ := Option.map_eq_some_iff.mp hclosed
  obtain ⟨hphase, hkey, hnonce⟩ := of_decide_eq_true hsession
  exact ⟨logged, hlogged, hphase, Subtype.ext hkey, Subtype.ext hnonce⟩

/-- It is the only one. -/
theorem relayed_nextNumber (serverKey : X25519PublicKey) :
    letI := transparentSodium
    ((relayed serverKey).servers ()).nextNumber = 1 := by
  let _ := transparentSodium
  have hclosed : ((relayed (FixedBytes.zero _)).servers ()).nextNumber = 1 := by decide +kernel
  exact hclosed

/-- The random generator draws nothing twice. -/
theorem relayRun_fresh (serverKey : X25519PublicKey) :
    letI := transparentSodium
    Along Network.next Network.DrawsFresh (Network.start onlyServer) (relayRun serverKey) := by
  let _ := transparentSodium
  -- nobody has logged in before the fourth step
  have hbefore : ∀ (network : Network Unit) (drawn : UInt8) (message : ByteString),
      network.logins = [] → network.DrawsFresh (relayedInput drawn message) := by
    intro network drawn message hnone login hmem
    rw [hnone] at hmem
    cases hmem
  refine ⟨fun _ hmem => (nomatch hmem), fun _ hnext => ?_⟩
  obtain rfl := Option.some.inj hnext
  refine ⟨hbefore _ _ _ rfl, fun _ hnext => ?_⟩
  obtain rfl := Option.some.inj hnext
  refine ⟨hbefore _ _ _ rfl, fun _ hnext => ?_⟩
  obtain rfl := Option.some.inj hnext
  refine ⟨trivial, fun _ hnext => ?_⟩
  obtain rfl := Option.some.inj hnext
  refine ⟨?_, fun _ _ => trivial⟩
  rintro login hmem - nonce ⟨count, rfl⟩ ⟨challenge, hchallenge, hnonce⟩
  obtain rfl := List.mem_singleton.mp hmem
  obtain ⟨given, hgiven, hseven⟩ := loginTo_challenge serverKey
  obtain rfl := Option.some.inj (hchallenge.symm.trans hgiven)
  have hbytes : List.replicate 32 (2 : UInt8) = List.replicate 32 7 :=
    congrArg Subtype.val (hnonce.symm.trans hseven)
  exact absurd hbytes (by decide)

/-- Nobody forged anything: what the honest server was shown is what the holder
signed in the login. -/
theorem relayed_unforged (serverKey : X25519PublicKey) :
    letI := transparentSodium
    (relayed serverKey).Unforged (fun pubkey => pubkey = (repeatedBytes 32 5 : WirePublicKey)) := by
  let _ := transparentSodium
  intro index number logged hlogged _ _
  have hsound : (relayed serverKey).Sound :=
    (Network.start_sound onlyServer).run (relayRun serverKey)
  have hnumber := (hsound index).numbered hlogged
  rw [relayed_nextNumber] at hnumber
  obtain rfl : number = 0 := by omega
  obtain ⟨last, hlast, -, hkey, hnonce⟩ := relayed_connection serverKey
  obtain rfl := Option.some.inj (hlogged.symm.trans hlast)
  obtain ⟨challenge, hchallenge, hseven⟩ := loginTo_challenge serverKey
  have hsigned : (loginTo serverKey).signed =
      [buildAuthSigningInput (repeatedBytes 32 7) (repeatedBytes 32 5)] := by
    rw [Login.signed, hchallenge, Option.toList_some, List.map_singleton, hseven]
    rfl
  have hlogins : (relayed serverKey).logins = [loginTo serverKey] := rfl
  have howner : (loginTo serverKey).identity.publicKey = (repeatedBytes 32 5 : WirePublicKey) :=
    rfl
  rw [hkey, hnonce]
  refine List.mem_append_left _ (List.mem_flatMap.mpr ⟨loginTo serverKey, ?_, ?_⟩)
  · rw [hlogins]
    exact List.mem_filter.mpr ⟨List.mem_singleton_self _, decide_eq_true howner⟩
  · rw [hsigned]
    exact List.mem_singleton_self _

/-- The login was one to another server, and the honest server takes the signature
for its own: the holder of the key never logged in to it. -/
theorem challenge_relayed :
    letI := transparentSodium
    ∃ network, after Network.next (Network.start onlyServer) (relayRun (repeatedBytes 32 9)) =
        some network ∧
      Along Network.next Network.DrawsFresh (Network.start onlyServer)
        (relayRun (repeatedBytes 32 9)) ∧
      network.Unforged (fun pubkey => pubkey = (repeatedBytes 32 5 : WirePublicKey)) ∧
      ¬ network.Authorised (fun pubkey => pubkey = (repeatedBytes 32 5 : WirePublicKey)) := by
  let _ := transparentSodium
  refine ⟨relayed (repeatedBytes 32 9), Network.after_next _ _, relayRun_fresh _,
    relayed_unforged _, ?_⟩
  intro hauthorised
  obtain ⟨logged, hlogged, hphase, hkey, -⟩ := relayed_connection (repeatedBytes 32 9)
  obtain ⟨login, hmem, -, hpinned⟩ := hauthorised () 0 logged hlogged hphase hkey
  have hlogins : (relayed (repeatedBytes 32 9)).logins = [loginTo (repeatedBytes 32 9)] := rfl
  rw [hlogins] at hmem
  obtain rfl := List.mem_singleton.mp hmem
  have hstatic := Network.run_staticPublic (Network.start onlyServer)
    (relayRun (repeatedBytes 32 9)) ()
  have hbytes : List.replicate 32 (9 : UInt8) = List.replicate 32 0 :=
    congrArg Subtype.val (hpinned.trans hstatic)
  exact absurd hbytes (by decide)

/-- The same run with a login to the honest server itself. -/
theorem authentication_not_relayed_direct :
    letI := transparentSodium
    (relayed (FixedBytes.zero _)).Authorised
      (fun pubkey => pubkey = (repeatedBytes 32 5 : WirePublicKey)) := by
  let _ := transparentSodium
  refine authentication_not_relayed _ onlyServer (Network.after_next _ _) (relayRun_fresh _)
    (relayed_unforged _) ?_
  refine ⟨trivial, fun _ hnext => ⟨trivial, fun _ hnext' => ⟨trivial, fun _ hnext'' => ?_⟩⟩⟩
  obtain rfl := Option.some.inj hnext
  obtain rfl := Option.some.inj hnext'
  obtain rfl := Option.some.inj hnext''
  refine ⟨?_, fun _ _ => ⟨trivial, fun _ _ => trivial⟩⟩
  -- the login is pinned to the one honest server there is
  intro index hother
  exact absurd (Network.run_staticPublic (Network.start onlyServer)
    ((relayRun (FixedBytes.zero _)).take 3) index).symm hother

end Relayed

end HyperCom
