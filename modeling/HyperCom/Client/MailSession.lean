import HyperCom.Client.ServerConnection
import HyperCom.Server.Mail

/-!
# A session and its two ends

A client and a server that are logged in with each other. `MailSession.respond`
is what a command of the client gets to see of it: a frame it sends is sealed,
opened, checked against the rate limits and routed by the server, and what the
server queued comes to the next `receive_frame` the way the network cuts it into
reads.

`Steady.exchange` is one request and its reply.

Everything between the two is one function of the session: the client's cipher, the server's
cipher, its handlers and its database are the definitions of their own modules, put together
in the order in which the bytes pass through them. What is left open are the environment of
each request and the arrivals, which say of every `receive_frame` what each of its reads
finds.
-/

namespace HyperCom

open Interaction Dialogue ServerConnection

variable [Sodium]

/-! ## The session -/

/-- The two ends, and the network from the server to the client: what the reads
find, for each `receive_frame` that is still to come. -/
structure MailSession where
  client : ServerConnection
  server : ProcessorState
  serverOpen : Bool := true
  arrivals : ℕ → ℕ → Arrival := fun _ => atOnce

namespace MailSession

/-- What the server has stored. -/
def tables (session : MailSession) : Tables := session.server.context.database.tables

/-- The server after its peer has read `count` bytes. -/
def flushed (server : ProcessorState) (count : ℕ) : ProcessorState :=
  { server with context := { server.context with
    connection := { server.context.connection with
      socket := { pendingOutput := server.pendingOutput.drop count } } } }

/-- How the calls of a command are answered. Nobody answers a new connection. -/
def respond (ambient : Ambient) :
    (call : ClientCall) → MailSession → ClientAnswer call × MailSession
  | .isOpen, session => (session.client.isOpen, session)
  | .openSession _, session =>
    (.error (ascii "connexion refusee"), { session with client := session.client.reset })
  | .sendFrame type payload, session =>
    match session.client.sealFrame type payload with
    | (none, client) => (false, { session with client })
    | (some message, client) =>
      if !session.serverOpen then (true, { session with client })
      else
        let out := processMessage (session.server.enter ambient) message
        (true, { session with client, server := out.2, serverOpen := out.1 })
  | .receiveFrame, session =>
    let arrivals := session.arrivals 0
    let reads := arrivingReads arrivals session.server.pendingOutput session.serverOpen
    let out := session.client.receiveFrame { reads }
    (out.1, { session with
      client := out.2
      server := flushed session.server
        (taken arrivals (pullReads reads maxReceiveAttempts session.client))
      arrivals := fun call => session.arrivals (call + 1) })
  | .generateX25519Keypair, session => (none, session)
  | .getUnixTimestamp, session => (ambient.unixTimestamp, session)
  | .print _, session => ((), session)

end MailSession

/-- The rate limits let this many more requests of the account pass now. -/
def RatePolicy.Admits (policy : RatePolicy) (address : ByteString) (userId : ℤ) (now : UInt64) :
    ℕ → Prop
  | 0 => True
  | count + 1 =>
    let onAddress := allowAddressRequest policy address now
    let onIdentity := allowIdentityRequest onAddress.2 userId now
    onAddress.1 = true ∧ onIdentity.1 = true ∧ onIdentity.2.Admits address userId now count

/-- A session of the account `owner` with nothing left over from earlier
requests, on which `requests` more can be answered. -/
structure MailSession.Steady (ambient : Ambient) (owner : ℤ) (requests : ℕ)
    (session : MailSession) : Prop where
  clientOpen : session.client.isOpen = true
  consumed : session.client.inputBuffer = []
  serverOpen : session.serverOpen = true
  drained : session.server.pendingOutput = []
  crossed : ∃ near far, session.client.transport = some near ∧
    session.server.context.connection.channel.transport = some far ∧ near.Crossed far ∧
    near.sendCounter + requests < 2 ^ 64 - 1 ∧ far.sendCounter + requests < 2 ^ 64 - 1
  registered : session.server.context.connection.session.isRegistered = true
  account : session.server.context.connection.session.userId = owner
  admits : session.server.policy.Admits session.server.context.connection.session.peerAddress owner
    ambient.dispatchTimestamp requests
  idle : session.server.context.database.transaction = none

/-! ## Sending -/

/-- A reply that fits is queued whole. -/
theorem sendMessage_ready {context : HandlerContext} {far : NoiseTransport} (type : MessageType)
    {payload : ByteString} (ready : ReadyToAnswer context far)
    (fits : payload.length ≤ maxPayloadSize) :
    ∃ far' : NoiseTransport, far'.sendCounter = far.sendCounter + 1 ∧
      far'.sendKey = far.sendKey ∧ far'.receiveState = far.receiveState ∧
      sendMessage context type payload = (true, { context with
        connection := { context.connection with
          channel := { context.connection.channel with transport := some far' }
          socket := { pendingOutput :=
            wireMessage far.sendKey far.sendCounter (frameBytes type payload) } } }) := by
  obtain ⟨hopen, hqueued⟩ : (sendMessage context type payload).1 = true ∧ _ :=
    sendMessage_drained ready.toSend fits
  obtain ⟨far', hcounter, hkey, hreceive, hsend⟩ :=
    sendRawMessage_sealed type ready.established ready.nonces fits
  refine ⟨far', hcounter, hkey, hreceive, ?_⟩
  simp only [sendMessage, hsend] at hopen hqueued ⊢
  rw [hopen]
  congr 3
  exact congrArg ConnectionSocket.mk hqueued

section Exchange

variable {ambient : Ambient} {owner : ℤ} {requests : ℕ} {session session' : MailSession}
  {type reply : MessageType} {payload replyPayload : ByteString}

/-- A frame sent on a steady session is routed, in a context that is ready to
answer. -/
theorem MailSession.Steady.routed (type : MessageType)
    (h : session.Steady ambient owner (requests + 1))
    (healthy : ambient.sqlFaults = fun _ _ => false) (fits : payload.length ≤ maxPayloadSize) :
    ∃ (context : HandlerContext) (near far : NoiseTransport) (policy : RatePolicy),
      ReadyToAnswer context far ∧ near.Crossed far ∧
      near.sendCounter + requests < 2 ^ 64 - 1 ∧ far.sendCounter + (requests + 1) < 2 ^ 64 - 1 ∧
      context.connection.session.userId = owner ∧ context.database.transaction = none ∧
      context.database.tables = session.tables ∧
      policy.Admits context.connection.session.peerAddress owner ambient.dispatchTimestamp
        requests ∧
      MailSession.respond ambient (.sendFrame type payload) session = (true,
        { session with
          client := { session.client with transport := some near }
          server :=
            { context := (routeMessage context type (ByteReader.start payload)).2, policy }
          serverOpen := (routeMessage context type (ByteReader.start payload)).1 }) := by
  obtain ⟨near, far, hnear, hfar, hcrossed, hnearLeft, hfarLeft⟩ := h.crossed
  obtain ⟨hlimit, hidentity, hadmits⟩ := h.admits
  have hnearNonce : near.sendState.nonceCounter ≠ NoiseCipherState.exhausted :=
    NoiseTransport.ne_exhausted (show near.sendCounter < _ by omega)
  have hfarReceive : far.receiveState.nonceCounter ≠ NoiseCipherState.exhausted :=
    NoiseTransport.ne_exhausted (show far.receiveCounter < _ by rw [← hcrossed.sendCounter]; omega)
  have hfarNonce : far.sendState.nonceCounter ≠ NoiseCipherState.exhausted :=
    NoiseTransport.ne_exhausted (show far.sendCounter < _ by omega)
  obtain ⟨near', hsent, hkey, hreceive, hseal⟩ :=
    sealFrame_sealed type h.clientOpen hnear hnearNonce fits
  -- the server opens what the client sealed, and lets it pass
  let server := session.server.enter ambient
  let address := session.server.context.connection.session.peerAddress
  let policy := (allowIdentityRequest (allowAddressRequest session.server.policy address
    ambient.dispatchTimestamp).2 owner ambient.dispatchTimestamp).2
  have haccount : server.context.connection.session.userId = owner := h.account
  have hadmitted : admitFrame server.context.connection.session server.policy
      server.context.ambient.dispatchTimestamp (frameBytes type payload) =
        (.admitted type (ByteReader.start payload), policy) := by
    refine admitFrame_frameBytes fits (Prod.ext hlimit rfl) ?_
    rw [haccount]
    exact Prod.ext hidentity rfl
  have hserver : server.context.connection.channel.transport = some far := hfar
  obtain ⟨far', hopened, hfarKey, hfarSend, hprocess⟩ :=
    processMessage_routed hserver hfarReceive hadmitted
  rw [← hcrossed.sendKey, ← hcrossed.sendCounter] at hprocess
  refine ⟨(server.context.withTransport far').noteActivity, near', far', policy, ?_, ?_, ?_, ?_,
    h.account, h.idle, rfl, hadmits, ?_⟩
  · exact ⟨h.registered, healthy, rfl, by rw [hfarSend]; exact hfarNonce, h.drained⟩
  · exact hcrossed.passed hsent hkey hreceive hopened hfarKey hfarSend
  · rw [hsent]
    omega
  · rw [NoiseTransport.sendCounter, hfarSend]
    exact hfarLeft
  · simp only [MailSession.respond, hseal, h.serverOpen, Bool.not_true, Bool.false_eq_true, if_false]
    exact congrArg (fun out : Bool × ProcessorState => (true,
      ({ session with
         client := { session.client with transport := some near' }
         server := out.2
         serverOpen := out.1 } : MailSession))) hprocess

/-- A frame in the output of the server reaches the client, if its bytes arrive. -/
theorem receiveFrame_arriving {client : ServerConnection} {near far : NoiseTransport}
    {arrivals : ℕ → Arrival} (type : MessageType) (stillOpen : Bool)
    (hopen : client.isOpen = true) (hconsumed : client.inputBuffer = [])
    (hnear : client.transport = some near) (hkey : far.sendKey = near.receiveState.key)
    (hcounter : far.sendCounter = near.receiveCounter)
    (nonces : near.receiveState.nonceCounter ≠ NoiseCipherState.exhausted)
    (fits : payload.length ≤ maxPayloadSize) (harrives : Arrives arrivals (wireSize payload)) :
    ∃ near' : NoiseTransport, near'.receiveCounter = near.receiveCounter + 1 ∧
      near'.receiveState.key = near.receiveState.key ∧ near'.sendState = near.sendState ∧
      client.receiveFrame { reads := arrivingReads arrivals (wireMessage far.sendKey
          far.sendCounter (frameBytes type payload)) stillOpen } =
        (.ok (type, payload), { client with transport := some near' }) := by
  obtain ⟨near', hreceived, hnearKey, hsend, hframe⟩ := openFrame_sealed type hnear nonces fits
  rw [← wireMessage_frameBytes near.receiveState.key near.receiveCounter type] at harrives
  obtain ⟨hpull, -⟩ := pullNextMessage_arriving (transmissible_sealedMessage _ _ fits) hconsumed
    harrives stillOpen
  rw [show ({ client with inputBuffer := [] } : ServerConnection) = client by rw [← hconsumed]]
    at hpull
  refine ⟨near', hreceived, hnearKey, hsend, ?_⟩
  rw [hkey, hcounter, wireMessage]
  simp only [ServerConnection.receiveFrame, hopen, hnear, Option.isNone_some, Bool.not_true,
    Bool.or_false, Bool.false_eq_true, if_false, hpull, hframe]

omit [Sodium] in
/-- More than a frame holds is beyond what one call takes up. -/
theorem ServerConnection.Arrives.fits {arrivals : ℕ → Arrival} (h : Arrives arrivals (wireSize payload)) :
    payload.length ≤ maxPayloadSize := by
  have hreceivable := h.le_maxReceivable
  simp only [wireSize, maxReceivable, maxReceiveAttempts, readChunkSize, maxPayloadSize,
    maxFrameSize, frameHeaderSize, frameLengthFieldSize, frameTypeFieldSize] at hreceivable ⊢
  omega

/-- A message that cannot be pulled is no frame. -/
theorem receiveFrame_error {client : ServerConnection} {reads : ℕ → SocketRead}
    (hpull : ∃ error, (pullNextMessage reads client).1 = .error error) :
    ∃ error, (client.receiveFrame { reads }).1 = .error error := by
  obtain ⟨error, hpull⟩ := hpull
  rw [ServerConnection.receiveFrame]
  split
  · exact ⟨_, rfl⟩
  · rcases hout : pullNextMessage reads client with ⟨result, client'⟩
    rw [hout] at hpull
    obtain rfl : result = .error error := hpull
    exact ⟨_, rfl⟩

/-- A request and its reply on a steady session, where the handler leaves the
tables `after` and sends one reply. The client has the reply exactly if all of
its bytes arrive. -/
theorem MailSession.Steady.exchange {after : Tables} {sent : Bool}
    {answer : Except ByteString (MessageType × ByteString)}
    (h : session.Steady ambient owner (requests + 1))
    (healthy : ambient.sqlFaults = fun _ _ => false) (fits : payload.length ≤ maxPayloadSize)
    (hroute : ∀ context far, ReadyToAnswer context far → context.connection.session.userId = owner →
      context.database.transaction = none → context.database.tables = session.tables →
      ∃ database : DatabaseHandle, database.tables = after ∧ database.Healthy ∧
        database.transaction = none ∧ routeMessage context type (ByteReader.start payload) =
          sendMessage { context with database } reply replyPayload)
    (htrace : Follows (Responds (MailSession.respond ambient)) session
      [⟨.sendFrame type payload, sent⟩, ⟨.receiveFrame, answer⟩] session') :
    sent = true ∧ session'.tables = after ∧
    (Arrives (session.arrivals 0) (wireSize replyPayload) →
      answer = .ok (reply, replyPayload) ∧ session'.Steady ambient owner requests) ∧
    (¬ Arrives (session.arrivals 0) (wireSize replyPayload) → ∃ error, answer = .error error) := by
  obtain _ | ⟨hsend, htrace⟩ := htrace
  obtain _ | ⟨hreceive, ⟨⟩⟩ := htrace
  obtain ⟨context, near, far, policy, ready, hcrossed, hnearLeft, hfarLeft, haccount, hidle,
    htables, hadmits, hrouted⟩ := h.routed type healthy fits
  obtain ⟨database, hafter, hhealthy, htransaction, hanswer⟩ :=
    hroute context far ready haccount hidle htables
  rw [Responds, hrouted, hanswer] at hsend
  obtain ⟨rfl, rfl⟩ := Prod.mk.inj hsend
  obtain ⟨rfl, rfl⟩ := Prod.mk.inj hreceive
  have ready' : ReadyToAnswer { context with database } far :=
    ⟨ready.registered, hhealthy, ready.established, ready.nonces, ready.drained⟩
  have hnonces : near.receiveState.nonceCounter ≠ NoiseCipherState.exhausted :=
    NoiseTransport.ne_exhausted
      (show near.receiveCounter < _ by rw [← hcrossed.receiveCounter]; omega)
  rcases Nat.lt_or_ge maxPayloadSize replyPayload.length with hlarge | hreplyFits
  · -- the reply fits no frame: the server closes without a word
    have hclosed : sendMessage { context with database } reply replyPayload =
        (false, { context with database }) := sendMessage_oversized hlarge
    rw [hclosed]
    refine ⟨rfl, hafter, ?_, ?_⟩
    · intro harrives
      exact absurd hlarge harrives.fits.not_gt
    · intro _
      have hpending : ProcessorState.pendingOutput { context := { context with database }, policy } =
          [] := ready.drained
      rw [hpending]
      exact receiveFrame_error (pullNextMessage_nothing h.consumed)
  · obtain ⟨far', hsent, hkey, hfarReceive, hqueued⟩ := sendMessage_ready reply ready' hreplyFits
    rw [hqueued]
    refine ⟨rfl, hafter, ?_, ?_⟩
    · intro harrives
      let client : ServerConnection := { session.client with transport := some near }
      have hopen : client.isOpen = true := h.clientOpen
      obtain ⟨near', hreceived, hnearKey, hnearSend, hframe⟩ := receiveFrame_arriving reply true
        hopen h.consumed rfl hcrossed.receiveKey hcrossed.receiveCounter hnonces hreplyFits harrives
      -- the reads took all that the server had queued
      rw [← wireMessage_frameBytes far.sendKey far.sendCounter reply] at harrives
      have hread := (pullNextMessage_arriving (transmissible_sealedMessage _ _ hreplyFits)
        (show client.inputBuffer = [] from h.consumed) harrives true).2
      refine ⟨congrArg Prod.fst hframe, ?_⟩
      refine ⟨(congrArg (fun out => out.2.isOpen) hframe).trans h.clientOpen,
        (congrArg (fun out => out.2.inputBuffer) hframe).trans h.consumed, rfl,
        List.drop_eq_nil_of_le hread, ?_, ready.registered, haccount, hadmits, htransaction⟩
      have hcrossed' : near'.Crossed far' :=
        (hcrossed.symm.passed hsent hkey hfarReceive hreceived hnearKey hnearSend).symm
      refine ⟨near', far', congrArg (fun out => out.2.transport) hframe, rfl, hcrossed', ?_, ?_⟩
      · rw [NoiseTransport.sendCounter, hnearSend]
        exact hnearLeft
      · rw [hsent]
        omega
    · intro hmissing
      rw [← wireMessage_frameBytes far.sendKey far.sendCounter reply] at hmissing
      exact receiveFrame_error
        (pullNextMessage_missing (transmissible_sealedMessage _ _ hreplyFits) h.consumed hmissing)

end Exchange

end HyperCom
