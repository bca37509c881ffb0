import HyperCom.Client.ServerConnection
import HyperCom.Lib.WriteLoop
import HyperCom.Server.OutputStream

/-!
# What a send that fails leaves behind

`send_frame` consumes a nonce before its bytes leave, and `send_all` may stop in
the middle of a message. Here the socket is modelled call by call: the answers of
`send` during one `send_frame` are a list, and what the kernel took is kept.

`Understood` is the other end: the messages the server cuts from the stream and
opens with consecutive nonces. A run of `send_frame` calls stays understood as
long as no send fails in the middle of a message; since the session is not closed
when one does, the next frame then follows half a message.
-/

namespace HyperCom

open StepRun WriteLoop

/-! ## `send_all` -/

/-- What one call of `send` answers: some bytes were taken, the timeout of
`is_timeout_error`, or another error. -/
inductive SocketSend where
  | sent (count : ℕ)
  | timeout
  | failed

/-- What the loop makes of it: a `send` that takes nothing ends it, like an
error. -/
def SocketSend.attempt : SocketSend → Attempt
  | .sent 0 => .failed
  | .sent (count + 1) => .accepted (count + 1)
  | .timeout => .retry
  | .failed => .failed

/-- `send_all`: its result, if it comes back, and the bytes the kernel took. -/
def sendAll (sends : List SocketSend) (data : ByteString) : Option Bool × ByteString :=
  writeAll (sends.map SocketSend.attempt) data

variable [Sodium]

/-! ## `send_frame` -/

namespace ServerConnection

/-- `send_frame`, with the answers of the socket: the result, the bytes that
left, and the connection. -/
def sendFrameThrough (sends : List SocketSend) (type : MessageType) (payload : ByteString)
    (connection : ServerConnection) : Option Bool × ByteString × ServerConnection :=
  match connection.sealFrame type payload with
  | (none, connection) => (some false, [], connection)
  | (some message, connection) =>
    let out := sendAll sends (appendLengthPrefixedMessage message)
    (out.1, out.2, connection)

/-- The next nonce of the session. -/
def sendCounter (connection : ServerConnection) : Option ℕ :=
  connection.transport.map NoiseTransport.sendCounter

/-- What `send_frame` checks before a nonce is consumed. -/
structure CanSeal (connection : ServerConnection) (payload : ByteString) : Prop where
  isOpen : connection.isOpen = true
  nonces : ∃ transport, connection.transport = some transport ∧
    transport.sendState.nonceCounter ≠ NoiseCipherState.exhausted
  fits : payload.length ≤ maxPayloadSize

variable {connection connection' : ServerConnection} {type : MessageType} {payload : ByteString}
  {sends : List SocketSend}

/-- Where the calls of the socket do not matter, this is `send_frame`. -/
theorem sendFrame_eq_sendFrameThrough {sent : Bool}
    (h : (connection.sendFrameThrough sends type payload).1 = some sent)
    (behaviour : SocketBehaviour) :
    connection.sendFrame { behaviour with sent } type payload =
      (sent, (connection.sendFrameThrough sends type payload).2.2) := by
  rcases hseal : connection.sealFrame type payload with ⟨_ | message, connection'⟩
  · simp only [sendFrameThrough, hseal, Option.some.injEq] at h
    simp only [sendFrame, sendFrameThrough, hseal, h]
  · simp only [sendFrame, sendFrameThrough, hseal]

/-- A frame that passes the checks is sealed with the next nonce. -/
theorem CanSeal.sealFrame (h : connection.CanSeal payload) (type : MessageType) :
    ∃ transport transport' : NoiseTransport, connection.transport = some transport ∧
      transport.sendState.nonceCounter ≠ NoiseCipherState.exhausted ∧
      transport'.sendCounter = transport.sendCounter + 1 ∧
      transport'.sendKey = transport.sendKey ∧
      connection.sealFrame type payload =
        (some (sealedMessage transport.sendKey transport.sendCounter (frameBytes type payload)),
          { connection with transport := some transport' }) := by
  obtain ⟨transport, htransport, hnonces⟩ := h.nonces
  obtain ⟨transport', hcounter, hkey, -, hseal⟩ :=
    sealFrame_sealed type h.isOpen htransport hnonces h.fits
  exact ⟨transport, transport', htransport, hnonces, hcounter, hkey, hseal⟩

/-- Any other is refused, and nothing changes. -/
theorem sealFrame_refused (h : ¬ connection.CanSeal payload) (type : MessageType) :
    connection.sealFrame type payload = (none, connection) := by
  rcases hseal : connection.sealFrame type payload with ⟨_ | message, connection'⟩
  · rw [sealFrame_none hseal]
  · refine absurd ?_ h
    rcases hopen : connection.isOpen with _ | _
    · simp [ServerConnection.sealFrame, hopen] at hseal
    rcases htransport : connection.transport with _ | transport
    · simp [ServerConnection.sealFrame, hopen, htransport] at hseal
    rcases hframe : encodeFrame type payload with _ | frame
    · simp [ServerConnection.sealFrame, hopen, htransport, hframe] at hseal
    refine ⟨hopen, ⟨transport, htransport, fun hexhausted => ?_⟩, (encodeFrame_eq_some.mp hframe).1⟩
    simp [ServerConnection.sealFrame, hopen, htransport, hframe, NoiseTransport.encryptMessage,
      NoiseCipherState.encryptWithAd, transport.sendKeyed, hexhausted] at hseal

end ServerConnection

/-! ## The stream at the other end -/

/-- A server whose transport is the first one cuts the stream into messages, each
of which opens to the next frame with the next nonce, and nothing is left. -/
inductive Understood : NoiseTransport → ByteString → List ByteString → Prop where
  | nil (server : NoiseTransport) : Understood server [] []
  | cons {server server' : NoiseTransport} {stream message rest frame : ByteString}
      {frames : List ByteString}
      (cut : extractLengthPrefixedMessage stream maxNoiseMessageSize = .message message rest)
      (opened : NoiseTransport.decryptMessage message server = (some frame, server'))
      (later : Understood server' rest frames) : Understood server stream (frame :: frames)

/-- A frame `encode_frame` returns. -/
def IsFrame (frame : ByteString) : Prop :=
  ∃ type payload, payload.length ≤ maxPayloadSize ∧ frame = frameBytes type payload

/-- Frames sealed with the nonces the server expects are understood. -/
theorem understood_sealedStream {server : NoiseTransport} {frames : List ByteString}
    (hframes : ∀ frame ∈ frames, IsFrame frame)
    (hnonces : server.receiveCounter + frames.length < 2 ^ 64) :
    Understood server (sealedStream server.receiveState.key server.receiveCounter frames)
      frames := by
  induction frames generalizing server with
  | nil => exact .nil server
  | cons frame frames ih =>
    obtain ⟨type, payload, hfits, rfl⟩ := hframes _ List.mem_cons_self
    rw [List.length_cons] at hnonces
    have hleft : server.receiveState.nonceCounter ≠ NoiseCipherState.exhausted :=
      NoiseTransport.ne_exhausted (show server.receiveCounter < _ by omega)
    obtain ⟨server', hopened, hcounter, hkey, -⟩ :=
      NoiseTransport.decryptMessage_sealed (frameBytes type payload) hleft
    refine .cons (extract_transmissible (transmissible_sealedMessage _ _ hfits)) hopened ?_
    rw [← hkey, ← hcounter]
    exact ih (fun frame hframe => hframes frame (List.mem_cons_of_mem _ hframe)) (by omega)

/-! ## Runs of `send_frame` -/

/-- A call of `send_frame`, with the answers of the socket during it. -/
structure SendCall where
  type : MessageType
  payload : ByteString
  sends : List SocketSend

/-- A session the calls are made on, with the bytes that left and the frames a
nonce was consumed for. -/
structure SendingSession where
  connection : ServerConnection
  emitted : ByteString := []
  sealedFrames : List ByteString := []

namespace SendCall

/-- The call on a connection. -/
def run (call : SendCall) (connection : ServerConnection) :
    Option Bool × ByteString × ServerConnection :=
  connection.sendFrameThrough call.sends call.type call.payload

/-- The frame of the call, if a nonce is consumed for it. -/
def sealedFrame (call : SendCall) (connection : ServerConnection) : List ByteString :=
  if (connection.sealFrame call.type call.payload).1.isSome then
    [frameBytes call.type call.payload]
  else []

/-- The session after the call, if it comes back. -/
def perform (session : SendingSession) (call : SendCall) : Option SendingSession :=
  match call.run session.connection with
  | (none, _) => none
  | (some _, emitted, connection) => some {
      connection
      emitted := session.emitted ++ emitted
      sealedFrames := session.sealedFrames ++ call.sealedFrame session.connection }

/-- A call that returns false after it consumed a nonce leaves the session
closed. -/
def ClosesOnFailure (session : SendingSession) (call : SendCall) : Prop :=
  (call.run session.connection).1 = some false →
    (call.run session.connection).2.2.sendCounter ≠ session.connection.sendCounter →
      (call.run session.connection).2.2.isOpen = false

/-- Once `send_frame` gets to send, the socket does not fail before it has taken
the whole message. -/
def SentWhole (session : SendingSession) (call : SendCall) : Prop :=
  session.connection.CanSeal call.payload →
    FailsAfter (call.sends.map SocketSend.attempt) (wireSize call.payload)

end SendCall

/-- Everything emitted since the session `start` is understood by a server at the
same nonce, as the frames that were sealed. -/
def SendingSession.Followed (start : ServerConnection) (session : SendingSession) : Prop :=
  match start.transport with
  | none => session.emitted = []
  | some transport => ∀ server : NoiseTransport, server.receiveState.key = transport.sendKey →
      server.receiveCounter = transport.sendCounter →
        Understood server session.emitted session.sealedFrames

section Sending

variable {session session' : SendingSession} {call : SendCall} {start : ServerConnection}

/-- What a call does: it is refused before a nonce is consumed, or it consumes
one and offers the message to the socket. -/
theorem SendCall.run_cases (session : SendingSession) (call : SendCall) :
    (¬ session.connection.CanSeal call.payload ∧ call.sealedFrame session.connection = [] ∧
      call.run session.connection = (some false, [], session.connection)) ∨
    ∃ transport transport' : NoiseTransport, session.connection.CanSeal call.payload ∧
      session.connection.transport = some transport ∧
      transport.sendState.nonceCounter ≠ NoiseCipherState.exhausted ∧
      transport'.sendCounter = transport.sendCounter + 1 ∧
      transport'.sendKey = transport.sendKey ∧
      call.sealedFrame session.connection = [frameBytes call.type call.payload] ∧
      call.run session.connection =
        ((sendAll call.sends (wireMessage transport.sendKey transport.sendCounter
            (frameBytes call.type call.payload))).1,
          (sendAll call.sends (wireMessage transport.sendKey transport.sendCounter
            (frameBytes call.type call.payload))).2,
          { session.connection with transport := some transport' }) := by
  by_cases hcan : session.connection.CanSeal call.payload
  · obtain ⟨transport, transport', htransport, hnonces, hcounter, hkey, hseal⟩ :=
      hcan.sealFrame call.type
    refine .inr ⟨transport, transport', hcan, htransport, hnonces, hcounter, hkey, ?_, ?_⟩
    · simp [sealedFrame, hseal]
    · simp only [run, ServerConnection.sendFrameThrough, hseal, wireMessage]
  · have hrefused := ServerConnection.sealFrame_refused hcan call.type
    refine .inl ⟨hcan, ?_, ?_⟩
    · simp [sealedFrame, hrefused]
    · simp only [run, ServerConnection.sendFrameThrough, hrefused]

/-- `send_frame` never closes the session: it keeps the promise exactly when
there is no failure to answer for. -/
theorem SendCall.closesOnFailure_iff (session : SendingSession) (call : SendCall) :
    call.ClosesOnFailure session ↔ call.SentWhole session := by
  rcases call.run_cases session with ⟨hcannot, -, hrun⟩ |
    ⟨transport, transport', hcan, htransport, -, hcounter, -, -, hrun⟩
  · refine iff_of_true (fun _ hmoved => ?_) fun hcan => absurd hcan hcannot
    rw [hrun] at hmoved
    exact absurd rfl hmoved
  · have hlength := wireMessage_frameBytes transport.sendKey transport.sendCounter call.type
      call.payload
    have hfalse : (sendAll call.sends (wireMessage transport.sendKey transport.sendCounter
        (frameBytes call.type call.payload))).1 = some false ↔
        ¬ FailsAfter (call.sends.map SocketSend.attempt) (wireSize call.payload) := by
      rw [sendAll, writeAll_false_iff, hlength]
    have hmoved : ({ session.connection with transport := some transport' } :
        ServerConnection).sendCounter ≠ session.connection.sendCounter := by
      simp [ServerConnection.sendCounter, htransport, hcounter]
    simp only [ClosesOnFailure, SentWhole, hrun]
    constructor
    · -- the session is still open after the call
      intro hcloses _
      by_contra hfails
      have hclosed := hcloses (hfalse.mpr hfails) hmoved
      rw [hcan.isOpen] at hclosed
      cases hclosed
    · intro hwhole hfailed
      exact absurd (hwhole hcan) (hfalse.mp hfailed)

/-- The stream is made of the frames that were sealed, in their order, and the
transport has counted them. -/
def SendingSession.Intact (transport : NoiseTransport) (session : SendingSession) : Prop :=
  (∃ now : NoiseTransport, session.connection.transport = some now ∧
    now.sendKey = transport.sendKey ∧
    now.sendCounter = transport.sendCounter + session.sealedFrames.length) ∧
  session.emitted = sealedStream transport.sendKey transport.sendCounter session.sealedFrames ∧
  ∀ frame ∈ session.sealedFrames, IsFrame frame

/-- A message that is sent whole keeps the stream so. -/
theorem SendingSession.Intact.perform {transport : NoiseTransport}
    (h : session.Intact transport) (hwhole : call.SentWhole session)
    (hstep : call.perform session = some session') : session'.Intact transport := by
  obtain ⟨⟨now, hnow, hnowKey, hnowCounter⟩, hemitted, hframes⟩ := h
  rcases call.run_cases session with ⟨-, hnone, hrun⟩ |
    ⟨before, after, hcan, hbefore, -, hcounter, hkey, hone, hrun⟩
  · simp only [SendCall.perform, hrun, hnone, List.append_nil, Option.some.injEq] at hstep
    obtain rfl := hstep
    exact ⟨⟨now, hnow, hnowKey, hnowCounter⟩, hemitted, hframes⟩
  · obtain rfl : before = now := Option.some.inj (hbefore.symm.trans hnow)
    rcases hsent : sendAll call.sends (wireMessage before.sendKey before.sendCounter
      (frameBytes call.type call.payload)) with ⟨_ | sent, taken⟩
    · simp [SendCall.perform, hrun, hsent] at hstep
    have hresult := congrArg Prod.fst hsent
    cases sent with
    | false =>
      refine absurd (hwhole hcan) ?_
      have hfailed := writeAll_false_iff.mp hresult
      rwa [wireMessage_length, frameBytes_length] at hfailed
    | true =>
      have hwritten : taken = wireMessage before.sendKey before.sendCounter
          (frameBytes call.type call.payload) :=
        (congrArg Prod.snd hsent).symm.trans (writeAll_true hresult)
      simp only [SendCall.perform, hrun, hsent, hone, Option.some.injEq] at hstep
      obtain rfl := hstep
      refine ⟨⟨after, rfl, hkey.trans hnowKey, ?_⟩, ?_, ?_⟩
      · rw [hcounter, hnowCounter, List.length_append, List.length_singleton]
        omega
      · rw [hemitted, hwritten, sealedStream_append, ← hnowCounter, hnowKey, sealedStream,
          sealedStream, List.append_nil]
      · intro frame hframe
        rcases List.mem_append.mp hframe with hold | hnew
        · exact hframes frame hold
        · exact ⟨_, _, hcan.fits, List.mem_singleton.mp hnew⟩

/-- An intact stream is understood. -/
theorem SendingSession.Intact.followed {transport : NoiseTransport}
    (h : session.Intact transport) (hstart : start.transport = some transport) :
    session.Followed start := by
  obtain ⟨⟨now, -, -, hcounter⟩, hemitted, hframes⟩ := h
  simp only [Followed, hstart]
  intro server hkey hserver
  rw [hemitted, ← hkey, ← hserver]
  refine understood_sealedStream hframes ?_
  rw [hserver, ← hcounter]
  exact UInt64.toNat_lt _

/-- Without a transport nothing is ever emitted. -/
theorem SendCall.perform_without_transport
    (h : session.connection.transport = none ∧ session.emitted = [])
    (hstep : call.perform session = some session') :
    session'.connection.transport = none ∧ session'.emitted = [] := by
  rcases call.run_cases session with ⟨-, hnone, hrun⟩ | ⟨before, -, -, hbefore, -⟩
  · simp only [SendCall.perform, hrun, hnone, List.append_nil, Option.some.injEq] at hstep
    obtain rfl := hstep
    exact h
  · rw [h.1] at hbefore
    cases hbefore

/-- Whatever the socket does: every call that returns false after it consumed a
nonce leaves the session closed, and the stream emitted is understood by the
server, exactly when no call is cut short in the middle of its message. -/
theorem failed_send_closes (connection : ServerConnection) (calls : List SendCall) :
    (Along SendCall.perform SendCall.ClosesOnFailure { connection } calls ∧
      ∀ session, after SendCall.perform { connection } calls = some session →
        session.Followed connection) ↔
    Along SendCall.perform SendCall.SentWhole { connection } calls := by
  constructor
  · rintro ⟨hcloses, -⟩
    exact hcloses.mono fun session call => (call.closesOnFailure_iff session).mp
  · intro hwhole
    refine ⟨hwhole.mono fun session call => (call.closesOnFailure_iff session).mpr, ?_⟩
    intro session hrun
    rcases htransport : connection.transport with _ | transport
    · have hnone := after_invariant (I := fun session : SendingSession =>
        session.connection.transport = none ∧ session.emitted = [])
        (fun h _ hstep => SendCall.perform_without_transport h hstep) ⟨htransport, rfl⟩ hwhole hrun
      simpa only [SendingSession.Followed, htransport] using hnone.2
    · have hintact : session.Intact transport :=
        after_invariant (fun h hcall hstep => SendingSession.Intact.perform h hcall hstep)
          ⟨⟨transport, htransport, rfl, rfl⟩, rfl, by simp⟩ hwhole hrun
      exact hintact.followed htransport

end Sending

/-- Two requests without fields: three bytes of the first one leave before the
socket fails, the second one is taken whole. -/
def cutRequest : SendCall := { type := .friendListRequest, payload := [], sends := [.sent 3, .failed] }

def wholeRequest : SendCall :=
  { type := .friendListRequest, payload := [], sends := [.timeout, .sent (wireSize [])] }

/-- A session just opened. -/
def freshSession : ServerConnection :=
  { ServerConnection.create (FixedBytes.zero _) with
    transport := some (NoiseTransport.create (FixedBytes.zero _) (FixedBytes.zero _)), isOpen := true }

omit [Sodium] in
/-- The first call returns false with its nonce consumed and the session open;
the second one returns true, and no server at the same nonce can read what
left. -/
theorem failed_send_stays_open :
    letI := transparentSodium
    (cutRequest.run freshSession).1 = some false ∧
      (cutRequest.run freshSession).2.2.sendCounter ≠ freshSession.sendCounter ∧
      (cutRequest.run freshSession).2.2.isOpen = true ∧
      (wholeRequest.run (cutRequest.run freshSession).2.2).1 = some true ∧
      ∃ session, after SendCall.perform { connection := freshSession } [cutRequest, wholeRequest] =
        some session ∧ ∀ server frames, ¬ Understood server session.emitted frames := by
  let _ := transparentSodium
  refine ⟨by decide +kernel, by decide +kernel, by decide +kernel, by decide +kernel, ?_⟩
  have hend : (after SendCall.perform { connection := freshSession }
      [cutRequest, wholeRequest]).map (fun session =>
        (session.emitted.length, extractLengthPrefixedMessage session.emitted maxNoiseMessageSize)) =
      some (3 + wireSize [], .malformed) := by
    decide +kernel
  obtain ⟨session, hrun, hstream⟩ := Option.map_eq_some_iff.mp hend
  obtain ⟨hlength, hmalformed⟩ := Prod.mk.inj hstream
  refine ⟨session, hrun, fun server frames hunderstood => ?_⟩
  -- the second length prefix lands inside the first message
  generalize session.emitted = stream at hlength hmalformed hunderstood
  cases hunderstood with
  | nil => cases hlength
  | cons cut =>
    rw [hmalformed] at cut
    cases cut

end HyperCom
