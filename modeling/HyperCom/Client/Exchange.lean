import HyperCom.Lib.Dialogue
import HyperCom.Protocol.Frame
import HyperCom.Protocol.SessionMessages
import HyperCom.Crypto.DirectMessage

/-!
# The client's conversation with the server

The client's commands are dialogues: their only effects are calls to a
`server_connection`, to the random generator, to the clock and to the terminal.
Whatever is at the other end gives the answers, a hostile server included, so a
statement about every course of a command holds against every server.

Here: the calls, `message_exchange.hpp` and `client_session`.
-/

namespace HyperCom

open BinaryCodec Interaction

/-! ## What the user types -/

/-- A text field of the interface: a `char` array, read up to its first zero. -/
abbrev InputBuffer (capacity : ℕ) : Type :=
  { text : ByteString // text.length < capacity ∧ (0 : UInt8) ∉ text }

/-- `input[0] = '\0'` -/
def InputBuffer.cleared (capacity : ℕ) (h : 0 < capacity) : InputBuffer capacity :=
  ⟨[], h, List.not_mem_nil⟩

/-! ## The calls -/

/-- `server_endpoint`: an empty `socks5_host` is a direct connection. -/
structure ServerEndpoint where
  host : ByteString := []
  port : UInt16 := 0
  socks5Host : ByteString := []
  socks5Port : UInt16 := 0
deriving DecidableEq

/-- What a command asks of the outside. -/
inductive ClientCall where
  /-- `server_connection::is_open` -/
  | isOpen
  /-- `server_connection::open_session` -/
  | openSession (endpoint : ServerEndpoint)
  /-- `server_connection::send_frame` -/
  | sendFrame (type : MessageType) (payload : ByteString)
  /-- `server_connection::receive_frame` -/
  | receiveFrame
  /-- `generate_x25519_keypair` -/
  | generateX25519Keypair
  /-- `get_unix_timestamp` -/
  | getUnixTimestamp
  /-- a line on `std::cout` -/
  | print (line : ByteString)

/-- How each call is answered; an error is the text left in `error_out`. -/
abbrev ClientAnswer : ClientCall → Type
  | .isOpen => Bool
  | .openSession _ => Except ByteString Unit
  | .sendFrame _ _ => Bool
  | .receiveFrame => Except ByteString (MessageType × ByteString)
  | .generateX25519Keypair => EphemeralKeypair
  | .getUnixTimestamp => UInt64
  | .print _ => Unit

/-- A function of the client that cannot fail. -/
abbrev ClientAction : Type → Type := Dialogue ClientAnswer

/-- A function of the client that returns `false` with a text in `error_out`. -/
abbrev ClientCommand : Type → Type := ExceptT ByteString ClientAction

/-- What a course of a command left behind: the calls and their answers. -/
abbrev ClientTrace : Type := List (Exchange ClientAnswer)

/-- The payloads of the frames of a type that were sent. -/
def sentFrames (type : MessageType) (trace : ClientTrace) : List ByteString :=
  trace.filterMap fun
    | ⟨.sendFrame sent payload, _⟩ => if sent = type then some payload else none
    | _ => none

/-- The key pairs that were generated. -/
def generatedKeypairs (trace : ClientTrace) : List EphemeralKeypair :=
  trace.filterMap fun
    | ⟨.generateX25519Keypair, keypair⟩ => some keypair
    | _ => none

/-- The lines that were printed. -/
def printedLines (trace : ClientTrace) : List ByteString :=
  trace.filterMap fun
    | ⟨.print line, _⟩ => some line
    | _ => none

@[simp] theorem sentFrames_append (type : MessageType) (first second : ClientTrace) :
    sentFrames type (first ++ second) = sentFrames type first ++ sentFrames type second :=
  List.filterMap_append ..

@[simp] theorem generatedKeypairs_append (first second : ClientTrace) :
    generatedKeypairs (first ++ second) = generatedKeypairs first ++ generatedKeypairs second :=
  List.filterMap_append ..

@[simp] theorem printedLines_append (first second : ClientTrace) :
    printedLines (first ++ second) = printedLines first ++ printedLines second :=
  List.filterMap_append ..

/-- Where no call sends a frame of the type, none was sent. -/
theorem sentFrames_eq_nil {P : ClientCall → Prop} {type : MessageType} {trace : ClientTrace}
    (h : ∀ exchange ∈ trace, P exchange.1) (hP : ∀ payload, ¬ P (.sendFrame type payload)) :
    sentFrames type trace = [] := by
  rw [sentFrames, List.filterMap_eq_nil_iff]
  rintro ⟨call, answer⟩ hmem
  have hcall : P call := h _ hmem
  cases call with
  | sendFrame sent payload =>
    have hne : sent ≠ type := by
      rintro rfl
      exact hP payload hcall
    exact if_neg hne
  | _ => rfl

/-- Where no call draws a key pair, none was drawn. -/
theorem generatedKeypairs_eq_nil {P : ClientCall → Prop} {trace : ClientTrace}
    (h : ∀ exchange ∈ trace, P exchange.1) (hP : ¬ P .generateX25519Keypair) :
    generatedKeypairs trace = [] := by
  rw [generatedKeypairs, List.filterMap_eq_nil_iff]
  rintro ⟨call, answer⟩ hmem
  have hcall : P call := h _ hmem
  cases call with
  | generateX25519Keypair => exact absurd hcall hP
  | _ => rfl

/-- Where no call prints, nothing was printed. -/
theorem printedLines_eq_nil {P : ClientCall → Prop} {trace : ClientTrace}
    (h : ∀ exchange ∈ trace, P exchange.1) (hP : ∀ line, ¬ P (.print line)) :
    printedLines trace = [] := by
  rw [printedLines, List.filterMap_eq_nil_iff]
  rintro ⟨call, answer⟩ hmem
  have hcall : P call := h _ hmem
  cases call with
  | print line => exact absurd hcall (hP line)
  | _ => rfl

/-! ## `message_exchange.hpp` -/

/-- `send_typed_message`, with the message already written. -/
def sendTypedMessage (type : MessageType) (payload : ByteString) : ClientAction Bool :=
  Dialogue.call (ClientCall.sendFrame type payload)

/-- The rest of `receive_typed_message`, once a frame has arrived. A
`status_error` is turned into a readable text. -/
def decodeReply {α : Type} (expected : MessageType) (readFrom : Reader α)
    (frame : MessageType × ByteString) : Except ByteString α :=
  let reader := ByteReader.start frame.2
  if frame.1 = .statusError then
    match (StatusErrorResponse.readFrom reader).1 with
    | some failure => .error (ascii "erreur serveur : " ++ failure.detail)
    | none => .error (ascii "erreur serveur illisible")
  else if frame.1 ≠ expected then .error (ascii "reponse inattendue du serveur")
  else
    match (readFrom reader).1 with
    | some message => .ok message
    | none => .error (ascii "reponse mal formee")

/-- `receive_frame` -/
def receiveFrame : ClientCommand (MessageType × ByteString) :=
  ExceptT.mk (Dialogue.call ClientCall.receiveFrame)

/-- `receive_typed_message` -/
def receiveTypedMessage {α : Type} (expected : MessageType) (readFrom : Reader α) :
    ClientCommand α := do
  let frame ← receiveFrame
  ExceptT.mk (pure (decodeReply expected readFrom frame))

/-- `if (!sent) { error_out = text; return false; }` -/
def requireSent (sent : ClientAction Bool) (text : ByteString) : ClientCommand Unit := do
  if ← ExceptT.lift sent then pure () else throw text

/-- A request, then its reply: how every command talks to the server. -/
def requestReply {α : Type} (type : MessageType) (payload unsent : ByteString)
    (expected : MessageType) (readFrom : Reader α) : ClientCommand α := do
  requireSent (sendTypedMessage type payload) unsent
  receiveTypedMessage expected readFrom

/-- What `receive_typed_message` accepts: a frame of the expected type that
decodes. -/
theorem decodeReply_ok {α : Type} {expected : MessageType} {readFrom : Reader α}
    {frame : MessageType × ByteString} {message : α}
    (h : decodeReply expected readFrom frame = .ok message) :
    frame.1 = expected ∧ (readFrom (ByteReader.start frame.2)).1 = some message := by
  unfold decodeReply at h
  simp only at h
  split at h
  · split at h <;> cases h
  · split at h
    · cases h
    · next htype =>
      split at h
      · next decoded hread =>
        obtain rfl := Except.ok.inj h
        exact ⟨not_not.mp htype, hread⟩
      · cases h

/-- A course of `receive_typed_message` is one `receive_frame`. -/
theorem performs_receiveTypedMessage {α : Type} {expected : MessageType} {readFrom : Reader α}
    {trace : ClientTrace} {result : Except ByteString α}
    (h : (receiveTypedMessage expected readFrom).run.Performs trace result) :
    ∃ answer : Except ByteString (MessageType × ByteString),
      trace = [⟨.receiveFrame, answer⟩] ∧ result = answer.bind (decodeReply expected readFrom) := by
  rcases Dialogue.performs_bindExcept.mp h with ⟨error, hframe, rfl⟩ |
    ⟨first, second, frame, rfl, hframe, hdecoded⟩
  · exact ⟨.error error, Dialogue.performs_call.mp hframe, rfl⟩
  · obtain rfl := Dialogue.performs_call.mp hframe
    obtain ⟨rfl, rfl⟩ := Dialogue.performs_pure.mp hdecoded
    exact ⟨.ok frame, rfl, rfl⟩

/-- A course of a checked send is one `send_frame`. -/
theorem performs_requireSent {type : MessageType} {payload text : ByteString} {trace : ClientTrace}
    {result : Except ByteString Unit}
    (h : (requireSent (sendTypedMessage type payload) text).run.Performs trace result) :
    ∃ sent : Bool, trace = [⟨.sendFrame type payload, sent⟩] ∧
      result = if sent then .ok () else .error text := by
  obtain ⟨calls, rest, sent, rfl, hcall, hresult⟩ := Dialogue.performs_lift_bind.mp h
  obtain rfl := Dialogue.performs_call.mp hcall
  cases sent with
  | true =>
    obtain ⟨rfl, rfl⟩ := Dialogue.performs_pure.mp hresult
    exact ⟨true, rfl, rfl⟩
  | false =>
    obtain ⟨rfl, rfl⟩ := Dialogue.performs_pure.mp hresult
    exact ⟨false, rfl, rfl⟩

/-- A course of a request and its reply: one `send_frame`, and one
`receive_frame` if the first succeeded. -/
theorem performs_requestReply {α : Type} {type expected : MessageType}
    {payload unsent : ByteString} {readFrom : Reader α} {trace : ClientTrace}
    {result : Except ByteString α}
    (h : (requestReply type payload unsent expected readFrom).run.Performs trace result) :
    (trace = [⟨.sendFrame type payload, false⟩] ∧ result = .error unsent) ∨
    ∃ answer : Except ByteString (MessageType × ByteString),
      trace = [⟨.sendFrame type payload, true⟩, ⟨.receiveFrame, answer⟩] ∧
      result = answer.bind (decodeReply expected readFrom) := by
  rcases Dialogue.performs_bindExcept.mp h with ⟨error, hsent, rfl⟩ |
    ⟨sentTrace, replyTrace, _, rfl, hsent, hreply⟩
  · obtain ⟨sent, rfl, hresult⟩ := performs_requireSent hsent
    cases sent with
    | true => cases hresult
    | false => exact .inl ⟨rfl, by simpa using hresult⟩
  · obtain ⟨sent, rfl, hresult⟩ := performs_requireSent hsent
    obtain ⟨answer, rfl, rfl⟩ := performs_receiveTypedMessage hreply
    cases sent with
    | true => exact .inr ⟨answer, rfl, rfl⟩
    | false => cases hresult

/-- A successful one: the reply is of the expected type and decodes. -/
theorem performs_requestReply_ok {α : Type} {type expected : MessageType}
    {payload unsent : ByteString} {readFrom : Reader α} {trace : ClientTrace} {message : α}
    (h : (requestReply type payload unsent expected readFrom).run.Performs trace (.ok message)) :
    ∃ reply, trace = [⟨.sendFrame type payload, true⟩, ⟨.receiveFrame, .ok (expected, reply)⟩] ∧
      (readFrom (ByteReader.start reply)).1 = some message := by
  rcases performs_requestReply h with ⟨-, ⟨⟩⟩ | ⟨error | ⟨received, reply⟩, rfl, hresult⟩
  · cases hresult
  · obtain ⟨rfl, hread⟩ := decodeReply_ok hresult.symm
    exact ⟨reply, rfl, hread⟩

theorem performs_requireSent_ok {type : MessageType} {payload text : ByteString}
    {trace : ClientTrace} {result : Unit}
    (h : (requireSent (sendTypedMessage type payload) text).run.Performs trace (.ok result)) :
    trace = [⟨.sendFrame type payload, true⟩] := by
  obtain ⟨sent, rfl, hresult⟩ := performs_requireSent h
  cases sent with
  | true => rfl
  | false => cases hresult

theorem receiveTypedMessage_only {α : Type} {P : ClientCall → Prop} {expected : MessageType}
    {readFrom : Reader α} (h : P .receiveFrame) :
    (receiveTypedMessage expected readFrom).run.Only P := by
  apply Dialogue.Only.bindExcept (Dialogue.only_call h)
  intro frame
  exact .done

theorem requireSent_only {P : ClientCall → Prop} {type : MessageType} {payload text : ByteString}
    (h : P (.sendFrame type payload)) :
    (requireSent (sendTypedMessage type payload) text).run.Only P := by
  apply (Dialogue.only_call h).lift.bindExcept
  rintro (_ | _)
  · exact .done
  · exact .done

theorem requestReply_only {α : Type} {P : ClientCall → Prop} {type expected : MessageType}
    {payload unsent : ByteString} {readFrom : Reader α} (hsend : P (.sendFrame type payload))
    (hreceive : P .receiveFrame) :
    (requestReply type payload unsent expected readFrom).run.Only P :=
  (requireSent_only hsend).bindExcept fun _ => receiveTypedMessage_only hreceive

/-! ## What the server answered a request with -/

/-- The exchange is the sending of a frame of this type. -/
def isRequest (type : MessageType) : Exchange ClientAnswer → Bool
  | ⟨.sendFrame sent _, _⟩ => sent == type
  | _ => false

/-- The frame consumed right after the first request of a type. -/
def replyTo (type : MessageType) (trace : ClientTrace) : Option (MessageType × ByteString) :=
  match trace.dropWhile fun exchange => !isRequest type exchange with
  | _ :: ⟨.receiveFrame, .ok frame⟩ :: _ => some frame
  | _ => none

/-- The reply to the first request of a type, where it is of the expected type
and decodes. -/
def replyMessage {α : Type} (type expected : MessageType) (readFrom : Reader α)
    (trace : ClientTrace) : Option α :=
  match replyTo type trace with
  | none => none
  | some (received, payload) =>
    if received = expected then (readFrom (ByteReader.start payload)).1 else none

theorem replyMessage_append {α : Type} {type expected : MessageType} {readFrom : Reader α}
    {before : ClientTrace} (after : ClientTrace)
    (h : ∀ exchange ∈ before, isRequest type exchange = false) :
    replyMessage type expected readFrom (before ++ after) =
      replyMessage type expected readFrom after := by
  have hdrop : (before ++ after).dropWhile (fun exchange => !isRequest type exchange) =
      after.dropWhile fun exchange => !isRequest type exchange := by
    apply List.dropWhile_append_of_pos
    intro exchange hmem
    rw [h exchange hmem]
    rfl
  rw [replyMessage, replyTo, hdrop]
  rfl

/-- A request without a reply. -/
theorem replyMessage_unanswered {α : Type} {type expected : MessageType} {readFrom : Reader α}
    {payload : ByteString} {sent : Bool} :
    replyMessage type expected readFrom [⟨.sendFrame type payload, sent⟩] = none := by
  simp [replyMessage, replyTo, isRequest]

/-- A request and its reply, whatever comes after. -/
theorem replyMessage_answered {α : Type} {type expected received : MessageType}
    {readFrom : Reader α} {payload reply : ByteString} {sent : Bool} {after : ClientTrace} :
    replyMessage type expected readFrom (⟨.sendFrame type payload, sent⟩ ::
      ⟨.receiveFrame, .ok (received, reply)⟩ :: after) =
      if received = expected then (readFrom (ByteReader.start reply)).1 else none := by
  simp [replyMessage, replyTo, isRequest]

/-- A reply that decodes is one `receive_typed_message` accepts. -/
theorem decodeReply_of_replyMessage {α : Type} {type expected : MessageType} {readFrom : Reader α}
    {payload : ByteString} {sent : Bool} {answer : Except ByteString (MessageType × ByteString)}
    {message : α} (hexpected : expected ≠ .statusError)
    (h : replyMessage type expected readFrom
      [⟨.sendFrame type payload, sent⟩, ⟨.receiveFrame, answer⟩] = some message) :
    answer.bind (decodeReply expected readFrom) = .ok message := by
  rcases answer with error | ⟨received, reply⟩
  · simp [replyMessage, replyTo, isRequest] at h
  · rw [replyMessage_answered] at h
    by_cases hreceived : received = expected
    · rw [if_pos hreceived] at h
      change decodeReply expected readFrom (received, reply) = .ok message
      simp only [decodeReply, hreceived, hexpected, h, if_false, ne_eq, not_true]
    · rw [if_neg hreceived] at h
      cases h

/-! ## `client_session` -/

/-- `client_session`. The nonce of the challenge is read right after it is set,
so it stays local to `authenticate`. -/
structure ClientSession where
  handle : ByteString := []
  userId : UInt64 := 0
  needsRegistration : Bool := true
deriving DecidableEq

/-- What `authenticate` makes of the last frame: `auth_accepted` if the key has
an account, `status_ok` if it was only proven. -/
def concludeAuthentication (session : ClientSession) (frame : MessageType × ByteString) :
    Except ByteString ClientSession :=
  if frame.1 = .authAccepted then
    match (AuthAccepted.readFrom (ByteReader.start frame.2)).1 with
    | none => .error (ascii "reponse d'authentification mal formee")
    | some accepted =>
      .ok { handle := accepted.handle, userId := accepted.userId, needsRegistration := false }
  else if frame.1 = .statusOk then .ok { session with needsRegistration := true }
  else .error (ascii "authentification refusee par le serveur")

variable [Sodium]

/-- `sign_and_send_response` -/
def signAndSendResponse (identity : IdentityKeypair) (challengeNonce : WireNonce) :
    ClientCommand Unit :=
  let signature := identity.signMessage (buildAuthSigningInput challengeNonce identity.publicKey)
  requireSent (sendTypedMessage .authResponse (AuthResponse.writeTo { signature }))
    (ascii "envoi de la reponse d'authentification impossible")

/-- `authenticate` -/
def authenticate (identity : IdentityKeypair) (session : ClientSession) :
    ClientCommand ClientSession := do
  let challenge ← requestReply .helloRequest
    (HelloRequest.writeTo { clientPubkey := identity.publicKey })
    (ascii "envoi du hello impossible") .authChallenge AuthChallenge.readFrom
  signAndSendResponse identity challenge.nonce
  let frame ← receiveFrame
  ExceptT.mk (pure (concludeAuthentication session frame))

/-- The calls of a login. -/
def LoginCall : ClientCall → Prop
  | .sendFrame type _ => type = .helloRequest ∨ type = .authResponse
  | .receiveFrame => True
  | _ => False

theorem authenticate_only (identity : IdentityKeypair) (session : ClientSession) :
    (authenticate identity session).run.Only LoginCall := by
  apply (requestReply_only (.inl rfl) trivial).bindExcept
  intro challenge
  apply (requireSent_only (.inr rfl)).bindExcept
  intro _
  apply Dialogue.Only.bindExcept (Dialogue.only_call trivial)
  intro frame
  exact .done

/-! ## Scripted surroundings -/

/-- Surroundings that follow a script: the session is open, frames go out, key
pair and clock are fixed, and the frames of the script arrive in order. -/
def scripted (keys : EphemeralKeypair) : (call : ClientCall) → List (MessageType × ByteString) →
    ClientAnswer call × List (MessageType × ByteString)
  | .isOpen, script => (true, script)
  | .openSession _, script => (.ok (), script)
  | .sendFrame _ _, script => (true, script)
  | .receiveFrame, [] => (.error (ascii "aucune reponse du serveur"), [])
  | .receiveFrame, frame :: script => (.ok frame, script)
  | .generateX25519Keypair, script => (keys, script)
  | .getUnixTimestamp, script => (0, script)
  | .print _, script => ((), script)

end HyperCom
