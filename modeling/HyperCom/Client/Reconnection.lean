import HyperCom.Client.DirectMessages
import HyperCom.Client.Registry
import HyperCom.Client.ServerConnection
import HyperCom.Lib.Run

/-!
# Reconnecting

`ensure_connected` and `connect_slot` take an open connection for a usable one.
It is, as long as every login either succeeds or ends with an answer that closes
the connection. A login refused by the server, left without an answer or not
even sent leaves the connection open, and the next call reports it as usable.

The condition is on the answers a login gets, over all the logins of a run. Nothing is said
about how the connection got lost: the loop only sees that it is there or that it is not.
-/

namespace HyperCom

open Interaction Interaction.Dialogue StepRun

variable [Sodium]

/-! ## The connection answers the calls -/

namespace ServerConnection

/-- The connection as what a command talks to, its socket behaving as told from
call to call. -/
def answer (behaviours : ℕ → SocketBehaviour) :
    (call : ClientCall) → ServerConnection × ℕ → ClientAnswer call × (ServerConnection × ℕ)
  | .isOpen, (connection, calls) => (connection.isOpen, connection, calls + 1)
  | .openSession _, (connection, calls) =>
    let out := connection.openSession (behaviours calls)
    (out.1, out.2, calls + 1)
  | .sendFrame type payload, (connection, calls) =>
    let out := connection.sendFrame (behaviours calls) type payload
    (out.1, out.2, calls + 1)
  | .receiveFrame, (connection, calls) =>
    let out := connection.receiveFrame (behaviours calls)
    (out.1, out.2, calls + 1)
  | .generateX25519Keypair, (connection, calls) =>
    ((behaviours calls).ephemeral, connection, calls + 1)
  | .getUnixTimestamp, (connection, calls) => (0, connection, calls + 1)
  | .print _, (connection, calls) => ((), connection, calls + 1)

/-- The texts of `pull_next_message` and `receive_frame` that go with
`open_ = false`. -/
def closingErrors : List ByteString :=
  [ascii "trame invalide recue du serveur", ascii "connexion fermee par le serveur",
    ascii "dechiffrement impossible : session compromise", ascii "trame mal formee"]

/-- Open, with transport keys. -/
def Established (connection : ServerConnection) : Prop :=
  connection.isOpen = true ∧ connection.transport.isSome = true

section Calls

variable {connection : ServerConnection}

omit [Sodium] in
/-- The rounds of `pull_next_message` bring a message, or close the connection,
or run out. -/
theorem pullRounds_cases (reads : ℕ → SocketRead) (left : ℕ) (connection : ServerConnection) :
    let out := connection.pullRounds reads left
    out.2.transport = connection.transport ∧
      ((out.1 = .error unanswered ∨ ∃ message, out.1 = .ok message) ∧
          out.2.isOpen = connection.isOpen ∨
        (∃ error ∈ closingErrors, out.1 = .error error) ∧ out.2.isOpen = false) := by
  induction left generalizing connection with
  | zero => exact ⟨rfl, .inl ⟨.inl rfl, rfl⟩⟩
  | succ left ih =>
    simp only [pullRounds, pullAttempt]
    rcases extractLengthPrefixedMessage connection.inputBuffer maxNoiseMessageSize with
      ⟨message, rest⟩ | _ | _
    · exact ⟨rfl, .inl ⟨.inr ⟨message, rfl⟩, rfl⟩⟩
    · rcases reads (maxReceiveAttempts - (left + 1)) with bytes | _ | _
      · exact ih _
      · exact ih connection
      · exact ⟨rfl, .inr ⟨⟨_, by simp [closingErrors], rfl⟩, rfl⟩⟩
    · exact ⟨rfl, .inr ⟨⟨_, by simp [closingErrors], rfl⟩, rfl⟩⟩

/-- A message that does not open to a frame closes the connection. -/
theorem openFrame_cases (message : ByteString) (established : connection.transport.isSome = true) :
    ((∃ frame, (connection.openFrame message).1 = .ok frame) ∧
        (connection.openFrame message).2.isOpen = connection.isOpen ∧
        (connection.openFrame message).2.transport.isSome = true) ∨
      (∃ error ∈ closingErrors, (connection.openFrame message).1 = .error error) ∧
        (connection.openFrame message).2.isOpen = false := by
  obtain ⟨transport, htransport⟩ := Option.isSome_iff_exists.mp established
  rcases hdecrypt : NoiseTransport.decryptMessage message transport with ⟨_ | frame, transport'⟩
  · simp only [openFrame, htransport, hdecrypt]
    exact .inr ⟨⟨_, by simp [closingErrors], rfl⟩, trivial⟩
  · simp only [openFrame, htransport, hdecrypt]
    rcases decodeFrameHeader frame with _ | header
    · exact .inr ⟨⟨_, by simp [closingErrors], rfl⟩, rfl⟩
    · by_cases hlength : frame.length ≠ frameLengthFieldSize + header.bodySize.toNat
      · simp only [if_pos hlength]
        exact .inr ⟨⟨_, by simp [closingErrors], rfl⟩, trivial⟩
      · simp only [if_neg hlength]
        exact .inl ⟨⟨_, rfl⟩, trivial, rfl⟩

omit [Sodium] in
/-- A server that says nothing has not closed. -/
theorem unanswered_not_closing : unanswered ∉ closingErrors := by decide +kernel

/-- What `receive_frame` does to an established connection: it stays so, unless
the text says that it was closed. -/
theorem receiveFrame_cases (behaviour : SocketBehaviour) (h : connection.Established) :
    ((connection.receiveFrame behaviour).2.Established ∧
        ∀ error ∈ closingErrors, (connection.receiveFrame behaviour).1 ≠ .error error) ∨
      (∃ error ∈ closingErrors, (connection.receiveFrame behaviour).1 = .error error) ∧
        (connection.receiveFrame behaviour).2.isOpen = false := by
  obtain ⟨hopen, htransport⟩ := h
  have hnone : connection.transport.isNone = false := by simpa using htransport
  have hpull := pullRounds_cases behaviour.reads maxReceiveAttempts connection
  rcases hout : connection.pullNextMessage behaviour.reads with ⟨result, connection'⟩
  rw [pullNextMessage] at hout
  simp only [hout] at hpull
  obtain ⟨hkept, hcases⟩ := hpull
  simp only [receiveFrame, hopen, hnone, Bool.not_true, Bool.or_self, Bool.false_eq_true, if_false,
    pullNextMessage, hout]
  rcases hcases with ⟨rfl | ⟨message, rfl⟩, hstill⟩ | ⟨⟨error, hclosing, rfl⟩, hclosed⟩
  · refine .inl ⟨⟨hstill.trans hopen, ?_⟩, fun error hclosing hsame => ?_⟩
    · simp only [hkept, htransport]
    · rw [← Except.error.inj hsame] at hclosing
      exact unanswered_not_closing hclosing
  · have htransport' : connection'.transport.isSome = true := by rw [hkept, htransport]
    rcases openFrame_cases message htransport' with ⟨⟨frame, hframe⟩, hopened, hsome⟩ | hfailed
    · refine .inl ⟨⟨hopened.trans (hstill.trans hopen), hsome⟩, fun error _ => ?_⟩
      simp [hframe]
    · exact .inr hfailed
  · exact .inr ⟨⟨error, hclosing, rfl⟩, hclosed⟩

/-- Sending closes nothing. -/
theorem sendFrame_established (behaviour : SocketBehaviour) (type : MessageType)
    (payload : ByteString) (h : connection.Established) :
    (connection.sendFrame behaviour type payload).2.Established := by
  obtain ⟨hopen, htransport⟩ := h
  obtain ⟨transport, hsome⟩ := Option.isSome_iff_exists.mp htransport
  rcases hframe : encodeFrame type payload with _ | frame
  · simp only [sendFrame, sealFrame, hopen, hsome, hframe, Bool.not_true, Bool.false_eq_true,
      if_false]
    exact ⟨hopen, htransport⟩
  · rcases hencrypt : NoiseTransport.encryptMessage frame transport with ⟨_ | message, transport'⟩ <;>
    · simp only [sendFrame, sealFrame, hopen, hsome, hframe, hencrypt, Bool.not_true,
        Bool.false_eq_true, if_false]
      exact ⟨rfl, rfl⟩

/-- Receiving opens nothing. -/
theorem isOpen_of_receiveFrame {behaviour : SocketBehaviour}
    (h : (connection.receiveFrame behaviour).2.isOpen = true) : connection.isOpen = true := by
  by_contra hclosed
  rw [Bool.not_eq_true] at hclosed
  simp only [receiveFrame, hclosed, Bool.not_false, Bool.true_or, if_true] at h
  cases h

/-- Neither does sending. -/
theorem isOpen_of_sendFrame {behaviour : SocketBehaviour} {type : MessageType}
    {payload : ByteString} (h : (connection.sendFrame behaviour type payload).2.isOpen = true) :
    connection.isOpen = true := by
  by_contra hclosed
  rw [Bool.not_eq_true] at hclosed
  simp only [sendFrame, sealFrame, hclosed, Bool.not_false, if_true] at h
  cases h

/-- `open_session` establishes the connection or leaves it closed. -/
theorem openSession_cases (behaviour : SocketBehaviour) (connection : ServerConnection) :
    ((connection.openSession behaviour).1 = .ok () ∧
        (connection.openSession behaviour).2.Established) ∨
      (∃ error, (connection.openSession behaviour).1 = .error error) ∧
        (connection.openSession behaviour).2.isOpen = false := by
  unfold openSession
  split
  · exact .inr ⟨⟨_, rfl⟩, rfl⟩
  split
  · exact .inr ⟨⟨_, rfl⟩, rfl⟩
  next first started hstart =>
  split
  · exact .inr ⟨⟨_, rfl⟩, rfl⟩
  split
  · exact .inr ⟨⟨_, rfl⟩, rfl⟩
  next response pulled hpull =>
  split
  · exact .inr ⟨⟨_, rfl⟩, rfl⟩
  next finished hfinish =>
  -- nothing closed the connection on the way
  have hopen : pulled.isOpen = true := by
    have hcases := (pullRounds_cases behaviour.reads maxReceiveAttempts started).2
    rw [pullNextMessage] at hpull
    rw [hpull] at hcases
    rcases hcases with ⟨-, hkept⟩ | ⟨⟨error, -, ⟨⟩⟩, -⟩
    exact hkept.trans (startHandshake_some hstart).2.2
  have hframe := (finishHandshake_frame response pulled).2
  rw [hfinish] at hframe
  refine .inl ⟨rfl, hframe.trans hopen, ?_⟩
  unfold finishHandshake at hfinish
  split at hfinish
  · cases hfinish
  split at hfinish
  · cases hfinish
  obtain ⟨-, rfl⟩ := Prod.mk.inj hfinish
  rfl

end Calls

end ServerConnection

/-! ## The course of a login -/

/-- Every course of `authenticate`, with its result. -/
inductive LoginCourse (session : ClientSession) : ClientTrace → Except ByteString ClientSession →
    Prop where
  | unsent {hello error : ByteString} :
      LoginCourse session [⟨.sendFrame .helloRequest hello, false⟩] (.error error)
  | unchallenged {hello error : ByteString}
      {answer : Except ByteString (MessageType × ByteString)} :
      LoginCourse session [⟨.sendFrame .helloRequest hello, true⟩, ⟨.receiveFrame, answer⟩]
        (.error error)
  | unsigned {hello response error : ByteString} {challenge : MessageType × ByteString} :
      LoginCourse session [⟨.sendFrame .helloRequest hello, true⟩, ⟨.receiveFrame, .ok challenge⟩,
        ⟨.sendFrame .authResponse response, false⟩] (.error error)
  | unanswered {hello response error : ByteString} {challenge : MessageType × ByteString} :
      LoginCourse session [⟨.sendFrame .helloRequest hello, true⟩, ⟨.receiveFrame, .ok challenge⟩,
        ⟨.sendFrame .authResponse response, true⟩, ⟨.receiveFrame, .error error⟩] (.error error)
  | concluded {hello response : ByteString} {challenge frame : MessageType × ByteString} :
      LoginCourse session [⟨.sendFrame .helloRequest hello, true⟩, ⟨.receiveFrame, .ok challenge⟩,
        ⟨.sendFrame .authResponse response, true⟩, ⟨.receiveFrame, .ok frame⟩]
        (concludeAuthentication session frame)

section Login

variable {identity : IdentityKeypair} {session : ClientSession} {trace : ClientTrace}
  {result : Except ByteString ClientSession} {endpoint : ServerEndpoint}

/-- A login goes through its course, whatever is answered. -/
theorem performs_authenticate (h : (authenticate identity session).run.Performs trace result) :
    LoginCourse session trace result := by
  rcases Dialogue.performs_bindExcept.mp h with
    ⟨error, hchallenge, rfl⟩ | ⟨first, rest, challenge, rfl, hchallenge, hsigned⟩
  · rcases performs_requestReply hchallenge with ⟨rfl, -⟩ | ⟨answer, rfl, -⟩
    · exact .unsent
    · exact .unchallenged
  obtain ⟨reply, rfl, -⟩ := performs_requestReply_ok hchallenge
  rcases Dialogue.performs_bindExcept.mp hsigned with
    ⟨error, hsend, rfl⟩ | ⟨second, rest, _, rfl, hsend, hanswered⟩
  · obtain ⟨sent, rfl, hresult⟩ := performs_requireSent hsend
    cases sent with
    | true => cases hresult
    | false => exact .unsigned
  obtain rfl := performs_requireSent_ok hsend
  rcases Dialogue.performs_bindExcept.mp hanswered with
    ⟨error, hreceive, rfl⟩ | ⟨third, rest, frame, rfl, hreceive, hconclude⟩
  · obtain rfl := Dialogue.performs_call.mp hreceive
    exact .unanswered
  obtain rfl := Dialogue.performs_call.mp hreceive
  obtain ⟨rfl, rfl⟩ := Dialogue.performs_pure.mp hconclude
  exact .concluded

/-- A login that ends without a defect: it is concluded, or its last answer
closed the connection. -/
def LoginSettles : ClientTrace → Bool
  | [_, ⟨.receiveFrame, .error error⟩] => error ∈ ServerConnection.closingErrors
  | [_, _, _, ⟨.receiveFrame, .error error⟩] => error ∈ ServerConnection.closingErrors
  | [_, _, _, ⟨.receiveFrame, .ok frame⟩] => (concludeAuthentication {} frame).isOk
  | _ => false

omit [Sodium] in
/-- The last frame decides, not what was known before. -/
theorem concludeAuthentication_isOk (session session' : ClientSession)
    (frame : MessageType × ByteString) :
    (concludeAuthentication session frame).isOk = (concludeAuthentication session' frame).isOk := by
  unfold concludeAuthentication
  split_ifs
  · cases (AuthAccepted.readFrom (ByteReader.start frame.2)).1 <;> rfl
  · rfl
  · rfl

/-- A dial that succeeds leaves an established connection. -/
theorem Follows.dialled {behaviours : ℕ → ServerConnection.SocketBehaviour}
    {start finish : ServerConnection × ℕ} {endpoint : ServerEndpoint}
    (h : Follows (Responds (ServerConnection.answer behaviours)) start
      (⟨.isOpen, false⟩ :: ⟨.openSession endpoint, .ok ()⟩ :: trace) finish) :
    ∃ middle : ServerConnection × ℕ, middle.1.Established ∧
      Follows (Responds (ServerConnection.answer behaviours)) middle trace finish := by
  obtain _ | ⟨-, hrest⟩ := h
  obtain _ | ⟨hdial, hlogin⟩ := hrest
  obtain ⟨hok, rfl⟩ := Prod.mk.inj hdial
  rcases ServerConnection.openSession_cases _ _ with ⟨-, established⟩ | ⟨⟨error, hfailed⟩, -⟩
  · exact ⟨_, established, hlogin⟩
  · cases hfailed.symm.trans hok

/-- A frame goes out and the connection stays as open as it was. -/
theorem Follows.sent {behaviours : ℕ → ServerConnection.SocketBehaviour}
    {start finish : ServerConnection × ℕ} {type : MessageType} {payload : ByteString} {sent : Bool}
    (established : start.1.Established)
    (h : Follows (Responds (ServerConnection.answer behaviours)) start
      (⟨.sendFrame type payload, sent⟩ :: trace) finish) :
    ∃ middle : ServerConnection × ℕ, middle.1.Established ∧
      Follows (Responds (ServerConnection.answer behaviours)) middle trace finish := by
  obtain _ | ⟨hcall, hrest⟩ := h
  obtain ⟨-, rfl⟩ := Prod.mk.inj hcall
  exact ⟨_, ServerConnection.sendFrame_established _ type payload established, hrest⟩

/-- A frame comes in, or the text of the error tells whether the connection was
closed. -/
theorem Follows.received {behaviours : ℕ → ServerConnection.SocketBehaviour}
    {start finish : ServerConnection × ℕ} {answer : Except ByteString (MessageType × ByteString)}
    (established : start.1.Established)
    (h : Follows (Responds (ServerConnection.answer behaviours)) start
      (⟨.receiveFrame, answer⟩ :: trace) finish) :
    ∃ middle : ServerConnection × ℕ,
      (middle.1.Established ∧ (∀ error ∈ ServerConnection.closingErrors, answer ≠ .error error) ∨
        (∃ error ∈ ServerConnection.closingErrors, answer = .error error) ∧
          middle.1.isOpen = false) ∧
      Follows (Responds (ServerConnection.answer behaviours)) middle trace finish := by
  obtain _ | ⟨hcall, hrest⟩ := h
  obtain ⟨rfl, rfl⟩ := Prod.mk.inj hcall
  exact ⟨_, ServerConnection.receiveFrame_cases _ established, hrest⟩

/-- A frame that came in. -/
theorem Follows.received_ok {behaviours : ℕ → ServerConnection.SocketBehaviour}
    {start finish : ServerConnection × ℕ} {frame : MessageType × ByteString}
    (established : start.1.Established)
    (h : Follows (Responds (ServerConnection.answer behaviours)) start
      (⟨.receiveFrame, .ok frame⟩ :: trace) finish) :
    ∃ middle : ServerConnection × ℕ, middle.1.Established ∧
      Follows (Responds (ServerConnection.answer behaviours)) middle trace finish := by
  obtain ⟨middle, ⟨hmiddle, -⟩ | ⟨⟨error, -, ⟨⟩⟩, -⟩, hrest⟩ := Follows.received established h
  exact ⟨middle, hmiddle, hrest⟩

/-- The last answer of a login, an error: it closed the connection, or the
connection is still open. -/
theorem Follows.received_error {behaviours : ℕ → ServerConnection.SocketBehaviour}
    {start finish : ServerConnection × ℕ} {error : ByteString}
    (established : start.1.Established)
    (h : Follows (Responds (ServerConnection.answer behaviours)) start
      [⟨.receiveFrame, .error error⟩] finish) :
    finish.1.isOpen = true ↔ error ∉ ServerConnection.closingErrors := by
  obtain ⟨middle, hcases, hrest⟩ := Follows.received established h
  obtain _ | _ := hrest
  rcases hcases with ⟨hmiddle, hnone⟩ | ⟨⟨error', hclosing, hsame⟩, hclosed⟩
  · exact iff_of_true hmiddle.1 fun hclosing => hnone error hclosing rfl
  · obtain rfl := Except.error.inj hsame
    simp [hclosed, hclosing]

/-- A login that succeeds settles and leaves the connection open. One that fails
leaves it open exactly when it does not settle. -/
theorem LoginCourse.connection {behaviours : ℕ → ServerConnection.SocketBehaviour}
    {start finish : ServerConnection × ℕ} (h : LoginCourse session trace result)
    (established : start.1.Established)
    (hfollows : Follows (Responds (ServerConnection.answer behaviours)) start trace finish) :
    (result.isOk = true → LoginSettles trace = true ∧ finish.1.isOpen = true) ∧
      (result.isOk = false → (finish.1.isOpen = true ↔ LoginSettles trace = false)) := by
  cases h with
  | unsent =>
    obtain ⟨middle, hmiddle, hrest⟩ := Follows.sent established hfollows
    obtain _ | _ := hrest
    exact ⟨nofun, fun _ => iff_of_true hmiddle.1 rfl⟩
  | @unchallenged hello error answer =>
    obtain ⟨middle, hmiddle, hrest⟩ := Follows.sent established hfollows
    refine ⟨nofun, fun _ => ?_⟩
    cases answer with
    | error text =>
      rw [Follows.received_error hmiddle hrest]
      simp [LoginSettles]
    | ok frame =>
      obtain ⟨last, hlast, hrest⟩ := Follows.received_ok hmiddle hrest
      obtain _ | _ := hrest
      exact iff_of_true hlast.1 rfl
  | unsigned =>
    obtain ⟨middle, hmiddle, hrest⟩ := Follows.sent established hfollows
    obtain ⟨challenged, hchallenged, hrest⟩ := Follows.received_ok hmiddle hrest
    obtain ⟨last, hlast, hrest⟩ := Follows.sent hchallenged hrest
    obtain _ | _ := hrest
    exact ⟨nofun, fun _ => iff_of_true hlast.1 rfl⟩
  | @unanswered hello response error challenge =>
    obtain ⟨middle, hmiddle, hrest⟩ := Follows.sent established hfollows
    obtain ⟨challenged, hchallenged, hrest⟩ := Follows.received_ok hmiddle hrest
    obtain ⟨last, hlast, hrest⟩ := Follows.sent hchallenged hrest
    refine ⟨nofun, fun _ => ?_⟩
    rw [Follows.received_error hlast hrest]
    simp [LoginSettles]
  | @concluded hello response challenge frame =>
    obtain ⟨middle, hmiddle, hrest⟩ := Follows.sent established hfollows
    obtain ⟨challenged, hchallenged, hrest⟩ := Follows.received_ok hmiddle hrest
    obtain ⟨signed, hsigned, hrest⟩ := Follows.sent hchallenged hrest
    obtain ⟨last, hlast, hrest⟩ := Follows.received_ok hsigned hrest
    obtain _ | _ := hrest
    rw [concludeAuthentication_isOk session {} frame]
    exact ⟨fun h => ⟨h, hlast.1⟩, fun h => iff_of_true hlast.1 h⟩

end Login


/-! ## The two guards -/

/-- What the interface of one server shows. -/
structure SlotView extends UiState where
  registered : Bool := false
  handle : ByteString := []

/-- `server_slot` -/
structure ServerSlot where
  entry : ServerEntry
  identity : IdentityKeypair
  connection : ServerConnection
  session : ClientSession := {}
  view : SlotView := {}

/-- `build_slot`, with the identity resolved. -/
def buildSlot (entry : ServerEntry) (identity : IdentityKeypair) : ServerSlot :=
  { entry, identity
    connection := ServerConnection.create entry.serverKey
    view := { endpoint := entry.endpoint } }

/-- `open_session` and, if it succeeds, `authenticate`. -/
def openAndAuthenticate (endpoint : ServerEndpoint) (identity : IdentityKeypair)
    (session : ClientSession) : ClientCommand ClientSession := do
  ExceptT.mk (Dialogue.call (ClientCall.openSession endpoint))
  authenticate identity session

/-- `connect_slot` -/
def connectSlot (slot : ServerSlot) : ClientAction (Except ByteString Unit × ServerSlot) :=
  if !slot.entry.trustAcknowledged then
    pure (.error (ascii "avertissement non acquitte pour " ++ slot.entry.label), slot)
  else do
    if ← Dialogue.call ClientCall.isOpen then
      pure (.ok (), { slot with view := { slot.view with connected := true } })
    else
      match ← (openAndAuthenticate slot.entry.endpoint slot.identity slot.session).run with
      | .error error =>
        pure (.error error, { slot with view := { slot.view with connected := false } })
      | .ok session =>
        let registered := !session.needsRegistration
        pure (.ok (), { slot with
          session
          view := { slot.view with
            connected := true, registered
            handle := if registered then session.handle else slot.view.handle } })

/-- Every course of either guard, with the verdict. -/
inductive GuardCourse (identity : IdentityKeypair) (session : ClientSession) :
    ClientTrace → Bool → Prop where
  | unacknowledged : GuardCourse identity session [] false
  | alreadyOpen : GuardCourse identity session [⟨.isOpen, true⟩] true
  | unreachable {endpoint : ServerEndpoint} {error : ByteString} :
      GuardCourse identity session [⟨.isOpen, false⟩, ⟨.openSession endpoint, .error error⟩] false
  | login {endpoint : ServerEndpoint} {trace : ClientTrace}
      {result : Except ByteString ClientSession}
      (performs : (authenticate identity session).run.Performs trace result) :
      GuardCourse identity session
        (⟨.isOpen, false⟩ :: ⟨.openSession endpoint, .ok ()⟩ :: trace) result.isOk

section Guards

variable {identity : IdentityKeypair} {session : ClientSession} {trace : ClientTrace}

/-- With the connection opened first. -/
theorem performs_openAndAuthenticate {endpoint : ServerEndpoint}
    {result : Except ByteString ClientSession}
    (h : (openAndAuthenticate endpoint identity session).run.Performs trace result) :
    GuardCourse identity session (⟨.isOpen, false⟩ :: trace) result.isOk := by
  rcases Dialogue.performs_bindExcept.mp h with
    ⟨error, hopen, rfl⟩ | ⟨first, rest, _, rfl, hopen, hlogin⟩
  · obtain rfl := Dialogue.performs_call.mp hopen
    exact .unreachable
  · obtain rfl := Dialogue.performs_call.mp hopen
    exact .login hlogin

/-- The guard of the command line's session, -/
theorem ensureConnected_course {context context' : CliContext} {state state' : UiState}
    {connected : Bool}
    (h : (ensureConnected context state).Performs trace (connected, context', state')) :
    GuardCourse context.identity context.session trace connected := by
  obtain ⟨isOpen, rest, rfl, hbranch⟩ := Dialogue.performs_call_bind.mp h
  cases isOpen with
  | true =>
    obtain ⟨rfl, ⟨⟩⟩ := Dialogue.performs_pure.mp hbranch
    exact .alreadyOpen
  | false =>
    obtain ⟨calls, last, reconnected, rfl, hreconnect, hlast⟩ := Dialogue.performs_bind.mp hbranch
    have hcourse := performs_openAndAuthenticate hreconnect
    cases reconnected with
    | error error =>
      obtain ⟨rfl, ⟨⟩⟩ := Dialogue.performs_pure.mp hlast
      rw [List.append_nil]
      exact hcourse
    | ok session =>
      obtain ⟨rfl, ⟨⟩⟩ := Dialogue.performs_pure.mp hlast
      rw [List.append_nil]
      exact hcourse

/-- and that of a slot of the graphical client. -/
theorem connectSlot_course {slot slot' : ServerSlot} {result : Except ByteString Unit}
    (h : (connectSlot slot).Performs trace (result, slot')) :
    GuardCourse slot.identity slot.session trace result.isOk ∧ slot'.identity = slot.identity := by
  unfold connectSlot at h
  split at h
  · obtain ⟨rfl, ⟨⟩⟩ := Dialogue.performs_pure.mp h
    exact ⟨.unacknowledged, rfl⟩
  obtain ⟨isOpen, rest, rfl, hbranch⟩ := Dialogue.performs_call_bind.mp h
  cases isOpen with
  | true =>
    obtain ⟨rfl, ⟨⟩⟩ := Dialogue.performs_pure.mp hbranch
    exact ⟨.alreadyOpen, rfl⟩
  | false =>
    obtain ⟨calls, last, reconnected, rfl, hreconnect, hlast⟩ := Dialogue.performs_bind.mp hbranch
    have hcourse := performs_openAndAuthenticate hreconnect
    cases reconnected with
    | error error =>
      obtain ⟨rfl, ⟨⟩⟩ := Dialogue.performs_pure.mp hlast
      rw [List.append_nil]
      exact ⟨hcourse, rfl⟩
    | ok session =>
      obtain ⟨rfl, ⟨⟩⟩ := Dialogue.performs_pure.mp hlast
      rw [List.append_nil]
      exact ⟨hcourse, rfl⟩

end Guards

/-! ## Any sequence of calls on one connection -/

/-- A call of one of the guards, or one of the frames that other actions send and
receive in between. -/
inductive SlotCall where
  | ensureConnected (behaviours : ℕ → ServerConnection.SocketBehaviour)
  | connectSlot (behaviours : ℕ → ServerConnection.SocketBehaviour)
  | sendFrame (behaviour : ServerConnection.SocketBehaviour) (type : MessageType)
      (payload : ByteString) (other : type ≠ .helloRequest ∧ type ≠ .authResponse)
  | receiveFrame (behaviour : ServerConnection.SocketBehaviour)

/-- A slot and all the calls its connection has answered. -/
structure SlotRun where
  slot : ServerSlot
  history : ClientTrace := []

namespace SlotRun

/-- What a call returns, the calls on the connection it makes, and the slot it
leaves. -/
def perform (run : SlotRun) : SlotCall → Bool × ClientTrace × ServerSlot
  | .ensureConnected behaviours =>
    let slot := run.slot
    let ((connected, context, state), trace, connection, _) :=
      Dialogue.run (ServerConnection.answer behaviours)
        (HyperCom.ensureConnected { identity := slot.identity, session := slot.session }
          slot.view.toUiState) (slot.connection, 0)
    (connected, trace, { slot with
      connection, session := context.session, view := { slot.view with toUiState := state } })
  | .connectSlot behaviours =>
    let ((result, slot), trace, connection, _) :=
      Dialogue.run (ServerConnection.answer behaviours) (HyperCom.connectSlot run.slot)
        (run.slot.connection, 0)
    (result.isOk, trace, { slot with connection })
  | .sendFrame behaviour type payload _ =>
    let out := run.slot.connection.sendFrame behaviour type payload
    (out.1, [⟨.sendFrame type payload, out.1⟩], { run.slot with connection := out.2 })
  | .receiveFrame behaviour =>
    let out := run.slot.connection.receiveFrame behaviour
    (out.1.isOk, [⟨.receiveFrame, out.1⟩], { run.slot with connection := out.2 })

/-- One call; there is always a next one. -/
def next (run : SlotRun) (call : SlotCall) : Option SlotRun :=
  some { slot := (run.perform call).2.2, history := run.history ++ (run.perform call).2.1 }

end SlotRun

/-- The call opens a session. -/
def opensSession : Exchange ClientAnswer → Bool
  | ⟨.openSession _, _⟩ => true
  | _ => false

/-- The last session that was opened began with an `authenticate` that returned
`true`. -/
def SessionAuthenticated (identity : IdentityKeypair) (history : ClientTrace) : Prop :=
  ∃ before endpoint login later session session',
    history = before ++ ⟨.openSession endpoint, .ok ()⟩ :: (login ++ later) ∧
    (authenticate identity session).run.Performs login (.ok session') ∧
    ∀ exchange ∈ later, opensSession exchange = false

/-- The login of a call that got as far as one. -/
def loginOf : ClientTrace → Option ClientTrace
  | _ :: ⟨.openSession _, .ok ()⟩ :: login => some login
  | _ => none

/-- If the call logs in, the login settles. -/
def SlotRun.Settles (run : SlotRun) (call : SlotCall) : Prop :=
  ∀ login ∈ loginOf (run.perform call).2.1, LoginSettles login = true

/-- The call is `ensure_connected` or `connect_slot`. -/
def SlotCall.isGuard : SlotCall → Bool
  | .ensureConnected _ => true
  | .connectSlot _ => true
  | _ => false

/-- If the call is one of the guards and returns `true`, the session that is open
then is authenticated. -/
def SlotRun.Guarded (run : SlotRun) (call : SlotCall) : Prop :=
  call.isGuard = true → (run.perform call).1 = true →
    (run.perform call).2.2.connection.isOpen = true ∧
      SessionAuthenticated run.slot.identity (run.history ++ (run.perform call).2.1)

/-! ## What holds between two calls -/

section Runs

variable {identity : IdentityKeypair} {session : ClientSession} {trace history : ClientTrace}
  {verdict : Bool} {run : SlotRun} {call : SlotCall}
  {behaviours : ℕ → ServerConnection.SocketBehaviour} {start finish : ServerConnection × ℕ}

omit [Sodium] in
/-- After the last element with a property, the lists agree. -/
theorem last_unique {α : Type} {p : α → Bool} {before before' later later' : List α} {x x' : α}
    (hx : p x = true) (hx' : p x' = true) (hlater : ∀ y ∈ later, p y = false)
    (hlater' : ∀ y ∈ later', p y = false) (h : before ++ x :: later = before' ++ x' :: later') :
    later = later' := by
  have htail : ∀ (before later : List α) (x : α), p x = true → (∀ y ∈ later, p y = false) →
      (before ++ x :: later).reverse.takeWhile (fun y => !p y) = later.reverse := by
    intro before later x hx hlater
    rw [List.reverse_append, List.reverse_cons, List.append_assoc, List.takeWhile_append_of_pos]
    · simp [hx]
    · intro y hy
      simp [hlater y (List.mem_reverse.mp hy)]
  have hsame := htail before later x hx hlater
  rw [h, htail before' later' x' hx' hlater'] at hsame
  exact (List.reverse_injective hsame).symm

/-- More calls on the same session. -/
theorem SessionAuthenticated.append (h : SessionAuthenticated identity history)
    (hmore : ∀ exchange ∈ trace, opensSession exchange = false) :
    SessionAuthenticated identity (history ++ trace) := by
  obtain ⟨before, endpoint, login, later, session, session', rfl, hlogin, hlater⟩ := h
  refine ⟨before, endpoint, login, later ++ trace, session, session', by simp, hlogin, ?_⟩
  intro exchange hexchange
  rcases List.mem_append.mp hexchange with hold | hnew
  · exact hlater exchange hold
  · exact hmore exchange hnew

omit [Sodium] in
/-- No login opens a session. -/
theorem LoginCourse.stays {result : Except ByteString ClientSession}
    (h : LoginCourse session trace result) : ∀ exchange ∈ trace, opensSession exchange = false := by
  cases h <;> simp [opensSession]

/-- A login that failed is not the beginning of one that succeeds. -/
theorem LoginCourse.not_authenticated {result : Except ByteString ClientSession}
    (identity : IdentityKeypair) (history : ClientTrace) (endpoint : ServerEndpoint) (isOpen : Bool)
    (h : LoginCourse session trace result) (hfailed : result.isOk = false) :
    ¬ SessionAuthenticated identity (history ++ ⟨.openSession endpoint, .ok ()⟩ ::
      (trace ++ [⟨.isOpen, isOpen⟩])) := by
  rintro ⟨before, endpoint', login, later, session', session'', hsplit, hlogin, hlater⟩
  have hcourse := performs_authenticate hlogin
  have hsame : trace ++ [⟨.isOpen, isOpen⟩] = login ++ later := by
    refine last_unique (p := opensSession) rfl rfl ?_ ?_ hsplit
    · intro exchange hexchange
      rcases List.mem_append.mp hexchange with hmem | hmem
      · exact h.stays exchange hmem
      · rw [List.mem_singleton.mp hmem]
        rfl
    · intro exchange hexchange
      rcases List.mem_append.mp hexchange with hmem | hmem
      · exact hcourse.stays exchange hmem
      · exact hlater exchange hmem
  generalize hresult : (Except.ok session'' : Except ByteString ClientSession) = accepted at hcourse
  cases hcourse with
  | @concluded _ _ _ frame =>
    cases h with
    | @concluded _ _ _ frame' =>
      simp only [List.cons_append, List.nil_append, List.cons.injEq, Sigma.mk.injEq, heq_eq_eq,
        true_and, Except.ok.injEq] at hsame
      obtain ⟨-, -, -, rfl, -⟩ := hsame
      rw [concludeAuthentication_isOk session session' frame', ← hresult] at hfailed
      cases hfailed
    | _ => simp at hsame
  | _ => cases hresult

/-- What one call of a guard makes of the connection, whatever the login. -/
theorem GuardCourse.connection (h : GuardCourse identity session trace verdict)
    (hfollows : Follows (Responds (ServerConnection.answer behaviours)) start trace finish)
    (hsound : start.1.isOpen = true → SessionAuthenticated identity history)
    (hsettles : ∀ login ∈ loginOf trace, LoginSettles login = true) :
    (verdict = true → finish.1.isOpen = true) ∧
      (finish.1.isOpen = true → SessionAuthenticated identity (history ++ trace)) := by
  cases h with
  | unacknowledged =>
    obtain _ | _ := hfollows
    rw [List.append_nil]
    exact ⟨nofun, hsound⟩
  | alreadyOpen =>
    obtain _ | ⟨hcall, hrest⟩ := hfollows
    obtain _ | _ := hrest
    obtain ⟨hopen, rfl⟩ := Prod.mk.inj hcall
    exact ⟨fun _ => hopen, fun hstill => (hsound hstill).append (by simp [opensSession])⟩
  | unreachable =>
    obtain _ | ⟨hcall, hrest⟩ := hfollows
    obtain _ | ⟨hdial, hrest⟩ := hrest
    obtain _ | _ := hrest
    obtain ⟨hfailed, rfl⟩ := Prod.mk.inj hdial
    rcases ServerConnection.openSession_cases _ _ with ⟨hok, -⟩ | ⟨-, hclosed⟩
    · cases hok.symm.trans hfailed
    · refine ⟨nofun, fun hopen => ?_⟩
      cases hclosed.symm.trans hopen
  | @login endpoint trace result performs =>
    obtain ⟨middle, established, hlogin⟩ := Follows.dialled hfollows
    obtain ⟨hgood, hbad⟩ := (performs_authenticate performs).connection established hlogin
    refine ⟨fun hverdict => (hgood hverdict).2, fun hopen => ?_⟩
    cases result with
    | ok session' =>
      exact ⟨history ++ [⟨.isOpen, false⟩], endpoint, trace, [], session, session', by simp,
        performs, by simp⟩
    | error error =>
      -- the login settled, so the connection is closed
      have hsettled := hsettles trace rfl
      rw [(hbad rfl).mp hopen] at hsettled
      cases hsettled

/-- A login that does not settle leaves a connection that is open and not
authenticated. -/
theorem GuardCourse.unsettled (history : ClientTrace) (h : GuardCourse identity session trace verdict)
    (hfollows : Follows (Responds (ServerConnection.answer behaviours)) start trace finish)
    {login : ClientTrace} (hlogin : loginOf trace = some login)
    (hsettles : LoginSettles login = false) :
    finish.1.isOpen = true ∧
      ¬ SessionAuthenticated identity (history ++ trace ++ [⟨.isOpen, true⟩]) := by
  cases h with
  | unacknowledged => cases hlogin
  | alreadyOpen => cases hlogin
  | unreachable => cases hlogin
  | @login endpoint trace result performs =>
    obtain rfl := Option.some.inj hlogin
    obtain ⟨middle, established, hconnected⟩ := Follows.dialled hfollows
    have hcourse := performs_authenticate performs
    obtain ⟨hgood, hbad⟩ := hcourse.connection established hconnected
    have hfailed : result.isOk = false := by
      by_contra hnot
      have hsettled := (hgood (by simpa using hnot)).1
      cases hsettles.symm.trans hsettled
    refine ⟨(hbad hfailed).mpr hsettles, ?_⟩
    have hnot := LoginCourse.not_authenticated identity (history ++ [⟨.isOpen, false⟩]) endpoint
      true hcourse hfailed
    simpa using hnot

/-- What a call of a guard does to the slot. -/
theorem SlotRun.perform_guard (run : SlotRun) (hguard : call.isGuard = true) :
    ∃ behaviours calls,
      GuardCourse run.slot.identity run.slot.session (run.perform call).2.1 (run.perform call).1 ∧
      Follows (Responds (ServerConnection.answer behaviours)) (run.slot.connection, 0)
        (run.perform call).2.1 ((run.perform call).2.2.connection, calls) ∧
      (run.perform call).2.2.identity = run.slot.identity := by
  cases call with
  | ensureConnected behaviours =>
    have hperforms := run_performs (ServerConnection.answer behaviours)
      (ensureConnected { identity := run.slot.identity, session := run.slot.session }
        run.slot.view.toUiState) (run.slot.connection, 0)
    have hfollows := run_follows (ServerConnection.answer behaviours)
      (ensureConnected { identity := run.slot.identity, session := run.slot.session }
        run.slot.view.toUiState) (run.slot.connection, 0)
    exact ⟨behaviours, _, ensureConnected_course hperforms, hfollows, rfl⟩
  | connectSlot behaviours =>
    have hperforms := run_performs (ServerConnection.answer behaviours)
      (HyperCom.connectSlot run.slot) (run.slot.connection, 0)
    have hfollows := run_follows (ServerConnection.answer behaviours)
      (HyperCom.connectSlot run.slot) (run.slot.connection, 0)
    obtain ⟨hcourse, hidentity⟩ := connectSlot_course hperforms
    exact ⟨behaviours, _, hcourse, hfollows, hidentity⟩
  | _ => cases hguard

/-- The invariant: an open session is authenticated. -/
def SlotRun.Sound (run : SlotRun) : Prop :=
  run.slot.connection.isOpen = true → SessionAuthenticated run.slot.identity run.history

/-- A call whose login settles keeps it, and a guard that returns `true` is
right. -/
theorem SlotRun.Sound.perform (h : run.Sound) (hsettles : run.Settles call) :
    (call.isGuard = true → (run.perform call).1 = true →
        (run.perform call).2.2.connection.isOpen = true) ∧
      ((run.perform call).2.2.connection.isOpen = true →
        SessionAuthenticated run.slot.identity (run.history ++ (run.perform call).2.1)) ∧
      (run.perform call).2.2.identity = run.slot.identity := by
  by_cases hguard : call.isGuard = true
  · obtain ⟨behaviours, calls, hcourse, hfollows, hidentity⟩ := run.perform_guard hguard
    obtain ⟨hverdict, hopen⟩ := hcourse.connection hfollows h hsettles
    exact ⟨fun _ => hverdict, hopen, hidentity⟩
  · refine ⟨fun hyes => absurd hyes hguard, ?_⟩
    cases call with
    | sendFrame behaviour type payload other =>
      refine ⟨fun hopen => ?_, rfl⟩
      have hbefore := h (ServerConnection.isOpen_of_sendFrame hopen)
      exact hbefore.append (by simp [SlotRun.perform, opensSession])
    | receiveFrame behaviour =>
      refine ⟨fun hopen => ?_, rfl⟩
      have hbefore := h (ServerConnection.isOpen_of_receiveFrame hopen)
      exact hbefore.append (by simp [SlotRun.perform, opensSession])
    | _ => exact absurd rfl hguard

/-- The invariant, over one call. -/
theorem SlotRun.Sound.next {run' : SlotRun} (h : run.Sound) (hsettles : run.Settles call)
    (hnext : run.next call = some run') : run'.Sound := by
  obtain rfl := Option.some.inj hnext
  obtain ⟨-, hopen, hidentity⟩ := h.perform hsettles
  intro hstill
  change SessionAuthenticated (run.perform call).2.2.identity _
  rw [hidentity]
  exact hopen hstill

/-- So what a guard reports is true of the connection. -/
theorem SlotRun.Sound.guarded (h : run.Sound) (hsettles : run.Settles call) : run.Guarded call := by
  intro hguard hverdict
  obtain ⟨hreported, hopen, -⟩ := h.perform hsettles
  exact ⟨hreported hguard hverdict, hopen (hreported hguard hverdict)⟩

/-- With an open connection, `ensure_connected` asks nothing more. -/
theorem SlotRun.perform_open (run : SlotRun) (behaviours : ℕ → ServerConnection.SocketBehaviour)
    (hopen : run.slot.connection.isOpen = true) :
    (run.perform (.ensureConnected behaviours)).1 = true ∧
      (run.perform (.ensureConnected behaviours)).2.1 = [⟨.isOpen, true⟩] := by
  obtain ⟨⟨entry, identity, ⟨_, _, _, _, isOpen⟩, session, view⟩, history⟩ := run
  obtain rfl : isOpen = true := hopen
  exact ⟨rfl, rfl⟩

/-- After a call whose login does not settle, the next `ensure_connected` is
wrong. -/
theorem SlotRun.unsettled {run' : SlotRun} (hunsettled : ¬ run.Settles call)
    (hnext : run.next call = some run') (behaviours : ℕ → ServerConnection.SocketBehaviour) :
    ¬ run'.Guarded (.ensureConnected behaviours) := by
  obtain rfl := Option.some.inj hnext
  obtain ⟨login, hlogin, hsettles⟩ : ∃ login, loginOf (run.perform call).2.1 = some login ∧
      LoginSettles login = false := by
    simpa [SlotRun.Settles] using hunsettled
  have hguard : call.isGuard = true := by
    cases call <;> first | rfl | cases hlogin
  obtain ⟨_, _, hcourse, hfollows, hidentity⟩ := run.perform_guard hguard
  obtain ⟨hopen, hnot⟩ := GuardCourse.unsettled run.history hcourse hfollows hlogin hsettles
  obtain ⟨hverdict, htrace⟩ := SlotRun.perform_open
    { slot := (run.perform call).2.2, history := run.history ++ (run.perform call).2.1 }
    behaviours hopen
  intro hguarded
  have hauthenticated := (hguarded rfl hverdict).2
  rw [htrace] at hauthenticated
  change SessionAuthenticated (run.perform call).2.2.identity _ at hauthenticated
  rw [hidentity] at hauthenticated
  exact hnot hauthenticated

/-- On a new connection, and for every behaviour of the server and every sequence
of calls: as long as each login settles, a guard that returns `true` reports a
session that is open and authenticated. And after any login that does not, the
very next `ensure_connected` is wrong. -/
theorem guards_authenticate (entry : ServerEntry) (identity : IdentityKeypair) :
    (∀ calls, Along SlotRun.next SlotRun.Settles { slot := buildSlot entry identity } calls →
      Along SlotRun.next SlotRun.Guarded { slot := buildSlot entry identity } calls) ∧
    ∀ (run run' : SlotRun) (call : SlotCall), run.next call = some run' → ¬ run.Settles call →
      ∀ behaviours, ¬ run'.Guarded (.ensureConnected behaviours) := by
  constructor
  · intro calls hsettles
    have hstart : SlotRun.Sound { slot := buildSlot entry identity } := nofun
    exact Along.of_invariant (I := SlotRun.Sound) (fun h hcall hnext => h.next hcall hnext)
      (fun h hcall => h.guarded hcall) hstart hsettles
  · intro run run' call hnext hunsettled behaviours
    exact SlotRun.unsettled hunsettled hnext behaviours

/-! ## Two servers of the stand-in -/

/-- A server that finishes the handshake and answers the frames of a login with
the given ones. -/
def replying (frames : List (MessageType × ByteString)) (calls : ℕ) :
    ServerConnection.SocketBehaviour :=
  let message? : Option ByteString :=
    match calls with
    | 1 => some (List.replicate noiseHandshakeMessageSize 0)
    | 3 => frames[0]?.map fun frame => frameBytes frame.1 frame.2 ++ transparentTag
    | 5 => frames[1]?.map fun frame => frameBytes frame.1 frame.2 ++ transparentTag
    | _ => none
  { ephemeral := some (FixedBytes.zero _, FixedBytes.zero _)
    reads := fun attempt =>
      match attempt, message? with
      | 0, some message => .received (appendLengthPrefixedMessage message)
      | _, _ => .silent }

/-- It accepts the proof of the key. -/
def acceptingServer : ℕ → ServerConnection.SocketBehaviour :=
  replying [(.authChallenge, AuthChallenge.writeTo {}), (.statusOk, [])]

/-- It refuses a banned account. -/
def refusingServer : ℕ → ServerConnection.SocketBehaviour :=
  replying [(.authChallenge, AuthChallenge.writeTo {}),
    (.statusError, StatusErrorResponse.writeTo
      { code := .accountBanned, detail := ascii "compte banni" })]

/-- A slot just built, its warning acknowledged. -/
def homeSlot : SlotRun :=
  { slot := buildSlot { label := ascii "home", trustAcknowledged := true }
      { publicKey := FixedBytes.zero _, secretKey := FixedBytes.zero _ } }

/-- Whether a call settles can be computed. -/
theorem SlotRun.settles_iff (run : SlotRun) (call : SlotCall) :
    run.Settles call ↔ (loginOf (run.perform call).2.1).all LoginSettles = true :=
  (Option.all_eq_true _ _).symm

/-- Whoever is told that it is connected has a session. -/
theorem SlotRun.Guarded.authenticated (h : run.Guarded call) (hguard : call.isGuard = true)
    (hverdict : (run.perform call).1 = true) :
    SessionAuthenticated run.slot.identity (run.history ++ (run.perform call).2.1) :=
  (h hguard hverdict).2

omit [Sodium] in
/-- Accepted, the session is authenticated. -/
theorem guards_authenticate_accepted :
    letI := transparentSodium
    ∃ trace slot, homeSlot.perform (.ensureConnected acceptingServer) = (true, trace, slot) ∧
      SessionAuthenticated homeSlot.slot.identity (homeSlot.history ++ trace) := by
  let _ := transparentSodium
  have hverdict : (homeSlot.perform (.ensureConnected acceptingServer)).1 = true := by
    decide +kernel
  have hsettles : homeSlot.Settles (.ensureConnected acceptingServer) := by
    rw [SlotRun.settles_iff]
    decide +kernel
  have halong : Along SlotRun.next SlotRun.Settles homeSlot [.ensureConnected acceptingServer] :=
    ⟨hsettles, fun _ _ => trivial⟩
  have hguarded : homeSlot.Guarded (.ensureConnected acceptingServer) :=
    ((guards_authenticate _ _).1 _ halong).1
  have hauthenticated := hguarded.authenticated rfl hverdict
  generalize homeSlot.perform (.ensureConnected acceptingServer) = out at hverdict hauthenticated ⊢
  obtain ⟨verdict, trace, slot⟩ := out
  obtain rfl : verdict = true := hverdict
  exact ⟨trace, slot, rfl, hauthenticated⟩

omit [Sodium] in
/-- Refused, the login fails, and both guards call the same session usable when
they are called again. -/
theorem refused_session_reported :
    letI := transparentSodium
    (homeSlot.perform (.ensureConnected refusingServer)).1 = false ∧
    ∃ run, homeSlot.next (.ensureConnected refusingServer) = some run ∧
      run.slot.view.statusMessage = ascii "connexion perdue, reconnexion impossible : " ++
        ascii "authentification refusee par le serveur" ∧
      (run.perform (.ensureConnected refusingServer)).1 = true ∧
      (run.perform (.connectSlot refusingServer)).1 = true ∧
      ¬ run.Guarded (.ensureConnected refusingServer) := by
  let _ := transparentSodium
  have hunsettled : ¬ homeSlot.Settles (.ensureConnected refusingServer) := by
    rw [SlotRun.settles_iff]
    decide +kernel
  have hend : ((homeSlot.next (.ensureConnected refusingServer)).map fun run =>
      (run.slot.view.statusMessage, (run.perform (.ensureConnected refusingServer)).1,
        (run.perform (.connectSlot refusingServer)).1)) =
      some (ascii "connexion perdue, reconnexion impossible : " ++
        ascii "authentification refusee par le serveur", true, true) := by
    decide +kernel
  obtain ⟨run, hrun, hagain⟩ := Option.map_eq_some_iff.mp hend
  obtain ⟨hmessage, hagain⟩ := Prod.mk.inj hagain
  obtain ⟨hensured, hconnected⟩ := Prod.mk.inj hagain
  have hnot := SlotRun.unsettled hunsettled hrun refusingServer
  exact ⟨by decide +kernel, run, hrun, hmessage, hensured, hconnected, hnot⟩

end Runs

end HyperCom
