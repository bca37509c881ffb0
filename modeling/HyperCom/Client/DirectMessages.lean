import HyperCom.Client.Courier
import HyperCom.Client.HexCodec

/-!
# The direct message commands

`cli_dm_commands.cpp`, `ui_dm_actions.cpp` and `connection_guard.cpp`: the same
two conversations with the server, once for the command line and once for the
graphical client, which also reconnects when the session is gone.

Both conversations are written as the source has them, with their texts, the order of their
calls and what they do when one fails: the command line gives up with a message, the
graphical client sets a status line and goes on. What they have in common is proved of their
courses, not of their code.
-/

namespace HyperCom

open BinaryCodec Interaction

/-! ## The graphical client's state -/

/-- A message as it is displayed. -/
structure DecryptedMessage where
  senderHex : ByteString := []
  text : ByteString := []
  receivedAt : UInt64 := 0
  readable : Bool := false
deriving DecidableEq

theorem dmRecipientInput_pos : 0 < 80 := by decide

theorem dmTextInput_pos : 0 < 2048 := by decide

/-- What the direct message actions use of `ui_state`. -/
structure UiState where
  connected : Bool := false
  endpoint : ServerEndpoint := {}
  statusMessage : ByteString := []
  statusIsError : Bool := false
  inbox : List DecryptedMessage := []
  dmRecipientInput : InputBuffer 80 := InputBuffer.cleared 80 dmRecipientInput_pos
  dmTextInput : InputBuffer 2048 := InputBuffer.cleared 2048 dmTextInput_pos

/-- `cli_context`, the connection apart: it is what the calls go to. -/
structure CliContext where
  identity : IdentityKeypair
  session : ClientSession := {}

/-- `report_failure` -/
def reportFailure (state : UiState) (message : ByteString) : UiState :=
  { state with statusMessage := message, statusIsError := true }

/-- `parse_public_key` -/
def parsePublicKey (text : ByteString) : Option WirePublicKey :=
  match decodeHex text with
  | none => none
  | some decoded => if h : decoded.length = publicKeySize then some ⟨decoded, h⟩ else none

/-- A line on the terminal. -/
def printLine (line : ByteString) : ClientAction Unit := Dialogue.call (ClientCall.print line)

/-- A count as `operator<<` prints it. -/
def decimal (n : ℕ) : ByteString := ascii (toString n)

variable [Sodium]

/-! ## `connection_guard.cpp` -/

/-- `ensure_connected` -/
def ensureConnected (context : CliContext) (state : UiState) :
    ClientAction (Bool × CliContext × UiState) := do
  if ← Dialogue.call ClientCall.isOpen then
    pure (true, context, { state with connected := true })
  else
    let reconnect : ClientCommand ClientSession := do
      ExceptT.mk (Dialogue.call (ClientCall.openSession state.endpoint))
      authenticate context.identity context.session
    match ← reconnect.run with
    | .ok session =>
      pure (true, { context with session },
        { state with
          connected := true, statusMessage := ascii "reconnecte au serveur"
          statusIsError := false })
    | .error error =>
      pure (false, context,
        { state with
          connected := false
          statusMessage := ascii "connexion perdue, reconnexion impossible : " ++ error
          statusIsError := true })

/-! ## Sending -/

/-- `fetch_recipient_bundle` -/
def fetchRecipientBundle (target : WirePublicKey) (unsent : ByteString) :
    ClientCommand PrekeyBundleResponse :=
  requestReply .prekeyFetchRequest (PrekeyFetchRequest.writeTo { targetPubkey := target }) unsent
    .prekeyBundleResponse PrekeyBundleResponse.readFrom

/-- Fetch the bundle, seal, deposit, wait for the acknowledgement: what both
clients do once they have the recipient's key. They differ in the text for a
frame that could not be sent. -/
def depositMessage (identity : IdentityKeypair) (recipientPubkey : WirePublicKey)
    (text unsent : ByteString) : ClientCommand ByteString := do
  let bundle ← fetchRecipientBundle recipientPubkey unsent
  let ciphertext ← sealDirectMessage identity bundle text
  let _ ← requestReply .dmSendRequest (DmSendRequest.writeTo { recipientPubkey, ciphertext }) unsent
    .statusOk StatusOkResponse.readFrom
  pure ciphertext

/-- `run_dm_send` -/
def runDmSend (identity : IdentityKeypair) (arguments : List ByteString) : ClientCommand Unit :=
  match arguments with
  | recipientHex :: text :: _ =>
    match parsePublicKey recipientHex with
    | none => throw (ascii "cle publique invalide")
    | some recipientPubkey => do
      let ciphertext ← depositMessage identity recipientPubkey text (ascii "envoi impossible")
      ExceptT.lift (printLine (ascii "message chiffre depose (" ++ decimal ciphertext.length ++
        ascii " octets opaques pour le serveur)"))
  | _ => throw (ascii "usage : dm-send <pubkey_hex> <texte>")

/-- `submit_direct_message` -/
def submitDirectMessage (context : CliContext) (state : UiState) :
    ClientAction (CliContext × UiState) := do
  let (connected, context, state) ← ensureConnected context state
  if !connected then pure (context, state)
  else
    match parsePublicKey state.dmRecipientInput.1 with
    | none => pure (context, reportFailure state (ascii "cle publique du destinataire invalide"))
    | some recipientPubkey =>
      -- a frame that cannot be sent leaves `failure` empty
      match ← (depositMessage context.identity recipientPubkey state.dmTextInput.1 []).run with
      | .error failure => pure (context, reportFailure state failure)
      | .ok _ =>
        pure (context,
          { state with
            dmTextInput := InputBuffer.cleared 2048 dmTextInput_pos
            statusMessage := ascii "message chiffre et depose", statusIsError := false })

/-! ## Receiving -/

/-- The line printed for a message that could be opened. -/
def messageLine (sender : WirePublicKey) (text : ByteString) : ByteString :=
  ascii "  de " ++ (encodeHex sender.1).take 16 ++ ascii "... : " ++ text

/-- The loop of `run_dm_fetch`: a line for each envelope, and the identifiers of
those that could be opened. -/
def reportEnvelopes (identity : IdentityKeypair) : List DmEnvelopeRecord → ClientAction (List UInt64)
  | [] => pure []
  | envelope :: rest =>
    match (openDirectMessage identity envelope.ciphertext).text with
    | .ok text => do
      printLine (messageLine envelope.senderPubkey text)
      let envelopeIds ← reportEnvelopes identity rest
      pure (envelope.id :: envelopeIds)
    | .error failure => do
      printLine (messageLine envelope.senderPubkey (ascii "[illisible] " ++ failure))
      reportEnvelopes identity rest

/-- `run_dm_fetch` -/
def runDmFetch (identity : IdentityKeypair) : ClientCommand Unit := do
  let response ← requestReply .dmFetchRequest (DmFetchRequest.writeTo {})
    (ascii "envoi impossible") .dmListResponse DmListResponse.readFrom
  ExceptT.lift (printLine (decimal response.envelopes.length ++ ascii " message(s) :"))
  let envelopeIds ← ExceptT.lift (reportEnvelopes identity response.envelopes)
  if envelopeIds.isEmpty then pure ()
  else
    let _ ← requestReply .dmAckRequest (DmAckRequest.writeTo { envelopeIds })
      (ascii "accuse de reception impossible") .statusOk StatusOkResponse.readFrom
    pure ()

/-- The entry `refresh_inbox` makes of an envelope. The date comes from the
ciphertext. -/
def decryptEnvelope (identity : IdentityKeypair) (envelope : DmEnvelopeRecord) : DecryptedMessage :=
  let opened := openDirectMessage identity envelope.ciphertext
  { senderHex := encodeHex envelope.senderPubkey.1
    text :=
      match opened.text with
      | .ok text => text
      | .error reason => reason
    receivedAt := opened.sentAt
    readable := opened.accepted }

/-- The identifiers of the envelopes that can be opened. -/
def readableIds (identity : IdentityKeypair) (envelopes : List DmEnvelopeRecord) : List UInt64 :=
  (envelopes.filter fun envelope => (openDirectMessage identity envelope.ciphertext).accepted).map
    DmEnvelopeRecord.id

/-- `refresh_inbox`: the reply to the acknowledgement is read and ignored. -/
def refreshInbox (context : CliContext) (state : UiState) :
    ClientAction (CliContext × UiState) := do
  let (connected, context, state) ← ensureConnected context state
  if !connected then pure (context, state)
  else
    match ← (requestReply .dmFetchRequest (DmFetchRequest.writeTo {}) [] .dmListResponse
      DmListResponse.readFrom).run with
    | .error failure => pure (context, reportFailure state failure)
    | .ok response =>
      let state := { state with
        inbox := state.inbox ++ response.envelopes.map (decryptEnvelope context.identity) }
      let envelopeIds := readableIds context.identity response.envelopes
      if envelopeIds.isEmpty then pure (context, state)
      else do
        let _ ← (requestReply .dmAckRequest (DmAckRequest.writeTo { envelopeIds }) [] .statusOk
          StatusOkResponse.readFrom).run
        pure (context, state)

/-! ## What connecting does and does not do -/

/-- The calls of `ensure_connected`. -/
def ConnectCall : ClientCall → Prop
  | .isOpen => True
  | .openSession _ => True
  | call => LoginCall call

theorem ensureConnected_only (context : CliContext) (state : UiState) :
    (ensureConnected context state).Only ConnectCall := by
  apply (Dialogue.only_call trivial).bind
  rintro (_ | _)
  · apply Dialogue.Only.bind
    · apply Dialogue.Only.bindExcept (Dialogue.only_call trivial)
      intro _
      exact (authenticate_only context.identity context.session).mono fun call hcall => by
        cases call <;> first | exact hcall | exact hcall.elim
    · rintro (_ | _)
      · exact .done
      · exact .done
  · exact .done

/-- `ensure_connected` touches neither the identity nor the two input fields nor
the messages already shown. -/
theorem performs_ensureConnected {context : CliContext} {state : UiState} {trace : ClientTrace}
    {connected : Bool} {context' : CliContext} {state' : UiState}
    (h : (ensureConnected context state).Performs trace (connected, context', state')) :
    context'.identity = context.identity ∧ state'.dmRecipientInput = state.dmRecipientInput ∧
      state'.dmTextInput = state.dmTextInput ∧ state'.inbox = state.inbox := by
  obtain ⟨isOpen, rest, rfl, hbranch⟩ := Dialogue.performs_call_bind.mp h
  cases isOpen with
  | true =>
    obtain ⟨-, ⟨⟩⟩ := Dialogue.performs_pure.mp hbranch
    exact ⟨rfl, rfl, rfl, rfl⟩
  | false =>
    obtain ⟨_, _, reconnected, rfl, -, hlast⟩ := Dialogue.performs_bind.mp hbranch
    cases reconnected with
    | error error =>
      obtain ⟨-, ⟨⟩⟩ := Dialogue.performs_pure.mp hlast
      exact ⟨rfl, rfl, rfl, rfl⟩
    | ok session =>
      obtain ⟨-, ⟨⟩⟩ := Dialogue.performs_pure.mp hlast
      exact ⟨rfl, rfl, rfl, rfl⟩

/-- Nothing about direct messages is sent while connecting. -/
theorem ensureConnected_quiet {context : CliContext} {state : UiState} {trace : ClientTrace}
    {result : Bool × CliContext × UiState}
    (h : (ensureConnected context state).Performs trace result) {type : MessageType}
    (hhello : type ≠ .helloRequest) (hresponse : type ≠ .authResponse) :
    sentFrames type trace = [] ∧ generatedKeypairs trace = [] ∧
      ∀ exchange ∈ trace, isRequest type exchange = false := by
  have honly := (ensureConnected_only context state).of_performs h
  have hcall : ∀ payload, ¬ ConnectCall (.sendFrame type payload) := by
    rintro payload (rfl | rfl)
    · exact hhello rfl
    · exact hresponse rfl
  refine ⟨sentFrames_eq_nil honly hcall, generatedKeypairs_eq_nil honly id, ?_⟩
  rintro ⟨call, answer⟩ hmem
  cases call with
  | sendFrame sent payload =>
    have hne : sent ≠ type := by
      rintro rfl
      exact hcall payload (honly _ hmem)
    exact beq_eq_false_iff_ne.mpr hne
  | _ => rfl

end HyperCom
