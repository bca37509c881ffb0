import HyperCom.Client.DirectMessages

/-!
# Whom a message is sealed for

`verify_prekey_bundle` checks that a bundle is signed by the owner it names, and
nothing compares that owner with the key the user asked for. So the commands
seal for the requested key exactly when the bundle the server chose to answer
with, if sealing for it goes through, happens to name that key.

A server can therefore answer a request for one key with a bundle of another whose signature
is good, its own for instance, and the message is sealed for that. The commands compare
nothing, and the text they print names the key the user typed.
-/

namespace HyperCom

open Interaction

/-! ## The property and its condition -/

/-- The bundle the server answered the prekey request with. -/
def fetchedBundle (trace : ClientTrace) : Option PrekeyBundleResponse :=
  replyMessage .prekeyFetchRequest .prekeyBundleResponse PrekeyBundleResponse.readFrom trace

variable [Sodium]

/-- Every envelope that is deposited was sealed by `seal_direct_message` for the
bundle of the trace, and the owner of that bundle is the recipient of the
request, the key the user asked for. -/
def SealedForRequested (identity : IdentityKeypair) (requested : Option WirePublicKey)
    (text : ByteString) (trace : ClientTrace) : Prop :=
  ∀ payload ∈ sentFrames .dmSendRequest trace, ∃ bundle request sealing,
    fetchedBundle trace = some bundle ∧ payload = DmSendRequest.writeTo request ∧
    sealing <:+: trace ∧
    (sealDirectMessage identity bundle text).run.Performs sealing (.ok request.ciphertext) ∧
    requested = some request.recipientPubkey ∧ bundle.ownerPubkey = request.recipientPubkey

/-- What the server answers with is for the requested key, whenever the client
is able to seal for it. -/
def BundleForRequested (identity : IdentityKeypair) (requested : Option WirePublicKey)
    (trace : ClientTrace) : Prop :=
  ∀ bundle, fetchedBundle trace = some bundle → ∀ ephemeral ∈ generatedKeypairs trace,
    Sealable identity bundle ephemeral = true → requested = some bundle.ownerPubkey

/-! ## The course of a deposit -/

/-- What a conversation amounts to: either nothing was deposited and nothing
could have been sealed, or the message sealed for the fetched bundle was. -/
inductive DepositCourse (identity : IdentityKeypair) (recipient : WirePublicKey)
    (text : ByteString) (trace : ClientTrace) : Prop where
  | nothing (unsent : sentFrames .dmSendRequest trace = [])
      (unsealable : ∀ bundle, fetchedBundle trace = some bundle →
        ∀ ephemeral ∈ generatedKeypairs trace, Sealable identity bundle ephemeral = false)
  | deposited (bundle : PrekeyBundleResponse) (ephemeral : EphemeralKeypair)
      (ciphertext : ByteString) (sealing : ClientTrace)
      (fetched : fetchedBundle trace = some bundle)
      (drawn : generatedKeypairs trace = [ephemeral])
      (sealable : Sealable identity bundle ephemeral = true)
      (within : sealing <:+: trace)
      (sealed : (sealDirectMessage identity bundle text).run.Performs sealing (.ok ciphertext))
      (sent : sentFrames .dmSendRequest trace =
        [DmSendRequest.writeTo { recipientPubkey := recipient, ciphertext }])

/-- Along such a course the property and the condition say the same. -/
theorem DepositCourse.sealedForRequested_iff {identity : IdentityKeypair}
    {recipient : WirePublicKey} {text : ByteString} {trace : ClientTrace}
    (course : DepositCourse identity recipient text trace) :
    SealedForRequested identity (some recipient) text trace ↔
      BundleForRequested identity (some recipient) trace := by
  cases course with
  | nothing unsent unsealable =>
    constructor
    · intro _ bundle hbundle ephemeral hdrawn hsealable
      rw [unsealable bundle hbundle ephemeral hdrawn] at hsealable
      cases hsealable
    · intro _ payload hpayload
      rw [unsent] at hpayload
      cases hpayload
  | deposited bundle ephemeral ciphertext sealing fetched drawn sealable within sealed sent =>
    constructor
    · intro hproperty bundle' hbundle' _ _ _
      obtain ⟨bundle'', request, _, hbundle'', _, _, _, hrequested, howner⟩ :=
        hproperty _ (by rw [sent]; exact List.mem_singleton.mpr rfl)
      rw [hbundle''] at hbundle'
      obtain rfl := Option.some.inj hbundle'
      rw [howner]
      exact hrequested
    · intro hcondition payload hpayload
      have howner := hcondition bundle fetched ephemeral
        (by rw [drawn]; exact List.mem_singleton.mpr rfl) sealable
      rw [sent, List.mem_singleton] at hpayload
      exact ⟨bundle, { recipientPubkey := recipient, ciphertext }, sealing, fetched, hpayload,
        within, sealed, rfl, (Option.some.inj howner).symm⟩

/-- A course behind exchanges that have nothing to do with the deposit. -/
theorem DepositCourse.after {identity : IdentityKeypair} {recipient : WirePublicKey}
    {text : ByteString} {trace : ClientTrace} (course : DepositCourse identity recipient text trace)
    {before : ClientTrace}
    (hrequest : ∀ exchange ∈ before, isRequest .prekeyFetchRequest exchange = false)
    (hsent : sentFrames .dmSendRequest before = []) (hdrawn : generatedKeypairs before = []) :
    DepositCourse identity recipient text (before ++ trace) := by
  have hfetched : fetchedBundle (before ++ trace) = fetchedBundle trace :=
    replyMessage_append trace hrequest
  have hframes : sentFrames .dmSendRequest (before ++ trace) = sentFrames .dmSendRequest trace := by
    rw [sentFrames_append, hsent, List.nil_append]
  have hkeys : generatedKeypairs (before ++ trace) = generatedKeypairs trace := by
    rw [generatedKeypairs_append, hdrawn, List.nil_append]
  cases course with
  | nothing unsent unsealable =>
    exact .nothing (hframes.trans unsent) (by rw [hfetched, hkeys]; exact unsealable)
  | deposited bundle ephemeral ciphertext sealing fetched drawn sealable within sealed sent =>
    exact .deposited bundle ephemeral ciphertext sealing (hfetched.trans fetched)
      (hkeys.trans drawn) sealable (within.trans (List.suffix_append before trace).isInfix) sealed
      (hframes.trans sent)

/-- Without a key pair there is nothing to seal with. -/
theorem DepositCourse.of_undrawn {identity : IdentityKeypair} {recipient : WirePublicKey}
    {text : ByteString} {trace : ClientTrace} (hsent : sentFrames .dmSendRequest trace = [])
    (hdrawn : generatedKeypairs trace = []) : DepositCourse identity recipient text trace := by
  refine .nothing hsent fun bundle _ ephemeral hmem => ?_
  rw [hdrawn] at hmem
  cases hmem

/-- Every course of the conversation is one of the two. -/
theorem performs_depositMessage {identity : IdentityKeypair} {recipient : WirePublicKey}
    {text unsent : ByteString} {trace : ClientTrace} {result : Except ByteString ByteString}
    (h : (depositMessage identity recipient text unsent).run.Performs trace result) :
    DepositCourse identity recipient text trace := by
  -- the prekey request and its reply
  rcases Dialogue.performs_bindExcept.mp h with ⟨error, hfetch, rfl⟩ |
    ⟨fetchTrace, rest, bundle, rfl, hfetch, hrest⟩
  · rcases performs_requestReply hfetch with ⟨rfl, -⟩ | ⟨answer, rfl, -⟩
    · exact .of_undrawn rfl rfl
    · exact .of_undrawn rfl rfl
  obtain ⟨reply, rfl, hbundle⟩ := performs_requestReply_ok hfetch
  have hfetched : ∀ {after : ClientTrace}, fetchedBundle ([⟨.sendFrame .prekeyFetchRequest
      (PrekeyFetchRequest.writeTo { targetPubkey := recipient }), true⟩,
      ⟨.receiveFrame, .ok (.prekeyBundleResponse, reply)⟩] ++ after) = some bundle := by
    intro after
    rw [← hbundle]
    exact replyMessage_answered.trans (if_pos rfl)
  -- sealing
  rcases Dialogue.performs_bindExcept.mp hrest with ⟨error, hseal, rfl⟩ |
    ⟨sealing, rest', ciphertext, rfl, hseal, hdeposit⟩
  · rcases (performs_sealDirectMessage hseal).sealable with ⟨_, _, hunsealable⟩ | ⟨_, _, ⟨⟩, _⟩
    refine .nothing ?_ fun bundle' hbundle' ephemeral hdrawn => ?_
    · rw [sentFrames_append, performs_seal_unsent hseal]
      rfl
    · obtain rfl := Option.some.inj (hfetched.symm.trans hbundle')
      exact hunsealable ephemeral hdrawn
  obtain ⟨_, ⟨⟩, _⟩ | ⟨_, ephemeral, -, hdrawn, hsealable⟩ :=
    (performs_sealDirectMessage hseal).sealable
  -- the deposit: one request, then at most its reply
  have hlast : sentFrames .dmSendRequest rest' =
      [DmSendRequest.writeTo { recipientPubkey := recipient, ciphertext }] ∧
      generatedKeypairs rest' = [] := by
    have hcourse : ∃ result', (requestReply .dmSendRequest
        (DmSendRequest.writeTo { recipientPubkey := recipient, ciphertext }) unsent .statusOk
        StatusOkResponse.readFrom).run.Performs rest' result' := by
      rcases Dialogue.performs_bindExcept.mp hdeposit with ⟨error, hsend, -⟩ |
        ⟨sendTrace, last, _, rfl, hsend, hpure⟩
      · exact ⟨_, hsend⟩
      · obtain ⟨rfl, -⟩ := Dialogue.performs_pure.mp hpure
        rw [List.append_nil]
        exact ⟨_, hsend⟩
    obtain ⟨_, hcourse⟩ := hcourse
    rcases performs_requestReply hcourse with ⟨rfl, -⟩ | ⟨answer, rfl, -⟩
    · exact ⟨rfl, rfl⟩
    · exact ⟨rfl, rfl⟩
  refine .deposited bundle ephemeral ciphertext sealing hfetched ?_ hsealable ?_ hseal ?_
  · simp only [generatedKeypairs_append, hdrawn, hlast.2]
    rfl
  · exact (List.prefix_append sealing rest').isInfix.trans (List.suffix_append _ _).isInfix
  · simp only [sentFrames_append, performs_seal_unsent hseal, hlast.1]
    rfl

omit [Sodium] in
/-- What is printed at the end changes nothing to what was answered. -/
theorem fetchedBundle_print (trace : ClientTrace) (line : ByteString) :
    fetchedBundle (trace ++ [⟨.print line, ()⟩]) = fetchedBundle trace := by
  have hreply : replyTo .prekeyFetchRequest (trace ++ [⟨.print line, ()⟩]) =
      replyTo .prekeyFetchRequest trace := by
    rw [replyTo, replyTo, List.dropWhile_append]
    rcases trace.dropWhile (fun exchange => !isRequest .prekeyFetchRequest exchange) with
      _ | ⟨request, _ | ⟨reply, rest⟩⟩
    · rfl
    · rfl
    · obtain ⟨call, answer⟩ := reply
      cases call with
      | receiveFrame => cases answer <;> rfl
      | _ => rfl
  rw [fetchedBundle, replyMessage, hreply]
  rfl

/-- A course with a line printed at its end. -/
theorem DepositCourse.printed {identity : IdentityKeypair} {recipient : WirePublicKey}
    {text : ByteString} {trace : ClientTrace} (course : DepositCourse identity recipient text trace)
    (line : ByteString) : DepositCourse identity recipient text (trace ++ [⟨.print line, ()⟩]) := by
  have hframes : sentFrames .dmSendRequest (trace ++ [⟨.print line, ()⟩]) =
      sentFrames .dmSendRequest trace := by
    rw [sentFrames_append]
    exact List.append_nil _
  have hkeys : generatedKeypairs (trace ++ [⟨.print line, ()⟩]) = generatedKeypairs trace := by
    rw [generatedKeypairs_append]
    exact List.append_nil _
  cases course with
  | nothing unsent unsealable =>
    exact .nothing (hframes.trans unsent) (by rw [fetchedBundle_print, hkeys]; exact unsealable)
  | deposited bundle ephemeral ciphertext sealing fetched drawn sealable within sealed sent =>
    exact .deposited bundle ephemeral ciphertext sealing ((fetchedBundle_print ..).trans fetched)
      (hkeys.trans drawn) sealable (within.trans (List.prefix_append trace _).isInfix) sealed
      (hframes.trans sent)

/-! ## Both commands -/

/-- Every course of `run_dm_send` with a recipient it can parse. -/
theorem performs_runDmSend {identity : IdentityKeypair} {recipientHex text : ByteString}
    {more : List ByteString} {recipient : WirePublicKey} {trace : ClientTrace}
    {result : Except ByteString Unit} (hparse : parsePublicKey recipientHex = some recipient)
    (h : (runDmSend identity (recipientHex :: text :: more)).run.Performs trace result) :
    DepositCourse identity recipient text trace := by
  rw [runDmSend, hparse] at h
  rcases Dialogue.performs_bindExcept.mp h with ⟨error, hdeposit, -⟩ |
    ⟨depositTrace, rest, ciphertext, rfl, hdeposit, hprint⟩
  · exact performs_depositMessage hdeposit
  · obtain ⟨printTrace, rest, _, rfl, hcall, hpure⟩ := Dialogue.performs_bind.mp hprint
    obtain rfl := Dialogue.performs_call.mp hcall
    obtain ⟨rfl, -⟩ := Dialogue.performs_pure.mp hpure
    exact (performs_depositMessage hdeposit).printed _

/-- Every course of `submit_direct_message`: connecting, then the deposit where
the field holds a key. -/
theorem performs_submitDirectMessage {context : CliContext} {state : UiState}
    {trace : ClientTrace} {result : CliContext × UiState}
    (h : (submitDirectMessage context state).Performs trace result) :
    (sentFrames .dmSendRequest trace = [] ∧ generatedKeypairs trace = []) ∨
    ∃ recipient, parsePublicKey state.dmRecipientInput.1 = some recipient ∧
      DepositCourse context.identity recipient state.dmTextInput.1 trace := by
  obtain ⟨connectTrace, rest, ⟨connected, context', state'⟩, rfl, hconnect, hrest⟩ :=
    Dialogue.performs_bind.mp h
  obtain ⟨hsent, hdrawn, -⟩ :=
    ensureConnected_quiet hconnect (by decide : MessageType.dmSendRequest ≠ _) (by decide)
  obtain ⟨hidentity, hrecipient, htext, -⟩ := performs_ensureConnected hconnect
  cases connected with
  | false =>
    obtain ⟨rfl, -⟩ := Dialogue.performs_pure.mp hrest
    rw [List.append_nil]
    exact .inl ⟨hsent, hdrawn⟩
  | true =>
    dsimp only at hrest
    rw [hrecipient, htext, hidentity] at hrest
    cases hparse : parsePublicKey state.dmRecipientInput.1 with
    | none =>
      rw [hparse] at hrest
      obtain ⟨rfl, -⟩ := Dialogue.performs_pure.mp hrest
      rw [List.append_nil]
      exact .inl ⟨hsent, hdrawn⟩
    | some recipient =>
      rw [hparse] at hrest
      obtain ⟨depositTrace, last, deposited, rfl, hdeposit, hlast⟩ :=
        Dialogue.performs_bind.mp hrest
      have hnil : last = [] := by
        cases deposited with
        | error failure => exact (Dialogue.performs_pure.mp hlast).1
        | ok ciphertext => exact (Dialogue.performs_pure.mp hlast).1
      rw [hnil, List.append_nil]
      refine .inr ⟨recipient, rfl, (performs_depositMessage hdeposit).after ?_ hsent hdrawn⟩
      exact (ensureConnected_quiet hconnect (by decide) (by decide)).2.2

/-- Where nothing is sent and nothing can be sealed with, both sides are vacuous. -/
theorem sealedForRequested_iff_of_quiet {identity : IdentityKeypair}
    {requested : Option WirePublicKey} {text : ByteString} {trace : ClientTrace}
    (hsent : sentFrames .dmSendRequest trace = []) (hdrawn : generatedKeypairs trace = []) :
    SealedForRequested identity requested text trace ↔
      BundleForRequested identity requested trace := by
  constructor
  · intro _ bundle _ ephemeral hmem
    rw [hdrawn] at hmem
    cases hmem
  · intro _ payload hmem
    rw [hsent] at hmem
    cases hmem

/-- The key a command line asks for. -/
def requestedRecipient (arguments : List ByteString) : Option WirePublicKey :=
  arguments.head?.bind parsePublicKey

/-- Against every server, both commands seal for the key the user asked for
exactly when the bundle the server answers with is for that key, as far as
sealing for it goes through. -/
theorem sealed_for_requested_iff :
    (∀ (identity : IdentityKeypair) (arguments : List ByteString) (trace : ClientTrace)
      (result : Except ByteString Unit),
      (runDmSend identity arguments).run.Performs trace result →
      (SealedForRequested identity (requestedRecipient arguments) (arguments.getD 1 []) trace ↔
        BundleForRequested identity (requestedRecipient arguments) trace)) ∧
    (∀ (context : CliContext) (state : UiState) (trace : ClientTrace)
      (result : CliContext × UiState), (submitDirectMessage context state).Performs trace result →
      (SealedForRequested context.identity (parsePublicKey state.dmRecipientInput.1)
          state.dmTextInput.1 trace ↔
        BundleForRequested context.identity (parsePublicKey state.dmRecipientInput.1) trace)) := by
  refine ⟨fun identity arguments trace result h => ?_, fun context state trace result h => ?_⟩
  · rcases arguments with _ | ⟨recipientHex, _ | ⟨text, more⟩⟩
    · obtain ⟨rfl, -⟩ := Dialogue.performs_pure.mp h
      exact sealedForRequested_iff_of_quiet rfl rfl
    · obtain ⟨rfl, -⟩ := Dialogue.performs_pure.mp h
      exact sealedForRequested_iff_of_quiet rfl rfl
    · change SealedForRequested identity (parsePublicKey recipientHex) text trace ↔
        BundleForRequested identity (parsePublicKey recipientHex) trace
      cases hparse : parsePublicKey recipientHex with
      | none =>
        rw [runDmSend, hparse] at h
        obtain ⟨rfl, -⟩ := Dialogue.performs_pure.mp h
        exact sealedForRequested_iff_of_quiet rfl rfl
      | some recipient => exact (performs_runDmSend hparse h).sealedForRequested_iff
  · rcases performs_submitDirectMessage h with ⟨hsent, hdrawn⟩ | ⟨recipient, hparse, course⟩
    · exact sealedForRequested_iff_of_quiet hsent hdrawn
    · rw [hparse]
      exact course.sealedForRequested_iff

/-! ## An honest server and a hostile one -/

/-- A bundle signed by its own owner, as any key holder can make one. -/
def selfSignedBundle (byte : UInt8) : PrekeyBundleResponse where
  ownerPubkey := repeatedBytes publicKeySize byte
  prekey := repeatedBytes publicKeySize byte
  signature := ⟨List.replicate 32 byte ++ List.replicate 32 0, by simp; rfl⟩

/-- The server answers the prekey request with a bundle and accepts the deposit. -/
def answerWith (bundle : PrekeyBundleResponse) : List (MessageType × ByteString) :=
  [(.prekeyBundleResponse, bundle.writeTo), (.statusOk, StatusOkResponse.writeTo {})]

/-- The user asks for the key of ones. -/
def askForOnes : List ByteString := [encodeHex (List.replicate 32 1), ascii "salut"]

/-- How the conversation goes. -/
def sendAnswered (bundle : PrekeyBundleResponse) : Except ByteString Unit × ClientTrace :=
  let _ := transparentSodium
  let keys := some (repeatedBytes 32 7, repeatedBytes 32 7)
  let out := (runDmSend (repeatedIdentity 5) askForOnes).run.run (scripted keys) (answerWith bundle)
  (out.1, out.2.1)

omit [Sodium] in
theorem sendAnswered_performs (bundle : PrekeyBundleResponse) :
    letI := transparentSodium
    (runDmSend (repeatedIdentity 5) askForOnes).run.Performs
      (sendAnswered bundle).2 (sendAnswered bundle).1 :=
  Dialogue.run_performs (scripted (some (repeatedBytes 32 7, repeatedBytes 32 7))) _
    (answerWith bundle)

omit [Sodium] in
/-- With the bundle of the requested key the message is sealed for that key. -/
theorem sealed_for_requested_iff_honest :
    letI := transparentSodium
    sentFrames .dmSendRequest (sendAnswered (selfSignedBundle 1)).2 ≠ [] ∧
    SealedForRequested (repeatedIdentity 5) (requestedRecipient askForOnes) (askForOnes.getD 1 [])
      (sendAnswered (selfSignedBundle 1)).2 := by
  let _ := transparentSodium
  refine ⟨by decide +kernel, ?_⟩
  have hrequested : requestedRecipient askForOnes = some (selfSignedBundle 1).ownerPubkey := by
    decide +kernel
  have hfetched : fetchedBundle (sendAnswered (selfSignedBundle 1)).2 =
      some (selfSignedBundle 1) := by decide +kernel
  have hiff := sealed_for_requested_iff.1 (repeatedIdentity 5) askForOnes _ _
    (sendAnswered_performs (selfSignedBundle 1))
  refine hiff.mpr fun bundle hbundle _ _ _ => ?_
  obtain rfl := Option.some.inj (hfetched.symm.trans hbundle)
  exact hrequested

omit [Sodium] in
/-- A server that answers the request for one key with its own bundle gets the
message sealed for itself. -/
theorem sealed_for_server_identity :
    letI := transparentSodium
    (runDmSend (repeatedIdentity 5) askForOnes).run.Performs
      (sendAnswered (selfSignedBundle 2)).2 (sendAnswered (selfSignedBundle 2)).1 ∧
    ¬ SealedForRequested (repeatedIdentity 5) (requestedRecipient askForOnes)
      (askForOnes.getD 1 []) (sendAnswered (selfSignedBundle 2)).2 := by
  let _ := transparentSodium
  refine ⟨sendAnswered_performs _, fun hsealed => ?_⟩
  have hsent : sentFrames .dmSendRequest (sendAnswered (selfSignedBundle 2)).2 ≠ [] := by
    decide +kernel
  have hfetched : fetchedBundle (sendAnswered (selfSignedBundle 2)).2 =
      some (selfSignedBundle 2) := by decide +kernel
  have hother : requestedRecipient askForOnes ≠ some (selfSignedBundle 2).ownerPubkey := by
    decide +kernel
  obtain ⟨payload, hpayload⟩ := List.exists_mem_of_ne_nil _ hsent
  obtain ⟨bundle, request, _, hbundle, _, _, _, hrequested, howner⟩ := hsealed payload hpayload
  obtain rfl := Option.some.inj (hfetched.symm.trans hbundle)
  exact hother (hrequested.trans (congrArg some howner.symm))

end HyperCom
