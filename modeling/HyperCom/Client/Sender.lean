import HyperCom.Client.DirectMessages

/-!
# Who a received message is said to be from

The sender travels twice: in the record the server lists, and in the header of
the envelope, which is authenticated. Both clients show the first and never look
at the second. They agree with the header exactly when the server's column does,
as far as it is shown.

Both fields are there when the envelope has been opened, and the header's is the one the
message key was derived with; so the information to decide it is at hand, and the comparison
is what is missing.
-/

namespace HyperCom

open Interaction

variable [Sodium]

/-! ## The property and its condition -/

/-- The sender named in the authenticated header of an envelope. -/
def envelopeSender (ciphertext : ByteString) : Option Ed25519PublicKey :=
  (parseDmEnvelopeHeader ciphertext).map DmEnvelopeHeader.senderIdentity

/-- The list the server answered the fetch request with. -/
def fetchedList (trace : ClientTrace) : Option DmListResponse :=
  replyMessage .dmFetchRequest .dmListResponse DmListResponse.readFrom trace

/-- For every message that is opened, the line printed names the sender of its
header. The first line is the count. -/
def LinesNameSenders (identity : IdentityKeypair) (envelopes : List DmEnvelopeRecord)
    (lines : List ByteString) : Prop :=
  ∀ index record text sender, envelopes[index]? = some record →
    (openDirectMessage identity record.ciphertext).text = .ok text →
    envelopeSender record.ciphertext = some sender →
    lines[index + 1]? = some (messageLine sender text)

/-- For every message that is opened, the entry made for it names the sender of
its header. `shown` entries were there before. -/
def EntriesNameSenders (identity : IdentityKeypair) (envelopes : List DmEnvelopeRecord)
    (shown : ℕ) (inbox : List DecryptedMessage) : Prop :=
  ∀ index record text sender, envelopes[index]? = some record →
    (openDirectMessage identity record.ciphertext).text = .ok text →
    envelopeSender record.ciphertext = some sender →
    ∃ entry, inbox[shown + index]? = some entry ∧ entry.text = text ∧
      entry.senderHex = encodeHex sender.1

/-- The server's column and the header agree on the first `size` bytes of the
sender, for every message that opens. -/
def ColumnMatchesHeader (identity : IdentityKeypair) (size : ℕ)
    (envelopes : List DmEnvelopeRecord) : Prop :=
  ∀ record ∈ envelopes, ∀ sender,
    (openDirectMessage identity record.ciphertext).accepted = true →
    envelopeSender record.ciphertext = some sender →
    record.senderPubkey.1.take size = sender.1.take size

omit [Sodium] in
/-- A fetch that failed has no list. -/
theorem fetchedList_of_error {unsent error : ByteString} {trace : ClientTrace}
    {response : DmListResponse}
    (h : (requestReply .dmFetchRequest (DmFetchRequest.writeTo {}) unsent .dmListResponse
      DmListResponse.readFrom).run.Performs trace (.error error)) :
    fetchedList trace ≠ some response := by
  intro hfetched
  rcases performs_requestReply h with ⟨rfl, -⟩ | ⟨answer, rfl, hanswer⟩
  · rw [fetchedList, replyMessage_unanswered] at hfetched
    cases hfetched
  · cases hanswer.trans (decodeReply_of_replyMessage (by decide) hfetched)

/-! ## The command line -/

/-- The calls that exchange frames. -/
def FrameCall : ClientCall → Prop
  | .sendFrame _ _ => True
  | .receiveFrame => True
  | _ => False

/-- The line printed for an envelope. -/
def reportLine (identity : IdentityKeypair) (record : DmEnvelopeRecord) : ByteString :=
  messageLine record.senderPubkey
    (match (openDirectMessage identity record.ciphertext).text with
    | .ok text => text
    | .error failure => ascii "[illisible] " ++ failure)

/-- The loop prints a line for each envelope and keeps the readable ones. -/
theorem performs_reportEnvelopes {identity : IdentityKeypair} {envelopes : List DmEnvelopeRecord}
    {trace : ClientTrace} {ids : List UInt64}
    (h : (reportEnvelopes identity envelopes).Performs trace ids) :
    trace = envelopes.map (fun record => ⟨.print (reportLine identity record), ()⟩) ∧
      ids = readableIds identity envelopes := by
  induction envelopes generalizing trace ids with
  | nil =>
    obtain ⟨rfl, rfl⟩ := Dialogue.performs_pure.mp h
    exact ⟨rfl, rfl⟩
  | cons record rest ih =>
    rw [reportEnvelopes] at h
    cases hopened : (openDirectMessage identity record.ciphertext).text with
    | ok text =>
      rw [hopened] at h
      obtain ⟨_, printed, rfl, hrest⟩ := Dialogue.performs_call_bind.mp h
      obtain ⟨restTrace, last, ids', rfl, hreport, hpure⟩ := Dialogue.performs_bind.mp hrest
      obtain ⟨rfl, rfl⟩ := Dialogue.performs_pure.mp hpure
      obtain ⟨rfl, rfl⟩ := ih hreport
      simp [readableIds, OpenedMessage.accepted, Except.isOk, Except.toBool, reportLine, hopened]
    | error failure =>
      rw [hopened] at h
      obtain ⟨_, printed, rfl, hrest⟩ := Dialogue.performs_call_bind.mp h
      obtain ⟨rfl, rfl⟩ := ih hrest
      simp [readableIds, OpenedMessage.accepted, Except.isOk, Except.toBool, reportLine, hopened]

/-- What `run_dm_fetch` prints when it is given a list: the count, then a line
for each envelope. -/
theorem performs_runDmFetch {identity : IdentityKeypair} {trace : ClientTrace}
    {result : Except ByteString Unit} {response : DmListResponse}
    (h : (runDmFetch identity).run.Performs trace result)
    (hfetched : fetchedList trace = some response) :
    ∃ count, printedLines trace = count :: response.envelopes.map (reportLine identity) := by
  -- the request and its reply
  rcases Dialogue.performs_bindExcept.mp h with ⟨error, hfetch, -⟩ |
    ⟨fetchTrace, rest, received, rfl, hfetch, hreport⟩
  · exact absurd hfetched (fetchedList_of_error hfetch)
  obtain ⟨reply, rfl, hread⟩ := performs_requestReply_ok hfetch
  have hsame : received = response := by
    have hreplied := hfetched.symm.trans (replyMessage_answered.trans (if_pos rfl))
    exact Option.some.inj (hread.symm.trans hreplied.symm)
  subst hsame
  -- the report
  obtain ⟨countTrace, rest'', _, rfl, hcount, hlines⟩ := Dialogue.performs_lift_bind.mp hreport
  obtain rfl := Dialogue.performs_call.mp hcount
  obtain ⟨reportTrace, ackTrace, ids, rfl, hreported, hack⟩ := Dialogue.performs_lift_bind.mp hlines
  obtain ⟨rfl, rfl⟩ := performs_reportEnvelopes hreported
  -- the acknowledgement prints nothing
  have hquiet : printedLines ackTrace = [] := by
    by_cases hnone : (readableIds identity received.envelopes).isEmpty
    · rw [if_pos hnone] at hack
      obtain ⟨rfl, -⟩ := Dialogue.performs_pure.mp hack
      rfl
    · rw [if_neg hnone] at hack
      refine printedLines_eq_nil (Dialogue.Only.of_performs (P := FrameCall) ?_ hack) fun _ => id
      exact (requestReply_only trivial trivial).bindExcept fun _ => .done
  refine ⟨decimal received.envelopes.length ++ ascii " message(s) :", ?_⟩
  have hreported : printedLines (received.envelopes.map fun record =>
      (⟨.print (reportLine identity record), ()⟩ : Exchange ClientAnswer)) =
      received.envelopes.map (reportLine identity) := by
    simp [printedLines, List.filterMap_map]
  simp only [printedLines_append, hreported, hquiet, List.append_nil]
  rfl

omit [Sodium] in
/-- Two lines with one text are the same exactly when the first eight bytes of
the keys are. -/
theorem messageLine_eq_iff (first second : WirePublicKey) (text : ByteString) :
    messageLine first text = messageLine second text ↔ first.1.take 8 = second.1.take 8 := by
  have hdigits : ∀ key : WirePublicKey, (encodeHex key.1).take 16 = encodeHex (key.1.take 8) :=
    fun key => take_encodeHex 8 key.1
  rw [messageLine, messageLine, hdigits, hdigits, List.append_left_inj, List.append_left_inj,
    List.append_right_inj, encodeHex_injective.eq_iff]

/-- The lines name the senders of the headers exactly when the column agrees
with them on what is shown. -/
theorem linesNameSenders_iff (identity : IdentityKeypair) (envelopes : List DmEnvelopeRecord)
    (count : ByteString) :
    LinesNameSenders identity envelopes (count :: envelopes.map (reportLine identity)) ↔
      ColumnMatchesHeader identity 8 envelopes := by
  have hline : ∀ {record : DmEnvelopeRecord} {text : ByteString},
      (openDirectMessage identity record.ciphertext).text = .ok text →
      reportLine identity record = messageLine record.senderPubkey text := by
    intro record text hopened
    rw [reportLine, hopened]
  constructor
  · intro hlines record hmem sender haccepted hsender
    obtain ⟨index, hindex⟩ := List.mem_iff_getElem?.mp hmem
    obtain ⟨text, htext⟩ := OpenedMessage.exists_text haccepted
    have hnamed := hlines index record text sender hindex htext hsender
    rw [List.getElem?_cons_succ, List.getElem?_map, hindex] at hnamed
    have heq := (hline htext).symm.trans (Option.some.inj hnamed)
    exact (messageLine_eq_iff _ _ _).mp heq
  · intro hcolumn index record text sender hindex htext hsender
    have haccepted : (openDirectMessage identity record.ciphertext).accepted = true := by
      rw [OpenedMessage.accepted, htext]
      rfl
    have hsame := hcolumn record (List.mem_of_getElem? hindex) sender haccepted hsender
    rw [List.getElem?_cons_succ, List.getElem?_map, hindex, Option.map_some, hline htext]
    exact congrArg some ((messageLine_eq_iff _ _ _).mpr hsame)

/-! ## The graphical client -/

/-- What `refresh_inbox` adds: an entry for each envelope of the list it is given,
and nothing if it is given none. -/
theorem performs_refreshInbox_entries {context context' : CliContext} {state state' : UiState}
    {trace : ClientTrace} (h : (refreshInbox context state).Performs trace (context', state')) :
    state'.inbox = state.inbox ++ (match fetchedList trace with
      | none => []
      | some response => response.envelopes.map (decryptEnvelope context.identity)) := by
  obtain ⟨connectTrace, rest, ⟨connected, context₁, state₁⟩, rfl, hconnect, hrest⟩ :=
    Dialogue.performs_bind.mp h
  obtain ⟨hidentity, -, -, hinbox⟩ := performs_ensureConnected hconnect
  obtain ⟨-, -, hquiet⟩ :=
    ensureConnected_quiet hconnect (by decide : MessageType.dmFetchRequest ≠ _) (by decide)
  rw [fetchedList, replyMessage_append rest hquiet, ← fetchedList, ← hinbox, ← hidentity]
  cases connected with
  | false =>
    obtain ⟨rfl, ⟨⟩⟩ := Dialogue.performs_pure.mp hrest
    exact (List.append_nil _).symm
  | true =>
    obtain ⟨fetchTrace, ackTrace, fetched, rfl, hfetch, hack⟩ := Dialogue.performs_bind.mp hrest
    cases fetched with
    | error failure =>
      obtain ⟨rfl, ⟨⟩⟩ := Dialogue.performs_pure.mp hack
      rw [List.append_nil, Option.eq_none_iff_forall_ne_some.mpr fun response =>
        fetchedList_of_error hfetch, List.append_nil]
      rfl
    | ok received =>
      obtain ⟨reply, rfl, hread⟩ := performs_requestReply_ok hfetch
      have hfetched : fetchedList ([⟨.sendFrame .dmFetchRequest (DmFetchRequest.writeTo {}), true⟩,
          ⟨.receiveFrame, .ok (.dmListResponse, reply)⟩] ++ ackTrace) = some received := by
        rw [← hread]
        exact replyMessage_answered.trans (if_pos rfl)
      rw [hfetched]
      -- whether or not there is something to acknowledge, the entries are in
      dsimp only at hack
      split at hack
      · obtain ⟨-, ⟨⟩⟩ := Dialogue.performs_pure.mp hack
        rfl
      · obtain ⟨_, _, _, -, -, hpure⟩ := Dialogue.performs_bind.mp hack
        obtain ⟨-, ⟨⟩⟩ := Dialogue.performs_pure.mp hpure
        rfl

theorem performs_refreshInbox {context context' : CliContext} {state state' : UiState}
    {trace : ClientTrace} {response : DmListResponse}
    (h : (refreshInbox context state).Performs trace (context', state'))
    (hfetched : fetchedList trace = some response) :
    state'.inbox = state.inbox ++ response.envelopes.map (decryptEnvelope context.identity) := by
  rw [performs_refreshInbox_entries h, hfetched]

/-- The entries name the senders of the headers exactly when the column does. -/
theorem entriesNameSenders_iff (identity : IdentityKeypair) (envelopes : List DmEnvelopeRecord)
    (shown : List DecryptedMessage) :
    EntriesNameSenders identity envelopes shown.length
        (shown ++ envelopes.map (decryptEnvelope identity)) ↔
      ColumnMatchesHeader identity publicKeySize envelopes := by
  have hentry : ∀ {index : ℕ} {record : DmEnvelopeRecord}, envelopes[index]? = some record →
      (shown ++ envelopes.map (decryptEnvelope identity))[shown.length + index]? =
        some (decryptEnvelope identity record) := by
    intro index record hindex
    rw [List.getElem?_append_right (Nat.le_add_right ..), Nat.add_sub_cancel_left,
      List.getElem?_map, hindex]
    rfl
  have hwhole : ∀ key : WirePublicKey, key.1.take publicKeySize = key.1 :=
    fun key => List.take_of_length_le key.2.le
  constructor
  · intro hentries record hmem sender haccepted hsender
    obtain ⟨index, hindex⟩ := List.mem_iff_getElem?.mp hmem
    obtain ⟨text, htext⟩ := OpenedMessage.exists_text haccepted
    obtain ⟨entry, hat, -, hhex⟩ := hentries index record text sender hindex htext hsender
    rw [hentry hindex] at hat
    obtain rfl := Option.some.inj hat
    rw [encodeHex_injective hhex]
  · intro hcolumn index record text sender hindex htext hsender
    have haccepted : (openDirectMessage identity record.ciphertext).accepted = true := by
      rw [OpenedMessage.accepted, htext]
      rfl
    have hsame := hcolumn record (List.mem_of_getElem? hindex) sender haccepted hsender
    refine ⟨_, hentry hindex, ?_, ?_⟩
    · rw [decryptEnvelope, htext]
    · rw [hwhole record.senderPubkey, hwhole sender] at hsame
      exact congrArg encodeHex hsame

/-! ## Both clients -/

/-- Against every server, the clients report the sender of the authenticated
header exactly when the server's column agrees with it: on the whole key for the
entries of the graphical client, on the eight bytes that are printed for the
command line. -/
theorem reported_sender_iff :
    (∀ (identity : IdentityKeypair) (trace : ClientTrace) (result : Except ByteString Unit)
      (response : DmListResponse), (runDmFetch identity).run.Performs trace result →
      fetchedList trace = some response →
      (LinesNameSenders identity response.envelopes (printedLines trace) ↔
        ColumnMatchesHeader identity 8 response.envelopes)) ∧
    (∀ (context context' : CliContext) (state state' : UiState) (trace : ClientTrace)
      (response : DmListResponse), (refreshInbox context state).Performs trace (context', state') →
      fetchedList trace = some response →
      (EntriesNameSenders context.identity response.envelopes state.inbox.length state'.inbox ↔
        ColumnMatchesHeader context.identity publicKeySize response.envelopes)) := by
  refine ⟨fun identity trace result response h hfetched => ?_,
    fun context context' state state' trace response h hfetched => ?_⟩
  · obtain ⟨count, hlines⟩ := performs_runDmFetch h hfetched
    rw [hlines]
    exact linesNameSenders_iff identity response.envelopes count
  · rw [performs_refreshInbox h hfetched]
    exact entriesNameSenders_iff context.identity response.envelopes state.inbox

/-! ## An honest server and a hostile one -/

/-- A message of the identity of ones, listed under the column `listed`. -/
def listedUnder (listed : UInt8) : DmListResponse :=
  let _ := transparentSodium
  let header : DmEnvelopeHeader := { senderIdentity := repeatedBytes 32 1 }
  let ciphertext := sealDmEnvelope header (repeatedBytes 32 0) (buildDmPayload 0 (ascii "salut"))
  { envelopes := [{ id := 1, senderPubkey := repeatedBytes publicKeySize listed, ciphertext }] }

/-- How the fetch goes. -/
def fetchListed (listed : UInt8) : Except ByteString Unit × ClientTrace :=
  let _ := transparentSodium
  let script := [(MessageType.dmListResponse, (listedUnder listed).writeTo),
    (MessageType.statusOk, StatusOkResponse.writeTo {})]
  let out := (runDmFetch (repeatedIdentity 5)).run.run (scripted none) script
  (out.1, out.2.1)

omit [Sodium] in
theorem fetchListed_performs (listed : UInt8) :
    letI := transparentSodium
    (runDmFetch (repeatedIdentity 5)).run.Performs (fetchListed listed).2 (fetchListed listed).1 :=
  Dialogue.run_performs (scripted none) _ [(MessageType.dmListResponse, (listedUnder listed).writeTo),
    (MessageType.statusOk, StatusOkResponse.writeTo {})]

omit [Sodium] in
/-- With an honest column the line names the sender of the header. -/
theorem reported_sender_iff_honest :
    letI := transparentSodium
    (openDirectMessage (repeatedIdentity 5) ((listedUnder 1).envelopes.flatMap
      DmEnvelopeRecord.ciphertext)).accepted = true ∧
    LinesNameSenders (repeatedIdentity 5) (listedUnder 1).envelopes
      (printedLines (fetchListed 1).2) := by
  let _ := transparentSodium
  refine ⟨by decide +kernel, ?_⟩
  have hfetched : fetchedList (fetchListed 1).2 = some (listedUnder 1) := by decide +kernel
  refine (reported_sender_iff.1 _ _ _ _ (fetchListed_performs 1) hfetched).mpr ?_
  have hsenders : ∀ record ∈ (listedUnder 1).envelopes,
      envelopeSender record.ciphertext = some (repeatedBytes 32 1) ∧
      record.senderPubkey.1.take 8 = List.replicate 8 1 := by decide +kernel
  intro record hmem sender _ hsender
  obtain ⟨hheader, hcolumn⟩ := hsenders record hmem
  obtain rfl := Option.some.inj (hheader.symm.trans hsender)
  exact hcolumn

omit [Sodium] in
/-- A server that lists the message under another key has it shown as coming
from that key. -/
theorem reported_sender_spoofed :
    letI := transparentSodium
    (runDmFetch (repeatedIdentity 5)).run.Performs (fetchListed 2).2 (fetchListed 2).1 ∧
    fetchedList (fetchListed 2).2 = some (listedUnder 2) ∧
    ¬ LinesNameSenders (repeatedIdentity 5) (listedUnder 2).envelopes
      (printedLines (fetchListed 2).2) := by
  let _ := transparentSodium
  refine ⟨fetchListed_performs 2, by decide +kernel, fun hnamed => ?_⟩
  have hrecord : ∃ record, (listedUnder 2).envelopes[0]? = some record ∧
      (openDirectMessage (repeatedIdentity 5) record.ciphertext).text = .ok (ascii "salut") ∧
      envelopeSender record.ciphertext = some (repeatedBytes 32 1) := by
    refine ⟨_, rfl, ?_, ?_⟩
    · rfl
    · rfl
  obtain ⟨record, hat, htext, hsender⟩ := hrecord
  have hline := hnamed 0 record (ascii "salut") (repeatedBytes 32 1) hat htext hsender
  exact absurd hline (by decide +kernel)

end HyperCom
