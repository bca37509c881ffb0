import HyperCom.Server.RequestEffect

/-!
# Reading an inbox

A page of `dm_list_response` is bounded by the number of its envelopes, each
envelope by the size of its ciphertext, and the frame by `MAX_PAYLOAD_SIZE`.
The first two bounds do not give the third: sixteen envelopes of the largest
size do not fit one frame. `dm_fetch_answered_iff` says exactly which pages are
served; the others close the connection of whoever asks for them.

The exact condition is on the sizes of the envelopes that the page would have. It can be met
by nobody's intention: whoever may send mail decides what the sizes in somebody else's inbox
are.
-/

namespace HyperCom

open BinaryCodec

/-! ## The page asked for -/

/-- The bytes of an envelope in a page: id, sender, length field, ciphertext. -/
def DmEnvelopeRow.encodedSize (envelope : DmEnvelopeRow) : ℕ := 44 + envelope.ciphertext.length

/-- The bytes of a page: item count, envelopes, `has_more`. -/
def encodedPageSize (page : List DmEnvelopeRow) : ℕ :=
  3 + (page.map DmEnvelopeRow.encodedSize).sum

/-- The pending envelopes a request asks for. -/
def Tables.inboxPage (tables : Tables) (recipientId : ℤ) (request : DmFetchRequest) :
    List DmEnvelopeRow :=
  (tables.pendingEnvelopes recipientId (castInt64 request.sinceId)).take
    (clampBatchLimit request.limit).toNat

/-- Whether there are more of them. -/
def Tables.inboxHasMore (tables : Tables) (recipientId : ℤ) (request : DmFetchRequest) : UInt8 :=
  if (tables.pendingEnvelopes recipientId (castInt64 request.sinceId)).length >
    (clampBatchLimit request.limit).toNat then 1 else 0

/-- The response that carries the page. -/
def Tables.inboxResponse (tables : Tables) (recipientId : ℤ) (request : DmFetchRequest) :
    DmListResponse :=
  { envelopes := (tables.inboxPage recipientId request).map DmEnvelopeRow.toRecord
    hasMore := tables.inboxHasMore recipientId request }

theorem DmEnvelopeRow.writeTo_length (envelope : DmEnvelopeRow) :
    envelope.toRecord.writeTo.length = envelope.encodedSize := by
  have hkey := envelope.senderPubkey.2
  simp [DmEnvelopeRecord.writeTo, DmEnvelopeRow.toRecord, DmEnvelopeRow.encodedSize, writeInteger,
    writeFixedBytes, writeLengthPrefixed, UnsignedInteger.size, hkey, publicKeySize]
  omega

theorem inboxResponse_length (tables : Tables) (recipientId : ℤ) (request : DmFetchRequest) :
    (tables.inboxResponse recipientId request).writeTo.length =
      encodedPageSize (tables.inboxPage recipientId request) := by
  have hsizes : ((tables.inboxPage recipientId request).map fun envelope =>
      envelope.toRecord.writeTo.length) =
        (tables.inboxPage recipientId request).map DmEnvelopeRow.encodedSize :=
    List.map_congr_left fun envelope _ => envelope.writeTo_length
  simp [DmListResponse.writeTo, Tables.inboxResponse, encodedPageSize, writeRecordList, writeInteger,
    UnsignedInteger.size, List.length_flatMap, Function.comp_def, hsizes]
  omega

/-- Without a fault of the database, the page is what is read. -/
theorem listForRecipient_healthy {database : DatabaseHandle} (healthy : database.Healthy)
    (recipientId : ℤ) (request : DmFetchRequest) :
    listForRecipient database recipientId request.sinceId (clampBatchLimit request.limit) =
      some (database.tables.inboxResponse recipientId request) := by
  have hmore : (clampBatchLimit request.limit).toNat <
      min ((clampBatchLimit request.limit).toNat + 1)
        (database.tables.pendingEnvelopes recipientId (castInt64 request.sinceId)).length ↔
      (clampBatchLimit request.limit).toNat <
        (database.tables.pendingEnvelopes recipientId (castInt64 request.sinceId)).length := by
    omega
  rw [listForRecipient, healthy.query_eq, Option.map_some, List.take_take,
    Nat.min_eq_left (Nat.le_succ _), List.length_take]
  simp only [Tables.inboxResponse, Tables.inboxPage, Tables.inboxHasMore, gt_iff_lt, hmore]

/-! ## Answering a request -/

variable [Sodium]

/-- A registered session on an open connection with nothing left to send. -/
structure ReadyToSend (context : HandlerContext) (transport : NoiseTransport) : Prop where
  registered : context.connection.session.isRegistered = true
  established : context.connection.channel.transport = some transport
  nonces : transport.sendState.nonceCounter ≠ NoiseCipherState.exhausted
  drained : context.connection.socket.pendingOutput = []

/-- A registered session on an open connection with nothing left to send, over a
database that does not fail. -/
structure ReadyToAnswer (context : HandlerContext) (transport : NoiseTransport) : Prop where
  registered : context.connection.session.isRegistered = true
  healthy : context.database.Healthy
  established : context.connection.channel.transport = some transport
  nonces : transport.sendState.nonceCounter ≠ NoiseCipherState.exhausted
  drained : context.connection.socket.pendingOutput = []

omit [Sodium] in
theorem ReadyToAnswer.toSend {context : HandlerContext} {transport : NoiseTransport}
    (ready : ReadyToAnswer context transport) : ReadyToSend context transport :=
  ⟨ready.registered, ready.established, ready.nonces, ready.drained⟩

/-- A payload that does not fit a frame is not sent, and nothing changes. -/
theorem sendMessage_oversized {context : HandlerContext} {type : MessageType} {payload : ByteString}
    (h : maxPayloadSize < payload.length) :
    sendMessage context type payload = (false, context) := by
  have hframe : encodeFrame type payload = none := if_pos h
  simp only [sendMessage, sendRawMessage, hframe]

/-- A payload that fits a frame fits the empty queue. -/
theorem sendMessage_drained {context : HandlerContext} {transport : NoiseTransport}
    {type : MessageType} {payload : ByteString} (ready : ReadyToSend context transport)
    (h : payload.length ≤ maxPayloadSize) :
    (sendMessage context type payload).1 = true ∧
      (sendMessage context type payload).2.connection.socket.pendingOutput =
        wireMessage transport.sendKey transport.sendCounter (frameBytes type payload) := by
  have hroom : context.connection.socket.pendingOutput.length +
      (wireMessage transport.sendKey transport.sendCounter (frameBytes type payload)).length ≤
        maxPendingOutput := by
    rw [ready.drained, wireMessage_length, frameBytes_length]
    simp only [List.length_nil, frameLengthFieldSize, frameHeaderSize, frameTypeFieldSize, aeadTagSize,
      maxPendingOutput, maxPayloadSize, maxFrameSize] at h ⊢
    omega
  obtain ⟨transport', -, -, -, hsend⟩ :=
    sendRawMessage_sealed type ready.established ready.nonces h
  rw [ConnectionSocket.queueBytes_of_room hroom, ready.drained, List.nil_append] at hsend
  simp only [sendMessage, hsend, and_self]

/-- What a decoded request is answered with. -/
theorem handleDmFetchRequest_eq {context : HandlerContext} {transport : NoiseTransport}
    {reader : ByteReader} {request : DmFetchRequest} (ready : ReadyToAnswer context transport)
    (decoded : (DmFetchRequest.readFrom reader).1 = some request) :
    handleDmFetchRequest context reader = sendMessage context .dmListResponse
      (context.database.tables.inboxResponse context.connection.session.userId request).writeTo := by
  rw [handleDmFetchRequest, guardedRequest_decoded ready.registered decoded, answerDmFetch,
    listForRecipient_healthy ready.healthy]

/-! ## A crowded inbox -/

/-- The tables that `dm_send_request`s of registered sessions can create, from
accounts without any envelope on. -/
inductive Deliverable : Tables → Prop where
  | accounts (users : List UserRow) (usersSequence : ℤ) : Deliverable { users, usersSequence }
  | sent {context : HandlerContext} (before : Deliverable context.database.tables)
      (reader : ByteReader)
      (registered : context.connection.session.isRegistered = true) :
      Deliverable (handleDmSendRequest context reader).2.database.tables

/-- A key of one repeated byte. -/
def repeatedKey (byte : UInt8) : WirePublicKey := ⟨List.replicate 32 byte, rfl⟩

/-- Two accounts, and envelopes with one ciphertext from the second to the
first. -/
def crowdedTables (ciphertext : ByteString) (count : ℕ) : Tables :=
  { users := [{ id := 1, pubkey := repeatedKey 1, handle := ascii "alice", banned := false },
      { id := 2, pubkey := repeatedKey 2, handle := ascii "bob", banned := false }]
    usersSequence := 2
    dmEnvelopes := (List.range count).map fun index : ℕ =>
      { id := (index : ℤ) + 1, recipientId := 1, senderPubkey := repeatedKey 2, ciphertext }
    dmEnvelopesSequence := count }

/-- The session of an account over these tables. -/
def accountContext (tables : Tables) (userId : ℤ) (announcedPubkey : WirePublicKey) :
    HandlerContext :=
  { database := { tables }
    connection := {
      channel := {
        handshake := NoiseHandshakeResponder.create (FixedBytes.zero _) (FixedBytes.zero _)
        transport := some (NoiseTransport.create (FixedBytes.zero _) (FixedBytes.zero _)) }
      session := { phase := .authenticated, userId, announcedPubkey } } }

theorem accountContext_ready (tables : Tables) (announcedPubkey : WirePublicKey) {userId : ℤ}
    (hid : userId ≠ 0) :
    ReadyToAnswer (accountContext tables userId announcedPubkey)
      (NoiseTransport.create (FixedBytes.zero _) (FixedBytes.zero _)) where
  registered := by simp [accountContext, SessionState.isRegistered, hid]
  healthy := rfl
  established := rfl
  nonces := by decide
  drained := rfl

/-- The tables with one envelope more. -/
def Tables.withEnvelope (tables : Tables) (envelope : DmEnvelopeRow) : Tables :=
  { tables with
    dmEnvelopes := tables.dmEnvelopes ++ [envelope]
    dmEnvelopesSequence := envelope.id }

/-- A request to a known recipient, from a registered session. -/
theorem handleDmSendRequest_delivers {context : HandlerContext} {reader : ByteReader}
    {request : DmSendRequest} {recipient : UserRow} {id : ℤ}
    (registered : context.connection.session.isRegistered = true)
    (healthy : context.database.Healthy)
    (decoded : (DmSendRequest.readFrom reader).1 = some request) (hpos : request.ciphertext ≠ [])
    (hrecipient : findUserByPubkey context.database request.recipientPubkey = some recipient)
    (hid : nextRowid context.database.tables.dmEnvelopesSequence = some id) :
    (handleDmSendRequest context reader).2.database.tables = context.database.tables.withEnvelope
      { id, recipientId := recipient.id
        senderPubkey := context.connection.session.announcedPubkey
        ciphertext := request.ciphertext } := by
  obtain ⟨hmem, -⟩ := findUserByPubkey_some hrecipient
  have huser : context.database.tables.hasUser recipient.id = true :=
    List.any_eq_true.mpr ⟨recipient, hmem, by simp⟩
  have hinsert : insertEnvelopeRow recipient.id context.connection.session.announcedPubkey
      request.ciphertext context.database.tables = some (id, context.database.tables.withEnvelope
        { id, recipientId := recipient.id
          senderPubkey := context.connection.session.announcedPubkey
          ciphertext := request.ciphertext }) := by
    rw [insertEnvelopeRow, huser, hid]
    rfl
  have hempty : request.ciphertext.isEmpty = false := by simpa using hpos
  rw [handleDmSendRequest, guardedRequest_decoded registered decoded]
  simp only [hempty, hrecipient, insertEnvelope, healthy.write_eq hinsert, Bool.false_eq_true, if_false]
  rw [sendStatusOk, (sendMessage_frame ..).1]

section Crowded

variable {ciphertext : ByteString} {count : ℕ}

/-- One more envelope. -/
theorem crowdedTables_succ (hpos : ciphertext ≠ []) (hmax : ciphertext.length ≤ maxDmCiphertextSize)
    (hcount : (count : ℤ) < maxRowid) :
    (handleDmSendRequest (accountContext (crowdedTables ciphertext count) 2 (repeatedKey 2))
      (ByteReader.start (DmSendRequest.writeTo { recipientPubkey := repeatedKey 1, ciphertext }))
      ).2.database.tables = crowdedTables ciphertext (count + 1) := by
  have ready := accountContext_ready (crowdedTables ciphertext count) (repeatedKey 2)
    (show (2 : ℤ) ≠ 0 by decide)
  have hrange : DmSendRequest.InRange { recipientPubkey := repeatedKey 1, ciphertext } := hmax
  have hid : nextRowid (crowdedTables ciphertext count).dmEnvelopesSequence =
      some ((count : ℤ) + 1) :=
    if_neg (not_le.mpr hcount)
  rw [handleDmSendRequest_delivers ready.registered ready.healthy
    (DmSendRequest.exact.readFrom_start hrange) hpos rfl hid]
  simp [crowdedTables, accountContext, Tables.withEnvelope, List.range_succ]

theorem crowdedTables_deliverable (hpos : ciphertext ≠ [])
    (hmax : ciphertext.length ≤ maxDmCiphertextSize) (hcount : (count : ℤ) ≤ maxRowid) :
    Deliverable (crowdedTables ciphertext count) := by
  induction count with
  | zero => exact .accounts _ _
  | succ count ih =>
    have hlt : (count : ℤ) < maxRowid := by
      push_cast at hcount
      omega
    have hbefore : Deliverable (accountContext (crowdedTables ciphertext count) 2
        (repeatedKey 2)).database.tables := ih hlt.le
    have hsent := hbefore.sent (ByteReader.start (DmSendRequest.writeTo
      { recipientPubkey := repeatedKey 1, ciphertext })) rfl
    rwa [crowdedTables_succ hpos hmax hlt] at hsent

omit [Sodium]

/-- All of the crowded inbox is pending. -/
theorem crowdedTables_pending :
    ((crowdedTables ciphertext count).pendingEnvelopes 1 (castInt64 0)).Perm
      (crowdedTables ciphertext count).dmEnvelopes := by
  have hmine : (crowdedTables ciphertext count).dmEnvelopes.filter (fun envelope =>
      envelope.recipientId = 1 && envelope.id > castInt64 0) =
        (crowdedTables ciphertext count).dmEnvelopes := by
    refine List.filter_eq_self.mpr ?_
    intro envelope henvelope
    obtain ⟨index, -, rfl⟩ := List.mem_map.mp henvelope
    have hzero : castInt64 0 = 0 := by decide
    simp only [hzero, decide_true, Bool.true_and, gt_iff_lt, decide_eq_true_eq]
    omega
  rw [Tables.pendingEnvelopes, hmine]
  exact List.mergeSort_perm ..

theorem crowdedTables_pageSize (hcount : count ≤ 100) :
    encodedPageSize ((crowdedTables ciphertext count).inboxPage 1 {}) =
      3 + count * (44 + ciphertext.length) := by
  have hpending : ((crowdedTables ciphertext count).pendingEnvelopes 1 (castInt64 0)).Perm _ :=
    crowdedTables_pending
  have hlength : ((crowdedTables ciphertext count).pendingEnvelopes 1 (castInt64 0)).length ≤
      100 := by
    rw [hpending.length_eq]
    simpa [crowdedTables] using hcount
  have hpage : (crowdedTables ciphertext count).inboxPage 1 {} =
      (crowdedTables ciphertext count).pendingEnvelopes 1 (castInt64 0) :=
    List.take_of_length_le hlength
  have hsizes : (crowdedTables ciphertext count).dmEnvelopes.map DmEnvelopeRow.encodedSize =
      List.replicate count (44 + ciphertext.length) := by
    rw [crowdedTables, List.map_map, List.eq_replicate_iff]
    refine ⟨by simp, ?_⟩
    intro size hmem
    obtain ⟨index, -, rfl⟩ := List.mem_map.mp hmem
    rfl
  rw [encodedPageSize, hpage, (hpending.map _).sum_nat, hsizes, List.sum_replicate_nat]

end Crowded

/-! ## Which pages are served -/

/-- For every inbox and every request: the page is queued and the connection
stays open if and only if the page fits one frame. -/
theorem dm_fetch_answered_iff (context : HandlerContext) (transport : NoiseTransport)
    (reader : ByteReader) (request : DmFetchRequest) (ready : ReadyToAnswer context transport)
    (decoded : (DmFetchRequest.readFrom reader).1 = some request) :
    ((handleDmFetchRequest context reader).1 = true ∧ ∃ response : DmListResponse,
      (handleDmFetchRequest context reader).2.connection.socket.pendingOutput =
        wireMessage transport.sendKey transport.sendCounter
          (frameBytes .dmListResponse response.writeTo)) ↔
    encodedPageSize (context.database.tables.inboxPage context.connection.session.userId request) ≤
      maxPayloadSize := by
  rw [handleDmFetchRequest_eq ready decoded, ← inboxResponse_length]
  constructor
  · rintro ⟨hopen, -⟩
    by_contra hlarge
    rw [sendMessage_oversized (not_le.mp hlarge)] at hopen
    cases hopen
  · intro hfits
    obtain ⟨hopen, hqueued⟩ := sendMessage_drained ready.toSend hfits
    exact ⟨hopen, _, hqueued⟩

omit [Sodium] in
/-- Fifteen envelopes of the largest size are served. -/
theorem dm_fetch_answered_iff_fifteen :
    letI := transparentSodium
    let largest : ByteString := List.replicate maxDmCiphertextSize 0
    (handleDmFetchRequest (accountContext (crowdedTables largest 15) 1 (repeatedKey 1))
      (ByteReader.start (DmFetchRequest.writeTo {}))).1 = true := by
  intro largest
  let _ := transparentSodium
  have hlargest : largest.length = maxDmCiphertextSize := List.length_replicate
  have ready := accountContext_ready (crowdedTables largest 15) (repeatedKey 1)
    (show (1 : ℤ) ≠ 0 by decide)
  refine ((dm_fetch_answered_iff _ _ _ {} ready (DmFetchRequest.exact.readFrom_start trivial)).mpr ?_).1
  change encodedPageSize ((crowdedTables largest 15).inboxPage 1 {}) ≤ maxPayloadSize
  rw [crowdedTables_pageSize (by decide), hlargest]
  decide

omit [Sodium] in
/-- Sixteen are not, although sixteen accepted requests put them there: the
connection of their recipient is closed. -/
theorem dm_fetch_sixteen_closed :
    letI := transparentSodium
    let largest : ByteString := List.replicate maxDmCiphertextSize 0
    let recipient := accountContext (crowdedTables largest 16) 1 (repeatedKey 1)
    Deliverable (crowdedTables largest 16) ∧
    ReadyToAnswer recipient (NoiseTransport.create (FixedBytes.zero _) (FixedBytes.zero _)) ∧
    (handleDmFetchRequest recipient (ByteReader.start (DmFetchRequest.writeTo {}))).1 = false := by
  intro largest recipient
  let _ := transparentSodium
  have hlargest : largest.length = maxDmCiphertextSize := List.length_replicate
  have hpos : largest ≠ [] := by
    rw [← List.length_pos_iff, hlargest]
    decide
  have ready := accountContext_ready (crowdedTables largest 16) (repeatedKey 1)
    (show (1 : ℤ) ≠ 0 by decide)
  have hdecoded : (DmFetchRequest.readFrom (ByteReader.start (DmFetchRequest.writeTo {}))).1 =
      some {} := DmFetchRequest.exact.readFrom_start trivial
  have hlarge : maxPayloadSize <
      ((crowdedTables largest 16).inboxResponse 1 {}).writeTo.length := by
    rw [inboxResponse_length, crowdedTables_pageSize (by decide), hlargest]
    decide
  refine ⟨crowdedTables_deliverable hpos hlargest.le (by decide), ready, ?_⟩
  rw [handleDmFetchRequest_eq ready hdecoded]
  exact congrArg Prod.fst (sendMessage_oversized hlarge)

end HyperCom
