import HyperCom.Protocol.ByteCodec

/-!
# Frames

`message_type`, `error_code` with the error half of `status_message`,
`frame_codec` and `length_prefixed_stream`. A frame is
`[u32 body_size][u8 type][payload]`; on the wire each sealed frame is in turn
preceded by its length, and `extract_length_prefixed_message` is the only place
that cuts the byte stream back into messages.

The two facts the rest relies on: extraction inverts appending
(`extract_append`), and a concatenation of length-prefixed messages determines
the messages (`lengthPrefixed_flatMap_inj`).
-/

namespace HyperCom

open BinaryCodec

/-! ## `message_type` -/

/-- One byte on the wire, one family per block of 16. -/
inductive MessageType where
  | helloRequest | helloResponse | authChallenge | authResponse | authAccepted | pingRequest
  | pingResponse | motdPush | statusOk | statusError
  | registerRequest | prekeyPublishRequest | prekeyFetchRequest | prekeyBundleResponse
  | forumCreateRequest | forumInfoResponse | forumListRequest | forumListResponse
  | postCreateRequest | postInfoResponse | postListRequest | postListResponse
  | threadFetchRequest | threadResponse | commentCreateRequest | commentInfoResponse
  | postDeleteRequest | commentDeleteRequest
  | profileGetRequest | profileResponse | profileSetRequest | friendAddRequest
  | friendListRequest | friendListResponse | top8SetRequest | top8GetRequest | top8Response
  | dmSendRequest | dmFetchRequest | dmListResponse | dmAckRequest
  | blobAnnounceRequest | blobLocateRequest | blobPeersResponse
  | reportPostRequest | reportAccountRequest
deriving DecidableEq

namespace MessageType

/-- The frozen wire value. -/
def toRaw : MessageType → UInt8
  | helloRequest => 0x01
  | helloResponse => 0x02
  | authChallenge => 0x03
  | authResponse => 0x04
  | authAccepted => 0x05
  | pingRequest => 0x06
  | pingResponse => 0x07
  | motdPush => 0x08
  | statusOk => 0x09
  | statusError => 0x0A
  | registerRequest => 0x10
  | prekeyPublishRequest => 0x11
  | prekeyFetchRequest => 0x12
  | prekeyBundleResponse => 0x13
  | forumCreateRequest => 0x20
  | forumInfoResponse => 0x21
  | forumListRequest => 0x22
  | forumListResponse => 0x23
  | postCreateRequest => 0x30
  | postInfoResponse => 0x31
  | postListRequest => 0x32
  | postListResponse => 0x33
  | threadFetchRequest => 0x34
  | threadResponse => 0x35
  | commentCreateRequest => 0x36
  | commentInfoResponse => 0x37
  | postDeleteRequest => 0x38
  | commentDeleteRequest => 0x39
  | profileGetRequest => 0x40
  | profileResponse => 0x41
  | profileSetRequest => 0x42
  | friendAddRequest => 0x43
  | friendListRequest => 0x44
  | friendListResponse => 0x45
  | top8SetRequest => 0x46
  | top8GetRequest => 0x47
  | top8Response => 0x48
  | dmSendRequest => 0x50
  | dmFetchRequest => 0x51
  | dmListResponse => 0x52
  | dmAckRequest => 0x53
  | blobAnnounceRequest => 0x60
  | blobLocateRequest => 0x61
  | blobPeersResponse => 0x62
  | reportPostRequest => 0x70
  | reportAccountRequest => 0x71

/-- The declared enumerators. -/
def all : List MessageType := [
  .helloRequest, .helloResponse, .authChallenge, .authResponse, .authAccepted, .pingRequest,
  .pingResponse, .motdPush, .statusOk, .statusError, .registerRequest, .prekeyPublishRequest,
  .prekeyFetchRequest, .prekeyBundleResponse, .forumCreateRequest, .forumInfoResponse,
  .forumListRequest, .forumListResponse, .postCreateRequest, .postInfoResponse, .postListRequest,
  .postListResponse, .threadFetchRequest, .threadResponse, .commentCreateRequest,
  .commentInfoResponse, .postDeleteRequest, .commentDeleteRequest, .profileGetRequest,
  .profileResponse, .profileSetRequest, .friendAddRequest, .friendListRequest,
  .friendListResponse, .top8SetRequest, .top8GetRequest, .top8Response, .dmSendRequest,
  .dmFetchRequest, .dmListResponse, .dmAckRequest, .blobAnnounceRequest, .blobLocateRequest,
  .blobPeersResponse, .reportPostRequest, .reportAccountRequest]

/-- `is_known_message_type` together with the cast that follows it. -/
def ofRaw (raw : UInt8) : Option MessageType := all.find? fun type => type.toRaw == raw

theorem ofRaw_toRaw (type : MessageType) : ofRaw type.toRaw = some type := by
  cases type <;> decide

end MessageType

/-! ## `error_code` and `status_error_response` -/

/-- The application-level error codes, coarse on purpose. -/
inductive ErrorCode where
  | none | malformedFrame | unsupportedVersion | notAuthenticated | alreadyAuthenticated
  | authenticationFailed | handleUnavailable | invalidField | notFound | permissionDenied
  | rateLimited | payloadTooLarge | duplicateEntry | internalError | notImplemented
  | accountBanned
deriving DecidableEq

/-- The enumerator's number. -/
def ErrorCode.toRaw : ErrorCode → UInt16
  | none => 0
  | malformedFrame => 1
  | unsupportedVersion => 2
  | notAuthenticated => 3
  | alreadyAuthenticated => 4
  | authenticationFailed => 5
  | handleUnavailable => 6
  | invalidField => 7
  | notFound => 8
  | permissionDenied => 9
  | rateLimited => 10
  | payloadTooLarge => 11
  | duplicateEntry => 12
  | internalError => 13
  | notImplemented => 14
  | accountBanned => 15

/-- Every error code. -/
def ErrorCode.all : List ErrorCode := [
  none, malformedFrame, unsupportedVersion, notAuthenticated, alreadyAuthenticated,
  authenticationFailed, handleUnavailable, invalidField, notFound, permissionDenied, rateLimited,
  payloadTooLarge, duplicateEntry, internalError, notImplemented, accountBanned]

/-- `describe_error_code` -/
def describeErrorCode : ErrorCode → ByteString
  | .none => ascii "ok"
  | .malformedFrame => ascii "trame invalide"
  | .unsupportedVersion => ascii "version non supportee"
  | .notAuthenticated => ascii "authentification requise"
  | .alreadyAuthenticated => ascii "session deja authentifiee"
  | .authenticationFailed => ascii "authentification refusee"
  | .handleUnavailable => ascii "pseudo indisponible"
  | .invalidField => ascii "champ invalide"
  | .notFound => ascii "introuvable"
  | .permissionDenied => ascii "acces refuse"
  | .rateLimited => ascii "trop de requetes"
  | .payloadTooLarge => ascii "charge utile trop grande"
  | .duplicateEntry => ascii "entree deja existante"
  | .internalError => ascii "erreur interne"
  | .notImplemented => ascii "non implemente"
  | .accountBanned => ascii "compte banni"

/-- The detail is meant for the human; the code is what a client may act on. -/
structure StatusErrorResponse where
  code : ErrorCode := .internalError
  detail : ByteString := []
deriving DecidableEq

def StatusErrorResponse.writeTo (response : StatusErrorResponse) : ByteString :=
  List.flatten [writeInteger response.code.toRaw, writeTextField response.detail]

/-- `read_error_code`: a number above that of `not_implemented` is refused,
`account_banned` included. -/
def readErrorCode : Reader ErrorCode := do
  let raw ← readInteger UInt16
  if raw > ErrorCode.notImplemented.toRaw then Fallible.fail
  else Fallible.ofOption (ErrorCode.all.find? fun code => code.toRaw == raw)

def StatusErrorResponse.readFrom : Reader StatusErrorResponse := do
  let code ← readErrorCode
  let detail ← readTextField maxErrorMessageLength
  pure { code, detail }

/-! ## `frame_codec` -/

/-- `frame_header` -/
structure FrameHeader where
  bodySize : UInt32
  type : MessageType

/-- `peek_body_size`: an empty frame does not exist, there is always at least
the type byte. -/
def peekBodySize (input : ByteString) : Option UInt32 :=
  match loadLittleEndian UInt32 input with
  | none => none
  | some announced =>
    if announced.toNat < frameTypeFieldSize || announced.toNat > maxBodySize then none
    else some announced

/-- `decode_frame_header` -/
def decodeFrameHeader (input : ByteString) : Option FrameHeader :=
  if input.length < frameHeaderSize then none
  else
    match peekBodySize input with
    | none => none
    | some bodySize =>
      match input[frameLengthFieldSize]? with
      | none => none
      | some rawType =>
        match MessageType.ofRaw rawType with
        | none => none
        | some type => some { bodySize, type }

/-- The bytes `encode_frame` writes once the payload is known to fit. -/
def frameBytes (type : MessageType) (payload : ByteString) : ByteString :=
  List.flatten [
    writeInteger (UInt32.ofNat (frameTypeFieldSize + payload.length)),
    writeInteger type.toRaw,
    writeFixedBytes payload]

/-- `encode_frame` -/
def encodeFrame (type : MessageType) (payload : ByteString) : Option ByteString :=
  if payload.length > maxPayloadSize then none else some (frameBytes type payload)

@[simp] theorem frameBytes_length (type : MessageType) (payload : ByteString) :
    (frameBytes type payload).length = frameHeaderSize + payload.length := by
  simp [frameBytes, writeInteger, writeFixedBytes, UnsignedInteger.size, frameHeaderSize,
    frameLengthFieldSize, frameTypeFieldSize]
  omega

/-- Encoding succeeds exactly when the payload fits. -/
theorem encodeFrame_eq_some {type : MessageType} {payload frame : ByteString} :
    encodeFrame type payload = some frame ↔
      payload.length ≤ maxPayloadSize ∧ frame = frameBytes type payload := by
  unfold encodeFrame
  split
  · next h => simp only [reduceCtorEq, false_iff]; omega
  · next h => simp only [Option.some.injEq, Nat.not_lt.mp h, true_and, eq_comm]

/-- The body of a frame that is encoded fits its length field. -/
theorem bodySize_toNat {payload : ByteString} (h : payload.length ≤ maxPayloadSize) :
    (UInt32.ofNat (frameTypeFieldSize + payload.length)).toNat =
      frameTypeFieldSize + payload.length := by
  apply UInt32.toNat_ofNat_of_lt'
  simp only [UInt32.size, frameTypeFieldSize, maxPayloadSize, maxFrameSize, frameHeaderSize,
    frameLengthFieldSize] at *
  omega

/-- The announced length is that of the frame. -/
theorem frameBytes_bodySize {type : MessageType} {payload : ByteString}
    (h : payload.length ≤ maxPayloadSize) :
    (frameBytes type payload).length =
      frameLengthFieldSize + (UInt32.ofNat (frameTypeFieldSize + payload.length)).toNat := by
  rw [bodySize_toNat h, frameBytes_length, frameHeaderSize, Nat.add_assoc]

/-- The header of an encoded frame, and its payload. -/
theorem decodeFrameHeader_frameBytes {type : MessageType} {payload : ByteString}
    (h : payload.length ≤ maxPayloadSize) :
    decodeFrameHeader (frameBytes type payload) =
      some { bodySize := UInt32.ofNat (frameTypeFieldSize + payload.length), type } := by
  have hlen : ¬ (frameBytes type payload).length < frameHeaderSize := by simp
  have hnat := bodySize_toNat h
  have hpeek : peekBodySize (frameBytes type payload) =
      some (UInt32.ofNat (frameTypeFieldSize + payload.length)) := by
    have hload : loadLittleEndian UInt32 (frameBytes type payload) = _ :=
      loadLittleEndian_store (UInt32.ofNat (frameTypeFieldSize + payload.length))
        [writeInteger type.toRaw, writeFixedBytes payload].flatten
    rw [peekBodySize, hload]
    simp only [hnat, maxPayloadSize, maxBodySize, maxFrameSize, frameHeaderSize,
      frameLengthFieldSize, frameTypeFieldSize, Bool.or_eq_true, decide_eq_true_eq] at *
    rw [if_neg (by omega)]
  have htype : (frameBytes type payload)[frameLengthFieldSize]? = some type.toRaw := by
    have hprefix := storeLittleEndian_length (UInt32.ofNat (frameTypeFieldSize + payload.length))
    have hone : writeInteger type.toRaw = [type.toRaw] := by
      simp [writeInteger, storeLittleEndian, encodeLE, UnsignedInteger.size,
        UnsignedInteger.toNat]
    rw [frameBytes, List.flatten_cons, List.flatten_cons, hone]
    rw [List.getElem?_append_right (by rw [writeInteger, hprefix]; decide), writeInteger, hprefix]
    rfl
  rw [decodeFrameHeader, if_neg hlen, hpeek, htype]
  simp only [MessageType.ofRaw_toRaw]

theorem frameBytes_payload (type : MessageType) (payload : ByteString) :
    (frameBytes type payload).drop frameHeaderSize = payload := by
  have h : (writeInteger (UInt32.ofNat (frameTypeFieldSize + payload.length)) ++
      writeInteger type.toRaw).length = frameHeaderSize := by
    simp [writeInteger, UnsignedInteger.size, frameHeaderSize, frameLengthFieldSize,
      frameTypeFieldSize]
  rw [frameBytes, List.flatten_cons, List.flatten_cons, ← List.append_assoc, List.drop_left' h]
  simp [writeFixedBytes]

/-! ## `length_prefixed_stream` -/

/-- What `extract_length_prefixed_message` reports: a message detached from the
buffer, not enough bytes yet, or a length that violates the cap. -/
inductive Extraction where
  | message (payload rest : ByteString)
  | incomplete
  | malformed
deriving DecidableEq

/-- `extract_length_prefixed_message`: the announced length is compared with the
cap before waiting for the bytes. -/
def extractLengthPrefixedMessage (buffer : ByteString) (maximumSize : ℕ) : Extraction :=
  if buffer.length < frameLengthFieldSize then .incomplete
  else
    match loadLittleEndian UInt32 buffer with
    | none => .incomplete
    | some announced =>
      let length := announced.toNat
      if length = 0 || length > maximumSize then .malformed
      else if buffer.length < frameLengthFieldSize + length then .incomplete
      else .message ((buffer.drop frameLengthFieldSize).take length)
        (buffer.drop (frameLengthFieldSize + length))

/-- `append_length_prefixed_message`: the bytes it appends. -/
def appendLengthPrefixedMessage (payload : ByteString) : ByteString :=
  writeInteger (UInt32.ofNat payload.length) ++ writeFixedBytes payload

@[simp] theorem appendLengthPrefixedMessage_length (payload : ByteString) :
    (appendLengthPrefixedMessage payload).length = frameLengthFieldSize + payload.length := by
  simp [appendLengthPrefixedMessage, writeInteger, writeFixedBytes, UnsignedInteger.size,
    frameLengthFieldSize]

/-- A message detached is one message shorter a buffer, so extraction can only
succeed finitely often. -/
theorem extract_rest_length {buffer payload rest : ByteString} {maximumSize : ℕ}
    (h : extractLengthPrefixedMessage buffer maximumSize = .message payload rest) :
    rest.length < buffer.length := by
  unfold extractLengthPrefixedMessage at h
  split_ifs at h with hshort
  split at h
  · cases h
  · next announced _ =>
    simp only at h
    split_ifs at h with hcap hwait
    obtain ⟨-, rfl⟩ := Extraction.message.inj h
    simp only [List.length_drop, frameLengthFieldSize] at *
    omega

/-- Extraction inverts appending, whatever follows. -/
theorem extract_append {payload rest : ByteString} {maximumSize : ℕ} (hpos : payload ≠ [])
    (hmax : payload.length ≤ maximumSize) (hword : payload.length < 2 ^ 32) :
    extractLengthPrefixedMessage (appendLengthPrefixedMessage payload ++ rest) maximumSize =
      .message payload rest := by
  have hlen := appendLengthPrefixedMessage_length payload
  have hnat : (UInt32.ofNat payload.length).toNat = payload.length :=
    UInt32.toNat_ofNat_of_lt' hword
  have hload : loadLittleEndian UInt32 (appendLengthPrefixedMessage payload ++ rest) =
      some (UInt32.ofNat payload.length) := by
    rw [appendLengthPrefixedMessage, List.append_assoc]
    exact loadLittleEndian_store ..
  have hcap : ¬ ((payload.length = 0 || payload.length > maximumSize) = true) := by
    have := List.length_pos_of_ne_nil hpos
    simp only [Bool.or_eq_true, decide_eq_true_eq]
    omega
  have hdrop : (appendLengthPrefixedMessage payload ++ rest).drop frameLengthFieldSize =
      payload ++ rest := by
    have hprefix := storeLittleEndian_length (UInt32.ofNat payload.length)
    rw [appendLengthPrefixedMessage, List.append_assoc, writeInteger, writeFixedBytes]
    exact List.drop_left' hprefix
  rw [extractLengthPrefixedMessage, if_neg (by simp; omega), hload]
  simp only [hnat, if_neg hcap]
  rw [if_neg (by simp), hdrop, List.take_left, ← List.drop_drop, hdrop, List.drop_left]

/-- A proper piece of a length-prefixed message is not extracted: the reader
waits for the rest. -/
theorem extract_incomplete {payload buffer missing rest : ByteString} {maximumSize : ℕ}
    (hpos : payload ≠ []) (hmax : payload.length ≤ maximumSize) (hword : payload.length < 2 ^ 32)
    (hbuffer : buffer ++ missing = appendLengthPrefixedMessage payload ++ rest)
    (hshort : buffer.length < (appendLengthPrefixedMessage payload).length) :
    extractLengthPrefixedMessage buffer maximumSize = .incomplete := by
  rw [appendLengthPrefixedMessage_length] at hshort
  by_cases hfield : buffer.length < frameLengthFieldSize
  · rw [extractLengthPrefixedMessage, if_pos hfield]
  -- the length field is there: it announces a payload that is not
  · have hload : loadLittleEndian UInt32 buffer = some (UInt32.ofNat payload.length) := by
      have hall := loadLittleEndian_store (UInt32.ofNat payload.length)
        (writeFixedBytes payload ++ rest)
      have hsame : storeLittleEndian (UInt32.ofNat payload.length) ++
          (writeFixedBytes payload ++ rest) = buffer ++ missing := by
        rw [hbuffer, appendLengthPrefixedMessage, List.append_assoc, writeInteger]
      rw [hsame] at hall
      unfold loadLittleEndian at hall ⊢
      have hsize : UnsignedInteger.size UInt32 = 4 := rfl
      simp only [frameLengthFieldSize] at hfield
      rw [hsize] at hall ⊢
      rw [if_neg (by simp; omega), List.take_append_of_le_length (by omega)] at hall
      rw [if_neg (by omega), hall]
    have hnat : (UInt32.ofNat payload.length).toNat = payload.length :=
      UInt32.toNat_ofNat_of_lt' hword
    have hcap : ¬ ((payload.length = 0 || payload.length > maximumSize) = true) := by
      have := List.length_pos_of_ne_nil hpos
      simp only [Bool.or_eq_true, decide_eq_true_eq]
      omega
    rw [extractLengthPrefixedMessage, if_neg hfield, hload]
    simp only [hnat, if_neg hcap]
    rw [if_pos (by omega)]

/-- What is extracted from the part of a stream that has arrived is the first
message of the stream. -/
theorem extract_stream {buffer later message rest : ByteString} {messages : List ByteString}
    {maximumSize : ℕ} (hword : maximumSize < 2 ^ 32)
    (hsizes : ∀ m ∈ messages, m ≠ [] ∧ m.length ≤ maximumSize)
    (hstream : buffer ++ later = messages.flatMap appendLengthPrefixedMessage)
    (h : extractLengthPrefixedMessage buffer maximumSize = .message message rest) :
    ∃ messages', messages = message :: messages' ∧
      rest ++ later = messages'.flatMap appendLengthPrefixedMessage := by
  cases messages with
  | nil =>
    obtain ⟨rfl, -⟩ := List.append_eq_nil_iff.mp hstream
    cases h
  | cons first messages =>
    obtain ⟨hpos, hmax⟩ := hsizes first (List.mem_cons_self ..)
    have hfirst := lt_of_le_of_lt hmax hword
    rw [List.flatMap_cons] at hstream
    by_cases hshort : buffer.length < (appendLengthPrefixedMessage first).length
    · rw [extract_incomplete hpos hmax hfirst hstream hshort] at h
      cases h
    -- all of the first message is there
    · obtain ⟨arrived, rfl, harrived⟩ : ∃ arrived, buffer =
          appendLengthPrefixedMessage first ++ arrived ∧
          messages.flatMap appendLengthPrefixedMessage = arrived ++ later := by
        rcases List.append_eq_append_iff.mp hstream with ⟨missing, hmissing, -⟩ |
          ⟨arrived, hbuffer, hrest⟩
        · have hnil : missing = [] := by
            have := congrArg List.length hmissing
            rw [List.length_append] at this
            exact List.length_eq_zero_iff.mp (by omega)
          subst hnil
          rw [List.append_nil] at hmissing
          subst hmissing
          exact ⟨[], (List.append_nil _).symm, (List.append_cancel_left hstream).symm⟩
        · exact ⟨arrived, hbuffer, hrest⟩
      rw [extract_append hpos hmax hfirst] at h
      obtain ⟨rfl, rfl⟩ := Extraction.message.inj h
      exact ⟨messages, rfl, harrived.symm⟩

/-- The first message of a stream and what follows it are determined. -/
theorem lengthPrefixed_append_inj {a b x y : ByteString} (ha : a.length < 2 ^ 32)
    (hb : b.length < 2 ^ 32)
    (h : appendLengthPrefixedMessage a ++ x = appendLengthPrefixedMessage b ++ y) :
    a = b ∧ x = y := by
  have codec : WireExact writeLengthPrefixed (readLengthPrefixed (2 ^ 32 - 1)) _ :=
    readLengthPrefixed_exact (by decide)
  obtain ⟨reader, hread, hx⟩ := codec.complete (s := ByteReader.start _) (v := a)
    (Nat.le_sub_one_of_lt ha) rfl
  obtain ⟨reader', hread', hy⟩ := codec.complete (s := ByteReader.start _) (v := b)
    (Nat.le_sub_one_of_lt hb) rfl
  change appendLengthPrefixedMessage a ++ x = _ at h
  rw [show writeLengthPrefixed a ++ x = writeLengthPrefixed b ++ y from h, hread'] at hread
  obtain ⟨hab, rfl⟩ := Prod.mk.inj hread
  exact ⟨(Option.some.inj hab).symm, hx.symm.trans hy⟩

/-- A stream of length-prefixed messages has one reading. -/
theorem lengthPrefixed_flatMap_inj {xs ys : List ByteString} (hxs : ∀ x ∈ xs, x.length < 2 ^ 32)
    (hys : ∀ y ∈ ys, y.length < 2 ^ 32)
    (h : xs.flatMap appendLengthPrefixedMessage = ys.flatMap appendLengthPrefixedMessage) :
    xs = ys := by
  induction xs generalizing ys with
  | nil =>
    cases ys with
    | nil => rfl
    | cons y ys =>
      have := congrArg List.length h
      simp only [List.flatMap_nil, List.flatMap_cons, List.length_append, List.length_nil,
        appendLengthPrefixedMessage_length, frameLengthFieldSize] at this
      omega
  | cons x xs ih =>
    cases ys with
    | nil =>
      have := congrArg List.length h
      simp [frameLengthFieldSize] at this
    | cons y ys =>
      rw [List.flatMap_cons, List.flatMap_cons] at h
      obtain ⟨rfl, htail⟩ := lengthPrefixed_append_inj (hxs x (List.mem_cons_self ..))
        (hys y (List.mem_cons_self ..)) h
      rw [ih (fun z hz => hxs z (List.mem_cons_of_mem _ hz))
        (fun z hz => hys z (List.mem_cons_of_mem _ hz)) htail]

/-- No message of a stream is longer than the stream. -/
theorem length_lt_of_flatMap {stream : ByteString} {xs : List ByteString} {bound : ℕ}
    (h : stream = xs.flatMap appendLengthPrefixedMessage) (hshort : stream.length < bound) :
    ∀ x ∈ xs, x.length < bound := by
  intro x hx
  obtain ⟨before, after, rfl⟩ := List.append_of_mem hx
  rw [h] at hshort
  simp only [List.flatMap_append, List.flatMap_cons, List.length_append,
    appendLengthPrefixedMessage_length] at hshort
  omega

end HyperCom
