import HyperCom.Protocol.MessageCodec
import HyperCom.Server.Inbox

/-!
# Requests that are understood whole

A handler decodes its request from the front of the payload and never asks its
reader whether anything is left. `routeMessage_append` says what that comes to:
a well-formed request followed by more bytes is the request. So the frames that
are served although they are no encoding of a request are exactly those.

It is one condition for all requests: the payload is an encoding, or it is one with
something behind it. The state of the session decides separately whether a request that is
understood is served.
-/

namespace HyperCom

open BinaryCodec

/-- The structure a request type carries. `friend_list_request` carries none. -/
def requestKind : MessageType → Option MessageKind
  | .helloRequest => some .helloRequest
  | .authResponse => some .authResponse
  | .registerRequest => some .registerRequest
  | .pingRequest => some .pingRequest
  | .forumCreateRequest => some .forumCreateRequest
  | .forumListRequest => some .forumListRequest
  | .postCreateRequest => some .postCreateRequest
  | .postListRequest => some .postListRequest
  | .threadFetchRequest => some .threadFetchRequest
  | .commentCreateRequest => some .commentCreateRequest
  | .postDeleteRequest => some .postDeleteRequest
  | .commentDeleteRequest => some .commentDeleteRequest
  | .prekeyPublishRequest => some .prekeyPublishRequest
  | .prekeyFetchRequest => some .prekeyFetchRequest
  | .profileGetRequest => some .profileGetRequest
  | .profileSetRequest => some .profileSetRequest
  | .friendAddRequest => some .friendAddRequest
  | .top8SetRequest => some .top8SetRequest
  | .top8GetRequest => some .top8GetRequest
  | .dmSendRequest => some .dmSendRequest
  | .dmFetchRequest => some .dmFetchRequest
  | .dmAckRequest => some .dmAckRequest
  | .reportPostRequest => some .reportPostRequest
  | .reportAccountRequest => some .reportAccountRequest
  | _ => none

/-- The payload is exactly the encoding of a request of the type. -/
def Encodes (type : MessageType) (payload : ByteString) : Prop :=
  match requestKind type with
  | some kind => ∃ value, kind.InRange value ∧ payload = kind.writeTo value
  | none => type = .friendListRequest ∧ payload = []

/-- The payload starts with the encoding of a request. -/
def StartsWithRequest (type : MessageType) (payload : ByteString) : Prop :=
  ∃ request suffix, payload = request ++ suffix ∧ Encodes type request

variable [Sodium]

/-- What a handler can do with a frame it does not serve: close the connection
with everything as it was, or report an error and do nothing else. -/
inductive Rejected (context : HandlerContext) : Bool × HandlerContext → Prop where
  | closed : Rejected context (false, context)
  | refused (code : ErrorCode) (staysOpen : Bool) :
      Rejected context (staysOpen, (sendStatusError context code).2)

section Guarded

variable {α : Type} {readFrom : Reader α} {body : HandlerContext → α → Bool × HandlerContext}
  {context : HandlerContext} {reader reader' : ByteReader}

/-- A rejected frame leaves the database alone. -/
theorem Rejected.database_eq {out : Bool × HandlerContext} (h : Rejected context out) :
    out.2.database = context.database := by
  cases h with
  | closed => rfl
  | refused code staysOpen => rfl

/-- A rejected frame that leaves the connection open is answered with an error. -/
theorem Rejected.error {out : Bool × HandlerContext} (h : Rejected context out)
    (hopen : out.1 = true) : ∃ code, out.2 = (sendStatusError context code).2 := by
  cases h with
  | closed => cases hopen
  | refused code staysOpen => exact ⟨code, rfl⟩

theorem rejected_sendStatusError (context : HandlerContext) (code : ErrorCode) :
    Rejected context (sendStatusError context code) := .refused code _

/-- Of its reader a handler sees the request alone. -/
theorem guardedRequest_congr (h : (readFrom reader).1 = (readFrom reader').1) :
    guardedRequest readFrom body context reader = guardedRequest readFrom body context reader' := by
  simp [guardedRequest, h]

/-- A payload that does not decode is rejected. -/
theorem guardedRequest_rejected (h : (readFrom reader).1 = none) :
    Rejected context (guardedRequest readFrom body context reader) := by
  rcases hregistered : context.connection.session.isRegistered with _ | _
  · rw [guardedRequest_refused hregistered]
    exact .refused _ _
  · rw [guardedRequest_undecoded hregistered h]
    exact .closed

end Guarded

variable {context : HandlerContext} {type : MessageType} {reader reader' : ByteReader}
  {payload request suffix : ByteString}

/-- The router sees the request alone. -/
theorem routeMessage_congr {kind : MessageKind} (hkind : requestKind type = some kind)
    (h : (kind.readFrom reader).1 = (kind.readFrom reader').1) :
    routeMessage context type reader = routeMessage context type reader' := by
  cases type with
  | helloRequest =>
    obtain rfl := Option.some.inj hkind
    have hread : (HelloRequest.readFrom reader).1 = (HelloRequest.readFrom reader').1 := h
    simp [routeMessage, handleHelloRequest, hread]
  | authResponse =>
    obtain rfl := Option.some.inj hkind
    have hread : (AuthResponse.readFrom reader).1 = (AuthResponse.readFrom reader').1 := h
    simp [routeMessage, handleAuthResponse, hread]
  | registerRequest =>
    obtain rfl := Option.some.inj hkind
    have hread : (RegisterRequest.readFrom reader).1 = (RegisterRequest.readFrom reader').1 := h
    simp [routeMessage, handleRegisterRequest, hread]
  | pingRequest =>
    obtain rfl := Option.some.inj hkind
    have hread : (PingRequest.readFrom reader).1 = (PingRequest.readFrom reader').1 := h
    simp [routeMessage, handlePingRequest, hread]
  | friendListRequest | helloResponse | authChallenge | authAccepted | pingResponse | motdPush
  | statusOk | statusError | prekeyBundleResponse | forumInfoResponse | forumListResponse
  | postInfoResponse | postListResponse | threadResponse | commentInfoResponse
  | profileResponse | friendListResponse | top8Response | dmListResponse
  | blobAnnounceRequest | blobLocateRequest | blobPeersResponse => cases hkind
  | _ =>
    obtain rfl := Option.some.inj hkind
    exact guardedRequest_congr h

/-- What does not decode is rejected. -/
theorem routeMessage_undecoded {kind : MessageKind} (hkind : requestKind type = some kind)
    (h : (kind.readFrom reader).1 = none) :
    Rejected context (routeMessage context type reader) := by
  cases type with
  | helloRequest =>
    obtain rfl := Option.some.inj hkind
    have hread : (HelloRequest.readFrom reader).1 = none := h
    simp only [routeMessage, handleHelloRequest, hread]
    split
    · exact rejected_sendStatusError ..
    · exact .closed
  | authResponse =>
    obtain rfl := Option.some.inj hkind
    have hread : (AuthResponse.readFrom reader).1 = none := h
    simp only [routeMessage, handleAuthResponse, hread]
    split
    · exact rejected_sendStatusError ..
    · exact .closed
  | registerRequest =>
    obtain rfl := Option.some.inj hkind
    have hread : (RegisterRequest.readFrom reader).1 = none := h
    simp only [routeMessage, handleRegisterRequest, hread]
    split
    · exact rejected_sendStatusError ..
    split
    · exact rejected_sendStatusError ..
    · exact .closed
  | pingRequest =>
    obtain rfl := Option.some.inj hkind
    have hread : (PingRequest.readFrom reader).1 = none := h
    simp only [routeMessage, handlePingRequest, hread]
    exact .closed
  | friendListRequest | helloResponse | authChallenge | authAccepted | pingResponse | motdPush
  | statusOk | statusError | prekeyBundleResponse | forumInfoResponse | forumListResponse
  | postInfoResponse | postListResponse | threadResponse | commentInfoResponse
  | profileResponse | friendListResponse | top8Response | dmListResponse
  | blobAnnounceRequest | blobLocateRequest | blobPeersResponse => cases hkind
  | _ =>
    obtain rfl := Option.some.inj hkind
    exact guardedRequest_rejected h

/-- A type without a structure is a list of friends, or is not implemented. -/
theorem routeMessage_unstructured (hkind : requestKind type = none) :
    type = .friendListRequest ∨ Rejected context (routeMessage context type reader) := by
  cases type with
  | friendListRequest => exact .inl rfl
  | helloResponse | authChallenge | authAccepted | pingResponse | motdPush
  | statusOk | statusError | prekeyBundleResponse | forumInfoResponse | forumListResponse
  | postInfoResponse | postListResponse | threadResponse | commentInfoResponse
  | profileResponse | friendListResponse | top8Response | dmListResponse
  | blobAnnounceRequest | blobLocateRequest | blobPeersResponse =>
    exact .inr (rejected_sendStatusError ..)
  | _ => cases hkind

/-- Bytes behind a request make no difference. -/
theorem routeMessage_append (hrequest : Encodes type request) :
    routeMessage context type (ByteReader.start (request ++ suffix)) =
      routeMessage context type (ByteReader.start request) := by
  unfold Encodes at hrequest
  split at hrequest
  · next kind hkind =>
    obtain ⟨value, hvalue, rfl⟩ := hrequest
    have halone : (ByteReader.start (kind.writeTo value)).remaining = kind.writeTo value ++ [] := by
      simp
    obtain ⟨left, hleft, -⟩ := kind.exact.complete hvalue
      (ByteReader.remaining_start (kind.writeTo value ++ suffix))
    obtain ⟨left', hleft', -⟩ := kind.exact.complete hvalue halone
    exact routeMessage_congr hkind (by rw [hleft, hleft'])
  · obtain ⟨rfl, -⟩ := hrequest
    rfl

/-- What is not rejected starts with a request. -/
theorem startsWithRequest_of_served
    (h : ¬ Rejected context (routeMessage context type (ByteReader.start payload))) :
    StartsWithRequest type payload := by
  rcases hkind : requestKind type with _ | kind
  · rcases routeMessage_unstructured hkind with rfl | hrejected
    · exact ⟨[], payload, rfl, rfl, rfl⟩
    · exact absurd hrejected h
  · rcases hread : kind.readFrom (ByteReader.start payload) with ⟨_ | value, left⟩
    · exact absurd (routeMessage_undecoded hkind (by rw [hread])) h
    · obtain ⟨hvalue, hpayload⟩ := kind.exact.sound hread
      refine ⟨kind.writeTo value, left.remaining, hpayload, ?_⟩
      simp only [Encodes, hkind]
      exact ⟨value, hvalue, rfl⟩

/-- The frame is not half-understood: if it is served it is the encoding of a
request, and a request with more bytes behind it is rejected. -/
structure UnderstoodWhole (context : HandlerContext) (type : MessageType) (payload : ByteString) :
    Prop where
  encodes : ¬ Rejected context (routeMessage context type (ByteReader.start payload)) →
    Encodes type payload
  rejects : ∀ request suffix, payload = request ++ suffix → suffix ≠ [] → Encodes type request →
    Rejected context (routeMessage context type (ByteReader.start payload))

/-- The payload is a request with more bytes behind it, and the request is one
the server has no reason to reject. -/
def CarriesMore (context : HandlerContext) (type : MessageType) (payload : ByteString) : Prop :=
  ∃ request suffix, payload = request ++ suffix ∧ suffix ≠ [] ∧ Encodes type request ∧
    ¬ Rejected context (routeMessage context type (ByteReader.start request))

/-- Frames are understood whole except for those that carry more than a request
the server serves. -/
theorem understoodWhole_iff :
    UnderstoodWhole context type payload ↔ ¬ CarriesMore context type payload := by
  constructor
  · rintro h ⟨request, suffix, rfl, hsuffix, hrequest, hserved⟩
    have hrejected := h.rejects request suffix rfl hsuffix hrequest
    rw [routeMessage_append hrequest] at hrejected
    exact hserved hrejected
  · intro h
    constructor
    · intro hserved
      obtain ⟨request, suffix, rfl, hrequest⟩ := startsWithRequest_of_served hserved
      rcases suffix.eq_nil_or_concat' with rfl | hsuffix
      · simpa using hrequest
      · rw [routeMessage_append hrequest] at hserved
        refine absurd ⟨request, suffix, rfl, ?_, hrequest, hserved⟩ h
        rintro rfl
        simp at hsuffix
    · rintro request suffix rfl hsuffix hrequest
      rw [routeMessage_append hrequest]
      by_contra hserved
      exact h ⟨request, suffix, rfl, hsuffix, hrequest, hserved⟩

/-- A payload without bytes behind a request is understood whole in any state; one
with such bytes is in the states in which the request is rejected anyway. -/
theorem requests_understood_whole (type : MessageType) (payload : ByteString) :
    ((∀ request suffix, payload = request ++ suffix → Encodes type request → suffix = []) →
      ∀ context, UnderstoodWhole context type payload) ∧
    ∀ context, UnderstoodWhole context type payload ↔ ¬ CarriesMore context type payload := by
  refine ⟨fun hexact context => understoodWhole_iff.mpr ?_, fun context => understoodWhole_iff⟩
  rintro ⟨request, suffix, hpayload, hsuffix, hrequest, -⟩
  exact hsuffix (hexact request suffix hpayload hrequest)

/-! ## A request, and one with a byte too many -/

/-- A post of account 1. -/
def ownPost : PostRow :=
  { id := 1, forumId := 1, authorId := 1, title := [1], body := [2], createdAt := 0 }

omit [Sodium] in
/-- The request to erase it is understood: its eight bytes leave none behind a
request. -/
theorem requests_understood_whole_exact :
    letI := transparentSodium
    UnderstoodWhole (accountContext { posts := [ownPost] } 1 (repeatedKey 1)) .postDeleteRequest
      (PostDeleteRequest.writeTo { postId := 1 }) := by
  let _ := transparentSodium
  refine (requests_understood_whole .postDeleteRequest (PostDeleteRequest.writeTo { postId := 1 })).1
    (fun request suffix hpayload hrequest => ?_) _
  obtain ⟨value, -, rfl⟩ : ∃ value : PostDeleteRequest, _ ∧ request = value.writeTo := hrequest
  have hlength := congrArg List.length hpayload
  have hsize : ∀ value : PostDeleteRequest, value.writeTo.length = 8 := fun _ => rfl
  rw [List.length_append, hsize, hsize] at hlength
  exact List.length_eq_zero_iff.mp (by omega)

omit [Sodium] in
/-- The post is erased for a request with a byte behind it, and a list of
friends is sent for one that should be empty. -/
theorem trailing_byte_ignored :
    letI := transparentSodium
    let context := accountContext { posts := [ownPost] } 1 (repeatedKey 1)
    let payload := PostDeleteRequest.writeTo { postId := 1 } ++ [9]
    (routeMessage context .postDeleteRequest (ByteReader.start payload)).1 = true ∧
      (routeMessage context .postDeleteRequest
        (ByteReader.start payload)).2.database.tables.posts.map PostRow.title = [[]] ∧
      ¬ UnderstoodWhole context .postDeleteRequest payload ∧
      ¬ UnderstoodWhole context .friendListRequest [9] := by
  intro context payload
  let _ := transparentSodium
  have hkept : (routeMessage context .postDeleteRequest (ByteReader.start payload)).1 = true := by
    decide +kernel
  have herased : (routeMessage context .postDeleteRequest
      (ByteReader.start payload)).2.database.tables.posts.map PostRow.title = [[]] := by
    decide +kernel
  refine ⟨hkept, herased, fun h => ?_, fun h => ?_⟩
  · have hrejected := h.rejects _ [9] rfl (by decide) ⟨{ postId := 1 }, trivial, rfl⟩
    rw [hrejected.database_eq] at herased
    exact absurd herased (by decide)
  · have hrejected := h.rejects [] [9] rfl (by decide) ⟨rfl, rfl⟩
    obtain ⟨code, herror⟩ := hrejected.error (by decide +kernel)
    have hlength := congrArg (·.connection.socket.pendingOutput.length) herror
    revert hlength
    cases code <;> decide +kernel

end HyperCom
