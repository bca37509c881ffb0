import HyperCom.Protocol.ContentMessages
import HyperCom.Protocol.SessionMessages
import HyperCom.Protocol.SocialMessages

/-!
# The wire codec as a whole

`MessageKind` names every structure of the protocol with a `write_to` and a
`read_from`, the nested records included, except `status_error_response`. The
codec of the whole protocol is then one function of the kind, and the round
trip and the canonicity of the encoding are one statement about all of them.

The families below are indexed by the kind, so `kind.Value` is a type and `kind.writeTo` a
function on it. Nothing is decided here: each branch names the definition of its message,
and the proof of `exact` names its lemma. What is gained is that a property of the codec has
one statement, and that no message can be left out of it without the match failing.

`status_error_response` is missing on purpose. Its reader refuses one of the codes its
writer can write (`Protocol.ErrorReports`), so it is not exact on the values the server
sends.
-/

namespace HyperCom

open BinaryCodec

/-- The message and record structures of the protocol. -/
inductive MessageKind where
  | helloRequest | authChallenge | authResponse | authAccepted | registerRequest
  | pingRequest | pingResponse | motdPush | statusOkResponse
  | forumRecord | forumCreateRequest | forumInfoResponse | forumListRequest | forumListResponse
  | postRecord | postCreateRequest | postInfoResponse | postListRequest | postListResponse
  | threadFetchRequest | threadResponse
  | commentRecord | commentCreateRequest | commentInfoResponse
  | postDeleteRequest | commentDeleteRequest
  | profileRecord | profileGetRequest | profileResponse | profileSetRequest
  | friendRecord | friendAddRequest | friendListResponse
  | top8SetRequest | top8GetRequest | top8Response
  | prekeyPublishRequest | prekeyFetchRequest | prekeyBundleResponse
  | dmEnvelopeRecord | dmSendRequest | dmFetchRequest | dmListResponse | dmAckRequest
  | reportPostRequest | reportAccountRequest
deriving DecidableEq

namespace MessageKind

/-- The structure a kind stands for. -/
def Value : MessageKind → Type
  | helloRequest => HelloRequest
  | authChallenge => AuthChallenge
  | authResponse => AuthResponse
  | authAccepted => AuthAccepted
  | registerRequest => RegisterRequest
  | pingRequest => PingRequest
  | pingResponse => PingResponse
  | motdPush => MotdPush
  | statusOkResponse => StatusOkResponse
  | forumRecord => ForumRecord
  | forumCreateRequest => ForumCreateRequest
  | forumInfoResponse => ForumInfoResponse
  | forumListRequest => ForumListRequest
  | forumListResponse => ForumListResponse
  | postRecord => PostRecord
  | postCreateRequest => PostCreateRequest
  | postInfoResponse => PostInfoResponse
  | postListRequest => PostListRequest
  | postListResponse => PostListResponse
  | threadFetchRequest => ThreadFetchRequest
  | threadResponse => ThreadResponse
  | commentRecord => CommentRecord
  | commentCreateRequest => CommentCreateRequest
  | commentInfoResponse => CommentInfoResponse
  | postDeleteRequest => PostDeleteRequest
  | commentDeleteRequest => CommentDeleteRequest
  | profileRecord => ProfileRecord
  | profileGetRequest => ProfileGetRequest
  | profileResponse => ProfileResponse
  | profileSetRequest => ProfileSetRequest
  | friendRecord => FriendRecord
  | friendAddRequest => FriendAddRequest
  | friendListResponse => FriendListResponse
  | top8SetRequest => Top8SetRequest
  | top8GetRequest => Top8GetRequest
  | top8Response => Top8Response
  | prekeyPublishRequest => PrekeyPublishRequest
  | prekeyFetchRequest => PrekeyFetchRequest
  | prekeyBundleResponse => PrekeyBundleResponse
  | dmEnvelopeRecord => DmEnvelopeRecord
  | dmSendRequest => DmSendRequest
  | dmFetchRequest => DmFetchRequest
  | dmListResponse => DmListResponse
  | dmAckRequest => DmAckRequest
  | reportPostRequest => ReportPostRequest
  | reportAccountRequest => ReportAccountRequest

/-- `write_to` of the structure. -/
def writeTo : (kind : MessageKind) → kind.Value → ByteString
  | helloRequest => HelloRequest.writeTo
  | authChallenge => AuthChallenge.writeTo
  | authResponse => AuthResponse.writeTo
  | authAccepted => AuthAccepted.writeTo
  | registerRequest => RegisterRequest.writeTo
  | pingRequest => PingRequest.writeTo
  | pingResponse => PingResponse.writeTo
  | motdPush => MotdPush.writeTo
  | statusOkResponse => StatusOkResponse.writeTo
  | forumRecord => ForumRecord.writeTo
  | forumCreateRequest => ForumCreateRequest.writeTo
  | forumInfoResponse => ForumInfoResponse.writeTo
  | forumListRequest => ForumListRequest.writeTo
  | forumListResponse => ForumListResponse.writeTo
  | postRecord => PostRecord.writeTo
  | postCreateRequest => PostCreateRequest.writeTo
  | postInfoResponse => PostInfoResponse.writeTo
  | postListRequest => PostListRequest.writeTo
  | postListResponse => PostListResponse.writeTo
  | threadFetchRequest => ThreadFetchRequest.writeTo
  | threadResponse => ThreadResponse.writeTo
  | commentRecord => CommentRecord.writeTo
  | commentCreateRequest => CommentCreateRequest.writeTo
  | commentInfoResponse => CommentInfoResponse.writeTo
  | postDeleteRequest => PostDeleteRequest.writeTo
  | commentDeleteRequest => CommentDeleteRequest.writeTo
  | profileRecord => ProfileRecord.writeTo
  | profileGetRequest => ProfileGetRequest.writeTo
  | profileResponse => ProfileResponse.writeTo
  | profileSetRequest => ProfileSetRequest.writeTo
  | friendRecord => FriendRecord.writeTo
  | friendAddRequest => FriendAddRequest.writeTo
  | friendListResponse => FriendListResponse.writeTo
  | top8SetRequest => Top8SetRequest.writeTo
  | top8GetRequest => Top8GetRequest.writeTo
  | top8Response => Top8Response.writeTo
  | prekeyPublishRequest => PrekeyPublishRequest.writeTo
  | prekeyFetchRequest => PrekeyFetchRequest.writeTo
  | prekeyBundleResponse => PrekeyBundleResponse.writeTo
  | dmEnvelopeRecord => DmEnvelopeRecord.writeTo
  | dmSendRequest => DmSendRequest.writeTo
  | dmFetchRequest => DmFetchRequest.writeTo
  | dmListResponse => DmListResponse.writeTo
  | dmAckRequest => DmAckRequest.writeTo
  | reportPostRequest => ReportPostRequest.writeTo
  | reportAccountRequest => ReportAccountRequest.writeTo

/-- `read_from` of the structure. -/
def readFrom : (kind : MessageKind) → Reader kind.Value
  | helloRequest => HelloRequest.readFrom
  | authChallenge => AuthChallenge.readFrom
  | authResponse => AuthResponse.readFrom
  | authAccepted => AuthAccepted.readFrom
  | registerRequest => RegisterRequest.readFrom
  | pingRequest => PingRequest.readFrom
  | pingResponse => PingResponse.readFrom
  | motdPush => MotdPush.readFrom
  | statusOkResponse => StatusOkResponse.readFrom
  | forumRecord => ForumRecord.readFrom
  | forumCreateRequest => ForumCreateRequest.readFrom
  | forumInfoResponse => ForumInfoResponse.readFrom
  | forumListRequest => ForumListRequest.readFrom
  | forumListResponse => ForumListResponse.readFrom
  | postRecord => PostRecord.readFrom
  | postCreateRequest => PostCreateRequest.readFrom
  | postInfoResponse => PostInfoResponse.readFrom
  | postListRequest => PostListRequest.readFrom
  | postListResponse => PostListResponse.readFrom
  | threadFetchRequest => ThreadFetchRequest.readFrom
  | threadResponse => ThreadResponse.readFrom
  | commentRecord => CommentRecord.readFrom
  | commentCreateRequest => CommentCreateRequest.readFrom
  | commentInfoResponse => CommentInfoResponse.readFrom
  | postDeleteRequest => PostDeleteRequest.readFrom
  | commentDeleteRequest => CommentDeleteRequest.readFrom
  | profileRecord => ProfileRecord.readFrom
  | profileGetRequest => ProfileGetRequest.readFrom
  | profileResponse => ProfileResponse.readFrom
  | profileSetRequest => ProfileSetRequest.readFrom
  | friendRecord => FriendRecord.readFrom
  | friendAddRequest => FriendAddRequest.readFrom
  | friendListResponse => FriendListResponse.readFrom
  | top8SetRequest => Top8SetRequest.readFrom
  | top8GetRequest => Top8GetRequest.readFrom
  | top8Response => Top8Response.readFrom
  | prekeyPublishRequest => PrekeyPublishRequest.readFrom
  | prekeyFetchRequest => PrekeyFetchRequest.readFrom
  | prekeyBundleResponse => PrekeyBundleResponse.readFrom
  | dmEnvelopeRecord => DmEnvelopeRecord.readFrom
  | dmSendRequest => DmSendRequest.readFrom
  | dmFetchRequest => DmFetchRequest.readFrom
  | dmListResponse => DmListResponse.readFrom
  | dmAckRequest => DmAckRequest.readFrom
  | reportPostRequest => ReportPostRequest.readFrom
  | reportAccountRequest => ReportAccountRequest.readFrom

/-- Texts satisfy `validate_text_field` and their caps, blobs and lists their
caps. An enumerator is declared by its type. The kinds that are not listed
have fixed-width fields only. -/
def InRange : (kind : MessageKind) → kind.Value → Prop
  | authAccepted => AuthAccepted.InRange
  | registerRequest => RegisterRequest.InRange
  | motdPush => MotdPush.InRange
  | forumRecord => ForumRecord.InRange
  | forumCreateRequest => ForumCreateRequest.InRange
  | forumInfoResponse => ForumInfoResponse.InRange
  | forumListResponse => ForumListResponse.InRange
  | postRecord => PostRecord.InRange
  | postCreateRequest => PostCreateRequest.InRange
  | postInfoResponse => PostInfoResponse.InRange
  | postListResponse => PostListResponse.InRange
  | threadResponse => ThreadResponse.InRange
  | commentRecord => CommentRecord.InRange
  | commentCreateRequest => CommentCreateRequest.InRange
  | commentInfoResponse => CommentInfoResponse.InRange
  | profileRecord => ProfileRecord.InRange
  | profileResponse => ProfileResponse.InRange
  | profileSetRequest => ProfileSetRequest.InRange
  | friendRecord => FriendRecord.InRange
  | friendListResponse => FriendListResponse.InRange
  | top8Response => Top8Response.InRange
  | dmEnvelopeRecord => DmEnvelopeRecord.InRange
  | dmSendRequest => DmSendRequest.InRange
  | dmListResponse => DmListResponse.InRange
  | dmAckRequest => DmAckRequest.InRange
  | reportPostRequest => ReportPostRequest.InRange
  | reportAccountRequest => ReportAccountRequest.InRange
  | helloRequest => fun _ => True
  | authChallenge => fun _ => True
  | authResponse => fun _ => True
  | pingRequest => fun _ => True
  | pingResponse => fun _ => True
  | statusOkResponse => fun _ => True
  | forumListRequest => fun _ => True
  | postListRequest => fun _ => True
  | threadFetchRequest => fun _ => True
  | postDeleteRequest => fun _ => True
  | commentDeleteRequest => fun _ => True
  | profileGetRequest => fun _ => True
  | friendAddRequest => fun _ => True
  | top8SetRequest => fun _ => True
  | top8GetRequest => fun _ => True
  | prekeyPublishRequest => fun _ => True
  | prekeyFetchRequest => fun _ => True
  | prekeyBundleResponse => fun _ => True
  | dmFetchRequest => fun _ => True

/-- Every codec of the protocol is exact. -/
theorem exact : (kind : MessageKind) → WireExact kind.writeTo kind.readFrom kind.InRange
  | helloRequest => HelloRequest.exact
  | authChallenge => AuthChallenge.exact
  | authResponse => AuthResponse.exact
  | authAccepted => AuthAccepted.exact
  | registerRequest => RegisterRequest.exact
  | pingRequest => PingRequest.exact
  | pingResponse => PingResponse.exact
  | motdPush => MotdPush.exact
  | statusOkResponse => StatusOkResponse.exact
  | forumRecord => ForumRecord.exact
  | forumCreateRequest => ForumCreateRequest.exact
  | forumInfoResponse => ForumInfoResponse.exact
  | forumListRequest => ForumListRequest.exact
  | forumListResponse => ForumListResponse.exact
  | postRecord => PostRecord.exact
  | postCreateRequest => PostCreateRequest.exact
  | postInfoResponse => PostInfoResponse.exact
  | postListRequest => PostListRequest.exact
  | postListResponse => PostListResponse.exact
  | threadFetchRequest => ThreadFetchRequest.exact
  | threadResponse => ThreadResponse.exact
  | commentRecord => CommentRecord.exact
  | commentCreateRequest => CommentCreateRequest.exact
  | commentInfoResponse => CommentInfoResponse.exact
  | postDeleteRequest => PostDeleteRequest.exact
  | commentDeleteRequest => CommentDeleteRequest.exact
  | profileRecord => ProfileRecord.exact
  | profileGetRequest => ProfileGetRequest.exact
  | profileResponse => ProfileResponse.exact
  | profileSetRequest => ProfileSetRequest.exact
  | friendRecord => FriendRecord.exact
  | friendAddRequest => FriendAddRequest.exact
  | friendListResponse => FriendListResponse.exact
  | top8SetRequest => Top8SetRequest.exact
  | top8GetRequest => Top8GetRequest.exact
  | top8Response => Top8Response.exact
  | prekeyPublishRequest => PrekeyPublishRequest.exact
  | prekeyFetchRequest => PrekeyFetchRequest.exact
  | prekeyBundleResponse => PrekeyBundleResponse.exact
  | dmEnvelopeRecord => DmEnvelopeRecord.exact
  | dmSendRequest => DmSendRequest.exact
  | dmFetchRequest => DmFetchRequest.exact
  | dmListResponse => DmListResponse.exact
  | dmAckRequest => DmAckRequest.exact
  | reportPostRequest => ReportPostRequest.exact
  | reportAccountRequest => ReportAccountRequest.exact

end MessageKind

/-- The wire codec is a bijection between the values in range and the byte
strings the reader accepts. Reading a written value, whatever follows it,
returns the value and leaves exactly what follows; and whatever is read is in
range and is written back as the bytes that were consumed. -/
theorem message_codec_bijection (kind : MessageKind) :
    (∀ (value : kind.Value) (suffix : ByteString), kind.InRange value →
      ∃ reader', kind.readFrom (ByteReader.start (kind.writeTo value ++ suffix)) =
          (some value, reader') ∧ reader'.remaining = suffix) ∧
    (∀ (bytes : ByteString) (value : kind.Value) (reader' : ByteReader),
      kind.readFrom (ByteReader.start bytes) = (some value, reader') →
        kind.InRange value ∧ bytes = kind.writeTo value ++ reader'.remaining) := by
  refine ⟨?_, ?_⟩
  · intro value suffix hvalue
    exact kind.exact.complete hvalue (ByteReader.remaining_start _)
  · intro bytes value reader' hread
    exact kind.exact.sound hread

/-- A private message carried through the codec, one byte of junk after it. -/
theorem message_codec_bijection_dmSendRequest :
    ∃ reader', MessageKind.dmSendRequest.readFrom (ByteReader.start
        (MessageKind.dmSendRequest.writeTo { ciphertext := [1, 2, 3] } ++ [9])) =
      (some { ciphertext := [1, 2, 3] }, reader') ∧ reader'.remaining = [9] :=
  (message_codec_bijection .dmSendRequest).1 { ciphertext := [1, 2, 3] } [9]
    (by simp [MessageKind.InRange, DmSendRequest.InRange, maxDmCiphertextSize])

end HyperCom
