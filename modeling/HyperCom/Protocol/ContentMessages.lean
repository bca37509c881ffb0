import HyperCom.Protocol.Records

/-!
# Content messages

The messages about forums, posts, threads, comments and deletions, in the same shape as the
session messages: the structure with the defaults of the source, `write_to` and `read_from`,
`InRange` where there is a value that the reader refuses, and exactness.

What is checked here is what `read_from` checks: the caps on texts and lists and the
validity of the texts. An empty title, a name with a bad character or an unknown forum are
read without complaint; it is the handlers who refuse those (`Server.Handlers`), and
`validate_forum_name`, which they use, stands beside the message it is about.

* Requests to create something are answered with the record as it was stored.
* Lists carry the number of rows there are in all, besides the page.
* A deletion is answered with `status_ok`.
-/

namespace HyperCom

open BinaryCodec

/-- `forum_create_request`: opens a forum, with the account of the session as its founder.
Everything but the name may be empty. -/
structure ForumCreateRequest where
  name : ByteString := []
  description : ByteString := []
  themeJson : ByteString := []
deriving DecidableEq

def ForumCreateRequest.writeTo (request : ForumCreateRequest) : ByteString :=
  List.flatten [
    writeTextField request.name,
    writeTextField request.description,
    writeTextField request.themeJson]

def ForumCreateRequest.readFrom : Reader ForumCreateRequest := do
  let name ← readTextField maxForumNameLength
  let description ← readTextField maxForumDescriptionLength
  let themeJson ← readTextField maxThemeJsonLength
  pure { name, description, themeJson }

/-- The caps on the three texts. That the name is made of forum name characters is for the
handler to say. -/
def ForumCreateRequest.InRange (request : ForumCreateRequest) : Prop :=
  TextInRange maxForumNameLength request.name ∧
    TextInRange maxForumDescriptionLength request.description ∧
    TextInRange maxThemeJsonLength request.themeJson

theorem ForumCreateRequest.exact :
    WireExact ForumCreateRequest.writeTo ForumCreateRequest.readFrom ForumCreateRequest.InRange := by
  apply ExactOn.exact
  · apply ExactOn.field (readTextField_exact (by decide))
    intro name
    apply ExactOn.field (readTextField_exact (by decide))
    intro description
    apply ExactOn.field (readTextField_exact (by decide))
    intro themeJson
    exact .done (by rintro ⟨⟩; simp [and_assoc])
  · intro request
    simp [ForumCreateRequest.InRange]

/-- `forum_info_response`: the forum just opened. -/
structure ForumInfoResponse where
  forum : ForumRecord := {}
deriving DecidableEq

def ForumInfoResponse.writeTo (response : ForumInfoResponse) : ByteString :=
  List.flatten [response.forum.writeTo]

def ForumInfoResponse.readFrom : Reader ForumInfoResponse := do
  let forum ← ForumRecord.readFrom
  pure { forum }

/-- A reply is in range when its record is. -/
def ForumInfoResponse.InRange (response : ForumInfoResponse) : Prop :=
  response.forum.InRange

theorem ForumInfoResponse.exact :
    WireExact ForumInfoResponse.writeTo ForumInfoResponse.readFrom ForumInfoResponse.InRange := by
  apply ExactOn.exact
  · apply ExactOn.field ForumRecord.exact
    intro forum
    exact .done (by rintro ⟨⟩; simp)
  · intro response
    simp [ForumInfoResponse.InRange]

/-- `MIN_FORUM_NAME_LENGTH` -/
def minForumNameLength : ℕ := 2

/-- `is_forum_name_character`: lower case letters, digits, `-` and `_`. Two names that
differ in case only can therefore not both exist. -/
def isForumNameCharacter (character : UInt8) : Bool :=
  if character ≥ 0x61 && character ≤ 0x7A then true
  else if character ≥ 0x30 && character ≤ 0x39 then true
  else character == 0x2D || character == 0x5F

/-- `validate_forum_name`: the length in bytes, then every byte. -/
def validateForumName (name : ByteString) : Bool :=
  if name.length < minForumNameLength || name.length > maxForumNameLength then false
  else name.all isForumNameCharacter

/-- `forum_list_request`: a page of the forums, latest first. A limit of 0 stands for the
default, and one above `MAX_LIST_ITEMS` is cut down to it. -/
structure ForumListRequest where
  offset : UInt32 := 0
  limit : UInt16 := UInt16.ofNat defaultListItems
deriving DecidableEq

def ForumListRequest.writeTo (request : ForumListRequest) : ByteString :=
  List.flatten [writeInteger request.offset, writeInteger request.limit]

def ForumListRequest.readFrom : Reader ForumListRequest := do
  let offset ← readInteger UInt32
  let limit ← readInteger UInt16
  pure { offset, limit }

theorem ForumListRequest.exact :
    WireExact ForumListRequest.writeTo ForumListRequest.readFrom (fun _ => True) := by
  apply ExactOn.exact
  · apply ExactOn.field readInteger_exact
    intro offset
    apply ExactOn.field readInteger_exact
    intro limit
    exact .done (by rintro ⟨⟩; simp)
  · intro request
    simp

/-- `forum_list_response`: the page, and how many forums there are in all. -/
structure ForumListResponse where
  forums : List ForumRecord := []
  totalCount : UInt32 := 0
deriving DecidableEq

def ForumListResponse.writeTo (response : ForumListResponse) : ByteString :=
  List.flatten [
    writeRecordList ForumRecord.writeTo response.forums,
    writeInteger response.totalCount]

def ForumListResponse.readFrom : Reader ForumListResponse := do
  let forums ← readRecordList ForumRecord.readFrom maxListItems
  let totalCount ← readInteger UInt32
  pure { forums, totalCount }

/-- The reader refuses a list of more than `MAX_LIST_ITEMS`, and any record it could not
read by itself. -/
def ForumListResponse.InRange (response : ForumListResponse) : Prop :=
  response.forums.length ≤ maxListItems ∧ ∀ record ∈ response.forums, record.InRange

theorem ForumListResponse.exact :
    WireExact ForumListResponse.writeTo ForumListResponse.readFrom ForumListResponse.InRange := by
  apply ExactOn.exact
  · apply ExactOn.field (readRecordList_exact ForumRecord.exact (by decide))
    intro forums
    apply ExactOn.field readInteger_exact
    intro totalCount
    exact .done (by rintro ⟨⟩; simp)
  · intro response
    simp [ForumListResponse.InRange]

/-- `post_create_request`: writes a post in a forum. An empty title or body is refused by
the handler. -/
structure PostCreateRequest where
  forumId : UInt64 := 0
  title : ByteString := []
  body : ByteString := []
deriving DecidableEq

def PostCreateRequest.writeTo (request : PostCreateRequest) : ByteString :=
  List.flatten [
    writeInteger request.forumId,
    writeTextField request.title,
    writeTextField request.body]

def PostCreateRequest.readFrom : Reader PostCreateRequest := do
  let forumId ← readInteger UInt64
  let title ← readTextField maxPostTitleLength
  let body ← readTextField maxPostBodyLength
  pure { forumId, title, body }

/-- The caps on both texts; the forum is looked up later. -/
def PostCreateRequest.InRange (request : PostCreateRequest) : Prop :=
  TextInRange maxPostTitleLength request.title ∧ TextInRange maxPostBodyLength request.body

theorem PostCreateRequest.exact :
    WireExact PostCreateRequest.writeTo PostCreateRequest.readFrom PostCreateRequest.InRange := by
  apply ExactOn.exact
  · apply ExactOn.field readInteger_exact
    intro forumId
    apply ExactOn.field (readTextField_exact (by decide))
    intro title
    apply ExactOn.field (readTextField_exact (by decide))
    intro body
    exact .done (by rintro ⟨⟩; simp [and_assoc])
  · intro request
    simp [PostCreateRequest.InRange]

/-- `post_info_response`: the post just written. -/
structure PostInfoResponse where
  post : PostRecord := {}
deriving DecidableEq

def PostInfoResponse.writeTo (response : PostInfoResponse) : ByteString :=
  List.flatten [response.post.writeTo]

def PostInfoResponse.readFrom : Reader PostInfoResponse := do
  let post ← PostRecord.readFrom
  pure { post }

/-- A reply is in range when its record is. -/
def PostInfoResponse.InRange (response : PostInfoResponse) : Prop :=
  response.post.InRange

theorem PostInfoResponse.exact :
    WireExact PostInfoResponse.writeTo PostInfoResponse.readFrom PostInfoResponse.InRange := by
  apply ExactOn.exact
  · apply ExactOn.field PostRecord.exact
    intro post
    exact .done (by rintro ⟨⟩; simp)
  · intro response
    simp [PostInfoResponse.InRange]

/-- `post_list_request`: a page of the posts of a forum, latest first. -/
structure PostListRequest where
  forumId : UInt64 := 0
  offset : UInt32 := 0
  limit : UInt16 := UInt16.ofNat defaultListItems
deriving DecidableEq

def PostListRequest.writeTo (request : PostListRequest) : ByteString :=
  List.flatten [
    writeInteger request.forumId,
    writeInteger request.offset,
    writeInteger request.limit]

def PostListRequest.readFrom : Reader PostListRequest := do
  let forumId ← readInteger UInt64
  let offset ← readInteger UInt32
  let limit ← readInteger UInt16
  pure { forumId, offset, limit }

theorem PostListRequest.exact :
    WireExact PostListRequest.writeTo PostListRequest.readFrom (fun _ => True) := by
  apply ExactOn.exact
  · apply ExactOn.field readInteger_exact
    intro forumId
    apply ExactOn.field readInteger_exact
    intro offset
    apply ExactOn.field readInteger_exact
    intro limit
    exact .done (by rintro ⟨⟩; simp [and_assoc])
  · intro request
    simp

/-- `post_list_response`: posts with a preview in place of the body, so that a full page
fits a frame. -/
structure PostListResponse where
  posts : List PostRecord := []
  totalCount : UInt32 := 0
deriving DecidableEq

def PostListResponse.writeTo (response : PostListResponse) : ByteString :=
  List.flatten [writeRecordList PostRecord.writeTo response.posts, writeInteger response.totalCount]

def PostListResponse.readFrom : Reader PostListResponse := do
  let posts ← readRecordList PostRecord.readFrom maxListItems
  let totalCount ← readInteger UInt32
  pure { posts, totalCount }

/-- As for forums. The previews are shorter than the cap the reader checks. -/
def PostListResponse.InRange (response : PostListResponse) : Prop :=
  response.posts.length ≤ maxListItems ∧ ∀ record ∈ response.posts, record.InRange

theorem PostListResponse.exact :
    WireExact PostListResponse.writeTo PostListResponse.readFrom PostListResponse.InRange := by
  apply ExactOn.exact
  · apply ExactOn.field (readRecordList_exact PostRecord.exact (by decide))
    intro posts
    apply ExactOn.field readInteger_exact
    intro totalCount
    exact .done (by rintro ⟨⟩; simp)
  · intro response
    simp [PostListResponse.InRange]

/-- `thread_fetch_request`: a post and everything that was answered to it. -/
structure ThreadFetchRequest where
  postId : UInt64 := 0
deriving DecidableEq

def ThreadFetchRequest.writeTo (request : ThreadFetchRequest) : ByteString :=
  List.flatten [writeInteger request.postId]

def ThreadFetchRequest.readFrom : Reader ThreadFetchRequest := do
  let postId ← readInteger UInt64
  pure { postId }

theorem ThreadFetchRequest.exact :
    WireExact ThreadFetchRequest.writeTo ThreadFetchRequest.readFrom (fun _ => True) := by
  apply ExactOn.exact
  · apply ExactOn.field readInteger_exact
    intro postId
    exact .done (by rintro ⟨⟩; simp)
  · intro request
    simp

/-- `thread_response`: the post, its comments in preorder, each with its depth, and whether
there are more than were sent. -/
structure ThreadResponse where
  post : PostRecord := {}
  comments : List CommentRecord := []
  truncated : UInt8 := 0
deriving DecidableEq

def ThreadResponse.writeTo (response : ThreadResponse) : ByteString :=
  List.flatten [
    response.post.writeTo,
    writeRecordList CommentRecord.writeTo response.comments,
    writeInteger response.truncated]

def ThreadResponse.readFrom : Reader ThreadResponse := do
  let post ← PostRecord.readFrom
  let comments ← readRecordList CommentRecord.readFrom maxThreadComments
  let truncated ← readInteger UInt8
  pure { post, comments, truncated }

/-- The number of comments is capped, but 500 comments of 8 KiB do not fit a frame: this is
the one reply besides an inbox that can be in range and too long. -/
def ThreadResponse.InRange (response : ThreadResponse) : Prop :=
  response.post.InRange ∧ response.comments.length ≤ maxThreadComments ∧
    ∀ record ∈ response.comments, record.InRange

theorem ThreadResponse.exact :
    WireExact ThreadResponse.writeTo ThreadResponse.readFrom ThreadResponse.InRange := by
  apply ExactOn.exact
  · apply ExactOn.field PostRecord.exact
    intro post
    apply ExactOn.field (readRecordList_exact CommentRecord.exact (by decide))
    intro comments
    apply ExactOn.field readInteger_exact
    intro truncated
    exact .done (by rintro ⟨⟩; simp [and_assoc])
  · intro response
    simp [ThreadResponse.InRange]

/-- `comment_create_request`: answers a post, or a comment on it if `parentCommentId` is not
0. -/
structure CommentCreateRequest where
  postId : UInt64 := 0
  parentCommentId : UInt64 := 0
  body : ByteString := []
deriving DecidableEq

def CommentCreateRequest.writeTo (request : CommentCreateRequest) : ByteString :=
  List.flatten [
    writeInteger request.postId,
    writeInteger request.parentCommentId,
    writeTextField request.body]

def CommentCreateRequest.readFrom : Reader CommentCreateRequest := do
  let postId ← readInteger UInt64
  let parentCommentId ← readInteger UInt64
  let body ← readTextField maxCommentBodyLength
  pure { postId, parentCommentId, body }

/-- The cap on the body. That the parent belongs to the post is for the handler to check. -/
def CommentCreateRequest.InRange (request : CommentCreateRequest) : Prop :=
  TextInRange maxCommentBodyLength request.body

theorem CommentCreateRequest.exact :
    WireExact CommentCreateRequest.writeTo CommentCreateRequest.readFrom CommentCreateRequest.InRange := by
  apply ExactOn.exact
  · apply ExactOn.field readInteger_exact
    intro postId
    apply ExactOn.field readInteger_exact
    intro parentCommentId
    apply ExactOn.field (readTextField_exact (by decide))
    intro body
    exact .done (by rintro ⟨⟩; simp [and_assoc])
  · intro request
    simp [CommentCreateRequest.InRange]

/-- `comment_info_response`: the comment just written. Its depth is the one that the
statement for a single comment selects. -/
structure CommentInfoResponse where
  comment : CommentRecord := {}
deriving DecidableEq

def CommentInfoResponse.writeTo (response : CommentInfoResponse) : ByteString :=
  List.flatten [response.comment.writeTo]

def CommentInfoResponse.readFrom : Reader CommentInfoResponse := do
  let comment ← CommentRecord.readFrom
  pure { comment }

/-- A reply is in range when its record is. -/
def CommentInfoResponse.InRange (response : CommentInfoResponse) : Prop :=
  response.comment.InRange

theorem CommentInfoResponse.exact :
    WireExact CommentInfoResponse.writeTo CommentInfoResponse.readFrom CommentInfoResponse.InRange := by
  apply ExactOn.exact
  · apply ExactOn.field CommentRecord.exact
    intro comment
    exact .done (by rintro ⟨⟩; simp)
  · intro response
    simp [CommentInfoResponse.InRange]

/-- `post_delete_request`: empties a post. Only its author is obeyed, and the row stays so
that the comments keep something to hang on. -/
structure PostDeleteRequest where
  postId : UInt64 := 0
deriving DecidableEq

def PostDeleteRequest.writeTo (request : PostDeleteRequest) : ByteString :=
  List.flatten [writeInteger request.postId]

def PostDeleteRequest.readFrom : Reader PostDeleteRequest := do
  let postId ← readInteger UInt64
  pure { postId }

theorem PostDeleteRequest.exact :
    WireExact PostDeleteRequest.writeTo PostDeleteRequest.readFrom (fun _ => True) := by
  apply ExactOn.exact
  · apply ExactOn.field readInteger_exact
    intro postId
    exact .done (by rintro ⟨⟩; simp)
  · intro request
    simp

/-- `comment_delete_request`: empties a comment of the account's own. -/
structure CommentDeleteRequest where
  commentId : UInt64 := 0
deriving DecidableEq

def CommentDeleteRequest.writeTo (request : CommentDeleteRequest) : ByteString :=
  List.flatten [writeInteger request.commentId]

def CommentDeleteRequest.readFrom : Reader CommentDeleteRequest := do
  let commentId ← readInteger UInt64
  pure { commentId }

theorem CommentDeleteRequest.exact :
    WireExact CommentDeleteRequest.writeTo CommentDeleteRequest.readFrom (fun _ => True) := by
  apply ExactOn.exact
  · apply ExactOn.field readInteger_exact
    intro commentId
    exact .done (by rintro ⟨⟩; simp)
  · intro request
    simp

end HyperCom
