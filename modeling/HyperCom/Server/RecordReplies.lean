import HyperCom.Protocol.ReplySizes
import HyperCom.Server.GrownThread
import HyperCom.Server.StoredRows
import HyperCom.Server.WholeRequests

/-!
# Replies made of stored rows

The lists, the single records and the message of the day that a session is sent.
Every text of a reply is one of a stored row, where it went through the same reader
that the reply will go through, except for the preview of a post: that is cut by
characters (`substrCharacters`), and cutting a valid text between two of its sequences
leaves a valid text. `stored_replies_readable` says that all of these replies fit a
frame and are read back as they were made.

The records are in range one by one (`..._inRange`), and so are the lists, whose lengths the
handlers have clamped. `Answered` is the property of a handler that follows: whatever it
sends is an error or a reply of its kind which the client's reader takes back to the value
it was made from.
-/

namespace HyperCom

open BinaryCodec RowStore

/-! ## The preview of a post -/

section Preview

/-- Continuation bytes go along with what comes before them. -/
theorem substrCharacters_continuation {tail : ByteString}
    (h : ∀ byte ∈ tail, isContinuation byte = true) (count : ℕ) (rest : ByteString) :
    substrCharacters count (tail ++ rest) = tail ++ substrCharacters count rest := by
  induction tail with
  | nil => rfl
  | cons byte tail ih =>
    have hbyte : (byte &&& 0xC0 == 0x80) = true := h byte List.mem_cons_self
    rw [List.cons_append, substrCharacters.eq_def]
    dsimp only
    rw [if_pos hbyte, ih fun other hother => h other (List.mem_cons_of_mem _ hother),
      List.cons_append]

/-- The first characters of a text are its first sequences. -/
theorem substrCharacters_flatten {sequences : List ByteString}
    (h : ∀ s ∈ sequences, IsSequence s) (count : ℕ) :
    substrCharacters count sequences.flatten = (sequences.take count).flatten := by
  induction sequences generalizing count with
  | nil => cases count <;> rfl
  | cons s sequences ih =>
    obtain ⟨lead, tail, rfl, hlead, htail⟩ := (h s List.mem_cons_self).shape
    have hlead : ¬ (lead &&& 0xC0 == 0x80) = true := by
      rw [show (lead &&& 0xC0 == 0x80) = false from hlead]
      exact Bool.false_ne_true
    have hrest : ∀ s ∈ sequences, IsSequence s := fun s hs => h s (List.mem_cons_of_mem _ hs)
    rw [List.flatten_cons, List.cons_append, substrCharacters.eq_def]
    dsimp only
    rw [if_neg hlead]
    cases count with
    | zero => rfl
    | succ count =>
      dsimp only
      rw [substrCharacters_continuation htail, ih hrest, List.take_succ_cons, List.flatten_cons,
        List.cons_append]

/-- A character is at most four bytes. -/
theorem flatten_length_le {sequences : List ByteString} (h : ∀ s ∈ sequences, IsSequence s) :
    sequences.flatten.length ≤ 4 * sequences.length := by
  induction sequences with
  | nil => exact Nat.zero_le _
  | cons s sequences ih =>
    have hfirst := (h s List.mem_cons_self).short
    have hrest := ih fun s hs => h s (List.mem_cons_of_mem _ hs)
    rw [List.flatten_cons, List.length_append, List.length_cons]
    omega

/-- A valid text cut to some characters is valid, and at most four bytes for each. -/
theorem substrCharacters_inRange {text : ByteString} (h : validateTextField text = true) (count : ℕ) :
    TextInRange (4 * count) (substrCharacters count text) := by
  obtain ⟨sequences, rfl, hall⟩ := validateTextField_iff.mp h
  have hfirst : ∀ s ∈ sequences.take count, IsSequence s := fun s hs => hall s (List.mem_of_mem_take hs)
  rw [substrCharacters_flatten hall]
  refine ⟨(flatten_length_le hfirst).trans ?_, validateTextField_iff.mpr ⟨_, rfl, hfirst⟩⟩
  have hcount := List.length_take_le count sequences
  omega

end Preview

/-! ## The records -/

section Records

variable {tables : Tables}

/-- The handle that a `JOIN` brings along. -/
theorem Tables.TextsInRange.handle (h : tables.TextsInRange) {id : ℤ} {user : UserRow}
    (huser : tables.userOf id = some user) : TextInRange maxHandleLength user.handle :=
  textInRange_of_validateHandle (h.users user (List.mem_of_find?_eq_some huser))

/-- A text of the profile, empty where there is none. -/
theorem profileText_inRange {bound : ℕ} {id : ℤ} {text : ProfileRow → ByteString}
    (hrow : ∀ profile ∈ tables.profiles, TextInRange bound (text profile)) :
    TextInRange bound (((tables.profileOf id).map text).getD []) := by
  rcases hprofile : tables.profileOf id with _ | profile
  · exact TextInRange.nil _
  · exact hrow profile (List.mem_of_find?_eq_some hprofile)

/-- The records that a `SELECT` makes of rows. -/
theorem selectForum_inRange (h : tables.TextsInRange) {rows : List ForumRow}
    (hrows : ∀ row ∈ rows, row ∈ tables.forums) {forum : ForumRecord}
    (hforum : forum ∈ selectForum tables rows) : forum.InRange := by
  obtain ⟨row, hrow, hrecord⟩ := List.mem_filterMap.mp hforum
  obtain ⟨founder, hfounder, rfl⟩ := Option.map_eq_some_iff.mp hrecord
  obtain ⟨hname, hdescription, htheme⟩ := h.forums row (hrows row hrow)
  exact ⟨hname, hdescription, h.handle hfounder, htheme⟩

/-- A post with whatever its query makes of the body. -/
theorem selectPost_inRange (h : tables.TextsInRange) {rows : List PostRow}
    (hrows : ∀ row ∈ rows, row ∈ tables.posts) {column : ByteString → ByteString} {bound : ℕ}
    (hcolumn : ∀ body, TextInRange maxPostBodyLength body → TextInRange bound (column body))
    {post : PostRecord} (hpost : post ∈ selectPost tables column rows) :
    TextInRange maxHandleLength post.authorHandle ∧ TextInRange maxPostTitleLength post.title ∧
      TextInRange bound post.body := by
  obtain ⟨row, hrow, hrecord⟩ := List.mem_filterMap.mp hpost
  obtain ⟨author, hauthor, rfl⟩ := Option.map_eq_some_iff.mp hrecord
  obtain ⟨htitle, hbody⟩ := h.posts row (hrows row hrow)
  exact ⟨h.handle hauthor, htitle, hcolumn _ hbody⟩

/-- A comment with the handle of its author. -/
theorem commentRecord_inRange (h : tables.TextsInRange) {row : CommentRow}
    (hrow : row ∈ tables.comments) {depth : ℕ} {comment : CommentRecord}
    (hcomment : commentRecord tables row depth = some comment) : comment.InRange := by
  obtain ⟨author, hauthor, rfl⟩ := Option.map_eq_some_iff.mp hcomment
  exact ⟨h.handle hauthor, h.comments row hrow⟩

/-- A friend, with a display name if there is a profile. -/
theorem friendRecord_inRange (h : tables.TextsInRange) {id : ℤ} {user : UserRow}
    (huser : tables.userOf id = some user) (status : FriendshipStatus) :
    (friendRecord tables user status).InRange :=
  ⟨h.handle huser, profileText_inRange fun profile hprofile => (h.profiles profile hprofile).1⟩

end Records

/-! ## The lists -/

section Lists

variable {database : DatabaseHandle}

/-- A page has no more items than its limit, and they come from the whole list. -/
theorem query_page {α : Type} {statement : SqlStatement} {rows answer : List α} {offset limit : ℕ}
    (h : database.query statement ((rows.drop offset).take limit) = some answer) :
    answer.length ≤ limit ∧ ∀ row ∈ answer, row ∈ rows := by
  have hfront := DatabaseHandle.query_front h
  exact ⟨hfront.length_le.trans (List.length_take_le ..), fun row hrow =>
    List.mem_of_mem_drop (List.mem_of_mem_take (hfront.subset hrow))⟩

/-- A requested limit is cut to what a response can carry. -/
theorem clampListLimit_le (requested : UInt16) : (clampListLimit requested).toNat ≤ maxListItems := by
  rw [clampListLimit]
  generalize (if requested = 0 then UInt16.ofNat defaultListItems else requested) = limit
  change (if limit ≤ UInt16.ofNat maxListItems then limit else UInt16.ofNat maxListItems).toNat ≤
    maxListItems
  split
  · next hle => exact UInt16.le_iff_toNat_le.mp hle
  · decide

/-- What the repositories return. -/
theorem findForumById_inRange (h : database.tables.TextsInRange) {id : ℤ} {forum : ForumRecord}
    (found : findForumById database id = some forum) : forum.InRange :=
  selectForum_inRange h (fun _ hrow => List.mem_of_mem_filter hrow)
    (DatabaseHandle.queryFirst_mem found)

/-- A page has no more rows than its limit, and the limit is clamped. -/
theorem listForums_inRange (h : database.tables.TextsInRange) {offset : UInt32} {requested : UInt16}
    {forums : List ForumRecord} {totalCount : UInt32}
    (listed : listForums database offset (clampListLimit requested) = some (forums, totalCount)) :
    ForumListResponse.InRange { forums, totalCount } := by
  rw [listForums] at listed
  split at listed
  · cases listed
  obtain ⟨page, hpage, hanswer⟩ := Option.map_eq_some_iff.mp listed
  obtain ⟨rfl, rfl⟩ := Prod.mk.inj hanswer
  obtain ⟨hlength, hmem⟩ := query_page hpage
  exact ⟨hlength.trans (clampListLimit_le requested), fun forum hforum =>
    selectForum_inRange h (fun row hrow => List.mem_mergeSort.mp hrow) (hmem forum hforum)⟩

theorem findPostById_inRange (h : database.tables.TextsInRange) {id : ℤ} {post : PostRecord}
    (found : findPostById database id = some post) : post.InRange :=
  selectPost_inRange h (fun _ hrow => List.mem_of_mem_filter hrow) (fun _ hbody => hbody)
    (DatabaseHandle.queryFirst_mem found)

/-- A page of posts, with previews in place of the bodies. -/
theorem listPostsByForum_inRange (h : database.tables.TextsInRange) {forumId : ℤ} {offset : UInt32}
    {requested : UInt16} {posts : List PostRecord} {totalCount : UInt32}
    (listed : listPostsByForum database forumId offset (clampListLimit requested) =
      some (posts, totalCount)) :
    PostListResponse.InRange { posts, totalCount } ∧
      ∀ post ∈ posts, post.body.length ≤ 4 * maxPostPreviewLength := by
  rw [listPostsByForum] at listed
  split at listed
  · cases listed
  obtain ⟨page, hpage, hanswer⟩ := Option.map_eq_some_iff.mp listed
  obtain ⟨rfl, rfl⟩ := Prod.mk.inj hanswer
  obtain ⟨hlength, hmem⟩ := query_page hpage
  have hpost : ∀ post ∈ page, TextInRange maxHandleLength post.authorHandle ∧
      TextInRange maxPostTitleLength post.title ∧
      TextInRange (4 * maxPostPreviewLength) post.body := fun post hmemPage =>
    selectPost_inRange h (fun row hrow => List.mem_of_mem_filter (List.mem_mergeSort.mp hrow))
      (fun body hbody => substrCharacters_inRange hbody.2 maxPostPreviewLength) (hmem post hmemPage)
  refine ⟨⟨hlength.trans (clampListLimit_le requested), fun post hmemPage => ?_⟩,
    fun post hmemPage => (hpost post hmemPage).2.2.1⟩
  obtain ⟨hhandle, htitle, hbody⟩ := hpost post hmemPage
  exact ⟨hhandle, htitle, hbody.mono (by decide)⟩

theorem findCommentById_inRange (h : database.tables.TextsInRange) {id : ℤ} {comment : CommentRecord}
    (found : findCommentById database id = some comment) : comment.InRange := by
  obtain ⟨row, hrow, hrecord⟩ := List.mem_filterMap.mp (DatabaseHandle.queryFirst_mem found)
  exact commentRecord_inRange h (List.mem_of_mem_filter hrow) hrecord

/-- The list of friends is cut at its cap. -/
theorem listFriends_inRange (h : database.tables.TextsInRange) {userId : ℤ}
    {friends : List FriendRecord}
    (listed : listFriends database userId maxFriendItems = some friends) :
    FriendListResponse.InRange { friends } := by
  have hfront := DatabaseHandle.query_front listed
  refine ⟨hfront.length_le.trans (List.length_take_le ..), fun friend hfriend => ?_⟩
  have hrow := List.mem_mergeSort.mp (List.mem_of_mem_take (hfront.subset hfriend))
  obtain ⟨row, -, hrecord⟩ := List.mem_filterMap.mp hrow
  obtain ⟨user, huser, rfl⟩ := Option.map_eq_some_iff.mp hrecord
  exact friendRecord_inRange h huser row.status

/-- The loop of `list_slots` collects the friends of its rows. -/
theorem collectSlots_details (rows : List (ℕ × FriendRecord)) (response : Top8Response) :
    (rows.foldl (fun response row =>
      { slots := response.slots.set row.1 row.2.pubkey
        details := response.details ++ [row.2] }) response).details =
      response.details ++ rows.map Prod.snd := by
  induction rows generalizing response with
  | nil => exact (List.append_nil _).symm
  | cons row rows ih => rw [List.foldl_cons, ih, List.map_cons, List.append_assoc, List.singleton_append]

/-- Numbers below eight, none of them twice, are eight at most. -/
theorem length_le_of_distinct_slots {slots : List ℕ} (hnodup : slots.Nodup)
    (hslots : ∀ slot ∈ slots, slot < top8SlotCount) : slots.length ≤ top8SlotCount := by
  have hsubset : slots ⊆ List.range top8SlotCount := fun slot hmem =>
    List.mem_range.mpr (hslots slot hmem)
  exact (List.Nodup.length_le_of_subset hnodup hsubset).trans_eq List.length_range

/-- A top 8 has no slot twice, so it has eight friends at most. -/
theorem listSlots_inRange (h : database.tables.TextsInRange) {userId : ℤ} {response : Top8Response}
    (listed : listSlots database userId = some response) : response.InRange := by
  obtain ⟨rows, hquery, rfl⟩ := Option.map_eq_some_iff.mp listed
  have hfront := DatabaseHandle.query_front hquery
  have hdistinct : (database.tables.top8.filter fun row => row.userId = userId).Pairwise
      fun first second => first.slot ≠ second.slot := by
    refine (h.slots_distinct.filter _).imp_of_mem fun {first second} hfirst hsecond hne hslot => ?_
    have hfirstUser := of_decide_eq_true (List.mem_filter.mp hfirst).2
    have hsecondUser := of_decide_eq_true (List.mem_filter.mp hsecond).2
    exact hne ⟨hfirstUser.trans hsecondUser.symm, hslot⟩
  have hsorted : ((database.tables.top8.filter fun row => row.userId = userId).mergeSort
      fun first second => first.slot ≤ second.slot).Pairwise
        fun first second => first.slot ≠ second.slot :=
    ((List.mergeSort_perm ..).pairwise_iff fun hne => hne.symm).mpr hdistinct
  -- the rows that are read have the slots of some of them
  have hrows : rows.Pairwise fun first second => first.1 ≠ second.1 := by
    refine (hsorted.filterMap _ ?_).sublist hfront.sublist
    intro first second hne row hrow row' hrow'
    obtain ⟨friend, -, rfl⟩ := Option.map_eq_some_iff.mp hrow
    obtain ⟨friend', -, rfl⟩ := Option.map_eq_some_iff.mp hrow'
    exact hne
  have hslots : ((rows.filter fun row => row.1 < top8SlotCount).map Prod.fst).length ≤
      top8SlotCount := by
    refine length_le_of_distinct_slots (List.pairwise_map.mpr (hrows.filter _)) fun slot hslot => ?_
    obtain ⟨row, hrow, rfl⟩ := List.mem_map.mp hslot
    exact of_decide_eq_true (List.mem_filter.mp hrow).2
  rw [Top8Response.InRange, collectSlots_details, List.nil_append]
  refine ⟨?_, fun record hrecord => ?_⟩
  · rw [List.length_map] at hslots ⊢
    exact hslots
  · obtain ⟨row, hrow, rfl⟩ := List.mem_map.mp hrecord
    obtain ⟨stored, -, hmade⟩ :=
      List.mem_filterMap.mp (hfront.subset (List.mem_of_mem_filter hrow))
    obtain ⟨friend, hfriend, rfl⟩ := Option.map_eq_some_iff.mp hmade
    exact friendRecord_inRange h hfriend _

/-- A profile that is not there is shown as empty. -/
theorem findProfileByPubkey_inRange (h : database.tables.TextsInRange) {pubkey : WirePublicKey}
    {profile : ProfileRecord} (found : findProfileByPubkey database pubkey = some profile) :
    profile.InRange := by
  obtain ⟨user, huser, rfl⟩ := List.mem_map.mp (DatabaseHandle.queryFirst_mem found)
  have hhandle := h.users user (List.mem_of_mem_filter huser)
  exact ⟨textInRange_of_validateHandle hhandle,
    profileText_inRange fun profile hprofile => (h.profiles profile hprofile).1,
    profileText_inRange fun profile hprofile => (h.profiles profile hprofile).2.1,
    profileText_inRange fun profile hprofile => (h.profiles profile hprofile).2.2.1,
    profileText_inRange fun profile hprofile => (h.profiles profile hprofile).2.2.2⟩

/-- The console has checked the announcement that it stored. -/
theorem findActiveMotd_inRange (h : database.tables.TextsInRange) {announcement : MotdPush}
    (found : findActiveMotd database = some announcement) : announcement.InRange := by
  obtain ⟨row, hrow, rfl⟩ := Option.map_eq_some_iff.mp found
  exact h.motd row (List.mem_of_mem_filter (DatabaseHandle.queryFirst_mem hrow))

end Lists

/-! ## What a session is answered with -/

/-- A reply and the function of the repository that makes it of the stored rows. -/
inductive StoredReply (database : DatabaseHandle) : (kind : MessageKind) → kind.Value → Prop where
  /-- a forum that was found -/
  | forumInfo {id : ℤ} {forum : ForumRecord} (found : findForumById database id = some forum) :
      StoredReply database .forumInfoResponse { forum := forum : ForumInfoResponse }
  | forumList {offset : UInt32} {requested : UInt16} {forums : List ForumRecord}
      {totalCount : UInt32}
      (listed : listForums database offset (clampListLimit requested) = some (forums, totalCount)) :
      StoredReply database .forumListResponse
        { forums := forums, totalCount := totalCount : ForumListResponse }
  /-- a post that was found, with its whole body -/
  | postInfo {id : ℤ} {post : PostRecord} (found : findPostById database id = some post) :
      StoredReply database .postInfoResponse { post := post : PostInfoResponse }
  /-- a page of posts, with previews -/
  | postList {forumId : ℤ} {offset : UInt32} {requested : UInt16} {posts : List PostRecord}
      {totalCount : UInt32}
      (listed : listPostsByForum database forumId offset (clampListLimit requested) =
        some (posts, totalCount)) :
      StoredReply database .postListResponse
        { posts := posts, totalCount := totalCount : PostListResponse }
  | commentInfo {id : ℤ} {comment : CommentRecord}
      (found : findCommentById database id = some comment) :
      StoredReply database .commentInfoResponse { comment := comment : CommentInfoResponse }
  | friendList {userId : ℤ} {friends : List FriendRecord}
      (listed : listFriends database userId maxFriendItems = some friends) :
      StoredReply database .friendListResponse { friends := friends : FriendListResponse }
  | top8 {userId : ℤ} {response : Top8Response} (listed : listSlots database userId = some response) :
      StoredReply database .top8Response response
  | profile {pubkey : WirePublicKey} {profile : ProfileRecord}
      (found : findProfileByPubkey database pubkey = some profile) :
      StoredReply database .profileResponse { profile := profile : ProfileResponse }
  | prekey {pubkey : WirePublicKey} {bundle : PrekeyBundleResponse}
      (found : findBundleByPubkey database pubkey = some bundle) :
      StoredReply database .prekeyBundleResponse bundle
  /-- the message of the day, which is nobody's reply -/
  | motd {announcement : MotdPush} (found : findActiveMotd database = some announcement) :
      StoredReply database .motdPush announcement

/-- Over texts in range, every such reply fits a frame and is read back. -/
theorem StoredReply.readable {database : DatabaseHandle} {kind : MessageKind} {value : kind.Value}
    (stored : StoredReply database kind value) (h : database.tables.TextsInRange) :
    kind.Readable value := by
  cases stored with
  | forumInfo found =>
    have hrange := findForumById_inRange h found
    exact MessageKind.readable_of_inRange hrange (ForumInfoResponse.fits hrange)
  | forumList listed =>
    have hrange := listForums_inRange h listed
    exact MessageKind.readable_of_inRange hrange (ForumListResponse.fits hrange)
  | postInfo found =>
    have hrange := findPostById_inRange h found
    exact MessageKind.readable_of_inRange hrange (PostInfoResponse.fits hrange)
  | postList listed =>
    obtain ⟨hrange, hpreview⟩ := listPostsByForum_inRange h listed
    exact MessageKind.readable_of_inRange hrange (PostListResponse.fits hrange hpreview)
  | commentInfo found =>
    have hrange := findCommentById_inRange h found
    exact MessageKind.readable_of_inRange hrange (CommentInfoResponse.fits hrange)
  | friendList listed =>
    have hrange := listFriends_inRange h listed
    exact MessageKind.readable_of_inRange hrange (FriendListResponse.fits hrange)
  | top8 listed =>
    have hrange := listSlots_inRange h listed
    exact MessageKind.readable_of_inRange hrange (Top8Response.fits hrange)
  | profile found =>
    have hrange := findProfileByPubkey_inRange h found
    exact MessageKind.readable_of_inRange hrange (ProfileResponse.fits hrange)
  | prekey found => exact MessageKind.readable_of_inRange trivial (PrekeyBundleResponse.fits _)
  | motd found =>
    have hrange := findActiveMotd_inRange h found
    exact MessageKind.readable_of_inRange hrange (MotdPush.fits hrange)

variable [Sodium]

/-- What becomes of a request: it is not understood, or its signature is wrong, and the
connection is closed as it was; an error or a plain confirmation is sent; the session
is accepted, with the message of the day behind that; or the reply is sent. -/
inductive Answered (context : HandlerContext) (type : MessageType) (reader : ByteReader)
    (reply : MessageType) (kind : MessageKind) : Bool × HandlerContext → Prop where
  /-- the request could not be read -/
  | undecoded (structured : MessageKind) (request : requestKind type = some structured)
      (unread : (structured.readFrom reader).1 = none) :
      Answered context type reader reply kind (false, context)
  /-- the signature is wrong -/
  | unproven (response : AuthResponse) (read : (AuthResponse.readFrom reader).1 = some response)
      (wrong : verifySignature context.connection.session.announcedPubkey
        (buildAuthSigningInput context.connection.session.challengeNonce
          context.connection.session.announcedPubkey) response.signature = false) :
      Answered context type reader reply kind (false, context)
  /-- an error, of which nothing more is said -/
  | error (after : HandlerContext) (code : ErrorCode) (staysOpen : Bool) :
      Answered context type reader reply kind (staysOpen, (sendStatusError after code).2)
  /-- the key is proven, but there is no account yet -/
  | confirmed (after : HandlerContext) :
      Answered context type reader reply kind (sendStatusOk after 0)
  /-- the session is accepted, and the announcement behind that is readable -/
  | accepted (after : HandlerContext) (user : UserRow)
      (readable : ∀ announcement, findActiveMotd after.database = some announcement →
        MessageKind.Readable .motdPush announcement) :
      Answered context type reader reply kind (sendAcceptedSession after user)
  /-- the reply is made of stored rows, and readable -/
  | replied (after : HandlerContext) (value : kind.Value)
      (stored : StoredReply after.database kind value) (readable : kind.Readable value) :
      Answered context type reader reply kind (sendMessage after reply (kind.writeTo value))

namespace Answered

variable {context : HandlerContext} {type : MessageType} {reader : ByteReader}
  {reply : MessageType} {kind : MessageKind}

/-- Behind the guard only the body of a handler matters. -/
theorem guarded {α : Type} {readFrom : Reader α} {body : HandlerContext → α → Bool × HandlerContext}
    (hundecoded : (readFrom reader).1 = none → Answered context type reader reply kind (false, context))
    (hbody : ∀ request, (readFrom reader).1 = some request →
      Answered context type reader reply kind (body context request)) :
    Answered context type reader reply kind (guardedRequest readFrom body context reader) := by
  cases hregistered : context.connection.session.isRegistered with
  | false =>
    rw [guardedRequest_refused hregistered]
    exact .error context .notAuthenticated true
  | true =>
    rcases hread : (readFrom reader).1 with _ | request
    · rw [guardedRequest_undecoded hregistered hread]
      exact hundecoded hread
    · rw [guardedRequest_decoded hregistered hread]
      exact hbody request hread

/-- A reply made over texts in range. -/
theorem made {after : HandlerContext} {value : kind.Value} (h : after.database.tables.TextsInRange)
    (stored : StoredReply after.database kind value) :
    Answered context type reader reply kind (sendMessage after reply (kind.writeTo value)) :=
  .replied after value stored (stored.readable h)

end Answered

section Handlers

variable {context : HandlerContext} {reader : ByteReader}

end Handlers

end HyperCom
