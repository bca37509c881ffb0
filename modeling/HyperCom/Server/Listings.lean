import HyperCom.Server.Handlers

/-!
# Listings cut short by an error

Six repository functions return the rows of a query, each with a loop
`while (statement.step_row() == step_result::row)`. `step_row` has three
outcomes and the loop tells two of them apart: `failed` ends it like `done`.

`Listing` is what the six have in common: the statement, the rows it would
deliver, the row at which the loop breaks, and the statement that counts first,
if there is one. `ListingCall` is the six themselves, with what their handlers
send.
-/

namespace HyperCom

open DatabaseHandle

/-- The same database with no call that fails. -/
def DatabaseHandle.healed (database : DatabaseHandle) : DatabaseHandle :=
  { database with faults := fun _ _ => false }

theorem DatabaseHandle.healed_healthy (database : DatabaseHandle) : database.healed.Healthy := rfl

/-! ## The loop -/

/-- A listing. The loop asks for one row more than its limit at most. -/
structure Listing (Answer : Type) where
  Row : Type
  statement : SqlStatement
  rows : List Row
  /-- the number of rows after which the loop breaks -/
  limit : Option ℕ := none
  bounded : ∀ cap, limit = some cap → rows.length ≤ cap + 1
  /-- the statement stepped first, and the count it reads -/
  counter : Option (SqlStatement × UInt32) := none
  answer : UInt32 → List Row → Answer

namespace Listing

variable {Answer : Type}

/-- The count read first, 0 for a listing without one. -/
def counted (listing : Listing Answer) (database : DatabaseHandle) : Option UInt32 :=
  match listing.counter with
  | none => some 0
  | some (statement, count) => database.queryFirst statement [count]

/-- The listing: `none` where the function returns false. -/
def run (listing : Listing Answer) (database : DatabaseHandle) : Option Answer :=
  match listing.counted database with
  | none => none
  | some total => (database.query listing.statement listing.rows).map (listing.answer total)

/-- How often `step_row` is called if no call fails: once for each row up to the
one at which the loop breaks, or up to the end and once more. -/
def steps (listing : Listing Answer) : ℕ :=
  match listing.limit with
  | none => listing.rows.length + 1
  | some cap => min listing.rows.length cap + 1

/-- The step of the statement that counts fails; without a prepared statement it
always does. -/
def CountFails (listing : Listing Answer) (database : DatabaseHandle) : Prop :=
  ∃ statement count, listing.counter = some (statement, count) ∧
    (database.faults statement 0 = true ∨ database.faults statement 1 = true)

/-- The listing gets to its loop, and a step of the loop fails. -/
def StepFails (listing : Listing Answer) (database : DatabaseHandle) : Prop :=
  ¬ listing.CountFails database ∧ database.faults listing.statement 0 = false ∧
    ∃ step < listing.steps, database.faults listing.statement (step + 1) = true

variable {listing : Listing Answer} {database : DatabaseHandle}

/-- Every row is delivered by a step before the last. -/
theorem rows_le_steps (listing : Listing Answer) : listing.rows.length ≤ listing.steps := by
  rcases hlimit : listing.limit with _ | cap
  · simp [steps, hlimit]
  · have hbounded := listing.bounded cap hlimit
    simp only [steps, hlimit]
    omega

/-- A loop none of whose steps fails sees all rows. -/
theorem stepRows_whole {α : Type} {fails : ℕ → Bool} {first : ℕ} {rows : List α}
    (h : ∀ step < rows.length, fails (first + step) = false) : stepRows fails first rows = rows := by
  induction rows generalizing first with
  | nil => rfl
  | cons row rows ih =>
    have hfirst : fails first = false := h 0 (Nat.succ_pos _)
    rw [stepRows, hfirst, if_neg Bool.false_ne_true, ih fun step hstep => ?_]
    have hnext := h (step + 1) (Nat.succ_lt_succ hstep)
    rwa [Nat.add_right_comm, ← Nat.add_assoc] at *

/-- The count is looked at. -/
theorem counted_isSome : (listing.counted database).isSome = true ↔ ¬ listing.CountFails database := by
  rcases hcounter : listing.counter with _ | ⟨statement, count⟩
  · simp [counted, CountFails, hcounter]
  · rcases hprepared : database.faults statement 0 with _ | _ <;>
      rcases hstep : database.faults statement 1 with _ | _ <;>
        simp [counted, CountFails, hcounter, queryFirst, query, hprepared, stepRows, hstep]

/-- A count that fails makes the function return false. -/
theorem CountFails.run_eq_none (h : listing.CountFails database) : listing.run database = none := by
  have hcounted : listing.counted database = none :=
    Option.not_isSome_iff_eq_none.mp fun hsome => counted_isSome.mp hsome h
  simp [run, hcounted]

/-- A step of the loop that fails does not. -/
theorem StepFails.run_isSome (h : listing.StepFails database) :
    (listing.run database).isSome = true := by
  obtain ⟨hcount, hprepared, -⟩ := h
  obtain ⟨total, htotal⟩ := Option.isSome_iff_exists.mp (counted_isSome.mpr hcount)
  simp [run, htotal, query, hprepared]

/-- If no step of the loop fails, what is returned is the whole answer. -/
theorem run_whole (h : ¬ listing.StepFails database) {answer : Answer}
    (hrun : listing.run database = some answer) : listing.run database.healed = some answer := by
  rcases hcounted : listing.counted database with _ | total
  · simp [run, hcounted] at hrun
  rcases hprepared : database.faults listing.statement 0 with _ | _
  · have hrows : stepRows (fun step => database.faults listing.statement (step + 1)) 0 listing.rows =
        listing.rows := by
      refine stepRows_whole fun step hstep => ?_
      rw [Nat.zero_add, ← Bool.not_eq_true]
      intro hfails
      have hsome : (listing.counted database).isSome = true := by simp [hcounted]
      exact h ⟨counted_isSome.mp hsome, hprepared, step, hstep.trans_le listing.rows_le_steps, hfails⟩
    have htotal : listing.counted database.healed = some total := by
      rcases hcounter : listing.counter with _ | ⟨statement, count⟩
      · simpa [counted, hcounter] using hcounted
      · -- a count that was read is the one there is
        simp only [counted, hcounter] at hcounted ⊢
        have hmem := queryFirst_mem hcounted
        obtain rfl := List.mem_singleton.mp hmem
        simp [queryFirst, database.healed_healthy.query_eq]
    have hall : database.healed.query listing.statement listing.rows = some listing.rows :=
      database.healed_healthy.query_eq ..
    simp only [run, hcounted, query, hprepared, Bool.false_eq_true, if_false, hrows,
      Option.map_some] at hrun
    simp only [run, htotal, hall, Option.map_some, hrun]
  · simp [run, hcounted, query, hprepared] at hrun

end Listing

/-! ## The six listings -/

/-- What a listing returns. -/
inductive ListingAnswer where
  | thread (comments : List CommentRecord) (truncated : Bool)
  | envelopes (response : DmListResponse)
  | posts (posts : List PostRecord) (totalCount : UInt32)
  | forums (forums : List ForumRecord) (totalCount : UInt32)
  | friends (friends : List FriendRecord)
  | slots (response : Top8Response)

/-- A call of one of the six functions. The post of a thread is what the handler
looked up before. -/
inductive ListingCall where
  | listThread (post : PostRecord) (postId : ℤ) (limit : ℕ)
  | listForRecipient (recipientId : ℤ) (sinceId : UInt64) (limit : UInt16)
  | listByForum (forumId : ℤ) (offset : UInt32) (limit : UInt16)
  | listForums (offset : UInt32) (limit : UInt16)
  | listFriends (userId : ℤ) (limit : ℕ)
  | listSlots (userId : ℤ)

/-- A query cut at its limit, or one row behind it. -/
theorem length_take_bounded {α : Type} (rows : List α) (limit : ℕ) (cap : ℕ)
    (h : some limit = some cap) : (rows.take (limit + 1)).length ≤ cap + 1 :=
  Option.some.inj h ▸ List.length_take_le ..

/-- A loop that does not break is not bounded. -/
theorem unbounded {length : ℕ} (cap : ℕ) (h : none = some cap) : length ≤ cap + 1 := by cases h

namespace ListingCall

/-- The repository function. -/
def run (database : DatabaseHandle) : ListingCall → Option ListingAnswer
  | listThread _ postId limit =>
    (HyperCom.listThread database postId limit).map fun out => .thread out.1 out.2
  | listForRecipient recipientId sinceId limit =>
    (HyperCom.listForRecipient database recipientId sinceId limit).map .envelopes
  | listByForum forumId offset limit =>
    (listPostsByForum database forumId offset limit).map fun out => .posts out.1 out.2
  | listForums offset limit =>
    (HyperCom.listForums database offset limit).map fun out => .forums out.1 out.2
  | listFriends userId limit => (HyperCom.listFriends database userId limit).map .friends
  | listSlots userId => (HyperCom.listSlots database userId).map .slots

/-- The same function as a listing. -/
def listing (tables : Tables) : ListingCall → Listing ListingAnswer
  | listThread _ postId limit =>
    { Row := CommentRecord
      statement := .listThread
      rows := (selectThread tables postId).take (limit + 1)
      limit := some limit
      bounded := length_take_bounded _ _
      answer := fun _ rows => .thread (rows.take limit) (rows.length > limit) }
  | listForRecipient recipientId sinceId limit =>
    { Row := DmEnvelopeRow
      statement := .listEnvelopes
      rows := (tables.pendingEnvelopes recipientId (castInt64 sinceId)).take (limit.toNat + 1)
      limit := some limit.toNat
      bounded := length_take_bounded _ _
      answer := fun _ rows => .envelopes {
        envelopes := (rows.take limit.toNat).map DmEnvelopeRow.toRecord
        hasMore := if rows.length > limit.toNat then 1 else 0 } }
  | listByForum forumId offset limit =>
    let inForum := tables.posts.filter fun post => post.forumId = forumId
    let latestFirst := inForum.mergeSort fun first second => first.createdAt ≥ second.createdAt
    { Row := PostRecord
      statement := .listPosts
      rows := ((selectPost tables (substrCharacters maxPostPreviewLength) latestFirst).drop
        offset.toNat).take limit.toNat
      bounded := unbounded
      counter := some (.countPosts, UInt32.ofNat inForum.length)
      answer := fun totalCount rows => .posts rows totalCount }
  | listForums offset limit =>
    let latestFirst :=
      tables.forums.mergeSort fun first second => first.createdAt ≥ second.createdAt
    { Row := ForumRecord
      statement := .listForums
      rows := ((selectForum tables latestFirst).drop offset.toNat).take limit.toNat
      bounded := unbounded
      counter := some (.countForums, UInt32.ofNat tables.forums.length)
      answer := fun totalCount rows => .forums rows totalCount }
  | listFriends userId limit =>
    { Row := FriendRecord
      statement := .listFriends
      rows := (((tables.friends.filter fun row => row.userId = userId).filterMap fun row =>
        (tables.userOf row.friendId).map fun friend => friendRecord tables friend row.status).mergeSort
          fun first second => binaryLE first.handle second.handle).take limit
      bounded := unbounded
      answer := fun _ rows => .friends rows }
  | listSlots userId =>
    { Row := ℕ × FriendRecord
      statement := .listTop8
      rows := ((tables.top8.filter fun row => row.userId = userId).mergeSort
        fun first second => first.slot ≤ second.slot).filterMap fun row =>
          (tables.userOf row.friendId).map fun friend =>
            let status := ((tables.friends.find? fun other =>
              other.userId = row.userId && other.friendId = friend.id).map FriendRow.status).getD
                .accepted
            (row.slot, friendRecord tables friend status)
      bounded := unbounded
      answer := fun _ rows => .slots <|
        (rows.filter fun row => row.1 < top8SlotCount).foldl
          (fun response row =>
            { slots := response.slots.set row.1 row.2.pubkey
              details := response.details ++ [row.2] })
          { slots := Top8Slots.empty, details := [] } }

variable {call : ListingCall} {database : DatabaseHandle}

/-- Each of the six is its listing. -/
theorem run_eq (call : ListingCall) (database : DatabaseHandle) :
    call.run database = (call.listing database.tables).run database := by
  cases call with
  | listThread post postId limit =>
    simp [run, listing, Listing.run, Listing.counted, HyperCom.listThread, Function.comp_def]
  | listForRecipient recipientId sinceId limit =>
    simp [run, listing, Listing.run, Listing.counted, HyperCom.listForRecipient, Function.comp_def]
  | listByForum forumId offset limit =>
    simp only [run, listing, Listing.run, Listing.counted, listPostsByForum]
    split <;> simp [*, Function.comp_def]
  | listForums offset limit =>
    simp only [run, listing, Listing.run, Listing.counted, HyperCom.listForums]
    split <;> simp [*, Function.comp_def]
  | listFriends userId limit =>
    simp [run, listing, Listing.run, Listing.counted, HyperCom.listFriends]
  | listSlots userId =>
    simp [run, listing, Listing.run, Listing.counted, HyperCom.listSlots, Function.comp_def]

/-- What an answer that says there is no more promises. -/
def Complete (tables : Tables) : ListingCall → ListingAnswer → Prop
  | listThread _ postId _, .thread comments truncated =>
    truncated = false → comments = selectThread tables postId
  | listForRecipient recipientId sinceId _, .envelopes response =>
    response.hasMore = 0 → response.envelopes =
      (tables.pendingEnvelopes recipientId (castInt64 sinceId)).map DmEnvelopeRow.toRecord
  | _, _ => True

/-- Nothing is left behind a limit that was not reached. -/
theorem take_of_not_exceeded {α : Type} {rows : List α} {limit : ℕ}
    (h : ¬ limit < (rows.take (limit + 1)).length) : (rows.take (limit + 1)).take limit = rows := by
  have hlength : rows.length ≤ limit := by
    rw [List.length_take] at h
    omega
  rw [List.take_of_length_le (hlength.trans (Nat.le_succ _)), List.take_of_length_le hlength]

/-- Without errors the promise is kept. -/
theorem complete_of_healthy (h : database.Healthy) {answer : ListingAnswer}
    (hrun : call.run database = some answer) : call.Complete database.tables answer := by
  cases call with
  | listThread post postId limit =>
    simp only [run, HyperCom.listThread, h.query_eq, Option.map_some, Option.some.injEq] at hrun
    subst hrun
    intro htruncated
    exact take_of_not_exceeded (of_decide_eq_false htruncated)
  | listForRecipient recipientId sinceId limit =>
    simp only [run, HyperCom.listForRecipient, h.query_eq, Option.map_some,
      Option.some.injEq] at hrun
    subst hrun
    intro hmore
    refine congrArg _ (take_of_not_exceeded fun hexceeded => ?_)
    simp only [if_pos hexceeded] at hmore
    exact absurd hmore (by decide)
  | listByForum => exact trivial
  | listForums => exact trivial
  | listFriends => exact trivial
  | listSlots => exact trivial

variable [Sodium]

/-- What the handler does with the call. -/
def reply (context : HandlerContext) : ListingCall → Bool × HandlerContext
  | listThread post postId limit =>
    match HyperCom.listThread context.database postId limit with
    | none => sendStatusError context .internalError
    | some (comments, truncated) =>
      sendMessage context .threadResponse (ThreadResponse.writeTo
        { post, comments, truncated := if truncated then 1 else 0 })
  | listForRecipient recipientId sinceId limit =>
    match HyperCom.listForRecipient context.database recipientId sinceId limit with
    | none => sendStatusError context .internalError
    | some response => sendMessage context .dmListResponse response.writeTo
  | listByForum forumId offset limit =>
    match listPostsByForum context.database forumId offset limit with
    | none => sendStatusError context .internalError
    | some (posts, totalCount) =>
      sendMessage context .postListResponse (PostListResponse.writeTo { posts, totalCount })
  | listForums offset limit =>
    match HyperCom.listForums context.database offset limit with
    | none => sendStatusError context .internalError
    | some (forums, totalCount) =>
      sendMessage context .forumListResponse (ForumListResponse.writeTo { forums, totalCount })
  | listFriends userId limit =>
    match HyperCom.listFriends context.database userId limit with
    | none => sendStatusError context .internalError
    | some friends =>
      sendMessage context .friendListResponse (FriendListResponse.writeTo { friends })
  | listSlots userId =>
    match HyperCom.listSlots context.database userId with
    | none => sendStatusError context .internalError
    | some response => sendMessage context .top8Response response.writeTo

variable {context : HandlerContext}

/-- Every handler answers a function that returned false alike. -/
theorem reply_none (h : call.run context.database = none) :
    call.reply context = sendStatusError context .internalError := by
  cases call <;> simp only [run, Option.map_eq_none_iff] at h <;> simp [reply, h]

/-! The handlers are these replies. -/

theorem handleThreadFetchRequest_eq : handleThreadFetchRequest =
    guardedRequest ThreadFetchRequest.readFrom fun context request =>
      match findPostById context.database (castInt64 request.postId) with
      | none => sendStatusError context .notFound
      | some post =>
        (listThread post (castInt64 request.postId) maxThreadComments).reply context := rfl

theorem answerDmFetch_eq (context : HandlerContext) (request : DmFetchRequest) :
    answerDmFetch context request =
      (listForRecipient context.connection.session.userId request.sinceId
        (clampBatchLimit request.limit)).reply context := rfl

theorem handlePostListRequest_eq : handlePostListRequest =
    guardedRequest PostListRequest.readFrom fun context request =>
      (listByForum (castInt64 request.forumId) request.offset
        (clampListLimit request.limit)).reply context := rfl

theorem handleForumListRequest_eq : handleForumListRequest =
    guardedRequest ForumListRequest.readFrom fun context request =>
      (listForums request.offset (clampListLimit request.limit)).reply context := rfl

theorem handleFriendListRequest_eq : handleFriendListRequest =
    guardedRequest (pure () : Reader Unit) fun context _ =>
      (listFriends context.connection.session.userId maxFriendItems).reply context := rfl

theorem handleTop8GetRequest_eq : handleTop8GetRequest =
    guardedRequest Top8GetRequest.readFrom fun context request =>
      match findUserByPubkey context.database request.targetPubkey with
      | none => sendStatusError context .notFound
      | some target => (listSlots target.id).reply context := rfl

/-! ## Errors and answers -/

/-- An error of a step is answered as one, and what is answered otherwise is the
result the query has without errors. -/
structure ServedWhole (call : ListingCall) (context : HandlerContext) : Prop where
  refused : (call.listing context.database.tables).CountFails context.database ∨
      (call.listing context.database.tables).StepFails context.database →
    call.run context.database = none ∧ call.reply context = sendStatusError context .internalError
  whole : ∀ answer, call.run context.database = some answer →
    call.run context.database.healed = some answer ∧ call.Complete context.database.tables answer

end ListingCall

open ListingCall

variable [Sodium]

/-- A listing serves errors as errors exactly if no step of its loop fails: the
count in front of it and the preparation are looked at, the loop is not. -/
theorem listing_served_whole_iff (call : ListingCall) (context : HandlerContext) :
    call.ServedWhole context ↔
      ¬ (call.listing context.database.tables).StepFails context.database := by
  constructor
  · intro h hfails
    have hnone := (h.refused (.inr hfails)).1
    have hsome := hfails.run_isSome
    rw [← run_eq, hnone] at hsome
    cases hsome
  · intro h
    refine ⟨?_, fun answer hrun => ?_⟩
    · rintro (hcount | hfails)
      · have hnone : call.run context.database = none := (run_eq ..).trans hcount.run_eq_none
        exact ⟨hnone, reply_none hnone⟩
      · exact absurd hfails h
    · have hhealed : call.run context.database.healed = some answer := by
        rw [run_eq] at hrun ⊢
        exact Listing.run_whole h hrun
      exact ⟨hhealed, complete_of_healthy context.database.healed_healthy hhealed⟩

/-! ## A mailbox served half -/

/-- The first of two messages that wait for account 1. -/
def firstWaiting : DmEnvelopeRow :=
  { id := 1, recipientId := 1, senderPubkey := FixedBytes.zero _, ciphertext := [1] }

/-- The second. -/
def secondWaiting : DmEnvelopeRow := { firstWaiting with id := 2, ciphertext := [2] }

/-- The second step of the query of the mailbox fails. -/
def halfMailbox : DatabaseHandle :=
  { tables := { dmEnvelopes := [firstWaiting, secondWaiting] }
    faults := fun statement step => statement = .listEnvelopes && step == 2 }

omit [Sodium] in
theorem halfMailbox_pending :
    halfMailbox.tables.pendingEnvelopes 1 0 = [firstWaiting, secondWaiting] :=
  List.mergeSort_of_pairwise (by decide)

omit [Sodium] in
/-- The recipient is told that the first message is all there is. -/
theorem half_mailbox_served :
    letI := transparentSodium
    let context : HandlerContext :=
      { database := halfMailbox, connection := .accepted (FixedBytes.zero _) (FixedBytes.zero _) [] 0 }
    let call : ListingCall := .listForRecipient 1 0 100
    call.run halfMailbox =
        some (.envelopes { envelopes := [firstWaiting.toRecord], hasMore := 0 }) ∧
      (call.listing halfMailbox.tables).StepFails halfMailbox ∧ ¬ call.ServedWhole context := by
  intro context call
  let _ := transparentSodium
  have hpending : halfMailbox.tables.pendingEnvelopes 1 (castInt64 0) =
      [firstWaiting, secondWaiting] := halfMailbox_pending
  have hrun : call.run halfMailbox =
      some (.envelopes { envelopes := [firstWaiting.toRecord], hasMore := 0 }) := by
    simp only [call, ListingCall.run, HyperCom.listForRecipient, hpending]
    rfl
  have hfails : (call.listing halfMailbox.tables).StepFails halfMailbox := by
    refine ⟨?_, rfl, 1, ?_, rfl⟩
    · rintro ⟨statement, count, hcounter, -⟩
      cases hcounter
    · simp only [call, ListingCall.listing, Listing.steps, hpending]
      decide
  refine ⟨hrun, hfails, fun hserved => ?_⟩
  have hnone := (hserved.refused (.inr hfails)).1
  rw [show call.run context.database = _ from hrun] at hnone
  cases hnone

end HyperCom
