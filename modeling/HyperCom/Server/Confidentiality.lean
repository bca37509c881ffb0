import Mathlib.Logic.Relation
import HyperCom.Server.DatabaseViews
import HyperCom.Server.Inbox

/-!
# What an account can find out

The envelopes of the other recipients and the reports are in the tables, but no
request of an account reads them. `Tables.view` takes them out; two databases
with one view are told apart by none of the replies the account gets, whatever
the others write to each other meanwhile (`mail_of_others_unobservable`).

A statement is `Overt` if its result, and the view it leaves, can be computed
from the view it starts from. The handlers only put such statements together.

Two contexts are `Indistinct` for an account if they differ in nothing the account can learn
of: the sessions are the same, the databases have one view, and if the connection is the
account's own (`watched`) the connections are the same to the byte. There is one lemma for
each handler under the handler's own name, and the router puts them together
(`Indistinct.routeMessage`).

What remains is to let two servers run in lockstep (`Lockstep`). Others may do the same at
both, or write to each other what they like, as long as something is sent at both; or
acknowledge mail at one of them only, which takes rows away and leaves no trace in the view.
-/

namespace HyperCom

open BinaryCodec RowStore Observation

/-! ## The view of an account -/

/-- What is left without the envelopes of others and without the reports. -/
def Tables.view (userId : ℤ) (tables : Tables) : Tables :=
  { tables with
    dmEnvelopes := tables.dmEnvelopes.filter fun envelope => envelope.recipientId = userId
    reports := [] }

section Fields

variable (userId : ℤ) (tables : Tables)

/-- What a request of the account may read besides its own mail is in the view as it is. -/
@[simp] theorem Tables.view_users : (tables.view userId).users = tables.users := rfl

@[simp] theorem Tables.view_forums : (tables.view userId).forums = tables.forums := rfl

@[simp] theorem Tables.view_posts : (tables.view userId).posts = tables.posts := rfl

@[simp] theorem Tables.view_comments : (tables.view userId).comments = tables.comments := rfl

@[simp] theorem Tables.view_top8 : (tables.view userId).top8 = tables.top8 := rfl

@[simp] theorem Tables.view_usersSequence :
    (tables.view userId).usersSequence = tables.usersSequence := rfl

@[simp] theorem Tables.view_forumsSequence :
    (tables.view userId).forumsSequence = tables.forumsSequence := rfl

@[simp] theorem Tables.view_postsSequence :
    (tables.view userId).postsSequence = tables.postsSequence := rfl

@[simp] theorem Tables.view_commentsSequence :
    (tables.view userId).commentsSequence = tables.commentsSequence := rfl

@[simp] theorem Tables.view_dmEnvelopesSequence :
    (tables.view userId).dmEnvelopesSequence = tables.dmEnvelopesSequence := rfl

@[simp] theorem Tables.view_reportsSequence :
    (tables.view userId).reportsSequence = tables.reportsSequence := rfl

@[simp] theorem Tables.view_hasUser (id : ℤ) :
    (tables.view userId).hasUser id = tables.hasUser id := rfl

end Fields

/-- The log is nothing a request reads. -/
def DatabaseHandle.view (userId : ℤ) (database : DatabaseHandle) : DatabaseHandle :=
  { database with
    tables := database.tables.view userId
    transaction := database.transaction.map (Tables.view userId)
    wal := [] }

/-! ## Statements -/

section Effects

variable {userId : ℤ}

/-- The statements. All of them compute with tables that the view has whole, but the mail
and the reports. -/
theorem insertUserRow_overt (pubkey : WirePublicKey) (handle : ByteString) :
    Overt (Tables.view userId) (insertUserRow pubkey handle) := by
  refine .of_self fun tables => ?_
  rw [insertUserRow, insertUserRow, Tables.view_users]
  split
  · rfl
  rw [Tables.view_usersSequence]
  cases nextRowid tables.usersSequence <;> simp [seen, Tables.view]

/-- Profiles, forums, posts and comments are in the view as they are, and the statements
look at nothing else. -/
theorem upsertProfileRow_overt (owner : ℤ) (request : ProfileSetRequest) :
    Overt (Tables.view userId) (upsertProfileRow owner request) := by
  refine .of_self fun tables => ?_
  rw [upsertProfileRow, upsertProfileRow, Tables.view_hasUser]
  split
  · rfl
  · simp [seen, Tables.view]

/-- The name has to be new, and all names are in the view. -/
theorem insertForumRow_overt (founderId : ℤ) (name description themeJson : ByteString)
    (now : UInt64) :
    Overt (Tables.view userId) (insertForumRow founderId name description themeJson now) := by
  refine .of_self fun tables => ?_
  rw [insertForumRow, insertForumRow, Tables.view_forums, Tables.view_hasUser]
  split
  · rfl
  rw [Tables.view_forumsSequence]
  cases nextRowid tables.forumsSequence <;> simp [seen, Tables.view]

/-- So are the forums that a post can be in, -/
theorem insertPostRow_overt (forumId authorId : ℤ) (title body : ByteString) (now : UInt64) :
    Overt (Tables.view userId) (insertPostRow forumId authorId title body now) := by
  refine .of_self fun tables => ?_
  rw [insertPostRow, insertPostRow, Tables.view_forums, Tables.view_hasUser]
  split
  · rfl
  rw [Tables.view_postsSequence]
  cases nextRowid tables.postsSequence <;> simp [seen, Tables.view]

/-- An update or a deletion never fails, and acts on the view as it does on the tables. -/
theorem erasePostRow_overt (postId authorId : ℤ) (now : UInt64) :
    Overt (Tables.view userId) (erasePostRow postId authorId now) := .of_self fun _ => by
  simp [erasePostRow, seen, Tables.view]

/-- and the comments that another can answer. -/
theorem insertCommentRow_overt (postId parentCommentId authorId : ℤ) (body : ByteString)
    (now : UInt64) :
    Overt (Tables.view userId) (insertCommentRow postId parentCommentId authorId body now) := by
  refine .of_self fun tables => ?_
  rw [insertCommentRow, insertCommentRow, Tables.view_posts, Tables.view_hasUser,
    Tables.view_comments]
  generalize (if parentCommentId = 0 then none else some parentCommentId) = parent
  split
  · rfl
  rw [Tables.view_commentsSequence]
  cases nextRowid tables.commentsSequence <;> simp [seen, Tables.view]

/-- How many rows were changed is told to the client, and shows in the view. -/
theorem eraseCommentRow_overt (commentId authorId : ℤ) (now : UInt64) :
    Overt (Tables.view userId) (eraseCommentRow commentId authorId now) := .of_self fun _ => by
  simp [eraseCommentRow, seen, Tables.view]

/-- An envelope is seen by its recipient and counted by everybody. -/
theorem insertEnvelopeRow_overt (recipientId : ℤ) (senderPubkey : WirePublicKey)
    (ciphertext : ByteString) :
    Overt (Tables.view userId) (insertEnvelopeRow recipientId senderPubkey ciphertext) := by
  refine .of_self fun tables => ?_
  rw [insertEnvelopeRow, insertEnvelopeRow, Tables.view_hasUser]
  split
  · rfl
  rw [Tables.view_dmEnvelopesSequence]
  cases nextRowid tables.dmEnvelopesSequence <;> simp [seen, Tables.view]

/-- In the account's own mail, which is in the view, and in that of others, which is not. -/
theorem deleteEnvelopeRow_overt (recipientId : ℤ) (identifier : UInt64) :
    Overt (Tables.view userId) (deleteEnvelopeRow recipientId identifier) := .of_self fun _ => by
  simp [deleteEnvelopeRow, seen, Tables.view, deleteWhere, Bool.and_comm]

/-- Friendships and the top 8 are public to the view. -/
theorem upsertFriendRow_overt (owner friendId : ℤ) (status : FriendshipStatus) :
    Overt (Tables.view userId) (upsertFriendRow owner friendId status) := by
  refine .of_self fun tables => ?_
  rw [upsertFriendRow, upsertFriendRow, Tables.view_hasUser, Tables.view_hasUser]
  split
  · rfl
  · simp [seen, Tables.view]

/-- What is deleted is in the view, -/
theorem deleteTop8Rows_overt (owner : ℤ) :
    Overt (Tables.view userId) (deleteTop8Rows owner) := .of_self fun _ => by
  simp [deleteTop8Rows, seen, Tables.view]

/-- and so is what the slot is checked against. -/
theorem insertTop8Row_overt (owner : ℤ) (entry : Top8Entry) :
    Overt (Tables.view userId) (insertTop8Row owner entry) := by
  refine .of_self fun tables => ?_
  rw [insertTop8Row, insertTop8Row, Tables.view_top8, Tables.view_hasUser, Tables.view_hasUser]
  split
  · rfl
  · simp [seen, Tables.view]

/-- Prekeys are what everybody may fetch. -/
theorem upsertPrekeyRow_overt (owner : ℤ) (prekey : WirePublicKey) (signature : WireSignature)
    (now : UInt64) :
    Overt (Tables.view userId) (upsertPrekeyRow owner prekey signature now) := by
  refine .of_self fun tables => ?_
  rw [upsertPrekeyRow, upsertPrekeyRow, Tables.view_hasUser]
  split
  · rfl
  · simp [seen, Tables.view]

/-- A report is written but not seen; that it could be written is. -/
theorem insertReportRow_overt (target : ReportTarget) (reporterId : ℤ) (reason : ByteString)
    (now : UInt64) : Overt (Tables.view userId) (insertReportRow target reporterId reason now) := by
  refine .of_self fun tables => ?_
  rw [insertReportRow.eq_def, insertReportRow.eq_def, Tables.view_posts, Tables.view_hasUser]
  cases target
  all_goals
    dsimp only
    split
    · rfl
    rw [Tables.view_reportsSequence]
    cases nextRowid tables.reportsSequence <;> simp [seen, Tables.view]

end Effects

/-! ## The database -/

section Database

variable {userId : ℤ} {first second : DatabaseHandle}

/-- Tables with one view have one view again. -/
theorem view_congr (h : SameView (Tables.view userId) first second) :
    first.view userId = second.view userId := by
  simp only [DatabaseHandle.view, h.tables, h.transaction, h.faults]

/-- A query that does not see the hidden rows gives one answer for one view. -/
theorem lookup_same {α : Type} (lookup : DatabaseHandle → α)
    (hlookup : ∀ database : DatabaseHandle, lookup (database.view userId) = lookup database)
    (h : SameView (Tables.view userId) first second) : lookup first = lookup second := by
  rw [← hlookup first, view_congr h, hlookup]

/-- The loop of `delete_acknowledged`, by induction on the identifiers left. -/
theorem deleteEnvelopes_same {recipientId : ℤ} {step : ℕ} {ids : List UInt64}
    (h : SameView (Tables.view userId) first second) :
    SameOutcome (Tables.view userId) (deleteEnvelopes recipientId step ids first)
      (deleteEnvelopes recipientId step ids second) := by
  induction ids generalizing step first second with
  | nil => exact ⟨rfl, h⟩
  | cons identifier ids ih =>
    have hdeleted := h.write_overt (deleteEnvelopeRow_overt recipientId identifier)
      .deleteEnvelope step
    rw [deleteEnvelopes, deleteEnvelopes]
    refine SameOutcome.elim hdeleted fun done _ _ hleft => ?_
    cases done with
    | none => exact ⟨rfl, hleft⟩
    | some _ => exact ih hleft

/-- The insertion loop of `replace_slots`. -/
theorem insertTop8Rows_same {owner : ℤ} {step : ℕ} {entries : List Top8Entry}
    (h : SameView (Tables.view userId) first second) :
    SameOutcome (Tables.view userId) (insertTop8Rows owner step entries first)
      (insertTop8Rows owner step entries second) := by
  induction entries generalizing step first second with
  | nil => exact ⟨rfl, h⟩
  | cons entry entries ih =>
    have hinserted := h.write_overt (insertTop8Row_overt owner entry) .insertTop8 step
    rw [insertTop8Rows, insertTop8Rows]
    refine SameOutcome.elim hinserted fun done _ _ hleft => ?_
    cases done with
    | none => exact ⟨rfl, hleft⟩
    | some _ => exact ih hleft

/-- The transaction of a top 8. -/
theorem replaceSlots_same {owner : ℤ} {entries : List Top8Entry}
    (h : SameView (Tables.view userId) first second) :
    SameOutcome (Tables.view userId) (replaceSlots first owner entries)
      (replaceSlots second owner entries) := by
  refine h.inTransaction fun {first second} h => ?_
  have hdeleted := h.write_overt (deleteTop8Rows_overt owner) .deleteTop8 0
  refine SameOutcome.elim hdeleted fun done _ _ hleft => ?_
  cases done with
  | none => exact ⟨rfl, hleft⟩
  | some _ => exact insertTop8Rows_same hleft

/-- The keys of a top 8 are looked up among the same accounts. -/
theorem resolveTop8Entries_same (h : SameView (Tables.view userId) first second) (index : ℕ)
    (slots : List WirePublicKey) :
    resolveTop8Entries first index slots = resolveTop8Entries second index slots := by
  induction slots generalizing index with
  | nil => rfl
  | cons slot slots ih =>
    rw [resolveTop8Entries, resolveTop8Entries, ih,
      lookup_same (fun database => findUserByPubkey database slot) (fun _ => rfl) h]

/-- A mailbox is part of the view of its owner. -/
theorem listForRecipient_same {sinceId : UInt64} {limit : UInt16}
    (h : SameView (Tables.view userId) first second) :
    listForRecipient first userId sinceId limit = listForRecipient second userId sinceId limit := by
  refine lookup_same (fun database => listForRecipient database userId sinceId limit) ?_ h
  intro database
  have hpending : (database.view userId).tables.pendingEnvelopes userId (castInt64 sinceId) =
      database.tables.pendingEnvelopes userId (castInt64 sinceId) := by
    simp only [DatabaseHandle.view, Tables.view, Tables.pendingEnvelopes, List.filter_filter]
    refine congrArg (List.mergeSort · _) (List.filter_congr fun envelope _ => ?_)
    rw [Bool.and_right_comm, Bool.and_self]
  rw [listForRecipient, hpending]
  rfl

end Database

/-! ## Statements that are not seen -/

section Unseen

variable {userId : ℤ} {tables : Tables}

/-- An envelope for somebody else: what is seen of it is that the sequence has moved on,
whoever sent it and whatever is inside. -/
theorem insertEnvelopeRow_unseen {recipientId : ℤ} (hknown : tables.hasUser recipientId = true)
    (hother : recipientId ≠ userId) (senderPubkey : WirePublicKey) (ciphertext : ByteString) :
    seen (Tables.view userId) (insertEnvelopeRow recipientId senderPubkey ciphertext tables) =
      (nextRowid tables.dmEnvelopesSequence).map fun id =>
        (id, { tables.view userId with dmEnvelopesSequence := id }) := by
  rw [insertEnvelopeRow, hknown]
  cases nextRowid tables.dmEnvelopesSequence <;> simp [seen, Tables.view, hother]

/-- An acknowledgement of somebody else is not even seen in the sequence. -/
theorem deleteEnvelopeRow_unseen {recipientId : ℤ} (hother : recipientId ≠ userId)
    (identifier : UInt64) :
    seen (Tables.view userId) (deleteEnvelopeRow recipientId identifier tables) =
      some ((), tables.view userId) := by
  have hkept : ∀ envelope : DmEnvelopeRow, (decide (envelope.recipientId = userId) &&
      !(decide (envelope.id = castInt64 identifier) &&
        decide (envelope.recipientId = recipientId))) =
      decide (envelope.recipientId = userId) := by
    intro envelope
    by_cases hown : envelope.recipientId = userId
    · simp [hown, hother.symm]
    · simp [hown]
  simp only [deleteEnvelopeRow, seen, Tables.view, deleteWhere, List.filter_filter, hkept,
    Option.map_some, Prod.map_apply, id_eq]

/-- Deleting mail of somebody else changes nothing the account may see. -/
theorem deleteEnvelopes_unseen {recipientId : ℤ} (hother : recipientId ≠ userId)
    {database : DatabaseHandle} (healthy : database.Healthy) (step : ℕ) (ids : List UInt64) :
    (deleteEnvelopes recipientId step ids database).1 = true ∧
      SameView (Tables.view userId) (deleteEnvelopes recipientId step ids database).2 database := by
  induction ids generalizing step database with
  | nil => exact ⟨rfl, .refl _⟩
  | cons identifier ids ih =>
    obtain ⟨result, tables, hdeleted⟩ : ∃ result tables, deleteEnvelopeRow recipientId identifier
        database.tables = some (result, tables) := ⟨_, _, rfl⟩
    have hseen : tables.view userId = database.tables.view userId := by
      have hunseen := @deleteEnvelopeRow_unseen _ database.tables _ hother identifier
      rw [hdeleted] at hunseen
      exact (Prod.mk.inj (Option.some.inj hunseen)).2
    rw [deleteEnvelopes, healthy.write_eq hdeleted]
    have hrest := @ih { database with tables, wal := database.tables :: database.wal } healthy
      (step + 1)
    exact ⟨hrest.1, hrest.2.trans ⟨hseen, rfl, rfl⟩⟩

/-- Over the whole request, if no call fails: a failure would be seen, in the transaction it
leaves open. -/
theorem deleteAcknowledged_unseen {recipientId : ℤ} (hother : recipientId ≠ userId)
    {database : DatabaseHandle} (healthy : database.Healthy) (closed : database.transaction = none)
    (ids : List UInt64) :
    (deleteAcknowledged database recipientId ids).1 = true ∧
      SameView (Tables.view userId) (deleteAcknowledged database recipientId ids).2 database := by
  have hfaults : database.faults = fun _ _ => false := healthy
  have hbegin : database.beginImmediate =
      (true, { database with transaction := some database.tables }) := by
    simp [DatabaseHandle.beginImmediate, hfaults, closed]
  obtain ⟨hdone, hleft⟩ := @deleteEnvelopes_unseen userId recipientId hother
    { database with transaction := some database.tables } healthy 0 ids
  rw [deleteAcknowledged, DatabaseHandle.inTransaction, hbegin]
  generalize hrun : deleteEnvelopes recipientId 0 ids
    { database with transaction := some database.tables } = ran at hdone hleft
  obtain ⟨done, left⟩ := ran
  obtain rfl : done = true := hdone
  have hquiet : left.faults = fun _ _ => false := hleft.faults.trans hfaults
  have hcommit : left.commit = (true, { left with transaction := none }) := by
    simp [DatabaseHandle.commit, hquiet]
  simp only [hrun, hcommit]
  exact ⟨trivial, hleft.tables, by rw [closed], hquiet.trans hfaults.symm⟩

end Unseen

/-! ## Requests -/

/-- Two servers handle the same request, the databases of which look the same. The
connections have the same session, and are the same if they are `watched`. -/
inductive Indistinct (userId : ℤ) (watched : Prop) : HandlerContext → HandlerContext → Prop where
  | intro {config : ServerConfig} {ambient : Ambient} {database database' : DatabaseHandle}
      {session : SessionState} {socket socket' : ConnectionSocket} {channel channel' : NoiseChannel}
      {inputBuffer inputBuffer' : ByteString}
      (database_view : SameView (Tables.view userId) database database')
      (plumbing : watched → socket = socket' ∧ channel = channel' ∧ inputBuffer = inputBuffer') :
      Indistinct userId watched
        { config, ambient, database, connection := { socket, channel, session, inputBuffer } }
        { config, ambient, database := database'
          connection := { socket := socket', channel := channel', session
                          inputBuffer := inputBuffer' } }

/-- They answer the same to a connection that is watched. -/
def IndistinctAnswers (userId : ℤ) (watched : Prop)
    (first second : Bool × HandlerContext) : Prop :=
  (watched → first.1 = second.1) ∧ Indistinct userId watched first.2 second.2

namespace Indistinct

variable {userId : ℤ} {watched : Prop} {first second : HandlerContext} {reader : ByteReader}

/-- What has to agree, part by part. -/
theorem of_parts (config : first.config = second.config) (ambient : first.ambient = second.ambient)
    (session : first.connection.session = second.connection.session)
    (database : SameView (Tables.view userId) first.database second.database)
    (connection : watched → first.connection = second.connection) :
    Indistinct userId watched first second := by
  obtain ⟨_, _, _, _, _, _, _⟩ := first
  obtain ⟨_, _, _, _, _, _, _⟩ := second
  obtain rfl := config
  obtain rfl := ambient
  obtain rfl := session
  refine .intro database fun hwatched => ?_
  have hconnection := ClientConnection.mk.inj (connection hwatched)
  exact ⟨hconnection.1, hconnection.2.1, hconnection.2.2.2⟩

/-- The session of whoever asks is the same at both servers, -/
theorem session (h : Indistinct userId watched first second) :
    first.connection.session = second.connection.session := by
  cases h
  rfl

/-- the databases look the same, -/
theorem database (h : Indistinct userId watched first second) :
    SameView (Tables.view userId) first.database second.database := by
  obtain ⟨hview, -⟩ := h
  exact hview

/-- and the account's own connection is the same altogether. -/
theorem connection (h : Indistinct userId watched first second) (hwatched : watched) :
    first.connection = second.connection := by
  obtain ⟨-, hplumbing⟩ := h
  obtain ⟨rfl, rfl, rfl⟩ := hplumbing hwatched
  rfl

/-- A step of the database that keeps the view. -/
theorem withDatabase (h : Indistinct userId watched first second)
    {database database' : DatabaseHandle}
    (hview : SameView (Tables.view userId) database database') :
    Indistinct userId watched { first with database } { second with database := database' } := by
  obtain ⟨-, hplumbing⟩ := h
  exact .intro hview hplumbing

/-- A step of the session, the same at both. -/
theorem withSession (h : Indistinct userId watched first second) (session : SessionState) :
    Indistinct userId watched { first with connection := { first.connection with session } }
      { second with connection := { second.connection with session } } := by
  obtain ⟨hview, hplumbing⟩ := h
  exact .intro hview hplumbing

/-- Which of the two contexts comes first does not matter. -/
theorem symm (h : Indistinct userId watched first second) :
    Indistinct userId watched second first := by
  obtain ⟨hview, hplumbing⟩ := h
  refine .intro hview.symm fun hwatched => ?_
  obtain ⟨hsocket, hchannel, hinput⟩ := hplumbing hwatched
  exact ⟨hsocket.symm, hchannel.symm, hinput.symm⟩

/-- The two ways on after a writing statement that returns whether it succeeded. -/
theorem afterWrite {out out' : Bool × DatabaseHandle}
    {failed failed' done done' : DatabaseHandle → Bool × HandlerContext}
    (hfailed : ∀ {database database' : DatabaseHandle},
      SameView (Tables.view userId) database database' →
      IndistinctAnswers userId watched (failed database) (failed' database'))
    (hdone : ∀ {database database' : DatabaseHandle},
      SameView (Tables.view userId) database database' →
      IndistinctAnswers userId watched (done database) (done' database')) :
    SameOutcome (Tables.view userId) out out' → IndistinctAnswers userId watched
      (match out with
        | (false, database) => failed database
        | (true, database) => done database)
      (match out' with
        | (false, database) => failed' database
        | (true, database) => done' database) := by
  obtain ⟨success, database⟩ := out
  obtain ⟨success', database'⟩ := out'
  rintro ⟨hsuccess, hview⟩
  obtain rfl : success = success' := hsuccess
  cases success with
  | false => exact hfailed hview
  | true => exact hdone hview

/-- The two ways on after an insertion that returns the new id. -/
theorem afterInsert {out out' : Option ℤ × DatabaseHandle}
    {failed failed' : DatabaseHandle → Bool × HandlerContext}
    {done done' : ℤ → DatabaseHandle → Bool × HandlerContext}
    (hfailed : ∀ {database database' : DatabaseHandle},
      SameView (Tables.view userId) database database' →
      IndistinctAnswers userId watched (failed database) (failed' database'))
    (hdone : ∀ (id : ℤ) {database database' : DatabaseHandle},
      SameView (Tables.view userId) database database' →
      IndistinctAnswers userId watched (done id database) (done' id database')) :
    SameOutcome (Tables.view userId) out out' → IndistinctAnswers userId watched
      (match out with
        | (none, database) => failed database
        | (some id, database) => done id database)
      (match out' with
        | (none, database) => failed' database
        | (some id, database) => done' id database) := by
  obtain ⟨created, database⟩ := out
  obtain ⟨created', database'⟩ := out'
  rintro ⟨hcreated, hview⟩
  obtain rfl : created = created' := hcreated
  cases created with
  | none => exact hfailed hview
  | some id => exact hdone id hview

variable [Sodium]

/-- A reply. For the account itself it has to be the same bytes; what others are sent may
differ. -/
theorem sendMessage (h : Indistinct userId watched first second) (type : MessageType)
    {payload payload' : ByteString} (hpayload : watched → payload = payload') :
    IndistinctAnswers userId watched (HyperCom.sendMessage first type payload)
      (HyperCom.sendMessage second type payload') := by
  have hsession : (HyperCom.sendMessage first type payload).2.connection.session =
      (HyperCom.sendMessage second type payload').2.connection.session := by
    rw [(sendMessage_frame ..).2, (sendMessage_frame ..).2, h.session]
  have hsame : watched → sendRawMessage first.connection type payload =
      sendRawMessage second.connection type payload' := fun hwatched => by
    rw [h.connection hwatched, hpayload hwatched]
  obtain ⟨hview, -⟩ := h
  refine ⟨fun hwatched => ?_, of_parts rfl rfl hsession hview fun hwatched => ?_⟩
  · have hsent := congrArg Prod.fst (hsame hwatched)
    exact hsent
  · have hleft := congrArg Prod.snd (hsame hwatched)
    exact hleft

/-- What is sent on a connection that is not watched does not matter. -/
theorem sendMessage_right (h : Indistinct userId watched first second) (hwatched : ¬ watched)
    (type : MessageType) (payload : ByteString) :
    Indistinct userId watched first (HyperCom.sendMessage second type payload).2 := by
  have hsession := (sendMessage_frame second type payload).2
  obtain ⟨hview, -⟩ := h
  exact of_parts rfl rfl hsession.symm hview fun h => absurd h hwatched

/-- To others something may be sent at one server only. -/
theorem sendMessage_left (h : Indistinct userId watched first second) (hwatched : ¬ watched)
    (type : MessageType) (payload : ByteString) :
    Indistinct userId watched (HyperCom.sendMessage first type payload).2 second :=
  (h.symm.sendMessage_right hwatched type payload).symm

/-- Errors carry a code and its text, and nothing of the tables. -/
theorem sendStatusError (h : Indistinct userId watched first second) (code : ErrorCode) :
    IndistinctAnswers userId watched (HyperCom.sendStatusError first code)
      (HyperCom.sendStatusError second code) :=
  h.sendMessage _ fun _ => rfl

/-- The number in the reply is the same by the hypotheses on the databases. -/
theorem sendStatusOk (h : Indistinct userId watched first second) (referenceId : UInt64) :
    IndistinctAnswers userId watched (HyperCom.sendStatusOk first referenceId)
      (HyperCom.sendStatusOk second referenceId) :=
  h.sendMessage _ fun _ => rfl

/-- The lines every handler behind the guard opens with. -/
theorem guardedRequest {α : Type} {readFrom : Reader α}
    {body : HandlerContext → α → Bool × HandlerContext} (h : Indistinct userId watched first second)
    (hbody : ∀ request,
      IndistinctAnswers userId watched (body first request) (body second request)) :
    IndistinctAnswers userId watched (HyperCom.guardedRequest readFrom body first reader)
      (HyperCom.guardedRequest readFrom body second reader) := by
  cases hregistered : first.connection.session.isRegistered with
  | false =>
    have hregistered' : second.connection.session.isRegistered = false := h.session ▸ hregistered
    rw [guardedRequest_refused hregistered, guardedRequest_refused hregistered']
    exact ⟨fun _ => rfl, (h.sendStatusError .notAuthenticated).2⟩
  | true =>
    have hregistered' : second.connection.session.isRegistered = true := h.session ▸ hregistered
    rcases hread : (readFrom reader).1 with _ | request
    · rw [guardedRequest_undecoded hregistered hread, guardedRequest_undecoded hregistered' hread]
      exact ⟨fun _ => rfl, h⟩
    · rw [guardedRequest_decoded hregistered hread, guardedRequest_decoded hregistered' hread]
      exact hbody request

/-- The message of the day. -/
def announce (context : HandlerContext) : Bool × HandlerContext :=
  match findActiveMotd context.database with
  | none => (true, context)
  | some announcement => HyperCom.sendMessage context .motdPush announcement.writeTo

/-- The message of the day is in the view. -/
theorem announce_alike (h : Indistinct userId watched first second) :
    IndistinctAnswers userId watched (announce first) (announce second) := by
  rw [announce, announce, lookup_same findActiveMotd (fun _ => rfl) h.database]
  split
  · exact ⟨fun _ => rfl, h⟩
  · exact h.sendMessage _ fun _ => rfl

/-- Others may be sent it at one server only. -/
theorem announce_right (h : Indistinct userId watched first second) (hwatched : ¬ watched) :
    Indistinct userId watched first (announce second).2 := by
  rw [announce]
  split
  · exact h
  · exact h.sendMessage_right hwatched _ _

/-- The message of the day follows an acceptance that could be sent. -/
theorem afterAcceptance {out out' : Bool × HandlerContext} :
    IndistinctAnswers userId watched out out' → IndistinctAnswers userId watched
      (match out with
        | (false, context) => (false, context)
        | (true, context) => announce context)
      (match out' with
        | (false, context) => (false, context)
        | (true, context) => announce context) := by
  obtain ⟨sent, context⟩ := out
  obtain ⟨sent', context'⟩ := out'
  rintro ⟨hsent, halike⟩
  cases sent <;> cases sent'
  · exact ⟨fun _ => rfl, halike⟩
  · have hwatched : ¬ watched := fun h => Bool.noConfusion (hsent h)
    exact ⟨fun h => absurd h hwatched, halike.announce_right hwatched⟩
  · have hwatched : ¬ watched := fun h => Bool.noConfusion (hsent h)
    exact ⟨fun h => absurd h hwatched, (halike.symm.announce_right hwatched).symm⟩
  · exact halike.announce_alike

/-- The acceptance and, behind it, the announcement. -/
theorem sendAcceptedSession (h : Indistinct userId watched first second) (user : UserRow) :
    IndistinctAnswers userId watched (HyperCom.sendAcceptedSession first user)
      (HyperCom.sendAcceptedSession second user) := by
  cases id h
  exact afterAcceptance ((h.withSession _).sendMessage _ fun _ => rfl)

/-! ### The handlers -/

/-- The handlers. A ping is answered with its own token and the time. -/
theorem handlePingRequest (h : Indistinct userId watched first second) :
    IndistinctAnswers userId watched (HyperCom.handlePingRequest first reader)
      (HyperCom.handlePingRequest second reader) := by
  rw [HyperCom.handlePingRequest, HyperCom.handlePingRequest]
  split
  · exact ⟨fun _ => rfl, h⟩
  · cases id h
    exact h.sendMessage _ fun _ => rfl

/-- The nonce is drawn from the environment, which is the same at both. -/
theorem handleHelloRequest (h : Indistinct userId watched first second) :
    IndistinctAnswers userId watched (HyperCom.handleHelloRequest first reader)
      (HyperCom.handleHelloRequest second reader) := by
  have hview := h.database
  cases id h
  rw [HyperCom.handleHelloRequest, HyperCom.handleHelloRequest]
  dsimp only at hview ⊢
  split
  · exact h.sendStatusError .alreadyAuthenticated
  split
  · exact ⟨fun _ => rfl, h⟩
  next request _ =>
  split
  · exact h.sendStatusError .unsupportedVersion
  · rw [lookup_same (fun database => findUserByPubkey database request.clientPubkey)
      (fun _ => rfl) hview]
    exact (h.withSession _).sendMessage _ fun _ => rfl

/-- Whether the key has an account, and whether it is banned, is in the view. -/
theorem handleAuthResponse (h : Indistinct userId watched first second) :
    IndistinctAnswers userId watched (HyperCom.handleAuthResponse first reader)
      (HyperCom.handleAuthResponse second reader) := by
  have hfind := lookup_same
    (fun database => findUserByPubkey database first.connection.session.announcedPubkey)
    (fun _ => rfl) h.database
  cases id h
  rw [HyperCom.handleAuthResponse, HyperCom.handleAuthResponse]
  dsimp only at hfind ⊢
  split
  · exact h.sendStatusError .notAuthenticated
  split
  · exact ⟨fun _ => rfl, h⟩
  split
  · exact ⟨fun _ => rfl, h⟩
  rw [hfind]
  split
  · split
    · exact h.sendStatusError .accountBanned
    · exact h.sendAcceptedSession _
  · exact (h.withSession _).sendStatusOk 0

/-- The id of a new account is the next of a sequence that is in the view. -/
theorem handleRegisterRequest (h : Indistinct userId watched first second) :
    IndistinctAnswers userId watched (HyperCom.handleRegisterRequest first reader)
      (HyperCom.handleRegisterRequest second reader) := by
  obtain ⟨hview, -⟩ := id h
  rw [HyperCom.handleRegisterRequest, HyperCom.handleRegisterRequest]
  dsimp only
  split
  · exact h.sendStatusError .alreadyAuthenticated
  split
  · exact h.sendStatusError .permissionDenied
  split
  · exact ⟨fun _ => rfl, h⟩
  split
  · exact h.sendStatusError .invalidField
  refine afterInsert ?_ ?_ (hview.write_overt (insertUserRow_overt _ _) _ _)
  · exact fun hleft => (h.withDatabase hleft).sendStatusError .handleUnavailable
  intro id database database' hleft
  rw [lookup_same (fun database => findUserById database id) (fun _ => rfl) hleft]
  split
  · exact (h.withDatabase hleft).sendStatusError .internalError
  · have hcreated := (hleft.write_overt (upsertProfileRow_overt id {}) .replaceProfile 0).2
    exact (h.withDatabase hcreated).sendAcceptedSession _

/-- The prekeys of everybody are in the view. -/
theorem handlePrekeyPublishRequest (h : Indistinct userId watched first second) :
    IndistinctAnswers userId watched (HyperCom.handlePrekeyPublishRequest first reader)
      (HyperCom.handlePrekeyPublishRequest second reader) := by
  refine h.guardedRequest fun request => ?_
  obtain ⟨hview, -⟩ := id h
  refine afterWrite ?_ ?_ (hview.write_overt (upsertPrekeyRow_overt _ _ _ _) _ _).isSome
  · exact fun hleft => (h.withDatabase hleft).sendStatusError .internalError
  · exact fun hleft => (h.withDatabase hleft).sendStatusOk 0

/-- A lookup of a prekey reads accounts and prekeys only. -/
theorem handlePrekeyFetchRequest (h : Indistinct userId watched first second) :
    IndistinctAnswers userId watched (HyperCom.handlePrekeyFetchRequest first reader)
      (HyperCom.handlePrekeyFetchRequest second reader) := by
  refine h.guardedRequest fun request => ?_
  rw [lookup_same (fun database => findBundleByPubkey database request.targetPubkey)
    (fun _ => rfl) h.database]
  split
  · exact h.sendStatusError .notFound
  · exact h.sendMessage _ fun _ => rfl

/-- The content is public, so reading and writing it is the same at both. -/
theorem handleForumCreateRequest (h : Indistinct userId watched first second) :
    IndistinctAnswers userId watched (HyperCom.handleForumCreateRequest first reader)
      (HyperCom.handleForumCreateRequest second reader) := by
  refine h.guardedRequest fun request => ?_
  split
  · exact h.sendStatusError .invalidField
  · obtain ⟨hview, -⟩ := id h
    refine afterInsert ?_ ?_ (hview.write_overt (insertForumRow_overt _ _ _ _ _) _ _)
    · exact fun hleft => (h.withDatabase hleft).sendStatusError .duplicateEntry
    intro id database database' hleft
    rw [lookup_same (fun database => findForumById database id) (fun _ => rfl) hleft]
    split
    · exact (h.withDatabase hleft).sendStatusError .internalError
    · exact (h.withDatabase hleft).sendMessage _ fun _ => rfl

/-- Forums are listed alike. -/
theorem handleForumListRequest (h : Indistinct userId watched first second) :
    IndistinctAnswers userId watched (HyperCom.handleForumListRequest first reader)
      (HyperCom.handleForumListRequest second reader) := by
  refine h.guardedRequest fun request => ?_
  rw [lookup_same (fun database =>
    listForums database request.offset (clampListLimit request.limit)) (fun _ => rfl) h.database]
  split
  · exact h.sendStatusError .internalError
  · exact h.sendMessage _ fun _ => rfl

/-- What a post is checked against is in the view, and the id it gets is the next of a
sequence that is. -/
theorem handlePostCreateRequest (h : Indistinct userId watched first second) :
    IndistinctAnswers userId watched (HyperCom.handlePostCreateRequest first reader)
      (HyperCom.handlePostCreateRequest second reader) := by
  refine h.guardedRequest fun request => ?_
  split
  · exact h.sendStatusError .invalidField
  rw [lookup_same (fun database => findForumById database (castInt64 request.forumId))
    (fun _ => rfl) h.database]
  split
  · exact h.sendStatusError .notFound
  · obtain ⟨hview, -⟩ := id h
    refine afterInsert ?_ ?_ (hview.write_overt (insertPostRow_overt _ _ _ _ _) _ _)
    · exact fun hleft => (h.withDatabase hleft).sendStatusError .internalError
    intro id database database' hleft
    rw [lookup_same (fun database => findPostById database id) (fun _ => rfl) hleft]
    split
    · exact (h.withDatabase hleft).sendStatusError .internalError
    · exact (h.withDatabase hleft).sendMessage _ fun _ => rfl

/-- The posts of a forum, with their authors. -/
theorem handlePostListRequest (h : Indistinct userId watched first second) :
    IndistinctAnswers userId watched (HyperCom.handlePostListRequest first reader)
      (HyperCom.handlePostListRequest second reader) := by
  refine h.guardedRequest fun request => ?_
  rw [lookup_same (fun database => listPostsByForum database (castInt64 request.forumId)
    request.offset (clampListLimit request.limit)) (fun _ => rfl) h.database]
  split
  · exact h.sendStatusError .internalError
  · exact h.sendMessage _ fun _ => rfl

/-- The post, and the comments in preorder. -/
theorem handleThreadFetchRequest (h : Indistinct userId watched first second) :
    IndistinctAnswers userId watched (HyperCom.handleThreadFetchRequest first reader)
      (HyperCom.handleThreadFetchRequest second reader) := by
  refine h.guardedRequest fun request => ?_
  rw [lookup_same (fun database => findPostById database (castInt64 request.postId))
    (fun _ => rfl) h.database]
  split
  · exact h.sendStatusError .notFound
  rw [lookup_same (fun database =>
    listThread database (castInt64 request.postId) maxThreadComments) (fun _ => rfl) h.database]
  split
  · exact h.sendStatusError .internalError
  · exact h.sendMessage _ fun _ => rfl

/-- The post and the parent are looked up in the view. -/
theorem handleCommentCreateRequest (h : Indistinct userId watched first second) :
    IndistinctAnswers userId watched (HyperCom.handleCommentCreateRequest first reader)
      (HyperCom.handleCommentCreateRequest second reader) := by
  refine h.guardedRequest fun request => ?_
  split
  · exact h.sendStatusError .invalidField
  rw [lookup_same (fun database => findPostById database (castInt64 request.postId))
    (fun _ => rfl) h.database]
  split
  · exact h.sendStatusError .notFound
  rw [lookup_same (fun database => checkParentBelongsToPost database
    (castInt64 request.parentCommentId) (castInt64 request.postId)) (fun _ => rfl) h.database]
  split
  · exact h.sendStatusError .invalidField
  · obtain ⟨hview, -⟩ := id h
    refine afterInsert ?_ ?_ (hview.write_overt (insertCommentRow_overt _ _ _ _ _) _ _)
    · exact fun hleft => (h.withDatabase hleft).sendStatusError .internalError
    intro id database database' hleft
    rw [lookup_same (fun database => findCommentById database id) (fun _ => rfl) hleft]
    split
    · exact (h.withDatabase hleft).sendStatusError .internalError
    · exact (h.withDatabase hleft).sendMessage _ fun _ => rfl

/-- Whose the post is, is in the view. -/
theorem handlePostDeleteRequest (h : Indistinct userId watched first second) :
    IndistinctAnswers userId watched (HyperCom.handlePostDeleteRequest first reader)
      (HyperCom.handlePostDeleteRequest second reader) := by
  refine h.guardedRequest fun request => ?_
  obtain ⟨hview, -⟩ := id h
  refine afterWrite ?_ ?_ (hview.write_overt (erasePostRow_overt _ _ _) _ _).any
  · exact fun hleft => (h.withDatabase hleft).sendStatusError .permissionDenied
  · exact fun hleft => (h.withDatabase (hleft.walCheckpoint)).sendStatusOk _

/-- Whose the comment is, too. -/
theorem handleCommentDeleteRequest (h : Indistinct userId watched first second) :
    IndistinctAnswers userId watched (HyperCom.handleCommentDeleteRequest first reader)
      (HyperCom.handleCommentDeleteRequest second reader) := by
  refine h.guardedRequest fun request => ?_
  obtain ⟨hview, -⟩ := id h
  refine afterWrite ?_ ?_ (hview.write_overt (eraseCommentRow_overt _ _ _) _ _).any
  · exact fun hleft => (h.withDatabase hleft).sendStatusError .permissionDenied
  · exact fun hleft => (h.withDatabase (hleft.walCheckpoint)).sendStatusOk _

/-- A profile is public. -/
theorem handleProfileGetRequest (h : Indistinct userId watched first second) :
    IndistinctAnswers userId watched (HyperCom.handleProfileGetRequest first reader)
      (HyperCom.handleProfileGetRequest second reader) := by
  refine h.guardedRequest fun request => ?_
  rw [lookup_same (fun database => findProfileByPubkey database request.targetPubkey)
    (fun _ => rfl) h.database]
  split
  · exact h.sendStatusError .notFound
  · exact h.sendMessage _ fun _ => rfl

/-- The upsert has no result but its success. -/
theorem handleProfileSetRequest (h : Indistinct userId watched first second) :
    IndistinctAnswers userId watched (HyperCom.handleProfileSetRequest first reader)
      (HyperCom.handleProfileSetRequest second reader) := by
  refine h.guardedRequest fun request => ?_
  obtain ⟨hview, -⟩ := id h
  refine afterWrite ?_ ?_ (hview.write_overt (upsertProfileRow_overt _ _) _ _).isSome
  · exact fun hleft => (h.withDatabase hleft).sendStatusError .internalError
  · exact fun hleft => (h.withDatabase hleft).sendStatusOk 0

/-- The friend is found at both or at neither. -/
theorem handleFriendAddRequest (h : Indistinct userId watched first second) :
    IndistinctAnswers userId watched (HyperCom.handleFriendAddRequest first reader)
      (HyperCom.handleFriendAddRequest second reader) := by
  refine h.guardedRequest fun request => ?_
  rw [lookup_same (fun database => findUserByPubkey database request.targetPubkey)
    (fun _ => rfl) h.database]
  split
  · exact h.sendStatusError .notFound
  obtain ⟨hview, -⟩ := id h
  dsimp only
  split
  · exact h.sendStatusError .invalidField
  refine afterWrite ?_ ?_ (hview.write_overt (upsertFriendRow_overt _ _ _) _ _).isSome
  · exact fun hleft => (h.withDatabase hleft).sendStatusError .internalError
  · exact fun hleft => (h.withDatabase hleft).sendStatusOk _

/-- Its own friends are the account's to see. -/
theorem handleFriendListRequest (h : Indistinct userId watched first second) :
    IndistinctAnswers userId watched (HyperCom.handleFriendListRequest first reader)
      (HyperCom.handleFriendListRequest second reader) := by
  refine h.guardedRequest fun request => ?_
  rw [h.session, lookup_same (fun database =>
    listFriends database second.connection.session.userId maxFriendItems) (fun _ => rfl) h.database]
  split
  · exact h.sendStatusError .internalError
  · exact h.sendMessage _ fun _ => rfl

/-- The whole transaction, failing calls included. -/
theorem handleTop8SetRequest (h : Indistinct userId watched first second) :
    IndistinctAnswers userId watched (HyperCom.handleTop8SetRequest first reader)
      (HyperCom.handleTop8SetRequest second reader) := by
  refine h.guardedRequest fun request => ?_
  rw [resolveTop8Entries_same h.database]
  split
  · exact h.sendStatusError .notFound
  obtain ⟨hview, -⟩ := id h
  refine afterWrite ?_ ?_ (replaceSlots_same hview)
  · exact fun hleft => (h.withDatabase hleft).sendStatusError .internalError
  · exact fun hleft => (h.withDatabase hleft).sendStatusOk 0

/-- Two lookups, the account and its list. -/
theorem handleTop8GetRequest (h : Indistinct userId watched first second) :
    IndistinctAnswers userId watched (HyperCom.handleTop8GetRequest first reader)
      (HyperCom.handleTop8GetRequest second reader) := by
  refine h.guardedRequest fun request => ?_
  rw [lookup_same (fun database => findUserByPubkey database request.targetPubkey)
    (fun _ => rfl) h.database]
  split
  · exact h.sendStatusError .notFound
  next target _ =>
  rw [lookup_same (fun database => listSlots database target.id) (fun _ => rfl) h.database]
  split
  · exact h.sendStatusError .internalError
  · exact h.sendMessage _ fun _ => rfl

/-- Sending: the sequence of the envelopes is in the view, since the reply carries the id. -/
theorem handleDmSendRequest (h : Indistinct userId watched first second) :
    IndistinctAnswers userId watched (HyperCom.handleDmSendRequest first reader)
      (HyperCom.handleDmSendRequest second reader) := by
  refine h.guardedRequest fun request => ?_
  split
  · exact h.sendStatusError .invalidField
  rw [lookup_same (fun database => findUserByPubkey database request.recipientPubkey)
    (fun _ => rfl) h.database]
  split
  · exact h.sendStatusError .notFound
  obtain ⟨hview, -⟩ := id h
  refine afterInsert ?_ ?_ (hview.write_overt (insertEnvelopeRow_overt _ _ _) _ _)
  · exact fun hleft => (h.withDatabase hleft).sendStatusError .internalError
  · exact fun id _ _ hleft => (h.withDatabase hleft).sendStatusOk _

/-- A mailbox is served to its owner. Nobody else's connection is watched. -/
theorem handleDmFetchRequest (h : Indistinct userId watched first second)
    (hown : watched → first.connection.session.userId = userId) :
    IndistinctAnswers userId watched (HyperCom.handleDmFetchRequest first reader)
      (HyperCom.handleDmFetchRequest second reader) := by
  refine h.guardedRequest fun request => ?_
  rw [answerDmFetch, answerDmFetch]
  by_cases hwatched : watched
  · rw [← h.session, hown hwatched, listForRecipient_same h.database]
    split
    · exact h.sendStatusError .internalError
    · exact h.sendMessage _ fun _ => rfl
  · refine ⟨fun h => absurd h hwatched, ?_⟩
    split <;> split <;> exact (h.sendMessage_left hwatched _ _).sendMessage_right hwatched _ _

/-- Acknowledging: of its own mail the account sees the same go at both. -/
theorem handleDmAckRequest (h : Indistinct userId watched first second) :
    IndistinctAnswers userId watched (HyperCom.handleDmAckRequest first reader)
      (HyperCom.handleDmAckRequest second reader) := by
  refine h.guardedRequest fun request => ?_
  obtain ⟨hview, -⟩ := id h
  refine afterWrite ?_ ?_ (hview.inTransaction deleteEnvelopes_same)
  · exact fun hleft => (h.withDatabase hleft).sendStatusError .internalError
  · exact fun hleft => (h.withDatabase hleft).sendStatusOk _

/-- Reporting is answered with whether it could be written. -/
theorem handleReportPostRequest (h : Indistinct userId watched first second) :
    IndistinctAnswers userId watched (HyperCom.handleReportPostRequest first reader)
      (HyperCom.handleReportPostRequest second reader) := by
  refine h.guardedRequest fun request => ?_
  rw [lookup_same (fun database => findPostById database (castInt64 request.postId))
    (fun _ => rfl) h.database]
  split
  · exact h.sendStatusError .notFound
  obtain ⟨hview, -⟩ := id h
  refine afterWrite ?_ ?_ (hview.write_overt (insertReportRow_overt _ _ _ _) _ _).isSome
  · exact fun hleft => (h.withDatabase hleft).sendStatusError .internalError
  · exact fun hleft => (h.withDatabase hleft).sendStatusOk _

/-- As for posts. -/
theorem handleReportAccountRequest (h : Indistinct userId watched first second) :
    IndistinctAnswers userId watched (HyperCom.handleReportAccountRequest first reader)
      (HyperCom.handleReportAccountRequest second reader) := by
  refine h.guardedRequest fun request => ?_
  rw [lookup_same (fun database => findUserByPubkey database request.targetPubkey)
    (fun _ => rfl) h.database]
  split
  · exact h.sendStatusError .notFound
  obtain ⟨hview, -⟩ := id h
  refine afterWrite ?_ ?_ (hview.write_overt (insertReportRow_overt _ _ _ _) _ _).isSome
  · exact fun hleft => (h.withDatabase hleft).sendStatusError .internalError
  · exact fun hleft => (h.withDatabase hleft).sendStatusOk 0

/-- Whatever the request. The account's own requests come with its own id. -/
theorem routeMessage (h : Indistinct userId watched first second)
    (hown : watched → first.connection.session.userId = userId) (type : MessageType)
    (reader : ByteReader) :
    IndistinctAnswers userId watched (HyperCom.routeMessage first type reader)
      (HyperCom.routeMessage second type reader) := by
  cases type with
  | helloRequest => exact h.handleHelloRequest
  | authResponse => exact h.handleAuthResponse
  | registerRequest => exact h.handleRegisterRequest
  | pingRequest => exact h.handlePingRequest
  | forumCreateRequest => exact h.handleForumCreateRequest
  | forumListRequest => exact h.handleForumListRequest
  | postCreateRequest => exact h.handlePostCreateRequest
  | postListRequest => exact h.handlePostListRequest
  | threadFetchRequest => exact h.handleThreadFetchRequest
  | commentCreateRequest => exact h.handleCommentCreateRequest
  | postDeleteRequest => exact h.handlePostDeleteRequest
  | commentDeleteRequest => exact h.handleCommentDeleteRequest
  | prekeyPublishRequest => exact h.handlePrekeyPublishRequest
  | prekeyFetchRequest => exact h.handlePrekeyFetchRequest
  | profileGetRequest => exact h.handleProfileGetRequest
  | profileSetRequest => exact h.handleProfileSetRequest
  | friendAddRequest => exact h.handleFriendAddRequest
  | friendListRequest => exact h.handleFriendListRequest
  | top8SetRequest => exact h.handleTop8SetRequest
  | top8GetRequest => exact h.handleTop8GetRequest
  | dmSendRequest => exact h.handleDmSendRequest
  | dmFetchRequest => exact h.handleDmFetchRequest hown
  | dmAckRequest => exact h.handleDmAckRequest
  | reportPostRequest => exact h.handleReportPostRequest
  | reportAccountRequest => exact h.handleReportAccountRequest
  | _ => exact h.sendStatusError .notImplemented

end Indistinct

/-! ## Two servers in lockstep -/

/-- A server as one of its connections knows it. -/
structure Seat where
  database : DatabaseHandle
  connection : ClientConnection

namespace Seat

/-- The seats cannot be told apart: the connections are the same, and so is everything in
the databases that the account may see. -/
structure Indistinguishable (userId : ℤ) (first second : Seat) : Prop where
  tables : first.database.tables.view userId = second.database.tables.view userId
  transaction : first.database.transaction.map (Tables.view userId) =
    second.database.transaction.map (Tables.view userId)
  connection : first.connection = second.connection

section View

variable {userId : ℤ} {first second : Seat}

/-- Neither server is the real one. -/
theorem Indistinguishable.symm (h : Indistinguishable userId first second) :
    Indistinguishable userId second first :=
  ⟨h.tables.symm, h.transaction.symm, h.connection.symm⟩

/-- One request at both. -/
theorem Indistinguishable.alike (h : Indistinguishable userId first second) (watched : Prop)
    (config : ServerConfig) (ambient : Ambient) {guest guest' : ClientConnection}
    (session : guest.session = guest'.session) (hguest : watched → guest = guest') :
    Indistinct userId watched
      { config, ambient, database := { first.database with faults := ambient.sqlFaults }
        connection := guest }
      { config, ambient, database := { second.database with faults := ambient.sqlFaults }
        connection := guest' } :=
  .of_parts rfl rfl session ⟨h.tables, h.transaction, rfl⟩ hguest

/-- A seat after a visit, told from what the visit leaves of the database. -/
theorem Indistinguishable.of_view {database database' : DatabaseHandle}
    (hview : SameView (Tables.view userId) database database')
    (hconnection : first.connection = second.connection) :
    Indistinguishable userId { first with database } { second with database := database' } :=
  ⟨hview.tables, hview.transaction, hconnection⟩

end View

variable [Sodium]

/-- A request of a connection, handled on the database of the server. -/
def serve (config : ServerConfig) (ambient : Ambient) (database : DatabaseHandle)
    (connection : ClientConnection) (type : MessageType) (reader : ByteReader) : HandlerContext :=
  (routeMessage { config, ambient, database := { database with faults := ambient.sqlFaults }
                  connection } type reader).2

/-- The account makes a request. -/
def ask (config : ServerConfig) (ambient : Ambient) (type : MessageType) (reader : ByteReader)
    (seat : Seat) : Seat :=
  let after := serve config ambient seat.database seat.connection type reader
  { database := after.database, connection := after.connection }

/-- Another connection makes one. -/
def visit (config : ServerConfig) (ambient : Ambient) (guest : ClientConnection)
    (type : MessageType) (reader : ByteReader) (seat : Seat) : Seat :=
  { seat with database := (serve config ambient seat.database guest type reader).database }

/-- The peer takes bytes that were queued. -/
def drain (count : ℕ) (seat : Seat) : Seat :=
  { seat with connection := { seat.connection with
      socket := { pendingOutput := seat.connection.socket.pendingOutput.drop count } } }

/-- A `dm_send_request` that finds its recipient, who is not `userId`. -/
def MailsElsewhere (userId : ℤ) (ambient : Ambient) (guest : ClientConnection)
    (reader : ByteReader) (seat : Seat) : Prop :=
  guest.session.isRegistered = true ∧ ∃ request, (DmSendRequest.readFrom reader).1 = some request ∧
    request.ciphertext.isEmpty = false ∧ ∃ recipient : UserRow, recipient.id ≠ userId ∧
      findUserByPubkey { seat.database with faults := ambient.sqlFaults } request.recipientPubkey =
        some recipient

/-- What the account does happens at both seats. What others do may be one and the same
thing; mail to others may differ in its sender, its recipient and its text; and others may
acknowledge their mail at one seat only, at either of them, while the database is at rest:
what a failing acknowledgement leaves open could be noticed. -/
inductive Lockstep (userId : ℤ) : Seat × Seat → Seat × Seat → Prop where
  | request (first second : Seat) (config : ServerConfig) (ambient : Ambient) (type : MessageType)
      (reader : ByteReader) :
      Lockstep userId (first, second)
        (first.ask config ambient type reader, second.ask config ambient type reader)
  | taken (first second : Seat) (count : ℕ) :
      Lockstep userId (first, second) (first.drain count, second.drain count)
  | elsewhere (first second : Seat) (config : ServerConfig) (ambient : Ambient)
      {guest guest' : ClientConnection} (session : guest.session = guest'.session)
      (type : MessageType) (reader : ByteReader) :
      Lockstep userId (first, second)
        (first.visit config ambient guest type reader,
          second.visit config ambient guest' type reader)
  | mailed {first second : Seat} (config : ServerConfig) {ambient : Ambient}
      {guest guest' : ClientConnection} {reader reader' : ByteReader}
      (mails : MailsElsewhere userId ambient guest reader first)
      (mails' : MailsElsewhere userId ambient guest' reader' second) :
      Lockstep userId (first, second)
        (first.visit config ambient guest .dmSendRequest reader,
          second.visit config ambient guest' .dmSendRequest reader')
  | acknowledged {first : Seat} (second : Seat) (config : ServerConfig) {ambient : Ambient}
      {guest : ClientConnection} (other : guest.session.userId ≠ userId)
      (healthy : ambient.sqlFaults = fun _ _ => false)
      (closed : first.database.transaction = none) (reader : ByteReader) :
      Lockstep userId (first, second)
        (first.visit config ambient guest .dmAckRequest reader, second)
  | acknowledgedThere (first : Seat) {second : Seat} (config : ServerConfig) {ambient : Ambient}
      {guest : ClientConnection} (other : guest.session.userId ≠ userId)
      (healthy : ambient.sqlFaults = fun _ _ => false)
      (closed : second.database.transaction = none) (reader : ByteReader) :
      Lockstep userId (first, second)
        (first, second.visit config ambient guest .dmAckRequest reader)

variable {userId : ℤ} {first second : Seat}

/-- A registered session stays what it is. -/
theorem serve_session {config : ServerConfig} {ambient : Ambient} {database : DatabaseHandle}
    {connection : ClientConnection} {type : MessageType} {reader : ByteReader}
    (h : connection.session.isRegistered = true) :
    (serve config ambient database connection type reader).connection.session =
      connection.session := by
  rw [SessionState.isRegistered, Bool.and_eq_true, decide_eq_true_eq, decide_eq_true_eq] at h
  obtain ⟨hphase, huser⟩ := h
  have heffect := (routeMessage_answer
    { config, ambient, database := { database with faults := ambient.sqlFaults }, connection }
    type reader).effect
  rw [serve]
  generalize (routeMessage _ type reader).2.connection.session = session at heffect ⊢
  generalize (routeMessage _ type reader).2.database = left at heffect
  cases heffect with
  | unchanged => rfl
  | own => rfl
  | greeted _ phase => exact absurd (hphase.symm.trans phase) (by decide)
  | accepted _ phase => exact absurd (hphase.symm.trans phase) (by decide)
  | proven _ phase => exact absurd (hphase.symm.trans phase) (by decide)
  | enrolled _ _ unregistered => exact absurd unregistered huser

/-- A letter to somebody else is stored, and its sender is told the id. -/
theorem MailsElsewhere.serve {ambient : Ambient} {guest : ClientConnection} {reader : ByteReader}
    (h : MailsElsewhere userId ambient guest reader first) (config : ServerConfig) :
    ∃ (recipientId : ℤ) (ciphertext : ByteString), recipientId ≠ userId ∧
      first.database.tables.hasUser recipientId = true ∧
      (serve config ambient first.database guest .dmSendRequest reader).database =
        (insertEnvelope { first.database with faults := ambient.sqlFaults } recipientId
          guest.session.announcedPubkey ciphertext).2 := by
  obtain ⟨hregistered, request, hread, hnonempty, recipient, hother, hfound⟩ := h
  have hknown := (findUserByPubkey_some hfound).1
  refine ⟨recipient.id, request.ciphertext, hother,
    Tables.hasUser_iff.mpr ⟨recipient, hknown, rfl⟩, ?_⟩
  rw [Seat.serve, routeMessage, handleDmSendRequest, guardedRequest_decoded hregistered hread]
  simp only [hnonempty, hfound]
  rw [if_neg Bool.false_ne_true]
  split
  · next hinsert => exact congrArg Prod.snd hinsert.symm
  · next hinsert => exact congrArg Prod.snd hinsert.symm

/-- A guest who asks for the same at both servers is answered, and nothing is to be seen of
it. -/
theorem Indistinguishable.visit (h : Indistinguishable userId first second) (config : ServerConfig)
    (ambient : Ambient) {guest guest' : ClientConnection} (session : guest.session = guest'.session)
    (type : MessageType) (reader : ByteReader) :
    Indistinguishable userId (first.visit config ambient guest type reader)
      (second.visit config ambient guest' type reader) := by
  have halike := h.alike False config ambient session False.elim
  exact .of_view (halike.routeMessage False.elim type reader).2.database h.connection

/-- Two different letters, one at each. -/
theorem Indistinguishable.mailed (h : Indistinguishable userId first second) (config : ServerConfig)
    {ambient : Ambient} {guest guest' : ClientConnection} {reader reader' : ByteReader}
    (mails : MailsElsewhere userId ambient guest reader first)
    (mails' : MailsElsewhere userId ambient guest' reader' second) :
    Indistinguishable userId (first.visit config ambient guest .dmSendRequest reader)
      (second.visit config ambient guest' .dmSendRequest reader') := by
  obtain ⟨recipientId, ciphertext, hother, hknown, hvisit⟩ := mails.serve config
  obtain ⟨recipientId', ciphertext', hother', hknown', hvisit'⟩ := mails'.serve config
  have hsequence : first.database.tables.dmEnvelopesSequence =
      second.database.tables.dmEnvelopesSequence := by
    have hsequence := congrArg Tables.dmEnvelopesSequence h.tables
    exact hsequence
  have hseen : seen (Tables.view userId)
      (insertEnvelopeRow recipientId guest.session.announcedPubkey ciphertext
        first.database.tables) =
      seen (Tables.view userId) (insertEnvelopeRow recipientId' guest'.session.announcedPubkey
        ciphertext' second.database.tables) := by
    rw [insertEnvelopeRow_unseen hknown hother, insertEnvelopeRow_unseen hknown' hother', h.tables,
      hsequence]
  refine .of_view ?_ h.connection
  have hview : SameView (Tables.view userId)
      { first.database with faults := ambient.sqlFaults }
      { second.database with faults := ambient.sqlFaults } := ⟨h.tables, h.transaction, rfl⟩
  have hinserted := (hview.write hseen .insertEnvelope 0).2
  rw [hvisit, hvisit']
  exact hinserted

/-- An acknowledgement of somebody else's mail leaves the view, and no transaction open. -/
theorem acknowledge_view (config : ServerConfig) {ambient : Ambient} {database : DatabaseHandle}
    {guest : ClientConnection} (other : guest.session.userId ≠ userId)
    (healthy : ambient.sqlFaults = fun _ _ => false) (closed : database.transaction = none)
    (reader : ByteReader) :
    SameView (Tables.view userId)
      (serve config ambient database guest .dmAckRequest reader).database
      { database with faults := ambient.sqlFaults } := by
  rw [serve, routeMessage, handleDmAckRequest]
  cases hregistered : guest.session.isRegistered with
  | false =>
    rw [guardedRequest_refused hregistered]
    exact .refl _
  | true =>
    rcases hread : (DmAckRequest.readFrom reader).1 with _ | request
    · rw [guardedRequest_undecoded hregistered hread]
      exact .refl _
    · have hleft := (@deleteAcknowledged_unseen userId guest.session.userId other
        { database with faults := ambient.sqlFaults } healthy closed request.envelopeIds).2
      rw [guardedRequest_decoded hregistered hread]
      generalize hout : deleteAcknowledged { database with faults := ambient.sqlFaults }
        guest.session.userId request.envelopeIds = out at hleft
      obtain ⟨_ | _, left⟩ := out
      · exact hleft
      · exact hleft

/-- An acknowledgement at one of them. -/
theorem Indistinguishable.acknowledged (h : Indistinguishable userId first second)
    (config : ServerConfig) {ambient : Ambient} {guest : ClientConnection}
    (other : guest.session.userId ≠ userId) (healthy : ambient.sqlFaults = fun _ _ => false)
    (closed : first.database.transaction = none) (reader : ByteReader) :
    Indistinguishable userId (first.visit config ambient guest .dmAckRequest reader) second := by
  have hview := acknowledge_view config other healthy closed reader
  exact ⟨hview.tables.trans h.tables, hview.transaction.trans h.transaction,
    h.connection⟩

/-- One step keeps the seats alike and the session of the account. -/
theorem Lockstep.indistinguishable {seats seats' : Seat × Seat}
    (hstep : Lockstep userId seats seats')
    (h : Indistinguishable userId seats.1 seats.2)
    (hregistered : seats.1.connection.session.isRegistered = true)
    (huser : seats.1.connection.session.userId = userId) :
    Indistinguishable userId seats'.1 seats'.2 ∧
      seats'.1.connection.session = seats.1.connection.session := by
  cases hstep with
  | request first second config ambient type reader =>
    have halike := h.alike True config ambient (congrArg ClientConnection.session h.connection)
      fun _ => h.connection
    have hafter := (halike.routeMessage (fun _ => huser) type reader).2
    exact ⟨⟨hafter.database.tables, hafter.database.transaction,
      hafter.connection trivial⟩, serve_session hregistered⟩
  | taken first second count =>
    refine ⟨⟨h.tables, h.transaction, ?_⟩, rfl⟩
    have hconnection : first.connection = second.connection := h.connection
    simp only [drain, hconnection]
  | elsewhere first second config ambient session type reader =>
    exact ⟨h.visit config ambient session type reader, rfl⟩
  | mailed config mails mails' => exact ⟨h.mailed config mails mails', rfl⟩
  | acknowledged second config other healthy closed reader =>
    exact ⟨h.acknowledged config other healthy closed reader, rfl⟩
  | acknowledgedThere first config other healthy closed reader =>
    exact ⟨(h.symm.acknowledged config other healthy closed reader).symm, rfl⟩

/-- Whatever an account does and whatever happens meanwhile, the mail of others has no
influence on a byte of what it is sent. -/
theorem mail_of_others_unobservable {seats seats' : Seat × Seat}
    (hregistered : seats.1.connection.session.isRegistered = true)
    (huser : seats.1.connection.session.userId = userId)
    (h : Indistinguishable userId seats.1 seats.2)
    (hrun : Relation.ReflTransGen (Lockstep userId) seats seats') :
    Indistinguishable userId seats'.1 seats'.2 := by
  have hinvariant : Indistinguishable userId seats'.1 seats'.2 ∧
      seats'.1.connection.session = seats.1.connection.session := by
    induction hrun with
    | refl => exact ⟨h, rfl⟩
    | tail _ hstep ih =>
      obtain ⟨hmid, hsession⟩ := ih
      have hafter := hstep.indistinguishable hmid (hsession ▸ hregistered) (hsession ▸ huser)
      exact ⟨hafter.1, hafter.2.trans hsession⟩
  exact hinvariant.1

end Seat

open Seat in
/-- The other account has got another letter and gets yet another one: bob sees the same. -/
theorem Seat.mail_of_others_unobservable_bob :
    letI := transparentSodium
    let seat (text : ByteString) : Seat := {
      database := { tables := crowdedTables text 1 }
      connection := (accountContext {} 2 (repeatedKey 2)).connection }
    let alice := (accountContext {} 1 (repeatedKey 1)).connection
    let letter (text : ByteString) : ByteReader := ByteReader.start
      (DmSendRequest.writeTo { recipientPubkey := repeatedKey 1, ciphertext := text })
    let fetched (text text' : ByteString) : Seat :=
      ((seat text).visit {} {} alice .dmSendRequest (letter text')).ask {} {} .dmFetchRequest
        (ByteReader.start (DmFetchRequest.writeTo {}))
    (fetched [7] [1]).connection = (fetched [8] [2, 3]).connection := by
  let := transparentSodium
  intro seat alice letter fetched
  have hsame : Indistinguishable 2 (seat [7]) (seat [8]) := ⟨by decide, rfl, rfl⟩
  have hmails (text text' : ByteString) (hlength : text'.length = 1 ∨ text'.length = 2) :
      MailsElsewhere 2 {} alice (letter text') (seat text) := by
    refine ⟨rfl, _, DmSendRequest.exact.readFrom_start ?_, ?_,
      ⟨1, repeatedKey 1, ascii "alice", false⟩, by decide, rfl⟩
    · rcases hlength with h | h <;> simp [DmSendRequest.InRange, h, maxDmCiphertextSize]
    · rcases hlength with h | h <;> (rw [List.isEmpty_eq_false_iff]; rintro rfl; cases h)
  have hrun : Relation.ReflTransGen (Lockstep 2) (seat [7], seat [8])
      (fetched [7] [1], fetched [8] [2, 3]) :=
    (Relation.ReflTransGen.single (.mailed {} (hmails [7] [1] (.inl rfl))
      (hmails [8] [2, 3] (.inr rfl)))).tail (.request _ _ {} {} .dmFetchRequest _)
  exact (@mail_of_others_unobservable _ 2 (seat [7], seat [8]) _ rfl rfl hsame hrun).connection

end HyperCom
