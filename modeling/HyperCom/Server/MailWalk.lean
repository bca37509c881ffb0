import HyperCom.Lib.CursorWalk
import HyperCom.Server.Listings
import HyperCom.Server.Mail

/-!
# Walking through an inbox

A recipient fetches page after page, each time from the last id received, while
others send and the recipient acknowledges what has come. Every step is one of the
walk of `CursorWalk`, on the envelopes of the recipient with their ids as keys:
AUTOINCREMENT gives new ones larger ids, and an acknowledgement takes away nothing
that lies behind the cursor.

`dm_walk_complete` is what follows from that, as long as no step of a listing
fails; what a walk receives ascends in any case.

There is nothing to assume of who else is connected: every `dm_send_request` and
`dm_ack_request` of any session is a step, whether it succeeds or not, and so is anything
that leaves the mail alone. The account itself is only held to acknowledging what it has received and
to going on from the last id.
-/

namespace HyperCom

open BinaryCodec RowStore

/-! ## What the statements do to the envelopes -/

/-- The envelopes of a recipient, in the order of their ids. -/
def Tables.inboxOf (tables : Tables) (owner : ℤ) : List DmEnvelopeRow :=
  tables.dmEnvelopes.filter fun envelope => envelope.recipientId = owner

/-- What is pending after an id. -/
theorem Tables.MailInOrder.pendingEnvelopes_eq {tables : Tables} (h : tables.MailInOrder)
    (owner sinceId : ℤ) :
    tables.pendingEnvelopes owner sinceId =
      (tables.inboxOf owner).filter fun envelope => sinceId < envelope.id := by
  have hfilter : (tables.inboxOf owner).filter (fun envelope => sinceId < envelope.id) =
      tables.dmEnvelopes.filter fun envelope =>
        envelope.recipientId = owner && envelope.id > sinceId := by
    rw [Tables.inboxOf, List.filter_filter]
    refine List.filter_congr fun envelope _ => ?_
    exact Bool.and_comm _ _
  rw [Tables.pendingEnvelopes, hfilter]
  refine List.mergeSort_of_pairwise ((h.ascending.filter _).imp ?_)
  intro first second hlt
  simpa using hlt.le

/-- A deletion takes away envelopes of a recipient with some of these ids. -/
def EnvelopesLeave (recipientId : ℤ) (ids : List UInt64) (before after : Tables) : Prop :=
  after.dmEnvelopesSequence = before.dmEnvelopesSequence ∧
  ∃ gone : DmEnvelopeRow → Bool, after.dmEnvelopes = deleteWhere gone before.dmEnvelopes ∧
    ∀ envelope, gone envelope = true →
      envelope.recipientId = recipientId ∧ ∃ id ∈ ids, envelope.id = castInt64 id

/-- A transaction that was undone takes nothing away. -/
theorem EnvelopesLeave.refl (recipientId : ℤ) (ids : List UInt64) (tables : Tables) :
    EnvelopesLeave recipientId ids tables tables := by
  refine ⟨rfl, fun _ => false, ?_, fun _ hgone => absurd hgone Bool.false_ne_true⟩
  simp [deleteWhere]

/-- One id after another. -/
theorem EnvelopesLeave.trans {recipientId : ℤ} {ids : List UInt64} {first second third : Tables}
    (h : EnvelopesLeave recipientId ids first second)
    (h' : EnvelopesLeave recipientId ids second third) :
    EnvelopesLeave recipientId ids first third := by
  obtain ⟨hsequence, gone, hrows, hgone⟩ := h
  obtain ⟨hsequence', gone', hrows', hgone'⟩ := h'
  refine ⟨hsequence'.trans hsequence, fun envelope => gone envelope || gone' envelope, ?_, ?_⟩
  · rw [hrows', hrows, deleteWhere, deleteWhere, deleteWhere, List.filter_filter]
    refine List.filter_congr fun envelope _ => ?_
    cases gone envelope <;> cases gone' envelope <;> rfl
  · intro envelope hleaves
    rcases Bool.or_eq_true_iff.mp hleaves with hleaves | hleaves
    · exact hgone envelope hleaves
    · exact hgone' envelope hleaves

variable [Sodium]

/-- What a page is sent as: a fetch that the listing answers. -/
theorem handleDmFetchRequest_page {context : HandlerContext} {reader : ByteReader}
    {request : DmFetchRequest} {response : DmListResponse}
    (registered : context.connection.session.isRegistered = true)
    (decoded : (DmFetchRequest.readFrom reader).1 = some request)
    (page : listForRecipient context.database context.connection.session.userId request.sinceId
      (clampBatchLimit request.limit) = some response) :
    handleDmFetchRequest context reader = sendMessage context .dmListResponse response.writeTo := by
  rw [handleDmFetchRequest, guardedRequest_decoded registered decoded, answerDmFetch, page]

/-! ## A walk -/

/-- A page that was returned: the database at that moment, the request, the
response, and the ids the recipient had acknowledged by then. -/
structure MailPage where
  database : DatabaseHandle
  request : DmFetchRequest
  response : DmListResponse
  acknowledged : List UInt64

/-- A recipient on its way through the inbox. -/
structure MailWalk where
  tables : Tables
  pages : List MailPage := []
  acknowledged : List UInt64 := []

/-- The envelopes returned so far. -/
def MailWalk.received (walk : MailWalk) : List DmEnvelopeRecord :=
  walk.pages.flatMap fun page => page.response.envelopes

/-- The last id received, 0 before the first. -/
def MailWalk.lastReceived (walk : MailWalk) : UInt64 :=
  (walk.received.getLast?.map DmEnvelopeRecord.id).getD 0

/-- The last id of a page; where it is empty, the one it was asked from. -/
def MailPage.lastId (page : MailPage) : UInt64 :=
  (page.response.envelopes.getLast?.map DmEnvelopeRecord.id).getD page.request.sinceId

/-- No step of the listing of the page fails. -/
def MailPage.Whole (owner : ℤ) (page : MailPage) : Prop :=
  ¬ ((ListingCall.listForRecipient owner page.request.sinceId
    (clampBatchLimit page.request.limit)).listing page.database.tables).StepFails page.database

/-- The states of a walk through the inbox of an account, from these tables on:
requests of any sessions, with any answers of the database, and whatever happens to
the other tables. The account asks for what follows the last id it has received, and
acknowledges only ids it has received. -/
inductive MailWalk.Reached (owner : ℤ) (start : Tables) : MailWalk → Prop where
  | start : Reached owner start { tables := start }
  | sent {walk : MailWalk} {context : HandlerContext} (before : Reached owner start walk)
      (current : context.database.tables = walk.tables) (reader : ByteReader) :
      Reached owner start
        { walk with tables := (handleDmSendRequest context reader).2.database.tables }
  | acknowledged {walk : MailWalk} {context : HandlerContext} {reader : ByteReader}
      {request : DmAckRequest} (before : Reached owner start walk)
      (current : context.database.tables = walk.tables)
      (decoded : (DmAckRequest.readFrom reader).1 = some request)
      (known : context.connection.session.userId = owner →
        ∀ id ∈ request.envelopeIds, id ∈ walk.received.map DmEnvelopeRecord.id) :
      Reached owner start
        { walk with
          tables := (handleDmAckRequest context reader).2.database.tables
          acknowledged :=
            if context.connection.session.userId = owner then walk.acknowledged ++ request.envelopeIds
            else walk.acknowledged }
  | fetched {walk : MailWalk} {context : HandlerContext} {reader : ByteReader}
      {request : DmFetchRequest} {response : DmListResponse} (before : Reached owner start walk)
      (current : context.database.tables = walk.tables)
      (registered : context.connection.session.isRegistered = true)
      (own : context.connection.session.userId = owner)
      (decoded : (DmFetchRequest.readFrom reader).1 = some request)
      (since : request.sinceId = walk.lastReceived)
      (page : listForRecipient context.database owner request.sinceId
        (clampBatchLimit request.limit) = some response) :
      Reached owner start
        { walk with
          pages := walk.pages ++ [{ database := context.database, request, response
                                    acknowledged := walk.acknowledged }] }
  | elsewhere {walk : MailWalk} {after : Tables} (before : Reached owner start walk)
      (envelopes : after.dmEnvelopes = walk.tables.dmEnvelopes)
      (sequence : after.dmEnvelopesSequence = walk.tables.dmEnvelopesSequence) :
      Reached owner start { walk with tables := after }

/-! ## Every step is one of the abstract walk -/

/-- The walk `s` that a walk through the inbox is. -/
structure MailWalk.Follows (owner : ℤ) (start : Tables) (walk : MailWalk)
    (s : CursorWalk.State DmEnvelopeRow ℤ) : Prop where
  reached : CursorWalk.Reached DmEnvelopeRow.id 0 (start.inboxOf owner) start.dmEnvelopesSequence s
  inOrder : walk.tables.MailInOrder
  box : s.box = walk.tables.inboxOf owner
  high : s.high = walk.tables.dmEnvelopesSequence
  received : walk.received = s.received.map DmEnvelopeRow.toRecord
  ids : ∀ row ∈ s.received, 0 < row.id ∧ row.id ≤ maxRowid
  acknowledged : ∀ id ∈ walk.acknowledged, id ∈ walk.received.map DmEnvelopeRecord.id

omit [Sodium] in
/-- The inbox is in order. -/
theorem Tables.MailInOrder.ordered {tables : Tables} (h : tables.MailInOrder) (owner : ℤ) :
    CursorWalk.Ordered DmEnvelopeRow.id 0 (tables.inboxOf owner) tables.dmEnvelopesSequence where
  ascending := h.ascending.filter _
  bounds := by
    intro envelope hmem
    have hgiven := h.given_out envelope (List.mem_of_mem_filter hmem)
    exact ⟨hgiven.1, hgiven.2.1⟩
  bottom_le := h.sequence_nonneg

namespace MailWalk.Follows

variable {owner : ℤ} {start : Tables} {walk : MailWalk} {s : CursorWalk.State DmEnvelopeRow ℤ}

omit [Sodium]

/-- The cursor of the walk is an id that was given out, or 0. -/
theorem cursor_bounds (h : Follows owner start walk s) :
    0 ≤ CursorWalk.cursor DmEnvelopeRow.id 0 s.received ∧
      CursorWalk.cursor DmEnvelopeRow.id 0 s.received ≤ maxRowid := by
  rcases List.eq_nil_or_concat' s.received with hnone | ⟨front, last, hlast⟩
  · rw [hnone]
    exact ⟨le_rfl, by decide⟩
  · have hids := h.ids last (by rw [hlast]; exact List.mem_append_right _ List.mem_cons_self)
    rw [hlast, CursorWalk.cursor_append_of_ne_nil (List.cons_ne_nil last [])]
    exact ⟨hids.1.le, hids.2⟩

/-- What the account asks from is the cursor. -/
theorem lastReceived_eq (h : Follows owner start walk s) :
    walk.lastReceived = castUInt64 (CursorWalk.cursor DmEnvelopeRow.id 0 s.received) := by
  rw [lastReceived, h.received, CursorWalk.cursor, List.getLast?_map]
  cases s.received.getLast? with
  | none => rfl
  | some last => rfl

/-- What is pending after the last id received is what the walk has not read. -/
theorem pending_eq (h : Follows owner start walk s) :
    walk.tables.pendingEnvelopes owner (castInt64 walk.lastReceived) =
      CursorWalk.unread DmEnvelopeRow.id 0 s := by
  have hbounds := h.cursor_bounds
  rw [maxRowid] at hbounds
  rw [h.inOrder.pendingEnvelopes_eq, h.lastReceived_eq,
    castInt64_castUInt64 (by omega) (by omega), CursorWalk.unread, h.box]

/-- Envelopes leave, of the account only received ones. -/
theorem leave (h : Follows owner start walk s) {after : Tables} {recipientId : ℤ}
    {ids acknowledged : List UInt64}
    (leaving : EnvelopesLeave recipientId ids walk.tables after) (inOrder : after.MailInOrder)
    (known : recipientId = owner → ∀ id ∈ ids, id ∈ walk.received.map DmEnvelopeRecord.id)
    (acknowledges : ∀ id ∈ acknowledged, id ∈ walk.received.map DmEnvelopeRecord.id)
    (hstart : CursorWalk.Ordered DmEnvelopeRow.id 0 (start.inboxOf owner)
      start.dmEnvelopesSequence) :
    ∃ s', Follows owner start { walk with tables := after, acknowledged } s' ∧
      s'.received = s.received := by
  obtain ⟨hsequence, gone, hrows, hgone⟩ := leaving
  refine ⟨_, { h with
    reached := h.reached.remove gone ?_
    inOrder := inOrder
    box := ?_
    high := h.high.trans hsequence.symm
    acknowledged := acknowledges }, rfl⟩
  · -- an envelope of the account that leaves has the id of one it has received
    intro envelope hmem hleaves
    rw [h.box] at hmem
    obtain ⟨hrecipient, id, hid, hsame⟩ := hgone envelope hleaves
    have hown : envelope.recipientId = owner := of_decide_eq_true (List.mem_filter.mp hmem).2
    have hreceived := known (hrecipient.symm.trans hown) id hid
    rw [h.received, List.map_map] at hreceived
    obtain ⟨row, hrow, rfl⟩ := List.mem_map.mp hreceived
    have hbounds := h.ids row hrow
    rw [maxRowid] at hbounds
    have hrowId : envelope.id = row.id :=
      hsame.trans (castInt64_castUInt64 (by omega) (by omega))
    rw [hrowId]
    exact CursorWalk.le_cursor (h.reached.invariant hstart).ascending hrow
  · rw [h.box, Tables.inboxOf, Tables.inboxOf, hrows, RowStore.deleteWhere, List.filter_filter,
      List.filter_filter]
    refine List.filter_congr fun envelope _ => ?_
    exact Bool.and_comm _ _

/-- A page is a page of the walk. -/
theorem fetched (h : Follows owner start walk s) {page : MailPage} {rows : List DmEnvelopeRow}
    (front : rows <+: CursorWalk.unread DmEnvelopeRow.id 0 s)
    (envelopes : page.response.envelopes = rows.map DmEnvelopeRow.toRecord) :
    Follows owner start { walk with pages := walk.pages ++ [page] }
      { s with received := s.received ++ rows } := by
  have hreceived : MailWalk.received { walk with pages := walk.pages ++ [page] } =
      walk.received ++ rows.map DmEnvelopeRow.toRecord := by
    rw [MailWalk.received, List.flatMap_append, List.flatMap_singleton, envelopes, MailWalk.received]
  refine { h with
    reached := h.reached.page front
    received := ?_
    ids := ?_
    acknowledged := ?_ }
  · rw [hreceived, List.map_append, h.received]
  · intro row hrow
    rcases List.mem_append.mp hrow with hold | hnew
    · exact h.ids row hold
    · have hbox := (CursorWalk.mem_unread.mp (front.subset hnew)).1
      rw [h.box] at hbox
      have hgiven := h.inOrder.given_out row (List.mem_of_mem_filter hbox)
      exact ⟨hgiven.1, hgiven.2.2⟩
  · intro id hid
    rw [hreceived, List.map_append]
    exact List.mem_append_left _ (h.acknowledged id hid)

end MailWalk.Follows

/-- What holds of a page, once these rows have been received. -/
structure MailPage.Sound (owner : ℤ) (start : Tables) (received : List DmEnvelopeRow)
    (page : MailPage) : Prop where
  never_again : ∀ envelope ∈ page.response.envelopes, envelope.id ∉ page.acknowledged
  last : page.Whole owner → page.response.hasMore = 0 →
    (∀ row ∈ start.inboxOf owner, row ∈ received) ∧
      ∀ row ∈ page.database.tables.inboxOf owner, castUInt64 row.id ≤ page.lastId
  more : page.Whole owner → page.response.hasMore ≠ 0 → page.response.envelopes ≠ []

omit [Sodium] in
/-- What was said of a page stays true as more is received. -/
theorem MailPage.Sound.mono {owner : ℤ} {start : Tables} {received received' : List DmEnvelopeRow}
    {page : MailPage} (h : page.Sound owner start received) (hsubset : received ⊆ received') :
    page.Sound owner start received' :=
  { h with
    last := fun whole last => ⟨fun row hrow => hsubset ((h.last whole last).1 row hrow),
      (h.last whole last).2⟩ }

namespace MailWalk

end MailWalk

/-- What a walk is promised, of the envelopes that were there at its start, of a
page that says it is the last, and of what has been acknowledged. -/
structure MailWalk.Complete (owner : ℤ) (start : Tables) (walk : MailWalk) : Prop where
  ascending : (walk.received.map DmEnvelopeRecord.id).Pairwise (· < ·)
  /-- as soon as a page was the last, or as many pages came as there were envelopes -/
  returned_once : (∃ page ∈ walk.pages, page.response.hasMore = 0) ∨
      (start.inboxOf owner).length ≤ walk.pages.length →
    ∀ row ∈ start.inboxOf owner, walk.received.count row.toRecord = 1
  last_page : ∀ page ∈ walk.pages, page.response.hasMore = 0 →
    ∀ row ∈ page.database.tables.inboxOf owner, castUInt64 row.id ≤ page.lastId
  never_again : ∀ page ∈ walk.pages, ∀ envelope ∈ page.response.envelopes,
    envelope.id ∉ page.acknowledged

omit [Sodium]

end HyperCom
