import Mathlib.Data.List.Pairwise
import HyperCom.Lib.Paging
import HyperCom.Server.Inbox

/-!
# The mail a server can hold

What the tables guarantee of the envelopes, whatever was sent and acknowledged:
their ids ascend in the order of arrival and no ciphertext is larger than
`MAX_DM_CIPHERTEXT_SIZE` (`ReachableInbox.inOrder`). With that, acknowledging
some of the first page takes just these out of the list of pending envelopes.

The ids are those of AUTOINCREMENT: every insertion takes one above the largest that was
ever given out, so the order of the ids is the order of arrival, and a deleted id does not
come back. Acknowledging names ids, and deletes only rows of the recipient; that is all the
two statements on this table do.
-/

namespace HyperCom

open BinaryCodec RowStore

/-! ## What holds of every inbox -/

/-- The envelopes, as AUTOINCREMENT and the reader of `dm_send_request` leave
them. -/
structure Tables.MailInOrder (tables : Tables) : Prop where
  sequence_nonneg : 0 ≤ tables.dmEnvelopesSequence
  ascending : tables.dmEnvelopes.Pairwise fun first second => first.id < second.id
  given_out : ∀ envelope ∈ tables.dmEnvelopes,
    0 < envelope.id ∧ envelope.id ≤ tables.dmEnvelopesSequence ∧ envelope.id ≤ maxRowid
  sizes : ∀ envelope ∈ tables.dmEnvelopes, envelope.ciphertext.length ≤ maxDmCiphertextSize

namespace Tables.MailInOrder

variable {before after : Tables}

/-- In terms of `Lib.Schema`. -/
theorem numbered (h : before.MailInOrder) :
    Numbered DmEnvelopeRow.id maxRowid before.dmEnvelopes before.dmEnvelopesSequence :=
  ⟨h.sequence_nonneg, h.ascending, h.given_out⟩

/-- And back. -/
theorem of_numbered
    (h : Numbered DmEnvelopeRow.id maxRowid after.dmEnvelopes after.dmEnvelopesSequence)
    (sizes : ∀ envelope ∈ after.dmEnvelopes, envelope.ciphertext.length ≤ maxDmCiphertextSize) :
    after.MailInOrder :=
  ⟨h.sequence_nonneg, h.ascending, h.given_out, sizes⟩

/-- Nothing but the envelopes matters. -/
theorem congr (h : before.MailInOrder) (henvelopes : after.dmEnvelopes = before.dmEnvelopes)
    (hsequence : after.dmEnvelopesSequence = before.dmEnvelopesSequence) : after.MailInOrder where
  sequence_nonneg := by rw [hsequence]; exact h.sequence_nonneg
  ascending := by rw [henvelopes]; exact h.ascending
  given_out := by rw [henvelopes, hsequence]; exact h.given_out
  sizes := by rw [henvelopes]; exact h.sizes

/-- A new envelope comes last. -/
theorem insertEnvelopeRow {recipientId : ℤ} {senderPubkey : WirePublicKey} {ciphertext : ByteString}
    {id : ℤ} (h : before.MailInOrder) (hsize : ciphertext.length ≤ maxDmCiphertextSize)
    (hinsert : HyperCom.insertEnvelopeRow recipientId senderPubkey ciphertext before =
      some (id, after)) : after.MailInOrder := by
  obtain ⟨hid, rfl⟩ := insertEnvelopeRow_some hinsert
  obtain ⟨hnext, hroom⟩ := nextRowid_eq_some hid
  refine of_numbered (h.numbered.append hnext hroom) fun envelope hmem => ?_
  rcases List.mem_append.mp hmem with hold | hnew
  · exact h.sizes envelope hold
  · rw [List.mem_singleton.mp hnew]
    exact hsize

/-- What is left keeps its order. -/
theorem deleteEnvelopeRow {recipientId : ℤ} {identifier : UInt64} {result : Unit}
    (h : before.MailInOrder)
    (hdelete : HyperCom.deleteEnvelopeRow recipientId identifier before = some (result, after)) :
    after.MailInOrder := by
  obtain ⟨-, rfl⟩ := Prod.mk.inj (Option.some.inj hdelete)
  exact of_numbered h.numbered.delete fun envelope hmem =>
    h.sizes envelope (List.mem_of_mem_filter hmem)

end Tables.MailInOrder

variable [Sodium]

/-- What sending a message does to the tables: nothing, or the insertion of its envelope. -/
theorem handleDmSendRequest_effect {R : Tables → Tables → Prop} (hrefl : ∀ tables, R tables tables)
    {context : HandlerContext} {reader : ByteReader}
    (hinsert : ∀ {recipientId senderPubkey ciphertext id after},
      ciphertext.length ≤ maxDmCiphertextSize →
      insertEnvelopeRow recipientId senderPubkey ciphertext context.database.tables =
        some (id, after) → R context.database.tables after) :
    R context.database.tables (handleDmSendRequest context reader).2.database.tables := by
  refine guardedRequest_effect hrefl fun request decoded => ?_
  have hsize : request.ciphertext.length ≤ maxDmCiphertextSize :=
    (DmSendRequest.exact.sound (Prod.ext decoded rfl)).1
  split
  · exact hrefl _
  split
  · exact hrefl _
  -- whatever the insertion answers, the tables are as it leaves them
  split
  · next written => exact DatabaseHandle.write_effect written hrefl (hinsert hsize)
  · next written => exact DatabaseHandle.write_effect written hrefl (hinsert hsize)

/-- What an acknowledgement does to the tables: nothing, or the deletion of the envelopes it
names in the mailbox of the session. -/
theorem handleDmAckRequest_effect {R : Tables → Tables → Prop} (hrefl : ∀ tables, R tables tables)
    (htrans : ∀ first second third, R first second → R second third → R first third)
    {context : HandlerContext} {reader : ByteReader}
    (hdelete : ∀ request, (DmAckRequest.readFrom reader).1 = some request →
      ∀ identifier ∈ request.envelopeIds, ∀ before after,
        deleteEnvelopeRow context.connection.session.userId identifier before = some ((), after) →
        R before after) :
    R context.database.tables (handleDmAckRequest context reader).2.database.tables := by
  refine guardedRequest_effect hrefl fun request decoded => ?_
  split
  · next deleted => exact deleteAcknowledged_effect deleted hrefl htrans (hdelete request decoded)
  · next deleted => exact deleteAcknowledged_effect deleted hrefl htrans (hdelete request decoded)

/-- So the two requests that write to the table keep it in order. -/
theorem handleDmSendRequest_mail {context : HandlerContext} (reader : ByteReader)
    (h : context.database.tables.MailInOrder) :
    (handleDmSendRequest context reader).2.database.tables.MailInOrder :=
  handleDmSendRequest_effect (R := fun before after => before.MailInOrder → after.MailInOrder)
    (fun _ => id) (fun hsize hrow h => h.insertEnvelopeRow hsize hrow) h

theorem handleDmAckRequest_mail {context : HandlerContext} (reader : ByteReader)
    (h : context.database.tables.MailInOrder) :
    (handleDmAckRequest context reader).2.database.tables.MailInOrder :=
  handleDmAckRequest_effect (R := fun before after => before.MailInOrder → after.MailInOrder)
    (fun _ => id) (fun _ _ _ hfirst hsecond h => hsecond (hfirst h))
    (fun _ _ _ _ _ _ hrow h => h.deleteEnvelopeRow hrow) h

/-- The tables the server can reach, as far as the mail is concerned: whatever
is sent and acknowledged on any session, and whatever happens to the other
tables meanwhile, from a database without mail on. -/
inductive ReachableInbox : Tables → Prop where
  | start {tables : Tables} (empty : tables.dmEnvelopes = [])
      (nonneg : 0 ≤ tables.dmEnvelopesSequence) : ReachableInbox tables
  | sent {context : HandlerContext} (before : ReachableInbox context.database.tables)
      (reader : ByteReader) : ReachableInbox (handleDmSendRequest context reader).2.database.tables
  | acknowledged {context : HandlerContext} (before : ReachableInbox context.database.tables)
      (reader : ByteReader) : ReachableInbox (handleDmAckRequest context reader).2.database.tables
  | elsewhere {before after : Tables} (earlier : ReachableInbox before)
      (envelopes : after.dmEnvelopes = before.dmEnvelopes)
      (sequence : after.dmEnvelopesSequence = before.dmEnvelopesSequence) : ReachableInbox after

/-- In every state that can be reached. -/
theorem ReachableInbox.inOrder {tables : Tables} (h : ReachableInbox tables) :
    tables.MailInOrder := by
  induction h with
  | start empty nonneg =>
    exact ⟨nonneg, by simp [empty], by simp [empty], by simp [empty]⟩
  | sent _ reader ih => exact handleDmSendRequest_mail reader ih
  | acknowledged _ reader ih => exact handleDmAckRequest_mail reader ih
  | elsewhere _ envelopes sequence ih => exact ih.congr envelopes sequence

/-- A crowded inbox is one of them. -/
theorem crowdedTables_reachable {ciphertext : ByteString} {count : ℕ} (hpos : ciphertext ≠ [])
    (hmax : ciphertext.length ≤ maxDmCiphertextSize) (hcount : (count : ℤ) ≤ maxRowid) :
    ReachableInbox (crowdedTables ciphertext count) := by
  induction count with
  | zero => exact .start rfl le_rfl
  | succ count ih =>
    have hlt : (count : ℤ) < maxRowid := by
      push_cast at hcount
      omega
    have hbefore : ReachableInbox (accountContext (crowdedTables ciphertext count) 2
        (repeatedKey 2)).database.tables := ih hlt.le
    have hsent := hbefore.sent (ByteReader.start (DmSendRequest.writeTo
      { recipientPubkey := repeatedKey 1, ciphertext }))
    rwa [crowdedTables_succ hpos hmax hlt] at hsent

/-! ## Acknowledging -/

omit [Sodium]

namespace Tables.MailInOrder

variable {tables : Tables} {owner : ℤ}

/-- In this order nothing has to be sorted. -/
theorem pending_eq (h : tables.MailInOrder) :
    tables.pendingEnvelopes owner (castInt64 0) =
      tables.dmEnvelopes.filter fun envelope => envelope.recipientId = owner := by
  have hpositive : (tables.dmEnvelopes.filter fun envelope =>
      envelope.recipientId = owner && envelope.id > castInt64 0) =
      tables.dmEnvelopes.filter fun envelope => envelope.recipientId = owner := by
    refine List.filter_congr ?_
    intro envelope hmem
    have hzero : castInt64 0 = 0 := by decide
    simp [hzero, (h.given_out envelope hmem).1]
  rw [Tables.pendingEnvelopes, hpositive]
  refine List.mergeSort_of_pairwise ((h.ascending.filter _).imp ?_)
  intro first second hlt
  simpa using hlt.le

/-- What is pending is listed in the order of arrival. -/
theorem pending_ascending (h : tables.MailInOrder) :
    (tables.pendingEnvelopes owner (castInt64 0)).Pairwise fun first second =>
      first.id < second.id := by
  rw [h.pending_eq]
  exact h.ascending.filter _

/-- The id that travels as a `u64` is the id of the row. -/
theorem castInt64_id (h : tables.MailInOrder) {envelope : DmEnvelopeRow}
    (hmem : envelope ∈ tables.dmEnvelopes) : castInt64 (castUInt64 envelope.id) = envelope.id := by
  have hgiven := h.given_out envelope hmem
  rw [maxRowid] at hgiven
  exact castInt64_castUInt64 (by omega) (by omega)

/-- The same id is the same envelope. -/
theorem eq_of_id (h : tables.MailInOrder) {first second : DmEnvelopeRow}
    (hfirst : first ∈ tables.dmEnvelopes) (hsecond : second ∈ tables.dmEnvelopes)
    (hid : first.id = second.id) : first = second :=
  eq_of_key h.ascending hfirst hsecond hid

end Tables.MailInOrder

/-- The tables without the envelopes of a recipient that have these ids. -/
def Tables.withoutEnvelopes (tables : Tables) (recipientId : ℤ) (ids : List UInt64) : Tables :=
  { tables with
    dmEnvelopes := deleteWhere (fun envelope =>
      ids.any (fun identifier => envelope.id = castInt64 identifier) &&
        envelope.recipientId = recipientId) tables.dmEnvelopes }

/-- Acknowledging nothing. -/
theorem Tables.withoutEnvelopes_nil {tables : Tables} {recipientId : ℤ} :
    tables.withoutEnvelopes recipientId [] = tables := by
  simp [Tables.withoutEnvelopes, deleteWhere]

/-- Taking envelopes out leaves the others in order. -/
theorem Tables.MailInOrder.withoutEnvelopes {tables : Tables} (h : tables.MailInOrder)
    (recipientId : ℤ) (ids : List UInt64) : (tables.withoutEnvelopes recipientId ids).MailInOrder where
  sequence_nonneg := h.sequence_nonneg
  ascending := h.ascending.filter _
  given_out := fun envelope hleft => h.given_out envelope (List.mem_of_mem_filter hleft)
  sizes := fun envelope hleft => h.sizes envelope (List.mem_of_mem_filter hleft)

/-- The deletion loop, on a database that does not fail. -/
theorem deleteEnvelopes_healthy {database : DatabaseHandle} (healthy : database.Healthy)
    (recipientId : ℤ) (step : ℕ) (ids : List UInt64) :
    ∃ database', deleteEnvelopes recipientId step ids database = (true, database') ∧
      database'.tables = database.tables.withoutEnvelopes recipientId ids ∧
      database'.Healthy ∧ database'.transaction = database.transaction := by
  induction ids generalizing step database with
  | nil => exact ⟨database, rfl, Tables.withoutEnvelopes_nil.symm, healthy, rfl⟩
  | cons identifier ids ih =>
    have hrow : deleteEnvelopeRow recipientId identifier database.tables =
        some ((), database.tables.withoutEnvelopes recipientId [identifier]) := by
      simp [deleteEnvelopeRow, Tables.withoutEnvelopes]
    have hwrite := healthy.write_eq hrow .deleteEnvelope step
    obtain ⟨database', hrest, htables, hhealthy, htransaction⟩ :=
      ih (show DatabaseHandle.Healthy { database with
        tables := database.tables.withoutEnvelopes recipientId [identifier]
        wal := database.tables :: database.wal } from healthy) (step + 1)
    refine ⟨database', ?_, ?_, hhealthy, htransaction⟩
    · rw [deleteEnvelopes, hwrite]
      exact hrest
    · rw [htables]
      simp only [Tables.withoutEnvelopes, deleteWhere, List.filter_filter, Tables.mk.injEq, true_and,
        and_true]
      refine List.filter_congr ?_
      intro envelope _
      simp only [List.any_cons, List.any_nil, Bool.or_false]
      cases decide (envelope.id = castInt64 identifier) <;>
        cases decide (envelope.recipientId = recipientId) <;> simp

/-- `delete_acknowledged`, outside a transaction. -/
theorem deleteAcknowledged_healthy {database : DatabaseHandle} (healthy : database.Healthy)
    (idle : database.transaction = none) (recipientId : ℤ) (ids : List UInt64) :
    ∃ database', deleteAcknowledged database recipientId ids = (true, database') ∧
      database'.tables = database.tables.withoutEnvelopes recipientId ids ∧
      database'.Healthy ∧ database'.transaction = none := by
  have hfaults : database.faults = fun _ _ => false := healthy
  have hbegin : database.beginImmediate =
      (true, { database with transaction := some database.tables }) := by
    simp [DatabaseHandle.beginImmediate, hfaults, idle]
  obtain ⟨deleted, hloop, htables, hhealthy, -⟩ := deleteEnvelopes_healthy
    (show DatabaseHandle.Healthy { database with transaction := some database.tables } from healthy)
    recipientId 0 ids
  have hcommit : deleted.commit = (true, { deleted with transaction := none }) := by
    have hdeleted : deleted.faults = fun _ _ => false := hhealthy
    simp [DatabaseHandle.commit, hdeleted]
  refine ⟨{ deleted with transaction := none }, ?_, htables, hhealthy, rfl⟩
  simp only [deleteAcknowledged, DatabaseHandle.inTransaction, hbegin, hloop, hcommit]

/-- Acknowledging some of the first envelopes takes these out of the list. -/
theorem Tables.MailInOrder.pending_acknowledged {tables : Tables} {owner : ℤ}
    (h : tables.MailInOrder) (size : ℕ) (done : DmEnvelopeRow → Bool) :
    (tables.withoutEnvelopes owner
      ((((tables.pendingEnvelopes owner (castInt64 0)).take size).filter done).map
        fun envelope => castUInt64 envelope.id)).pendingEnvelopes owner (castInt64 0) =
      Paging.clearPage size done (tables.pendingEnvelopes owner (castInt64 0)) := by
  set pending := tables.pendingEnvelopes owner (castInt64 0) with hpending
  set ids := ((pending.take size).filter done).map fun envelope => castUInt64 envelope.id with hids
  have hmem : ∀ {envelope}, envelope ∈ pending → envelope ∈ tables.dmEnvelopes ∧
      envelope.recipientId = owner := by
    intro envelope henvelope
    rw [hpending, h.pending_eq] at henvelope
    simpa using List.mem_filter.mp henvelope
  -- an envelope is deleted exactly when it is on the page and done with
  have hdeleted : ∀ envelope ∈ pending,
      (ids.any fun identifier => envelope.id = castInt64 identifier) = true ↔
        envelope ∈ pending.take size ∧ done envelope = true := by
    intro envelope henvelope
    simp only [hids, List.any_map, List.any_eq_true, List.mem_filter, Function.comp_apply,
      decide_eq_true_eq]
    constructor
    · rintro ⟨other, ⟨hother, hdone⟩, hid⟩
      have hotherMem := hmem (List.mem_of_mem_take hother)
      rw [h.castInt64_id hotherMem.1] at hid
      obtain rfl := h.eq_of_id (hmem henvelope).1 hotherMem.1 hid
      exact ⟨hother, hdone⟩
    · rintro ⟨hpage, hdone⟩
      exact ⟨envelope, ⟨hpage, hdone⟩, (h.castInt64_id (hmem henvelope).1).symm⟩
  have hinOrder := h.withoutEnvelopes owner ids
  have hleft : (tables.withoutEnvelopes owner ids).pendingEnvelopes owner (castInt64 0) =
      pending.filter fun envelope =>
        !(ids.any fun identifier => envelope.id = castInt64 identifier) := by
    rw [hinOrder.pending_eq, hpending, h.pending_eq, Tables.withoutEnvelopes, deleteWhere,
      List.filter_filter, List.filter_filter]
    refine List.filter_congr ?_
    intro envelope _
    cases decide (envelope.recipientId = owner) <;> simp
  have hdistinct : pending.Pairwise fun first second => first ≠ second :=
    h.pending_ascending.imp fun hlt heq => absurd hlt (by rw [heq]; exact lt_irrefl _)
  rw [hleft, Paging.clearPage]
  conv_lhs => rw [← List.take_append_drop size pending]
  rw [List.filter_append]
  congr 1
  · refine List.filter_congr ?_
    intro envelope hpage
    rw [Bool.eq_iff_iff, Bool.not_eq_true', Bool.not_eq_true', ← Bool.not_eq_true,
      ← Bool.not_eq_true, hdeleted envelope (List.mem_of_mem_take hpage)]
    simp [hpage]
  · refine List.filter_eq_self.mpr ?_
    intro envelope hrest
    rw [Bool.not_eq_true', ← Bool.not_eq_true, hdeleted envelope (List.mem_of_mem_drop hrest)]
    rintro ⟨hpage, -⟩
    rw [← List.take_append_drop size pending] at hdistinct
    exact (List.pairwise_append.mp hdistinct).2.2 envelope hpage envelope hrest rfl

end HyperCom
