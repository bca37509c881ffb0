import HyperCom.Client.HexCodec
import HyperCom.Server.AdminCommand
import HyperCom.Server.GrownThread
import HyperCom.Server.StoredRows

/-!
# The `reports` command

`run_reports_command` with its three actions, and the deletion of a reported post next
to the one its author asks for. They leave the same tables. The author's deletion is
followed by a checkpoint of the write-ahead log, the administration's is not, so the
row with its text stays in the log (`admin_deletion_never`).

What is compared is the whole database handle: the tables, and the frames of the log that a
checkpoint would fold into them. The tables are the same after both deletions; the log is
where they differ, and a copy of the file and its log is where it shows.
-/

namespace HyperCom

open BinaryCodec RowStore

/-! ## `admin_reports_command` -/

/-- `pad_right` -/
def padRight (text : ByteString) (width : ℕ) : ByteString :=
  text ++ List.replicate (width - text.length) 0x20 ++ [0x20]

def reportsListLimit : ℕ := 200

/-- The kind of a report and what is printed of its target. -/
def ReportTarget.printed : ReportTarget → ByteString × ByteString
  | .post postId => (ascii "post", ascii (toString postId))
  | .account targetPubkey => (ascii "account", (encodeHex targetPubkey.1).take 16)

/-- The line of a report. -/
def ReportRow.line (row : ReportRow) : ByteString :=
  padRight (ascii (toString row.id)) 6 ++ padRight row.target.printed.1 10 ++
    padRight row.target.printed.2 20 ++ padRight (row.reason.take 28) 30 ++
    ascii "#" ++ ascii (toString row.reporterId) ++ ascii "\n"

/-- `list_reports`, of the command. -/
def printReports (database : DatabaseHandle) : ByteString :=
  match listReports database reportsListLimit with
  | none => ascii "echec : lecture des signalements impossible\n"
  | some [] => ascii "(aucun signalement)\n"
  | some rows => padRight (ascii "ID") 6 ++ padRight (ascii "TYPE") 10 ++
      padRight (ascii "CIBLE") 20 ++ padRight (ascii "MOTIF") 30 ++ ascii "PAR\n" ++
      rows.flatMap ReportRow.line

/-- `parse_report_id`: `std::from_chars` for an `std::int64_t`. What follows the digits
is ignored. -/
def parseReportId (text : ByteString) : Option ℤ :=
  let negative := text.head? = some 0x2D
  let digits := (if negative then text.tail else text).takeWhile fun character =>
    character ≥ 0x30 && character ≤ 0x39
  let value : ℤ := digits.foldl (fun value digit => value * 10 + (digit.toNat - 0x30 : ℕ)) 0
  let number := if negative then -value else value
  if digits.isEmpty || number < -2 ^ 63 || number ≥ 2 ^ 63 then none else some number

/-- `clear_report`, of the command. -/
def clearReportCommand (database : DatabaseHandle) (argument : ByteString) :
    ByteString × DatabaseHandle :=
  match parseReportId argument with
  | none => (ascii "usage : reports clear <id>\n", database)
  | some id =>
    match clearReport database id with
    | (false, database) => (ascii "echec : signalement introuvable ou deja classe\n", database)
    | (true, database) => (ascii "signalement " ++ argument ++ ascii " classe\n", database)

/-- `delete_reported_post` -/
def deleteReportedPost (database : DatabaseHandle) (argument : ByteString) (now : UInt64) :
    ByteString × DatabaseHandle :=
  match parseReportId argument with
  | none => (ascii "usage : reports delete-post <post_id>\n", database)
  | some postId =>
    match adminDeletePost database postId now with
    | (false, database) => (ascii "echec : post introuvable ou deja supprime\n", database)
    | (true, database) => (ascii "post " ++ argument ++ ascii " supprime\n", database)

/-- `run_reports_command` -/
def runReportsCommand (database : DatabaseHandle) (command : AdminCommand) (now : UInt64) :
    ByteString × DatabaseHandle :=
  match command.arguments with
  | [] => (printReports database, database)
  | action :: arguments =>
    if action = ascii "list" then (printReports database, database)
    else
      match arguments with
      | argument :: _ =>
        if action = ascii "clear" then clearReportCommand database argument
        else if action = ascii "delete-post" then deleteReportedPost database argument now
        else (ascii "usage : reports [list | clear <id> | delete-post <post_id>]\n", database)
      | [] => (ascii "usage : reports [list | clear <id> | delete-post <post_id>]\n", database)

/-- What the command can do to the database. -/
theorem runReportsCommand_cases (database : DatabaseHandle) (command : AdminCommand) (now : UInt64) :
    (runReportsCommand database command now).2 = database ∨
      (∃ id, (runReportsCommand database command now).2 = (clearReport database id).2) ∨
      ∃ postId, (runReportsCommand database command now).2 = (adminDeletePost database postId now).2 := by
  rw [runReportsCommand]
  split
  · exact .inl rfl
  split
  · exact .inl rfl
  split
  · next argument _ =>
    split
    · rw [clearReportCommand]
      split
      · exact .inl rfl
      · next id _ =>
        refine .inr (.inl ⟨id, ?_⟩)
        split
        · next hcleared => rw [hcleared]
        · next hcleared => rw [hcleared]
    split
    · rw [deleteReportedPost]
      split
      · exact .inl rfl
      · next postId _ =>
        refine .inr (.inr ⟨postId, ?_⟩)
        split
        · next hdeleted => rw [hdeleted]
        · next hdeleted => rw [hdeleted]
    · exact .inl rfl
  · exact .inl rfl

theorem runReportsCommand_writes (database : DatabaseHandle) (command : AdminCommand)
    (now : UInt64) :
    OtherWrites database.tables (runReportsCommand database command now).2.tables := by
  rcases runReportsCommand_cases database command now with hsame | ⟨id, hcleared⟩ | ⟨postId, hdeleted⟩
  · rw [hsame]
    exact .refl _
  · rw [hcleared]
    exact clearReport_writes rfl
  · rw [hdeleted]
    exact adminDeletePost_writes rfl

/-! ## Steps of the server -/

section Steps

variable [Sodium]

/-- One request on any connection or one command of the administration, whatever SQLite
calls fail meanwhile. The commands that are not here write no table. -/
inductive ServerStep : Tables → Tables → Prop where
  | served (context : HandlerContext) (type : MessageType) (reader : ByteReader) :
      ServerStep context.database.tables (routeMessage context type reader).2.database.tables
  | motdSet (database : DatabaseHandle) (body : ByteString) (now : UInt64) :
      ServerStep database.tables (setMotd database body now).2.tables
  | motdCleared (database : DatabaseHandle) :
      ServerStep database.tables (clearActiveMotd database).2.tables
  | ban (database : DatabaseHandle) (pubkey : WirePublicKey) (banned : Bool) :
      ServerStep database.tables (banAccount database pubkey banned).2.tables
  | reports (database : DatabaseHandle) (command : AdminCommand) (now : UInt64) :
      ServerStep database.tables (runReportsCommand database command now).2.tables

theorem ServerStep.writes {before after : Tables} (h : ServerStep before after) :
    Writes before after := by
  cases h with
  | served context type reader => exact routeMessage_writes context type reader
  | motdSet database body now => exact (setMotd_writes database body now).writes
  | motdCleared database => exact (clearActiveMotd_writes rfl).writes
  | ban database pubkey banned =>
    rw [banAccount_database]
    split
    · exact .refl _
    · exact (setBanned_writes rfl).writes
  | reports database command now => exact (runReportsCommand_writes database command now).writes

end Steps

/-! ## What the store retains -/

/-- The row is in the tables, or in a page image of the log. -/
def DatabaseHandle.Retains (database : DatabaseHandle) (post : PostRow) : Prop :=
  ∃ image ∈ database.tables :: database.wal, post ∈ image.posts

/-! ## The two deletions -/

/-- The tables with one value for the times of deletion. -/
def Tables.undated (tables : Tables) : Tables :=
  { tables with
    posts := tables.posts.map fun post => { post with deletedAt := post.deletedAt.map fun _ => 0 } }

/-- Two states after a deletion of the post: the same up to the time, and the text is in
neither of them, not in the tables and not in the log. -/
structure SameRealDeletion (post : PostRow) (first second : DatabaseHandle) : Prop where
  tables : first.tables.undated = second.tables.undated
  log : first.wal.map Tables.undated = second.wal.map Tables.undated
  first_erased : ¬ first.Retains post
  second_erased : ¬ second.Retains post

/-- A `post_delete_request` that its author is told has been carried out. -/
structure DeletedByAuthor (context : HandlerContext) (reader : ByteReader) (post : PostRow) : Prop where
  registered : context.connection.session.isRegistered = true
  author : context.connection.session.userId = post.authorId
  requested : ∃ request, (PostDeleteRequest.readFrom reader).1 = some request ∧
    castInt64 request.postId = post.id
  deleted : (deleteOwnPost context.database post.id post.authorId
    context.ambient.unixTimestamp).1 = true

/-- A `reports delete-post` that the administration is told has been carried out. -/
structure DeletedByAdmin (database : DatabaseHandle) (command : AdminCommand) (now : UInt64)
    (post : PostRow) : Prop where
  requested : ∃ argument more, command.arguments = ascii "delete-post" :: argument :: more ∧
    parseReportId argument = some post.id
  deleted : (adminDeletePost database post.id now).1 = true

/-- A statement that changed rows has taken effect. -/
theorem DatabaseHandle.write_changed {database : DatabaseHandle} {statement : SqlStatement}
    {effect : Tables → Option (ℕ × Tables)} {changed : ℕ} {tables : Tables}
    (heffect : effect database.tables = some (changed, tables))
    (h : (database.write statement 0 effect).1.any (0 < ·) = true) :
    0 < changed ∧ (database.write statement 0 effect).2 =
      { database with tables, wal := database.tables :: database.wal } := by
  rcases hwrite : database.write statement 0 effect with ⟨result, after⟩
  rw [hwrite] at h
  obtain ⟨rfl, -⟩ | ⟨value, written, hwritten, rfl, rfl⟩ := DatabaseHandle.write_cases hwrite
  · cases h
  · obtain ⟨rfl, rfl⟩ := Prod.mk.inj (Option.some.inj (heffect.symm.trans hwritten))
    exact ⟨of_decide_eq_true h, rfl⟩

theorem DeletedByAdmin.handled {database : DatabaseHandle} {command : AdminCommand} {now : UInt64}
    {post : PostRow} (h : DeletedByAdmin database command now post) :
    ∃ changed tables, adminErasePostRow post.id now database.tables = some (changed, tables) ∧
      0 < changed ∧ ∃ argument, runReportsCommand database command now =
        (ascii "post " ++ argument ++ ascii " supprime\n",
          { database with tables, wal := database.tables :: database.wal }) := by
  obtain ⟨argument, more, harguments, hid⟩ := h.requested
  obtain ⟨hchanged, hwritten⟩ := DatabaseHandle.write_changed rfl h.deleted
  refine ⟨_, _, rfl, hchanged, argument, ?_⟩
  have hdelete : adminDeletePost database post.id now = (true, _) := Prod.ext h.deleted hwritten
  have hclear : ascii "delete-post" ≠ ascii "clear" := by decide
  have hlist : ascii "delete-post" ≠ ascii "list" := by decide
  simp only [runReportsCommand, harguments, if_neg hlist, if_neg hclear, if_pos, deleteReportedPost, hid,
    hdelete]

section Author

variable [Sodium] {context : HandlerContext} {reader : ByteReader} {post : PostRow}

theorem DeletedByAuthor.handled (h : DeletedByAuthor context reader post) :
    ∃ changed tables, erasePostRow post.id post.authorId context.ambient.unixTimestamp
        context.database.tables = some (changed, tables) ∧
      0 < changed ∧ ∃ identifier, routeMessage context .postDeleteRequest reader = sendStatusOk
        { context with database := { context.database with
          tables, wal := context.database.tables :: context.database.wal }.walCheckpoint } identifier := by
  obtain ⟨request, hdecoded, hid⟩ := h.requested
  obtain ⟨hchanged, hwritten⟩ := DatabaseHandle.write_changed rfl h.deleted
  refine ⟨_, _, rfl, hchanged, request.postId, ?_⟩
  have hdelete : deleteOwnPost context.database post.id post.authorId
      context.ambient.unixTimestamp = (true, _) := Prod.ext h.deleted hwritten
  rw [routeMessage, handlePostDeleteRequest, guardedRequest_decoded h.registered hdecoded]
  simp only [hid, h.author, hdelete]

omit [Sodium] in
/-- Both statements blank the one row, up to the time. -/
theorem erased_undated {before first second : Tables} {now later : UInt64} {changed changed' : ℕ}
    (inOrder : before.PostsInOrder) (known : post ∈ before.posts)
    (hfirst : erasePostRow post.id post.authorId now before = some (changed, first))
    (hsecond : adminErasePostRow post.id later before = some (changed', second)) :
    first.undated = second.undated := by
  obtain ⟨-, rfl⟩ := Prod.mk.inj (Option.some.inj hfirst)
  obtain ⟨-, rfl⟩ := Prod.mk.inj (Option.some.inj hsecond)
  simp only [Tables.undated, updateWhere, List.map_map, Tables.mk.injEq, true_and, and_true]
  refine List.map_congr_left fun row hrow => ?_
  by_cases hid : row.id = post.id
  · -- the id is that of one row only, so the author is the same
    obtain rfl := Numbered.eq_of_key inOrder hrow known hid
    cases hdeleted : row.deletedAt with
    | none => simp [hdeleted]
    | some time => simp [hdeleted]
  · simp [hid]

/-- For every reachable database, every post that is not deleted, every deletion by its
author and every one by the administration of the same state: the tables come out the
same up to the time; but what the administration replaced stays at the head of the log,
which the author's deletion empties where its checkpoint succeeds. So it is never the
same real deletion. -/
theorem admin_deletion_never (context : HandlerContext) (reader : ByteReader) (post : PostRow)
    (faults : SqlStatement → ℕ → Bool) (command : AdminCommand) (now : UInt64)
    (reached : ReachableTables context.database.tables)
    (known : post ∈ context.database.tables.posts) (undeleted : post.deletedAt = none)
    (byAuthor : DeletedByAuthor context reader post)
    (byAdmin : DeletedByAdmin { context.database with faults } command now post) :
    let author := (routeMessage context .postDeleteRequest reader).2.database
    let admin := (runReportsCommand { context.database with faults } command now).2
    ¬ SameRealDeletion post author admin ∧
      author.tables.undated = admin.tables.undated ∧
      (context.database.faults .walCheckpoint 0 = false → ¬ author.Retains post) ∧
      admin.wal = context.database.tables :: context.database.wal := by
  intro author admin
  obtain ⟨changed, tables, herased, -, identifier, hauthor⟩ := byAuthor.handled
  obtain ⟨changed', tables', herased', -, argument, hadmin⟩ := byAdmin.handled
  have hauthorDatabase : author = { context.database with
      tables, wal := context.database.tables :: context.database.wal }.walCheckpoint :=
    (congrArg (fun out => out.2.database) hauthor).trans (sendMessage_frame ..).1
  have hadminDatabase : admin = { context.database with
      faults, tables := tables', wal := context.database.tables :: context.database.wal } :=
    congrArg Prod.snd hadmin
  refine ⟨fun same => same.second_erased ?_, ?_, fun hcheckpoint => ?_, ?_⟩
  · rw [hadminDatabase]
    exact ⟨context.database.tables, List.mem_cons_of_mem _ List.mem_cons_self, known⟩
  · rw [hauthorDatabase, walCheckpoint_tables, hadminDatabase]
    exact erased_undated reached.postsInOrder known herased herased'
  · rw [hauthorDatabase, DatabaseHandle.walCheckpoint, if_neg (by simp [hcheckpoint])]
    rintro ⟨image, himage, hpost⟩
    obtain rfl := List.mem_singleton.mp himage
    -- the row is not in the tables any more either
    obtain ⟨-, rfl⟩ := Prod.mk.inj (Option.some.inj herased)
    obtain ⟨old, hold, hrow⟩ := List.mem_map.mp hpost
    split at hrow
    · rw [← hrow] at undeleted
      cases undeleted
    · next hunselected =>
      subst hrow
      simp [undeleted] at hunselected
  · rw [hadminDatabase]

end Author

/-! ## One post, deleted twice over -/

/-- The post of `openedPost`. -/
def openedPostRow : PostRow :=
  { id := 1, forumId := 1, authorId := 1, title := ascii "hello", body := ascii "world"
    createdAt := 0 }

/-- `reports delete-post 1` -/
def deletePostOne : AdminCommand :=
  { verb := ascii "reports", arguments := [ascii "delete-post", ascii "1"] }

theorem openedPost_deletedByAuthor [Sodium] : DeletedByAuthor (accountContext openedPost 1 (repeatedKey 1))
    (ByteReader.start (PostDeleteRequest.writeTo { postId := 1 })) openedPostRow where
  registered := rfl
  author := rfl
  requested := ⟨{ postId := 1 }, PostDeleteRequest.exact.readFrom_start trivial, rfl⟩
  deleted := rfl

theorem openedPost_deletedByAdmin :
    DeletedByAdmin { tables := openedPost } deletePostOne 0 openedPostRow where
  requested := ⟨ascii "1", [], rfl, by decide⟩
  deleted := rfl

/-- The post of a new server, over a database that does not fail. -/
theorem admin_deletion_never_opened :
    letI := transparentSodium
    let context := accountContext openedPost 1 (repeatedKey 1)
    ¬ SameRealDeletion openedPostRow
      (routeMessage context .postDeleteRequest
        (ByteReader.start (PostDeleteRequest.writeTo { postId := 1 }))).2.database
      (runReportsCommand context.database deletePostOne 0).2 := by
  let := transparentSodium
  intro context
  exact (admin_deletion_never context _ openedPostRow (fun _ _ => false) deletePostOne 0
    openedPost_reachable (List.mem_singleton_self _) rfl openedPost_deletedByAuthor
    openedPost_deletedByAdmin).1

/-- There the author's deletion leaves the text nowhere, and the administration's leaves
it in the log. -/
theorem admin_deletion_leaves_text :
    letI := transparentSodium
    let context := accountContext openedPost 1 (repeatedKey 1)
    let author := (routeMessage context .postDeleteRequest
      (ByteReader.start (PostDeleteRequest.writeTo { postId := 1 }))).2.database
    let admin := (runReportsCommand context.database deletePostOne 0).2
    (∀ image ∈ author.tables :: author.wal, openedPostRow ∉ image.posts) ∧
      (runReportsCommand context.database deletePostOne 0).1 = ascii "post 1 supprime\n" ∧
      admin.wal = [openedPost] ∧ openedPostRow ∈ openedPost.posts ∧
      ¬ SameRealDeletion openedPostRow author admin := by
  intro context author admin
  have hadmin : admin.wal = [openedPost] := rfl
  refine ⟨by decide, by decide, hadmin, List.mem_singleton_self _, fun same => same.second_erased ?_⟩
  exact ⟨openedPost, hadmin ▸ List.mem_cons_of_mem _ List.mem_cons_self, List.mem_singleton_self _⟩

end HyperCom
