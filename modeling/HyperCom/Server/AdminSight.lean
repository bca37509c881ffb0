import HyperCom.Server.AdminDispatcher
import HyperCom.Server.DatabaseViews

/-!
# What the administration can find out

The list of the sessions is `Deliberately without identity`. `Tables.sight` and
`ConnectionRegistry.sight` are what the commands read: the accounts, the reports and the
announcements, the number of the rows of the other tables, and of a connection its
descriptor, its phase and its times. Two servers that agree on this answer every series
of commands with the same bytes (`administration_sees_no_identity`), whoever is
connected and whatever is in the mail.

The proof goes by the layers of the console. A statement is overt for the sight, so what it
returns and the sight it leaves are functions of the sight it starts from; each command is a
few such statements around a text made of what they return; and a request is a command with
its own faults. At every layer two servers with one sight stay together, which is
`Observation` and `DatabaseViews` applied to `tablesSight`.

The registry is compared in the order of its map, since `sessions` prints it in that order
and the first entry with a descriptor is the one that is closed.
-/

namespace HyperCom

open BinaryCodec RowStore Observation

namespace AdminDispatcher

/-! ## The sight -/

/-- What the commands read of the tables. Of a post only the number, and whether it was
deleted. -/
structure TablesSight where
  /-- whole: `ban` looks accounts up, and `reports` prints handles -/
  users : List UserRow
  /-- counted by `stats` -/
  forums : ℕ
  /-- the id, and whether the post is still there -/
  posts : List (ℤ × Bool)
  comments : ℕ
  /-- how many letters wait, and nothing else about them -/
  pendingEnvelopes : ℕ
  /-- whole: they are written for the administration -/
  reports : List ReportRow
  /-- whole: it is the administration that wrote them -/
  motd : List MotdRow
  motdSequence : ℤ

/-- Of a post: its id, and whether it is still there. -/
def postSight (post : PostRow) : ℤ × Bool := (post.id, post.deletedAt.isNone)

/-- Accounts, reports and announcements as they are; of everything else only how much there
is. -/
def tablesSight (tables : Tables) : TablesSight where
  users := tables.users
  forums := tables.forums.length
  posts := tables.posts.map postSight
  comments := tables.comments.length
  pendingEnvelopes := tables.dmEnvelopes.length
  reports := tables.reports
  motd := tables.motd
  motdSequence := tables.motdSequence

/-- What the commands read of a connection. -/
structure SessionSight where
  /-- by which a session is closed -/
  descriptor : ℤ
  /-- whether it has authenticated, but not as whom -/
  phase : SessionPhase
  connectedAt : UInt64
  lastActivityAt : UInt64

/-- The descriptor, the phase and the times. The key, the address and the account stay
behind. -/
def sessionSight (entry : Sigma fun _ : ℤ => ClientConnection) : SessionSight where
  descriptor := entry.1
  phase := entry.2.session.phase
  connectedAt := entry.2.session.connectedAt
  lastActivityAt := entry.2.session.lastActivityAt

/-- The sessions in the order in which they are printed. -/
def registrySight (registry : ConnectionRegistry) : List SessionSight :=
  registry.connections.entries.map sessionSight

/-- Two servers the administration cannot tell apart. -/
structure Indiscernible (first second : AdminContext) : Prop where
  /-- the paths and the limits that are printed -/
  config : first.config = second.config
  /-- for the uptime -/
  startedAt : first.startedAt = second.startedAt
  database : SameView tablesSight first.database second.database
  /-- in the order in which the sessions are listed -/
  registry : registrySight first.registry = registrySight second.registry

/-! ## The registry -/

section Registry

variable {first second : ConnectionRegistry}

/-- `stats` counts connections, and the sight has as many. -/
theorem sight_length (registry : ConnectionRegistry) :
    registry.connections.entries.length = (registrySight registry).length :=
  (List.length_map _).symm

/-- The list is printed from the sight. -/
theorem listSessions_same (h : registrySight first = registrySight second) (now : UInt64) :
    listSessions first now = listSessions second now := by
  have hlines (registry : ConnectionRegistry) : registry.connections.entries.flatMap
      (fun entry => sessionLine now entry.1 entry.2.session) =
      (registrySight registry).flatMap fun sight =>
        sessionLine now sight.descriptor { phase := sight.phase, connectedAt := sight.connectedAt
                                           lastActivityAt := sight.lastActivityAt } := by
    rw [registrySight, List.flatMap_map]
    rfl
  have hempty (registry : ConnectionRegistry) :
      registry.connections.entries.isEmpty = (registrySight registry).isEmpty :=
    List.isEmpty_map.symm
  rw [listSessions, listSessions, hlines, hlines, hempty, hempty, h]

/-- So is the number of sessions with an account. -/
theorem countAuthenticated_same (h : registrySight first = registrySight second) :
    countAuthenticated first = countAuthenticated second := by
  have hcount (registry : ConnectionRegistry) : (registry.connections.entries.countP fun entry =>
      entry.2.session.phase = .authenticated) =
      (registrySight registry).countP fun sight => sight.phase = .authenticated := by
    rw [registrySight, List.countP_map]
    rfl
  rw [countAuthenticated, countAuthenticated, hcount, hcount, h]

/-- Whether a descriptor can be closed is in the sight too. -/
theorem mem_connections_same (h : registrySight first = registrySight second) (descriptor : ℤ) :
    descriptor ∈ first.connections ↔ descriptor ∈ second.connections := by
  have hkeys (registry : ConnectionRegistry) :
      registry.connections.keys = (registrySight registry).map SessionSight.descriptor := by
    rw [registrySight, List.map_map]
    rfl
  rw [AList.mem_keys, AList.mem_keys, hkeys, hkeys, h]

/-- `sessions` and its subcommands answer alike and leave what looks alike. -/
theorem runSessionsCommand_same (h : registrySight first = registrySight second) (now : UInt64)
    (command : AdminCommand) :
    runSessionsCommand first (listSessions first now) command =
      runSessionsCommand second (listSessions second now) command := by
  have hclose (argument : ByteString) :
      closeSession first argument = closeSession second argument := by
    simp only [closeSession, mem_connections_same h]
  simp only [runSessionsCommand, listSessions_same h, hclose]

/-- Closing a session takes its line out of the list, and no other. -/
theorem removeConnection_sight (registry : ConnectionRegistry) (descriptor : ℤ) :
    registrySight (registry.removeConnection descriptor) =
      (registrySight registry).eraseP fun sight => descriptor = sight.descriptor := by
  rw [ConnectionRegistry.removeConnection]
  rcases hfound : registry.connections.lookup descriptor with _ | connection
  · have habsent := AList.lookup_eq_none.mp hfound
    refine (List.eraseP_of_forall_not fun sight hsight => ?_).symm
    obtain ⟨entry, hentry, rfl⟩ := List.mem_map.mp hsight
    rw [decide_eq_true_eq]
    rintro rfl
    exact habsent (AList.mem_keys.mpr (List.mem_map_of_mem hentry))
  · rw [registrySight, registrySight, List.eraseP_map]
    rfl

/-- And so for all that one command closes. -/
theorem removeConnections_same (h : registrySight first = registrySight second)
    (descriptors : List ℤ) :
    registrySight (descriptors.foldl ConnectionRegistry.removeConnection first) =
      registrySight (descriptors.foldl ConnectionRegistry.removeConnection second) := by
  induction descriptors generalizing first second with
  | nil => exact h
  | cons descriptor descriptors ih =>
    refine ih ?_
    rw [removeConnection_sight, removeConnection_sight, h]

end Registry

/-! ## The statements -/

/-- The statements of the console. Each changes rows that are in the sight whole, or a
number that is. -/
theorem updateBannedFlag_overt (userId : ℤ) (banned : Bool) :
    Overt tablesSight (updateBannedFlag userId banned) := by
  intro first second h
  simp only [tablesSight, TablesSight.mk.injEq] at h
  simp only [seen, updateBannedFlag, Option.map_some, Prod.map_apply, id_eq, tablesSight, h]

/-- The texts of a post are not in the sight, that it was emptied is. -/
theorem adminErasePostRow_overt (postId : ℤ) (now : UInt64) :
    Overt tablesSight (adminErasePostRow postId now) := by
  have hcount (posts : List PostRow) :
      posts.countP (fun post => post.id = postId && post.deletedAt.isNone) =
        (posts.map postSight).countP fun sight => sight.1 = postId && sight.2 := by
    rw [List.countP_map]
    rfl
  have herased (posts : List PostRow) : (updateWhere
      (fun post => post.id = postId && post.deletedAt.isNone)
      (fun post => { post with title := [], body := [], deletedAt := some (castInt64 now) })
      posts).map postSight = (posts.map postSight).map fun sight =>
        (sight.1, sight.2 && !decide (sight.1 = postId)) := by
    rw [updateWhere, List.map_map, List.map_map]
    refine List.map_congr_left fun post _ => ?_
    simp only [Function.comp_apply, postSight]
    by_cases hpost : post.id = postId
    · cases hdeleted : post.deletedAt <;> simp [hpost, hdeleted]
    · simp [hpost]
  intro first second h
  have hposts : first.posts.map postSight = second.posts.map postSight :=
    congrArg TablesSight.posts h
  simp only [tablesSight, TablesSight.mk.injEq] at h
  simp only [seen, adminErasePostRow, Option.map_some, Prod.map_apply, id_eq, tablesSight,
    hcount, herased, hposts, h]

theorem deleteReportRow_overt (id : ℤ) : Overt tablesSight (deleteReportRow id) := by
  intro first second h
  simp only [tablesSight, TablesSight.mk.injEq] at h
  simp only [seen, deleteReportRow, Option.map_some, Prod.map_apply, id_eq, tablesSight, h]

theorem deactivateMotdRows_overt : Overt tablesSight deactivateMotdRows := by
  intro first second h
  simp only [tablesSight, TablesSight.mk.injEq] at h
  simp only [seen, deactivateMotdRows, Option.map_some, Prod.map_apply, id_eq, tablesSight, h]

/-- An announcement is the administration's own text, so it may well see it. -/
theorem insertMotdRow_overt (body : ByteString) (now : UInt64) :
    Overt tablesSight (insertMotdRow body now) := by
  intro first second h
  simp only [tablesSight, TablesSight.mk.injEq] at h
  have hsequence : first.motdSequence = second.motdSequence := h.2.2.2.2.2.2.2
  have hmotd : first.motd = second.motd := h.2.2.2.2.2.2.1
  rw [insertMotdRow, insertMotdRow, hmotd, hsequence]
  split
  · rfl
  cases nextRowid second.motdSequence with
  | none => rfl
  | some id => simp only [seen, Option.map_some, Prod.map_apply, id_eq, tablesSight, h]

/-! ## The commands -/

section Commands

variable {first second : DatabaseHandle}

/-- What is in the sight whole is the same. -/
theorem users_same (h : SameView tablesSight first second) :
    first.tables.users = second.tables.users :=
  congrArg TablesSight.users h.tables

/-- The active announcement is shown before it is replaced. -/
theorem findActiveMotd_same (h : SameView tablesSight first second) :
    findActiveMotd first = findActiveMotd second := by
  have hmotd : first.tables.motd = second.tables.motd := congrArg TablesSight.motd h.tables
  rw [findActiveMotd, findActiveMotd, h.queryFirst .findMotd (congrArg _ hmotd)]

/-- The numbers of `stats`: whichever of the counts fail, the others are the same. -/
theorem collectCounts_same (h : SameView tablesSight first second) (fails : CountedTable → Bool) :
    collectCounts first.tables fails = collectCounts second.tables fails := by
  have hsight := h.tables
  have hposts := congrArg (fun sight => sight.posts.length) hsight
  simp only [tablesSight, TablesSight.mk.injEq, List.length_map] at hsight hposts
  simp only [collectCounts, countRows, hsight, hposts]

/-- A transaction of overt statements keeps two databases together. -/
theorem publishMotd_same (h : SameView tablesSight first second) (body : ByteString)
    (now : UInt64) :
    SameOutcome tablesSight (publishMotd first body now) (publishMotd second body now) := by
  refine h.inTransaction fun {first second} h => ?_
  dsimp only
  have hdeactivated := h.write_overt deactivateMotdRows_overt .deactivateMotd 0
  refine SameOutcome.elim hdeactivated fun done left left' hleft => ?_
  cases done with
  | none => exact ⟨rfl, hleft⟩
  | some _ => exact (hleft.write_overt (insertMotdRow_overt body now) .insertMotd 0).isSome

/-- The commands. Each is tied to the texts it answers with, so equal results are equal
texts. -/
theorem setMotd_same (h : SameView tablesSight first second) (body : ByteString) (now : UInt64) :
    SameOutcome tablesSight (setMotd first body now) (setMotd second body now) := by
  rw [setMotd, setMotd]
  split
  · exact ⟨rfl, h⟩
  split
  · exact ⟨rfl, h⟩
  refine SameOutcome.elim (publishMotd_same h body now) fun done _ _ hleft => ?_
  cases done with
  | false => exact ⟨rfl, hleft⟩
  | true => exact ⟨rfl, hleft⟩

theorem clearMotd_same (h : SameView tablesSight first second) :
    SameOutcome tablesSight (clearMotd first) (clearMotd second) := by
  have hsame : SameOutcome tablesSight (clearActiveMotd first) (clearActiveMotd second) :=
    (h.write_overt deactivateMotdRows_overt .deactivateMotd 0).isSome
  rw [clearMotd, clearMotd]
  refine SameOutcome.elim hsame fun done _ _ hleft => ?_
  cases done with
  | false => exact ⟨rfl, hleft⟩
  | true => exact ⟨rfl, hleft⟩

theorem runMotdCommand_same (h : SameView tablesSight first second) (command : AdminCommand)
    (now : UInt64) :
    SameOutcome tablesSight (runMotdCommand first command now) (runMotdCommand second command now) := by
  have hshown : showMotd first = showMotd second := by
    rw [showMotd, showMotd, findActiveMotd_same h]
  rw [runMotdCommand, runMotdCommand, hshown]
  split
  · exact ⟨rfl, h⟩
  split
  · exact ⟨rfl, h⟩
  split
  · exact clearMotd_same h
  split
  · split
    · exact ⟨rfl, h⟩
    · exact setMotd_same h _ now
  · exact ⟨rfl, h⟩

/-- Whom to ban is looked up by key, among accounts that are the same. -/
theorem runBanCommand_same (h : SameView tablesSight first second) (command : AdminCommand)
    (banned : Bool) :
    SameOutcome tablesSight (runBanCommand first command banned)
      (runBanCommand second command banned) := by
  have hfind (pubkey : WirePublicKey) :
      findUserByPubkey first pubkey = findUserByPubkey second pubkey := by
    rw [findUserByPubkey, findUserByPubkey, h.queryFirst .findUserByPubkey (by rw [users_same h])]
  rw [runBanCommand, runBanCommand]
  split
  · exact ⟨rfl, h⟩
  split
  · exact ⟨rfl, h⟩
  rw [banAccount, banAccount, hfind]
  split
  · exact ⟨rfl, h⟩
  next target _ =>
  have hsame : SameOutcome tablesSight (setBanned first target.id banned)
      (setBanned second target.id banned) :=
    (h.write_overt (updateBannedFlag_overt target.id banned) .setBanned 0).isSome
  refine SameOutcome.elim hsame fun done _ _ hleft => ?_
  cases done with
  | false => exact ⟨rfl, hleft⟩
  | true => exact ⟨rfl, hleft⟩

/-- A report names its reporter by handle, and handles are in the sight. -/
theorem printReports_same (h : SameView tablesSight first second) :
    printReports first = printReports second := by
  have hreports : first.tables.reports = second.tables.reports :=
    congrArg TablesSight.reports h.tables
  have hlisted : listReports first reportsListLimit = listReports second reportsListLimit :=
    h.query .listReports (by rw [hreports])
  rw [printReports, printReports, hlisted]

theorem clearReportCommand_same (h : SameView tablesSight first second) (argument : ByteString) :
    SameOutcome tablesSight (clearReportCommand first argument)
      (clearReportCommand second argument) := by
  rw [clearReportCommand, clearReportCommand]
  split
  · exact ⟨rfl, h⟩
  next id _ =>
  have hsame : SameOutcome tablesSight (clearReport first id) (clearReport second id) :=
    (h.write_overt (deleteReportRow_overt id) .clearReport 0).isSome
  refine SameOutcome.elim hsame fun done _ _ hleft => ?_
  cases done with
  | false => exact ⟨rfl, hleft⟩
  | true => exact ⟨rfl, hleft⟩

/-- The title and the body go; the console learns only that the post was there. -/
theorem deleteReportedPost_same (h : SameView tablesSight first second) (argument : ByteString)
    (now : UInt64) :
    SameOutcome tablesSight (deleteReportedPost first argument now)
      (deleteReportedPost second argument now) := by
  rw [deleteReportedPost, deleteReportedPost]
  split
  · exact ⟨rfl, h⟩
  next postId _ =>
  have hsame : SameOutcome tablesSight (adminDeletePost first postId now)
      (adminDeletePost second postId now) :=
    (h.write_overt (adminErasePostRow_overt postId now) .adminDeletePost 0).any
  refine SameOutcome.elim hsame fun done _ _ hleft => ?_
  cases done with
  | false => exact ⟨rfl, hleft⟩
  | true => exact ⟨rfl, hleft⟩

theorem runReportsCommand_same (h : SameView tablesSight first second) (command : AdminCommand)
    (now : UInt64) :
    SameOutcome tablesSight (runReportsCommand first command now)
      (runReportsCommand second command now) := by
  rw [runReportsCommand, runReportsCommand, printReports_same h]
  split
  · exact ⟨rfl, h⟩
  split
  · exact ⟨rfl, h⟩
  split
  · split
    · exact clearReportCommand_same h _
    split
    · exact deleteReportedPost_same h _ now
    · exact ⟨rfl, h⟩
  · exact ⟨rfl, h⟩

end Commands

/-! ## A series of commands -/

section Series

variable {first second : AdminContext}

/-- Uptime, connections and counts. -/
theorem runStatsCommand_same (h : Indiscernible first second) (ambient : AdminAmbient) :
    runStatsCommand ambient first = runStatsCommand ambient second := by
  rw [runStatsCommand, runStatsCommand, h.config, h.startedAt, sight_length, sight_length,
    h.registry, countAuthenticated_same h.registry, collectCounts_same h.database]

/-- A copy of the database is made, and nothing of it is printed. -/
theorem runBackupCommand_same (h : Indiscernible first second) (ambient : AdminAmbient)
    (command : AdminCommand) :
    runBackupCommand ambient first command = runBackupCommand ambient second command := by
  rw [runBackupCommand, runBackupCommand, h.config]

/-- Two commands answer the same, and leave databases that look the same. -/
theorem executeAdminCommand_same (h : Indiscernible first second) (ambient : AdminAmbient)
    (command : AdminCommand) :
    (executeAdminCommand ambient first command).text =
        (executeAdminCommand ambient second command).text ∧
      (executeAdminCommand ambient first command).closeRequests =
        (executeAdminCommand ambient second command).closeRequests ∧
      SameView tablesSight (executeAdminCommand ambient first command).database
        (executeAdminCommand ambient second command).database := by
  have hdatabase := h.database
  rw [executeAdminCommand, executeAdminCommand, runStatsCommand_same h, runBackupCommand_same h]
  split
  · exact ⟨rfl, rfl, hdatabase⟩
  split
  · have hsessions := runSessionsCommand_same h.registry ambient.now command
    exact ⟨congrArg Prod.fst hsessions, congrArg Prod.snd hsessions, hdatabase⟩
  split
  · have hmotd := runMotdCommand_same hdatabase command ambient.now
    exact ⟨hmotd.1, rfl, hmotd.2⟩
  split
  · exact ⟨rfl, rfl, hdatabase⟩
  split
  · have hreports := runReportsCommand_same hdatabase command ambient.now
    exact ⟨hreports.1, rfl, hreports.2⟩
  split
  · have hbanned := runBanCommand_same hdatabase command true
    exact ⟨hbanned.1, rfl, hbanned.2⟩
  split
  · have hbanned := runBanCommand_same hdatabase command false
    exact ⟨hbanned.1, rfl, hbanned.2⟩
  split
  · exact ⟨rfl, rfl, hdatabase⟩
  · exact ⟨rfl, rfl, hdatabase⟩

/-- The same calls fail on both. -/
theorem Indiscernible.withFaults (h : Indiscernible first second)
    (faults : SqlStatement → ℕ → Bool) :
    Indiscernible (first.withFaults faults) (second.withFaults faults) where
  config := h.config
  startedAt := h.startedAt
  database := ⟨h.database.tables, h.database.transaction, rfl⟩
  registry := h.registry

/-- One request: the answer, and what is left for the next. -/
theorem respond_same (request : AdminRequest) (h : Indiscernible first second) :
    (respond request first).1 = (respond request second).1 ∧
      Indiscernible (respond request first).2 (respond request second).2 := by
  have hfailing := h.withFaults request.faults
  rw [respond, respond]
  dsimp only
  split
  · exact ⟨rfl, hfailing⟩
  · next command _ =>
    obtain ⟨htext, hclosed, hleft⟩ := executeAdminCommand_same hfailing request.ambient command
    refine ⟨Prod.ext htext hclosed, hfailing.config, hfailing.startedAt, hleft, ?_⟩
    dsimp only
    rw [hclosed]
    exact removeConnections_same hfailing.registry _

/-- Who is connected, who writes to whom and what about is nothing the administration can
find out, whatever it asks and however often. -/
theorem administration_sees_no_identity (requests : List AdminRequest)
    (h : Indiscernible first second) :
    (run respond requests first).1 = (run respond requests second).1 ∧
      Indiscernible (run respond requests first).2 (run respond requests second).2 :=
  run_alike (fun request _ _ h => respond_same request h) requests h

end Series

/-- A server with one session and some letters. -/
def consoleOf (userId : ℤ) (handle peerAddress : ByteString) (letters : List DmEnvelopeRow) :
    AdminContext :=
  let key : WirePublicKey := FixedBytes.zero _
  { database := { tables := {
      users := [⟨1, repeatedKey 1, ascii "alice", false⟩, ⟨2, repeatedKey 2, ascii "bob", false⟩]
      dmEnvelopes := letters } }
    registry := { connections := AList.singleton 5 {
      channel := { handshake := { state := { chainingKey := key, handshakeHash := key, cipher := {} }
                                  staticSecret := key } }
      session := { phase := .authenticated, userId, handle, peerAddress
                   connectedAt := 10, lastActivityAt := 20 } } } }

/-- Alice is connected and has got a letter, or bob is, from somewhere else, and has got
another one: the console shows the same. -/
theorem administration_sees_no_identity_swapped :
    let alice := consoleOf 1 (ascii "alice") (ascii "10.0.0.1") [⟨7, 1, repeatedKey 2, [3, 4]⟩]
    let bob := consoleOf 2 (ascii "bob") (ascii "10.0.0.2") [⟨7, 2, repeatedKey 1, [5]⟩]
    let requests : List AdminRequest := [{ line := ascii "sessions list", ambient := { now := 90 } },
      { line := ascii "stats" }, { line := ascii "sessions close 5" }]
    (run respond requests alice).1 = (run respond requests bob).1 := by
  intro alice bob requests
  have hsame : Indiscernible alice bob := ⟨rfl, rfl, ⟨rfl, rfl, rfl⟩, rfl⟩
  exact (administration_sees_no_identity requests hsame).1

end AdminDispatcher

end HyperCom
