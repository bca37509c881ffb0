import HyperCom.Lib.Observation
import HyperCom.Server.AdminReports
import HyperCom.Server.ConfigParser

/-!
# The commands of the administration

`execute_admin_command` with every command and every text it prints. SQLite's backup
and the counting statements are read from `AdminAmbient`, everything else from the
server.

The administration is bound by what its commands can do (`Administered`): it sets and
lifts bans, drops reports, empties posts and publishes announcements. Whatever lines
it sends, the accounts keep their keys and handles, and what users wrote to each other
or about themselves stays as it is (`administration_bounded`).
-/

namespace HyperCom

open BinaryCodec RowStore

namespace AdminDispatcher

/-! ## `admin_text_format` -/

/-- `format_duration` -/
def formatDuration (seconds : UInt64) : ByteString :=
  let days := seconds / 86400
  let hours := seconds % 86400 / 3600
  let minutes := seconds % 3600 / 60
  let remainder := seconds % 60
  (if days > 0 then ascii (toString days) ++ ascii "j " else []) ++
    (if days > 0 || hours > 0 then ascii (toString hours) ++ ascii "h " else []) ++
    (if days > 0 || hours > 0 || minutes > 0 then ascii (toString minutes) ++ ascii "m " else []) ++
    ascii (toString remainder) ++ ascii "s"

/-! ## What a command has available -/

/-- `admin_context`, without the logger. -/
structure AdminContext where
  config : ConfigParser.Configuration := {}
  database : DatabaseHandle
  registry : ConnectionRegistry
  startedAt : UInt64 := 0

/-- The tables `collect_counts` counts. -/
inductive CountedTable where
  | users | forums | posts | comments | dmEnvelopes
deriving DecidableEq

/-- What SQLite answers to `backup_database_to`: whether the destination opens, why a
backup is refused, and why the copy is incomplete. -/
structure BackupAnswers where
  opened : Bool := true
  refused : Option ByteString := none
  incomplete : Option ByteString := none

/-- The context of a command during which these SQLite calls fail. -/
def AdminContext.withFaults (context : AdminContext) (faults : SqlStatement → ℕ → Bool) :
    AdminContext :=
  { context with database := { context.database with faults } }

/-- The clock, the counting statements that fail, and the backup. -/
structure AdminAmbient where
  now : UInt64 := 0
  countFails : CountedTable → Bool := fun _ => false
  backup : BackupAnswers := {}

/-- What a command prints, the database it leaves and the sessions it asks to close. -/
structure AdminReply where
  text : ByteString
  database : DatabaseHandle
  closeRequests : List ℤ := []

/-! ## `admin_session_command` -/

/-- `describe_phase` -/
def describePhase : SessionPhase → ByteString
  | .awaitingHandshake => ascii "handshake"
  | .awaitingHello => ascii "hello"
  | .awaitingAuth => ascii "auth"
  | .authenticated => ascii "authentifiee"

/-- The line of a connection. -/
def sessionLine (now : UInt64) (descriptor : ℤ) (session : SessionState) : ByteString :=
  padRight (ascii (toString descriptor)) 6 ++ padRight (describePhase session.phase) 14 ++
    padRight (formatDuration (now - session.connectedAt)) 14 ++
    formatDuration (now - session.lastActivityAt) ++ ascii "\n"

/-- `list_sessions`. The entries stand for the order in which the map is walked. -/
def listSessions (registry : ConnectionRegistry) (now : UInt64) : ByteString :=
  padRight (ascii "DESCR") 6 ++ padRight (ascii "ETAT") 14 ++ padRight (ascii "DEPUIS") 14 ++
    ascii "INACTIF\n" ++
    registry.connections.entries.flatMap (fun entry => sessionLine now entry.1 entry.2.session) ++
    if registry.connections.entries.isEmpty then ascii "(aucune connexion)\n" else []

/-! ## `admin_stats_command` -/

/-- `server_counts` -/
structure ServerCounts where
  users : ℕ
  forums : ℕ
  posts : ℕ
  comments : ℕ
  pendingEnvelopes : ℕ
deriving DecidableEq

/-- `count_rows` -/
def countRows {α : Type} (fails : CountedTable → Bool) (table : CountedTable) (rows : List α) :
    Option ℕ :=
  if fails table then none else some rows.length

/-- `collect_counts`: the first count that fails is the last one asked for. -/
def collectCounts (tables : Tables) (fails : CountedTable → Bool) : Option ServerCounts := do
  let users ← countRows fails .users tables.users
  let forums ← countRows fails .forums tables.forums
  let posts ← countRows fails .posts tables.posts
  let comments ← countRows fails .comments tables.comments
  let pendingEnvelopes ← countRows fails .dmEnvelopes tables.dmEnvelopes
  pure { users, forums, posts, comments, pendingEnvelopes }

/-- `count_authenticated` -/
def countAuthenticated (registry : ConnectionRegistry) : UInt32 :=
  UInt32.ofNat (registry.connections.entries.countP fun entry =>
    entry.2.session.phase = .authenticated)

/-- `format_line` -/
def formatLine (label value : ByteString) : ByteString :=
  ascii "  " ++ padRight label 22 ++ ascii ": " ++ value ++ ascii "\n"

/-- `run_stats_command` -/
def runStatsCommand (ambient : AdminAmbient) (context : AdminContext) : ByteString :=
  let text := ascii "hypercom -- statistiques\n" ++
    formatLine (ascii "en service depuis")
      (formatDuration (ambient.now - context.startedAt)) ++
    formatLine (ascii "connexions")
      (ascii (toString context.registry.connections.entries.length) ++ ascii " / " ++
        ascii (toString context.config.limits.maxConnections)) ++
    formatLine (ascii "dont authentifiees")
      (ascii (toString (countAuthenticated context.registry))) ++
    formatLine (ascii "inscriptions")
      (if context.config.registrationOpen then ascii "ouvertes" else ascii "fermees") ++
    formatLine (ascii "journalisation des IP")
      (if context.config.logging.logPeerAddresses then ascii "ACTIVE"
        else ascii "desactivee (defaut)")
  match collectCounts context.database.tables ambient.countFails with
  | none => text ++ ascii "  (compteurs de base illisibles)\n"
  | some counts => text ++
      formatLine (ascii "comptes") (ascii (toString counts.users)) ++
      formatLine (ascii "forums") (ascii (toString counts.forums)) ++
      formatLine (ascii "posts") (ascii (toString counts.posts)) ++
      formatLine (ascii "commentaires") (ascii (toString counts.comments)) ++
      formatLine (ascii "enveloppes en attente") (ascii (toString counts.pendingEnvelopes))

/-! ## `admin_motd_command` -/

/-- `show_motd` -/
def showMotd (database : DatabaseHandle) : ByteString :=
  match findActiveMotd database with
  | none => ascii "aucune annonce active\n"
  | some active => ascii "revision " ++ ascii (toString active.revision) ++ ascii "\n" ++
      active.body ++ ascii "\n"

/-- `clear_motd` -/
def clearMotd (database : DatabaseHandle) : ByteString × DatabaseHandle :=
  match clearActiveMotd database with
  | (false, database) => (ascii "echec : ecriture en base impossible\n", database)
  | (true, database) => (ascii "annonce desactivee\n", database)

/-- `run_motd_command` -/
def runMotdCommand (database : DatabaseHandle) (command : AdminCommand) (now : UInt64) :
    ByteString × DatabaseHandle :=
  match command.arguments with
  | [] => (showMotd database, database)
  | action :: arguments =>
    if action = ascii "show" then (showMotd database, database)
    else if action = ascii "clear" then clearMotd database
    else if action = ascii "set" then
      match arguments with
      | [] => (ascii "usage : motd set \"texte de l'annonce\"\n", database)
      | body :: _ => setMotd database body now
    else (ascii "usage : motd [show | set \"texte\" | clear]\n", database)

/-! ## `admin_ban_command` -/

/-- `decode_pubkey` -/
def decodePubkey (text : ByteString) : Option WirePublicKey :=
  (decodeHex text).bind fun decoded =>
    if h : decoded.length = publicKeySize then some ⟨decoded, h⟩ else none

/-- `run_ban_command` -/
def runBanCommand (database : DatabaseHandle) (command : AdminCommand) (banned : Bool) :
    ByteString × DatabaseHandle :=
  match command.arguments with
  | [] =>
    (ascii "usage : " ++ (if banned then ascii "ban" else ascii "unban") ++
      ascii " <cle_publique_hex>\n", database)
  | argument :: _ =>
    match decodePubkey argument with
    | none => (ascii "cle publique invalide : 64 caracteres hexadecimaux attendus\n", database)
    | some pubkey => banAccount database pubkey banned

/-! ## `admin_backup_command` -/

/-- `backup_database_to`: why it failed, if it did. -/
def backupDatabaseTo (answers : BackupAnswers) (destinationPath : ByteString) :
    Option ByteString :=
  if !answers.opened then some (ascii "ouverture impossible de " ++ destinationPath)
  else
    match answers.refused with
    | some message => some (ascii "sauvegarde refusee par sqlite : " ++ message)
    | none => answers.incomplete.map (ascii "copie incomplete : " ++ ·)

/-- `run_backup_command` -/
def runBackupCommand (ambient : AdminAmbient) (context : AdminContext) (command : AdminCommand) :
    ByteString :=
  match command.arguments with
  | [] => ascii "usage : backup <chemin/de/sortie.db>\n"
  | destination :: _ =>
    match backupDatabaseTo ambient.backup destination with
    | some failure => ascii "echec : " ++ failure ++ ascii "\n"
    | none => ascii "sauvegarde ecrite : " ++ destination ++
        ascii "\nPenser a sauvegarder aussi " ++ context.config.paths.serverKeyPath ++
        ascii " : sans elle, les clients refuseront de se reconnecter.\n"

/-! ## `admin_dispatcher` -/

/-- `build_help` -/
def buildHelp : ByteString :=
  ascii "commandes disponibles\n" ++
  ascii "  stats                      etat du serveur et volumetrie\n" ++
  ascii "  sessions [list]            connexions en cours\n" ++
  ascii "  sessions close <descr>     ferme une connexion\n" ++
  ascii "  motd [show]                annonce en cours\n" ++
  ascii "  motd set \"texte\"           publie une annonce\n" ++
  ascii "  motd clear                 desactive l'annonce\n" ++
  ascii "  backup <chemin>            sauvegarde a chaud de la base\n" ++
  ascii "  reports [list]             signalements en attente\n" ++
  ascii "  reports clear <id>         classe un signalement\n" ++
  ascii "  reports delete-post <id>   supprime le post signale\n" ++
  ascii "  ban <cle_hex>              revoque l'authentification d'un compte\n" ++
  ascii "  unban <cle_hex>            restaure l'authentification\n" ++
  ascii "  help                       cette liste\n" ++
  ascii "\n" ++
  ascii "Non implemente : le rechargement a chaud de la configuration.\n" ++
  ascii "Changer un listener demanderait de le reouvrir sous les connexions\n" ++
  ascii "en cours ; tant que ce n'est pas traite proprement, il faut\n" ++
  ascii "redemarrer le serveur.\n"

/-- The text of a command that leaves the database alone. -/
def AdminReply.ofText (context : AdminContext) (text : ByteString) : AdminReply :=
  { text, database := context.database }

/-- What a command prints and the database it leaves. -/
def AdminReply.ofOutput (out : ByteString × DatabaseHandle) : AdminReply :=
  { text := out.1, database := out.2 }

/-- `execute_admin_command` -/
def executeAdminCommand (ambient : AdminAmbient) (context : AdminContext)
    (command : AdminCommand) : AdminReply :=
  let database := context.database
  if command.verb = ascii "stats" then .ofText context (runStatsCommand ambient context)
  else if command.verb = ascii "sessions" then
    let out := runSessionsCommand context.registry (listSessions context.registry ambient.now)
      command
    { text := out.1, database, closeRequests := out.2 }
  else if command.verb = ascii "motd" then
    .ofOutput (runMotdCommand database command ambient.now)
  else if command.verb = ascii "backup" then
    .ofText context (runBackupCommand ambient context command)
  else if command.verb = ascii "reports" then
    .ofOutput (runReportsCommand database command ambient.now)
  else if command.verb = ascii "ban" then .ofOutput (runBanCommand database command true)
  else if command.verb = ascii "unban" then .ofOutput (runBanCommand database command false)
  else if command.verb = ascii "help" then .ofText context buildHelp
  else .ofText context (ascii "commande inconnue : " ++ command.verb ++ ascii "\nTaper help.\n")

/-- Only `sessions close` asks for a session to be closed, and for a live one. -/
theorem executeAdminCommand_closesOne (ambient : AdminAmbient) (context : AdminContext)
    (command : AdminCommand) :
    ClosesOne context.registry (executeAdminCommand ambient context command).closeRequests := by
  rw [executeAdminCommand]
  split_ifs
  case pos => exact .inl rfl
  case pos => exact runSessionsCommand_closesOne ..
  all_goals exact .inl rfl

/-! ## What a command can do -/

/-- Only whether it is banned distinguishes the two rows. -/
def SameAccount (before after : UserRow) : Prop := after = { before with banned := after.banned }

/-- The post as it was, or emptied. -/
def KeptOrEmptied (before after : PostRow) : Prop :=
  after = before ∨ before.deletedAt = none ∧
    ∃ deletedAt, after = { before with title := [], body := [], deletedAt := some deletedAt }

/-- What stays of an announcement. -/
def announced (row : MotdRow) : ℤ × ByteString × ℤ := (row.id, row.body, row.createdAt)

/-- The tables no command writes. -/
def untouched (tables : Tables) : Tables :=
  { tables with users := [], posts := [], reports := [], motd := [], motdSequence := 0 }

/-- What any commands of the administration can make of the tables. -/
structure Administered (before after : Tables) : Prop where
  users : List.Forall₂ SameAccount before.users after.users
  posts : List.Forall₂ KeptOrEmptied before.posts after.posts
  reports : after.reports.Sublist before.reports
  motd : before.motd.map announced <+: after.motd.map announced
  rest : untouched after = untouched before

/-- An account is the same if nothing or only its flag has changed. -/
theorem SameAccount.refl (user : UserRow) : SameAccount user user := rfl

theorem SameAccount.flagged (user : UserRow) (banned : Bool) :
    SameAccount user { user with banned } := rfl

/-- A post that is as it was. -/
theorem KeptOrEmptied.refl (post : PostRow) : KeptOrEmptied post post := .inl rfl

theorem SameAccount.trans {first second third : UserRow} (h : SameAccount first second)
    (h' : SameAccount second third) : SameAccount first third := by
  rw [SameAccount] at h h' ⊢
  rw [h', h]

/-- A post is emptied once. -/
theorem KeptOrEmptied.trans {first second third : PostRow} (h : KeptOrEmptied first second)
    (h' : KeptOrEmptied second third) : KeptOrEmptied first third := by
  obtain rfl | ⟨hvisible, deletedAt, rfl⟩ := h
  · exact h'
  · obtain rfl | ⟨hagain, -⟩ := h'
    · exact .inr ⟨hvisible, deletedAt, rfl⟩
    · cases hagain

namespace Administered

variable {before after first second third : Tables}

theorem refl (tables : Tables) : Administered tables tables where
  users := forall₂_self SameAccount.refl _
  posts := forall₂_self KeptOrEmptied.refl _
  reports := List.Sublist.refl _
  motd := List.prefix_rfl
  rest := rfl

theorem trans (h : Administered first second) (h' : Administered second third) :
    Administered first third where
  users := forall₂_trans (fun h h' => h.trans h') h.users h'.users
  posts := forall₂_trans (fun h h' => h.trans h') h.posts h'.posts
  reports := h'.reports.trans h.reports
  motd := h.motd.trans h'.motd
  rest := h'.rest.trans h.rest

/-! ### The statements of the commands -/

/-- The statements of the console, one by one. -/
theorem banned {userId : ℤ} {banned : Bool}
    (written : updateBannedFlag userId banned before = some ((), after)) :
    Administered before after := by
  obtain ⟨-, rfl⟩ := Prod.mk.inj (Option.some.inj written)
  exact { refl before with
    users := forall₂_updateWhere (fun user _ => SameAccount.flagged user _) SameAccount.refl _ }

theorem postErased {postId : ℤ} {now : UInt64} {changed : ℕ}
    (written : adminErasePostRow postId now before = some (changed, after)) :
    Administered before after := by
  obtain ⟨-, rfl⟩ := Prod.mk.inj (Option.some.inj written)
  refine { refl before with
    posts := forall₂_updateWhere (fun post hselected => ?_) KeptOrEmptied.refl _ }
  have hvisible := (Bool.and_eq_true_iff.mp hselected).2
  exact .inr ⟨Option.isNone_iff_eq_none.mp hvisible, _, rfl⟩

theorem reportDeleted {id : ℤ} (written : deleteReportRow id before = some ((), after)) :
    Administered before after := by
  obtain ⟨-, rfl⟩ := Prod.mk.inj (Option.some.inj written)
  exact { refl before with reports := List.filter_sublist }

theorem motdDeactivated (written : deactivateMotdRows before = some ((), after)) :
    Administered before after := by
  obtain ⟨-, rfl⟩ := Prod.mk.inj (Option.some.inj written)
  have hkept : (updateWhere MotdRow.active (fun row => { row with active := false })
      before.motd).map announced = before.motd.map announced := by
    refine map_updateWhere ?_ _
    intro row
    rfl
  exact { refl before with motd := ⟨[], by rw [List.append_nil]; exact hkept.symm⟩ }

theorem motdInserted {body : ByteString} {now : UInt64}
    (written : insertMotdRow body now before = some ((), after)) : Administered before after := by
  obtain ⟨id, rfl⟩ := insertMotdRow_some written
  refine { refl before with motd := ?_, rest := rfl }
  rw [List.map_append]
  exact List.prefix_append _ _

end Administered

section Commands

variable (database : DatabaseHandle)

/-- The commands. -/
theorem setMotd_administered (body : ByteString) (now : UInt64) :
    Administered database.tables (setMotd database body now).2.tables := by
  rw [setMotd]
  split
  · exact .refl _
  split
  · exact .refl _
  rcases hpublished : publishMotd database body now with ⟨done, left⟩
  have hbounded : Administered database.tables left.tables :=
    publishMotd_effect hpublished Administered.refl (fun _ _ _ => Administered.trans)
      (fun _ _ => .motdDeactivated) fun _ _ => .motdInserted
  cases done with
  | false => exact hbounded
  | true => exact hbounded

/-- Taking the announcement down. -/
theorem clearMotd_administered :
    Administered database.tables (clearMotd database).2.tables := by
  have hbounded : Administered database.tables (clearActiveMotd database).2.tables :=
    DatabaseHandle.write_effect rfl Administered.refl .motdDeactivated
  rw [clearMotd]
  rcases hcleared : clearActiveMotd database with ⟨_ | _, left⟩
  · rw [hcleared] at hbounded
    exact hbounded
  · rw [hcleared] at hbounded
    exact hbounded

/-- Shown, set or cleared. -/
theorem runMotdCommand_administered (command : AdminCommand) (now : UInt64) :
    Administered database.tables (runMotdCommand database command now).2.tables := by
  rw [runMotdCommand]
  split
  · exact .refl _
  split
  · exact .refl _
  split
  · exact clearMotd_administered database
  split
  · split
    · exact .refl _
    · exact setMotd_administered database _ now
  · exact .refl _

/-- A ban, or its end. -/
theorem runBanCommand_administered (command : AdminCommand) (banned : Bool) :
    Administered database.tables (runBanCommand database command banned).2.tables := by
  rw [runBanCommand]
  split
  · exact .refl _
  split
  · exact .refl _
  rw [banAccount_database]
  split
  · exact .refl _
  · exact DatabaseHandle.write_effect rfl Administered.refl .banned

/-- Listed, dropped, or acted upon. -/
theorem runReportsCommand_administered (command : AdminCommand) (now : UInt64) :
    Administered database.tables (runReportsCommand database command now).2.tables := by
  rcases runReportsCommand_cases database command now with hsame | ⟨id, hcleared⟩ | ⟨postId, hdeleted⟩
  · rw [hsame]
    exact .refl _
  · rw [hcleared]
    exact DatabaseHandle.write_effect rfl Administered.refl .reportDeleted
  · rw [hdeleted]
    exact DatabaseHandle.write_effect rfl Administered.refl .postErased

end Commands

/-- Whatever the line says. Commands that are not here write nothing. -/
theorem executeAdminCommand_administered (ambient : AdminAmbient) (context : AdminContext)
    (command : AdminCommand) :
    Administered context.database.tables
      (executeAdminCommand ambient context command).database.tables := by
  rw [executeAdminCommand]
  split
  · exact .refl _
  split
  · exact .refl _
  split
  · exact runMotdCommand_administered _ command _
  split
  · exact .refl _
  split
  · exact runReportsCommand_administered _ command _
  split
  · exact runBanCommand_administered _ command true
  split
  · exact runBanCommand_administered _ command false
  split
  · exact .refl _
  · exact .refl _

/-! ## The other steps of the server -/

/-- In terms of the repository. -/
theorem clearMotd_tables (database : DatabaseHandle) :
    (clearMotd database).2 = (clearActiveMotd database).2 := by
  rw [clearMotd]
  rcases clearActiveMotd database with ⟨_ | _, left⟩
  · rfl
  · rfl

/-- An account that is not known is not banned. -/
theorem runBanCommand_tables (database : DatabaseHandle) (command : AdminCommand) (banned : Bool) :
    (runBanCommand database command banned).2 = database ∨
      ∃ pubkey, (runBanCommand database command banned).2 =
        (banAccount database pubkey banned).2 := by
  rw [runBanCommand]
  split
  · exact .inl rfl
  split
  · exact .inl rfl
  next pubkey _ => exact .inr ⟨pubkey, rfl⟩

/-- `motd` shows the announcement, takes it down or puts up another. -/
theorem runMotdCommand_step [Sodium] (database : DatabaseHandle) (command : AdminCommand) (now : UInt64) :
    (runMotdCommand database command now).2 = database ∨
      ServerStep database.tables (runMotdCommand database command now).2.tables := by
  rw [runMotdCommand]
  split
  · exact .inl rfl
  split
  · exact .inl rfl
  split
  · rw [clearMotd_tables]
    exact .inr (.motdCleared _)
  split
  · split
    · exact .inl rfl
    · exact .inr (.motdSet _ _ _)
  · exact .inl rfl

/-- A command writes no table, or is one of the steps of the server. -/
theorem executeAdminCommand_step [Sodium] (ambient : AdminAmbient) (context : AdminContext)
    (command : AdminCommand) :
    (executeAdminCommand ambient context command).database = context.database ∨
      ServerStep context.database.tables
        (executeAdminCommand ambient context command).database.tables := by
  rw [executeAdminCommand]
  split
  · exact .inl rfl
  split
  · exact .inl rfl
  split
  · exact runMotdCommand_step context.database command ambient.now
  split
  · exact .inl rfl
  split
  · exact .inr (.reports _ command _)
  split
  · obtain hsame | ⟨pubkey, hbanned⟩ := runBanCommand_tables context.database command true
    · exact .inl hsame
    · rw [AdminReply.ofOutput, hbanned]
      exact .inr (.ban _ pubkey true)
  split
  · obtain hsame | ⟨pubkey, hbanned⟩ := runBanCommand_tables context.database command false
    · exact .inl hsame
    · rw [AdminReply.ofOutput, hbanned]
      exact .inr (.ban _ pubkey false)
  split
  · exact .inl rfl
  · exact .inl rfl

/-! ## A series of commands -/

/-- A line on the administration socket, with what the system answers meanwhile. -/
structure AdminRequest where
  line : ByteString
  ambient : AdminAmbient := {}
  faults : SqlStatement → ℕ → Bool := fun _ _ => false

/-- `dispatch_event` for a line on the socket: the answer, the sessions that are closed
for it, and what is left of the server. -/
def respond (request : AdminRequest) (context : AdminContext) :
    (ByteString × List ℤ) × AdminContext :=
  let context := context.withFaults request.faults
  match parseAdminCommand request.line with
  | none => ((ascii "commande vide ou guillemet non ferme\n", []), context)
  | some command =>
    let reply := executeAdminCommand request.ambient context command
    ((reply.text, reply.closeRequests), { context with
      database := reply.database
      registry := reply.closeRequests.foldl ConnectionRegistry.removeConnection context.registry })

/-- What any lines of the administration can make of the server. -/
structure Bounded (before after : AdminContext) : Prop where
  config : after.config = before.config
  startedAt : after.startedAt = before.startedAt
  tables : Administered before.database.tables after.database.tables
  connections : after.registry.connections.entries.Sublist before.registry.connections.entries

/-- Nothing has been asked for, -/
theorem Bounded.refl (context : AdminContext) : Bounded context context :=
  ⟨rfl, rfl, .refl _, .refl _⟩

/-- or one line after another. -/
theorem Bounded.trans {first second third : AdminContext} (h : Bounded first second)
    (h' : Bounded second third) : Bounded first third where
  config := h'.config.trans h.config
  startedAt := h'.startedAt.trans h.startedAt
  tables := h.tables.trans h'.tables
  connections := h'.connections.trans h.connections

/-- Sessions are closed, and otherwise left alone. -/
theorem removeConnection_sublist (registry : ConnectionRegistry) (descriptor : ℤ) :
    (registry.removeConnection descriptor).connections.entries.Sublist
      registry.connections.entries := by
  rw [ConnectionRegistry.removeConnection]
  split
  · exact .refl _
  · exact List.kerase_sublist descriptor registry.connections.entries

/-- Connections are closed and none is opened. -/
theorem removeConnections_sublist (registry : ConnectionRegistry) (descriptors : List ℤ) :
    (descriptors.foldl ConnectionRegistry.removeConnection registry).connections.entries.Sublist
      registry.connections.entries := by
  induction descriptors generalizing registry with
  | nil => exact .refl _
  | cons descriptor descriptors ih =>
    exact (ih _).trans (removeConnection_sublist registry descriptor)

/-- One line, whatever it says and whichever calls fail. -/
theorem respond_bounded (request : AdminRequest) (context : AdminContext) :
    Bounded context (respond request context).2 := by
  rw [respond]
  dsimp only
  split
  · exact ⟨rfl, rfl, .refl _, .refl _⟩
  · next command _ =>
    have htables := executeAdminCommand_administered request.ambient
      (context.withFaults request.faults) command
    exact ⟨rfl, rfl, htables, removeConnections_sublist _ _⟩

/-- Whatever the administration sends: nothing but bans, emptied posts, dropped reports
and announcements, and closed sessions. -/
theorem administration_bounded (requests : List AdminRequest) (context : AdminContext) :
    Bounded context (Observation.run respond requests context).2 :=
  Observation.run_keeps Bounded.refl Bounded.trans respond_bounded requests context

end AdminDispatcher

end HyperCom
