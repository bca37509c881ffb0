import HyperCom.Server.Migrations
import HyperCom.Server.Repositories

/-!
# One connection for all transactions

Every repository and the migration runner work on the one `database_handle` of
the server. Four of their functions open a transaction: `replace_slots`,
`delete_acknowledged`, `publish_motd` and `apply_one_migration`. Each of them is
a `block` of the transaction library, so each leaves the connection closed
exactly when the COMMIT or the ROLLBACK it gets to issue does not fail while the
transaction stays open.

`SharedOperation` is what is run on the connection, in any order and with any
failures. A call that fails inside a transaction may leave it open, as COMMIT does
for `SQLITE_BUSY`, or make SQLite roll it back by itself, as it may for
`SQLITE_FULL`, `SQLITE_IOERR` and `SQLITE_NOMEM`; the ROLLBACK of the source then
fails with no transaction open. The page images of the write-ahead log play no
part here and are left out of `ServerStore`.
-/

namespace HyperCom

open StepRun Transactions

/-! ## The transactions of the repositories are blocks -/

namespace DatabaseHandle

/-- The failures of the three calls around a body, and what SQLite answers to a
failure. -/
def blockFaults (database : DatabaseHandle) : BlockFaults :=
  { begins := database.faults .beginImmediate 0
    commits := database.faults .commit 0
    rollbacks := database.faults .rollback 0
    undoes := database.faults .automaticRollback 0 }

/-- The tables and the open transaction. -/
def connection (database : DatabaseHandle) : Connection Tables :=
  { contents := database.tables, saved := database.transaction }

/-- What a body does to the tables, inside the transaction of a handle. -/
def bodyEffect (database : DatabaseHandle) (body : DatabaseHandle → Bool × DatabaseHandle)
    (tables : Tables) : Bool × Tables :=
  let out := body { database with tables, transaction := some database.tables }
  (out.1, out.2.tables)

/-- A body without transaction control. -/
def Plain (body : DatabaseHandle → Bool × DatabaseHandle) : Prop :=
  ∀ database, (body database).2.transaction = database.transaction ∧
    (body database).2.faults = database.faults

theorem write_transaction {α : Type} (database : DatabaseHandle) (statement : SqlStatement)
    (step : ℕ) (effect : Tables → Option (α × Tables)) :
    (database.write statement step effect).2.transaction = database.transaction :=
  (write_frame rfl).1

/-! The calls of a handle are those of its connection. -/

theorem afterFailure_connection (database : DatabaseHandle) :
    database.afterFailure.connection =
      database.connection.afterFailure (database.faults .automaticRollback 0) := by
  unfold afterFailure Connection.afterFailure
  split <;> rfl

theorem afterFailure_faults (database : DatabaseHandle) :
    database.afterFailure.faults = database.faults := by
  unfold afterFailure
  split <;> rfl

theorem commit_connection (database : DatabaseHandle) :
    (database.commit.1, database.commit.2.connection) =
      database.connection.commit (database.faults .commit 0)
        (database.faults .automaticRollback 0) := by
  unfold commit Connection.commit
  split
  · rw [afterFailure_connection]
  · rfl

theorem rollback_connection (database : DatabaseHandle) :
    database.rollback.2.connection =
      (database.connection.rollback (database.faults .rollback 0)).2 := by
  unfold rollback Connection.rollback
  change _ = (if database.faults .rollback 0 || database.transaction.isNone then _ else _ :
    Bool × Connection Tables).2
  split <;> rfl

variable {body : DatabaseHandle → Bool × DatabaseHandle}

theorem inTransaction_block (hplain : Plain body) (database : DatabaseHandle) :
    ((database.inTransaction body).1, (database.inTransaction body).2.connection) =
      database.connection.block database.blockFaults (database.bodyEffect body) := by
  by_cases hrefused : (database.faults .beginImmediate 0 || database.transaction.isSome) = true
  · simp [inTransaction, beginImmediate, Connection.block, Connection.begin, connection,
      blockFaults, hrefused]
  · rcases hbody : body { database with transaction := some database.tables } with ⟨succeeded, left⟩
    obtain ⟨htransaction, hfaults⟩ := hplain { database with transaction := some database.tables }
    rw [hbody] at htransaction hfaults
    have hconnection : left.connection =
        { contents := left.tables, saved := some database.tables } := by
      rw [connection, htransaction]
    have hbegin : database.beginImmediate =
        (true, { database with transaction := some database.tables }) := by
      rw [beginImmediate, if_neg hrefused]
    have hbegun : database.connection.begin database.blockFaults.begins =
        (true, { contents := database.tables, saved := some database.tables }) := by
      rw [Connection.begin, connection, blockFaults, if_neg hrefused]
    have heffect : database.bodyEffect body database.tables = (succeeded, left.tables) := by
      rw [bodyEffect, hbody]
    rw [inTransaction, Connection.block, hbegin, hbegun]
    simp only [hbody, heffect]
    cases succeeded with
    | true =>
      have hcommit := commit_connection left
      rw [hconnection, hfaults] at hcommit
      exact hcommit
    | false =>
      have hrollback := rollback_connection left.afterFailure
      rw [afterFailure_connection, afterFailure_faults, hconnection, hfaults] at hrollback
      exact congrArg (Prod.mk false) hrollback

/-- The COMMIT or the ROLLBACK the transaction gets to issue does not fail while the
transaction stays open. -/
def Settles (database : DatabaseHandle) (body : DatabaseHandle → Bool × DatabaseHandle) : Prop :=
  Connection.Settles database.blockFaults (database.bodyEffect body) database.tables

theorem inTransaction_closed_iff (hplain : Plain body) {database : DatabaseHandle}
    (hclosed : database.transaction = none) :
    (database.inTransaction body).2.transaction = none ↔ database.Settles body := by
  have hblock := inTransaction_block hplain database
  have hleft : (database.inTransaction body).2.transaction =
      (database.connection.block database.blockFaults (database.bodyEffect body)).2.saved :=
    congrArg (fun out : Bool × Connection Tables => out.2.saved) hblock
  rw [hleft]
  exact Connection.block_closed_iff hclosed

end DatabaseHandle

/-! ## The bodies -/

/-- The body of `replace_slots`. -/
def replaceSlotsBody (userId : ℤ) (entries : List Top8Entry) (database : DatabaseHandle) :
    Bool × DatabaseHandle :=
  match database.write .deleteTop8 0 (deleteTop8Rows userId) with
  | (none, database) => (false, database)
  | (some _, database) => insertTop8Rows userId 0 entries database

/-- The body of `publish_motd`. -/
def publishMotdBody (body : ByteString) (now : UInt64) (database : DatabaseHandle) :
    Bool × DatabaseHandle :=
  match database.write .deactivateMotd 0 deactivateMotdRows with
  | (none, database) => (false, database)
  | (some _, database) =>
    let out := database.write .insertMotd 0 (insertMotdRow body now)
    (out.1.isSome, out.2)

theorem replaceSlots_eq (database : DatabaseHandle) (userId : ℤ) (entries : List Top8Entry) :
    replaceSlots database userId entries =
      database.inTransaction (replaceSlotsBody userId entries) := rfl

theorem publishMotd_eq (database : DatabaseHandle) (body : ByteString) (now : UInt64) :
    publishMotd database body now = database.inTransaction (publishMotdBody body now) := rfl

section Bodies

variable {database database' : DatabaseHandle}

theorem deleteEnvelopes_plain (recipientId : ℤ) (step : ℕ) (identifiers : List UInt64) :
    DatabaseHandle.Plain (deleteEnvelopes recipientId step identifiers) := fun _ =>
  (deleteEnvelopes_effect (R := fun _ _ => True) rfl (fun _ => trivial) (fun _ _ _ _ _ => trivial)
    fun _ _ _ _ _ => trivial).2

theorem insertTop8Rows_plain (userId : ℤ) (step : ℕ) (entries : List Top8Entry) :
    DatabaseHandle.Plain (insertTop8Rows userId step entries) := fun _ =>
  (insertTop8Rows_effect (R := fun _ _ => True) rfl (fun _ => trivial) (fun _ _ _ _ _ => trivial)
    fun _ _ _ _ => trivial).2

theorem replaceSlotsBody_plain (userId : ℤ) (entries : List Top8Entry) :
    DatabaseHandle.Plain (replaceSlotsBody userId entries) := by
  intro database
  rcases hwrite : database.write .deleteTop8 0 (deleteTop8Rows userId) with ⟨_ | done, left⟩
  · simpa only [replaceSlotsBody, hwrite] using DatabaseHandle.write_frame hwrite
  · obtain ⟨htransaction, hfaults⟩ := DatabaseHandle.write_frame hwrite
    simp only [replaceSlotsBody, hwrite]
    rw [← htransaction, ← hfaults]
    exact insertTop8Rows_plain userId 0 entries left

theorem publishMotdBody_plain (body : ByteString) (now : UInt64) :
    DatabaseHandle.Plain (publishMotdBody body now) := by
  intro database
  rcases hwrite : database.write .deactivateMotd 0 deactivateMotdRows with ⟨_ | done, left⟩
  · simpa only [publishMotdBody, hwrite] using DatabaseHandle.write_frame hwrite
  · obtain ⟨htransaction, hfaults⟩ := DatabaseHandle.write_frame hwrite
    simp only [publishMotdBody, hwrite]
    rw [← htransaction, ← hfaults]
    exact DatabaseHandle.write_frame rfl

end Bodies

/-! ## What runs on the connection -/

/-- A repository function that writes with a single statement. -/
inductive RepositoryWrite where
  | createUser (pubkey : WirePublicKey) (handle : ByteString)
  | setBanned (userId : ℤ) (banned : Bool)
  | replaceProfile (userId : ℤ) (request : ProfileSetRequest)
  | createForum (founderId : ℤ) (name description themeJson : ByteString) (now : UInt64)
  | createPost (forumId authorId : ℤ) (title body : ByteString) (now : UInt64)
  | deleteOwnPost (postId authorId : ℤ) (now : UInt64)
  | adminDeletePost (postId : ℤ) (now : UInt64)
  | createComment (postId parentCommentId authorId : ℤ) (body : ByteString) (now : UInt64)
  | deleteOwnComment (commentId authorId : ℤ) (now : UInt64)
  | insertEnvelope (recipientId : ℤ) (senderPubkey : WirePublicKey) (ciphertext : ByteString)
  | replaceFriendship (userId friendId : ℤ) (status : FriendshipStatus)
  | replacePrekey (userId : ℤ) (prekey : WirePublicKey) (signature : WireSignature) (now : UInt64)
  | recordReport (target : ReportTarget) (reporterId : ℤ) (reason : ByteString) (now : UInt64)
  | clearReport (id : ℤ)
  | clearActiveMotd

/-- The function, and whether it reports success. -/
def RepositoryWrite.run (database : DatabaseHandle) : RepositoryWrite → Bool × DatabaseHandle
  | createUser pubkey handle =>
    let out := HyperCom.createUser database pubkey handle
    (out.1.isSome, out.2)
  | setBanned userId banned => HyperCom.setBanned database userId banned
  | replaceProfile userId request => HyperCom.replaceProfile database userId request
  | createForum founderId name description themeJson now =>
    let out := HyperCom.createForum database founderId name description themeJson now
    (out.1.isSome, out.2)
  | createPost forumId authorId title body now =>
    let out := HyperCom.createPost database forumId authorId title body now
    (out.1.isSome, out.2)
  | deleteOwnPost postId authorId now => HyperCom.deleteOwnPost database postId authorId now
  | adminDeletePost postId now => HyperCom.adminDeletePost database postId now
  | createComment postId parentCommentId authorId body now =>
    let out := HyperCom.createComment database postId parentCommentId authorId body now
    (out.1.isSome, out.2)
  | deleteOwnComment commentId authorId now =>
    HyperCom.deleteOwnComment database commentId authorId now
  | insertEnvelope recipientId senderPubkey ciphertext =>
    let out := HyperCom.insertEnvelope database recipientId senderPubkey ciphertext
    (out.1.isSome, out.2)
  | replaceFriendship userId friendId status =>
    HyperCom.replaceFriendship database userId friendId status
  | replacePrekey userId prekey signature now =>
    HyperCom.replacePrekey database userId prekey signature now
  | recordReport target reporterId reason now =>
    HyperCom.recordReport database target reporterId reason now
  | clearReport id => HyperCom.clearReport database id
  | clearActiveMotd => HyperCom.clearActiveMotd database

/-- None of them touches the transaction. -/
theorem RepositoryWrite.run_transaction (database : DatabaseHandle) (write : RepositoryWrite) :
    (write.run database).2.transaction = database.transaction := by
  cases write <;> exact DatabaseHandle.write_transaction ..

/-- The connection of the server: the tables and `schema_migrations`, and what a
rollback would restore. -/
abbrev ServerStore : Type := Connection (MigratedContents Tables)

namespace ServerStore

/-- The connection as a repository sees it. -/
def handle (store : ServerStore) (faults : SqlStatement → ℕ → Bool) : DatabaseHandle :=
  { tables := store.contents.schema
    transaction := store.saved.map MigratedContents.schema
    faults }

/-- The connection after a repository used it: `schema_migrations` is as it was,
now and in what a rollback would restore. -/
def withHandle (store : ServerStore) (database : DatabaseHandle) : ServerStore :=
  { contents := { store.contents with schema := database.tables }
    saved := database.transaction.map fun schema =>
      { store.saved.getD store.contents with schema } }

theorem withHandle_saved {store : ServerStore} {database : DatabaseHandle} :
    (store.withHandle database).saved = none ↔ database.transaction = none := by
  simp [withHandle]

end ServerStore

/-- A repository function or the migration runner, with the SQLite calls that
fail. A function that only reads does nothing to the connection, unless it fails
in a transaction that was left open. -/
inductive SharedOperation where
  | read (succeeds undoes : Bool)
  | write (faults : SqlStatement → ℕ → Bool) (statement : RepositoryWrite)
  | replaceSlots (faults : SqlStatement → ℕ → Bool) (userId : ℤ) (entries : List Top8Entry)
  | deleteAcknowledged (faults : SqlStatement → ℕ → Bool) (recipientId : ℤ) (ids : List UInt64)
  | publishMotd (faults : SqlStatement → ℕ → Bool) (body : ByteString) (now : UInt64)
  | applyPendingMigrations (execute : ScriptEffect Tables) (world : MigrationWorld Tables)
      (path : ByteString) (directory : ScriptDirectory)

namespace SharedOperation

/-- The operation, and whether it reports success. -/
def run (store : ServerStore) : SharedOperation → Bool × ServerStore
  | read succeeds undoes => (succeeds, store.afterFailure (!succeeds && undoes))
  | write faults statement =>
    let out := statement.run (store.handle faults)
    (out.1, (store.withHandle out.2).afterFailure (!out.1 && faults .automaticRollback 0))
  | replaceSlots faults userId entries =>
    let out := HyperCom.replaceSlots (store.handle faults) userId entries
    (out.1, store.withHandle out.2)
  | deleteAcknowledged faults recipientId ids =>
    let out := HyperCom.deleteAcknowledged (store.handle faults) recipientId ids
    (out.1, store.withHandle out.2)
  | publishMotd faults body now =>
    let out := HyperCom.publishMotd (store.handle faults) body now
    (out.1, store.withHandle out.2)
  | applyPendingMigrations execute world path directory =>
    let out := HyperCom.applyPendingMigrations execute world path directory store
    (out.1 = .applied, out.2)

/-- The connection after the operation. -/
def perform (store : ServerStore) (operation : SharedOperation) : Option ServerStore :=
  some (operation.run store).2

/-- After the operation no transaction is open: another one can be begun, and all
that was written is committed. -/
structure LeavesClosed (store : ServerStore) (operation : SharedOperation) : Prop where
  closed : (operation.run store).2.saved = none
  ready : ((operation.run store).2.begin false).1 = true
  committed : (operation.run store).2.committed = (operation.run store).2.contents

end SharedOperation

/-- No COMMIT or ROLLBACK the loop of `apply_pending_migrations` gets to issue fails
while its transaction stays open. -/
def MigrationsSettle (execute : ScriptEffect Tables) (world : MigrationWorld Tables) :
    List MigrationFile → ServerStore → Prop
  | [], _ => True
  | file :: files, store =>
    match isAlreadyApplied world file.name store.contents with
    | none => True
    | some true => MigrationsSettle execute world files store
    | some false =>
      (∀ script, readFileContents world file = some script →
        Connection.Settles (world.block file.name)
          (migrationBody execute world file.name script) store.contents) ∧
      match applyOneMigration execute world file store with
      | (.error _, _) => True
      | (.ok (), store) => MigrationsSettle execute world files store

/-- No COMMIT or ROLLBACK the operation gets to issue fails while its transaction
stays open. -/
def SharedOperation.Settles (store : ServerStore) : SharedOperation → Prop
  | read _ _ => True
  | write _ _ => True
  | replaceSlots faults userId entries =>
    (store.handle faults).Settles (replaceSlotsBody userId entries)
  | deleteAcknowledged faults recipientId ids =>
    (store.handle faults).Settles (deleteEnvelopes recipientId 0 ids)
  | publishMotd faults body now => (store.handle faults).Settles (publishMotdBody body now)
  | applyPendingMigrations execute world path directory =>
    world.createFails = false →
      match collectMigrationFiles world path directory with
      | .failed _ => True
      | .threw => True
      | .files files =>
        MigrationsSettle execute world files { store with contents := store.contents.withTable }

section Discipline

variable {store store' : ServerStore} {operation : SharedOperation} {execute : ScriptEffect Tables}
  {world : MigrationWorld Tables} {file : MigrationFile} {files : List MigrationFile}

theorem ServerStore.handle_closed (h : store.saved = none) (faults : SqlStatement → ℕ → Bool) :
    (store.handle faults).transaction = none := by
  simp [handle, h]

theorem applyOneMigration_closed_iff (execute : ScriptEffect Tables) (world : MigrationWorld Tables)
    (file : MigrationFile) (h : store.saved = none) :
    (applyOneMigration execute world file store).2.saved = none ↔
      ∀ script, readFileContents world file = some script →
        Connection.Settles (world.block file.name) (migrationBody execute world file.name script)
          store.contents := by
  rcases hread : readFileContents world file with _ | script
  · simp [applyOneMigration, hread, h]
  · have hblock := applyOneMigration_block execute store hread
    have hleft := congrArg (fun out : Bool × ServerStore => out.2.saved) hblock
    simp only at hleft
    simp only [Option.some.injEq, forall_eq']
    rw [hleft]
    exact Connection.block_closed_iff h

/-- The loop leaves the connection closed exactly when all its transactions
settle; induction over the files. -/
theorem applyFiles_closed_iff (h : store.saved = none) :
    (applyFiles execute world files store).2.saved = none ↔
      MigrationsSettle execute world files store := by
  induction files generalizing store with
  | nil => simp [applyFiles, MigrationsSettle, h]
  | cons file files ih =>
    rcases hfound : isAlreadyApplied world file.name store.contents with _ | _ | _
    · simp [applyFiles, MigrationsSettle, hfound, Connection.afterFailure_closed, h]
    · have hone := applyOneMigration_closed_iff execute world file h
      rcases hout : applyOneMigration execute world file store with ⟨error | _, left⟩
      · rw [hout] at hone
        simpa only [applyFiles, MigrationsSettle, hfound, hout, and_true] using hone
      · rw [hout] at hone
        simp only [applyFiles, MigrationsSettle, hfound, hout]
        -- a migration that reports success has committed
        rcases applyOneMigration_cases execute world file h with
          ⟨script, built, -, -, happly⟩ | ⟨error, hfailed, -⟩
        · rw [hout] at happly
          obtain rfl : left = { contents := built } := (Prod.mk.inj happly).2
          rw [ih rfl]
          exact (and_iff_right (hone.mp rfl)).symm
        · rw [hout] at hfailed
          cases hfailed
    · simp only [applyFiles, MigrationsSettle, hfound]
      exact ih h

/-- One operation on a closed connection. -/
theorem SharedOperation.closed_iff (h : store.saved = none) :
    (operation.run store).2.saved = none ↔ operation.Settles store := by
  cases operation with
  | read succeeds undoes =>
    rw [run, Connection.afterFailure_closed h]
    exact iff_of_true h trivial
  | write faults statement =>
    have hclosed : (store.withHandle (statement.run (store.handle faults)).2).saved = none := by
      rw [ServerStore.withHandle_saved, RepositoryWrite.run_transaction]
      exact ServerStore.handle_closed h faults
    rw [run, Connection.afterFailure_closed hclosed]
    exact iff_of_true hclosed trivial
  | replaceSlots faults userId entries =>
    rw [run, ServerStore.withHandle_saved, replaceSlots_eq]
    exact DatabaseHandle.inTransaction_closed_iff (replaceSlotsBody_plain userId entries)
      (ServerStore.handle_closed h faults)
  | deleteAcknowledged faults recipientId ids =>
    rw [run, ServerStore.withHandle_saved, HyperCom.deleteAcknowledged]
    exact DatabaseHandle.inTransaction_closed_iff (deleteEnvelopes_plain recipientId 0 ids)
      (ServerStore.handle_closed h faults)
  | publishMotd faults body now =>
    rw [run, ServerStore.withHandle_saved, publishMotd_eq]
    exact DatabaseHandle.inTransaction_closed_iff (publishMotdBody_plain body now)
      (ServerStore.handle_closed h faults)
  | applyPendingMigrations execute world path directory =>
    simp only [run, Settles, HyperCom.applyPendingMigrations]
    cases hcreate : world.createFails with
    | true => simp [Connection.afterFailure_closed, h]
    | false =>
      rcases hfiles : collectMigrationFiles world path directory with error | _ | files
      · simp [h]
      · simp [h]
      · simp only [Bool.false_eq_true, if_false, true_implies]
        exact applyFiles_closed_iff h

theorem SharedOperation.leavesClosed_iff (h : store.saved = none) :
    operation.LeavesClosed store ↔ operation.Settles store := by
  rw [← closed_iff h]
  constructor
  · exact LeavesClosed.closed
  · exact fun hclosed => ⟨hclosed, Connection.begin_ready hclosed, Connection.committed_eq hclosed⟩

end Discipline

/-- Any operations, in any order, with any failures, whichever of them SQLite answers
by a rollback of its own: after each of them no transaction is open, exactly when
no COMMIT and no ROLLBACK they get to issue fails while the transaction stays
open. -/
theorem transactions_closed_iff (contents : MigratedContents Tables)
    (operations : List SharedOperation) :
    Along SharedOperation.perform (fun store operation => operation.LeavesClosed store)
        { contents } operations ↔
      Along SharedOperation.perform (fun store operation => operation.Settles store)
        { contents } operations := by
  have hstep : ∀ {store operation store'}, store.saved = none →
      SharedOperation.LeavesClosed store operation →
      SharedOperation.perform store operation = some store' → store'.saved = none := by
    intro store operation store' _ hleaves hperform
    obtain rfl := Option.some.inj hperform
    exact hleaves.closed
  constructor
  · exact Along.of_invariant hstep
      (fun hclosed hleaves => (SharedOperation.leavesClosed_iff hclosed).mp hleaves) rfl
  · exact Along.of_invariant
      (fun hclosed hsettles => hstep hclosed
        ((SharedOperation.leavesClosed_iff hclosed).mpr hsettles))
      (fun hclosed hsettles => (SharedOperation.leavesClosed_iff hclosed).mpr hsettles) rfl

/-- COMMIT is refused, as with `SQLITE_BUSY`. -/
def busyCommit (statement : SqlStatement) (_ : ℕ) : Bool := statement = .commit

/-- A database of one account. -/
def oneAccount : ServerStore :=
  { contents := { schema := { users := [{ id := 1, pubkey := FixedBytes.zero _, handle := [], banned := false }]
                              usersSequence := 1 } } }

/-- A top 8 whose COMMIT is refused, a profile, and an acknowledgement of
messages: the first leaves its transaction open, the second is acknowledged and
not committed, the third cannot begin. -/
theorem open_transaction_swallows :
    let first : SharedOperation := .replaceSlots busyCommit 1 []
    let second : SharedOperation := .write (fun _ _ => false) (.replaceProfile 1 {})
    let third : SharedOperation := .deleteAcknowledged (fun _ _ => false) 1 []
    (first.run oneAccount).1 = false ∧ (first.run oneAccount).2.saved.isSome = true ∧
      (second.run (first.run oneAccount).2).1 = true ∧
      (second.run (first.run oneAccount).2).2.contents.schema.profiles.length = 1 ∧
      (second.run (first.run oneAccount).2).2.committed.schema.profiles = [] ∧
      (third.run (second.run (first.run oneAccount).2).2).1 = false := by
  decide +kernel

end HyperCom
