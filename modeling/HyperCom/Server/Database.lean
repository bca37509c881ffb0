import HyperCom.Protocol.Records

/-!
# The database

The tables as the migrations leave them, and `database_handle`. The schema's
constraints are checked where a statement would run into them, in the
repositories; `Tables.Consistent` is what they and AUTOINCREMENT guarantee of
the accounts.

Any SQLite call may fail. `faults` says which calls of the request being served
do: call 0 of a statement is its preparation and binding, call `k + 1` its
`k`-th step. A failed write leaves the tables alone; a failed read ends the
loop that was reading.
-/

namespace HyperCom

/-- `static_cast<std::int64_t>` of an unsigned identifier. -/
def castInt64 (value : UInt64) : ℤ := value.toInt64.toInt

/-- `static_cast<std::uint64_t>` of a signed column. -/
def castUInt64 (value : ℤ) : UInt64 := (Int64.ofInt value).toUInt64

theorem castInt64_castUInt64 {value : ℤ} (hlow : -2 ^ 63 ≤ value) (hhigh : value < 2 ^ 63) :
    castInt64 (castUInt64 value) = value :=
  Int64.toInt_ofInt_of_le hlow hhigh

/-! ## Rows -/

/-- `user_row`: a public key and a handle, and whether the account is banned. -/
structure UserRow where
  id : ℤ
  pubkey : WirePublicKey
  handle : ByteString
  banned : Bool
deriving DecidableEq

structure PrekeyRow where
  userId : ℤ
  prekey : WirePublicKey
  signature : WireSignature
  createdAt : ℤ
deriving DecidableEq

structure ForumRow where
  id : ℤ
  name : ByteString
  founderId : ℤ
  description : ByteString
  themeJson : ByteString
  createdAt : ℤ
deriving DecidableEq

structure PostRow where
  id : ℤ
  forumId : ℤ
  authorId : ℤ
  title : ByteString
  body : ByteString
  createdAt : ℤ
  deletedAt : Option ℤ := none
deriving DecidableEq

/-- A comment without a parent is a direct reply to the post. -/
structure CommentRow where
  id : ℤ
  postId : ℤ
  parentCommentId : Option ℤ
  authorId : ℤ
  body : ByteString
  createdAt : ℤ
  deletedAt : Option ℤ := none
deriving DecidableEq

structure ProfileRow where
  userId : ℤ
  displayName : ByteString
  bio : ByteString
  themeJson : ByteString
  bannerRef : ByteString
deriving DecidableEq

structure FriendRow where
  userId : ℤ
  friendId : ℤ
  status : FriendshipStatus
deriving DecidableEq

structure Top8Row where
  userId : ℤ
  slot : ℕ
  friendId : ℤ
deriving DecidableEq

structure DmEnvelopeRow where
  id : ℤ
  recipientId : ℤ
  senderPubkey : WirePublicKey
  ciphertext : ByteString
deriving DecidableEq

structure MotdRow where
  id : ℤ
  body : ByteString
  active : Bool
  createdAt : ℤ
deriving DecidableEq

/-- What a report is about: a post by its id, an account by its key. -/
inductive ReportTarget where
  | post (postId : ℤ)
  | account (targetPubkey : WirePublicKey)
deriving DecidableEq

structure ReportRow where
  id : ℤ
  target : ReportTarget
  reporterId : ℤ
  reason : ByteString
  createdAt : ℤ
deriving DecidableEq

/-! ## Tables -/

/-- The rows of every table in rowid order, and the `sqlite_sequence` entry of
each AUTOINCREMENT table: the largest id ever given out. -/
structure Tables where
  users : List UserRow := []
  prekeys : List PrekeyRow := []
  forums : List ForumRow := []
  posts : List PostRow := []
  comments : List CommentRow := []
  profiles : List ProfileRow := []
  friends : List FriendRow := []
  top8 : List Top8Row := []
  dmEnvelopes : List DmEnvelopeRow := []
  motd : List MotdRow := []
  reports : List ReportRow := []
  usersSequence : ℤ := 0
  forumsSequence : ℤ := 0
  postsSequence : ℤ := 0
  commentsSequence : ℤ := 0
  dmEnvelopesSequence : ℤ := 0
  motdSequence : ℤ := 0
  reportsSequence : ℤ := 0
deriving DecidableEq

/-- The largest rowid SQLite gives out; AUTOINCREMENT fails with `SQLITE_FULL`
past it. -/
def maxRowid : ℤ := 2 ^ 63 - 1

/-- The id AUTOINCREMENT gives the next row. -/
def nextRowid (sequence : ℤ) : Option ℤ :=
  if sequence ≥ maxRowid then none else some (sequence + 1)

theorem nextRowid_eq_some {sequence id : ℤ} (h : nextRowid sequence = some id) :
    id = sequence + 1 ∧ sequence < maxRowid := by
  unfold nextRowid at h
  split at h
  · cases h
  · next hlt => exact ⟨(Option.some.inj h).symm, not_le.mp hlt⟩

/-- What AUTOINCREMENT and the foreign key of `profiles` guarantee: account ids
are positive and were given out, and a profile belongs to an account. -/
structure Tables.Consistent (tables : Tables) : Prop where
  sequence_nonneg : 0 ≤ tables.usersSequence
  user_id : ∀ user ∈ tables.users, 0 < user.id ∧ user.id ≤ tables.usersSequence
  profile_user : ∀ profile ∈ tables.profiles, ∃ user ∈ tables.users, user.id = profile.userId

/-- The foreign key into `users`. -/
def Tables.hasUser (tables : Tables) (id : ℤ) : Bool := tables.users.any fun user => user.id == id

theorem Tables.hasUser_iff {tables : Tables} {id : ℤ} :
    tables.hasUser id = true ↔ ∃ user ∈ tables.users, user.id = id := by
  simp [Tables.hasUser]

/-! ## `database_handle` and `sql_statement` -/

/-- The statements of the repositories that the server's requests and the
administration run. `automaticRollback` is none of them: it is among the faults
when SQLite answers the failure of a call inside a transaction by rolling the
whole transaction back by itself, as it may for `SQLITE_FULL`, `SQLITE_IOERR` and
`SQLITE_NOMEM`. -/
inductive SqlStatement where
  | findUserByPubkey | findUserById | createUser | setBanned
  | replaceProfile | findProfileByPubkey
  | createForum | findForumById | countForums | listForums
  | createPost | findPostById | countPosts | listPosts | deleteOwnPost | adminDeletePost
  | createComment | findCommentById | listThread | checkParent | deleteOwnComment
  | insertEnvelope | listEnvelopes | deleteEnvelope
  | replaceFriendship | listFriends
  | deleteTop8 | insertTop8 | listTop8
  | replacePrekey | findPrekey
  | recordReport | listReports | clearReport
  | findMotd | deactivateMotd | insertMotd
  | beginImmediate | commit | rollback | walCheckpoint
  | automaticRollback
deriving DecidableEq

/-- An open database: the tables as the connection sees them, what a rollback
would restore if a transaction is open, the page images the write-ahead log
still holds, and the calls that fail. -/
structure DatabaseHandle where
  tables : Tables := {}
  transaction : Option Tables := none
  wal : List Tables := []
  faults : SqlStatement → ℕ → Bool := fun _ _ => false

namespace DatabaseHandle

/-- The rows `while (step_row() == row)` gets to see: those before the first
step that fails. -/
def stepRows {α : Type} (fails : ℕ → Bool) : ℕ → List α → List α
  | _, [] => []
  | step, row :: rows => if fails step then [] else row :: stepRows fails (step + 1) rows

/-- A prepared and bound query with the rows that answer it. -/
def query {α : Type} (database : DatabaseHandle) (statement : SqlStatement) (rows : List α) :
    Option (List α) :=
  if database.faults statement 0 then none
  else some (stepRows (fun step => database.faults statement (step + 1)) 0 rows)

/-- The first row of a query, for the lookups that step once. -/
def queryFirst {α : Type} (database : DatabaseHandle) (statement : SqlStatement)
    (rows : List α) : Option α :=
  (database.query statement rows).bind List.head?

/-- A writing statement, stepped for the `step`-th time. `write` is its effect,
`none` when a constraint refuses it; the replaced page image stays in the log.
The bodies of the transactions stop at the first statement that fails, so what the
failure does to the transaction is part of `inTransaction`; for a statement outside
of them, in a transaction that was left open, it is part of `SharedOperation.run`. -/
def write {α : Type} (database : DatabaseHandle) (statement : SqlStatement) (step : ℕ)
    (write : Tables → Option (α × Tables)) : Option α × DatabaseHandle :=
  if database.faults statement 0 || database.faults statement (step + 1) then (none, database)
  else
    match write database.tables with
    | none => (none, database)
    | some (result, tables) =>
      (some result, { database with tables, wal := database.tables :: database.wal })

/-- `execute_script("BEGIN IMMEDIATE")`: refused inside a transaction. -/
def beginImmediate (database : DatabaseHandle) : Bool × DatabaseHandle :=
  if database.faults .beginImmediate 0 || database.transaction.isSome then (false, database)
  else (true, { database with transaction := some database.tables })

/-- An open transaction is undone. -/
def undone (database : DatabaseHandle) : DatabaseHandle :=
  { database with tables := database.transaction.getD database.tables, transaction := none }

/-- A call inside the transaction has failed: the transaction is still open, or
SQLite has rolled it back by itself. -/
def afterFailure (database : DatabaseHandle) : DatabaseHandle :=
  if database.faults .automaticRollback 0 then database.undone else database

/-- `execute_script("COMMIT")`: a failure leaves the transaction open
(`SQLITE_BUSY`), or SQLite rolls it back by itself. -/
def commit (database : DatabaseHandle) : Bool × DatabaseHandle :=
  if database.faults .commit 0 then (false, database.afterFailure)
  else (true, { database with transaction := none })

/-- `execute_script("ROLLBACK")`: refused where no transaction is open. -/
def rollback (database : DatabaseHandle) : Bool × DatabaseHandle :=
  if database.faults .rollback 0 || database.transaction.isNone then (false, database)
  else (true, database.undone)

/-- The transaction of `replace_slots`, `delete_acknowledged` and `publish_motd`:
all of the body or nothing of it. A body that fails stops at the statement that
failed; where SQLite has rolled back by itself, the ROLLBACK finds no
transaction. -/
def inTransaction (database : DatabaseHandle)
    (body : DatabaseHandle → Bool × DatabaseHandle) : Bool × DatabaseHandle :=
  match database.beginImmediate with
  | (false, database) => (false, database)
  | (true, database) =>
    match body database with
    | (true, database) => database.commit
    | (false, database) => (false, database.afterFailure.rollback.2)

/-- `PRAGMA wal_checkpoint(TRUNCATE)`: a failure only delays the cleanup. -/
def walCheckpoint (database : DatabaseHandle) : DatabaseHandle :=
  if database.faults .walCheckpoint 0 then database else { database with wal := [] }

/-- No call of the request fails. -/
def Healthy (database : DatabaseHandle) : Prop :=
  database.faults = fun _ _ => false

theorem stepRows_never {α : Type} (step : ℕ) (rows : List α) :
    stepRows (fun _ => false) step rows = rows := by
  induction rows generalizing step with
  | nil => rfl
  | cons row rows ih => simp [stepRows, ih]

theorem Healthy.query_eq {α : Type} {database : DatabaseHandle} (h : database.Healthy)
    (statement : SqlStatement) (rows : List α) : database.query statement rows = some rows := by
  have hfaults : database.faults = fun _ _ => false := h
  simp [query, hfaults, stepRows_never]

theorem Healthy.write_eq {α : Type} {database : DatabaseHandle} (h : database.Healthy)
    {effect : Tables → Option (α × Tables)} {result : α} {tables : Tables}
    (heffect : effect database.tables = some (result, tables)) (statement : SqlStatement) (step : ℕ) :
    database.write statement step effect =
      (some result, { database with tables, wal := database.tables :: database.wal }) := by
  have hfaults : database.faults = fun _ _ => false := h
  simp [write, hfaults, heffect]

/-- What a reader sees is a prefix of the answer. -/
theorem stepRows_initial {α : Type} (fails : ℕ → Bool) (step : ℕ) (rows : List α) :
    stepRows fails step rows <+: rows := by
  induction rows generalizing step with
  | nil => exact List.prefix_rfl
  | cons row rows ih =>
    unfold stepRows
    split
    · exact List.nil_prefix
    · exact (List.prefix_cons_inj row).mpr (ih (step + 1))

theorem query_front {α : Type} {database : DatabaseHandle} {statement : SqlStatement}
    {rows answer : List α} (h : database.query statement rows = some answer) : answer <+: rows := by
  rw [query] at h
  split at h
  · cases h
  · obtain rfl := Option.some.inj h
    exact stepRows_initial ..

theorem queryFirst_mem {α : Type} {database : DatabaseHandle} {statement : SqlStatement}
    {rows : List α} {row : α} (h : database.queryFirst statement rows = some row) :
    row ∈ rows := by
  obtain ⟨answer, hquery, hhead⟩ := Option.bind_eq_some_iff.mp h
  exact (query_front hquery).subset (List.mem_of_head? hhead)

/-- What a write can do: nothing, or the effect of its statement. -/
theorem write_cases {α : Type} {database database' : DatabaseHandle} {statement : SqlStatement}
    {step : ℕ} {effect : Tables → Option (α × Tables)} {result : Option α}
    (h : database.write statement step effect = (result, database')) :
    (result = none ∧ database' = database) ∨
    ∃ value tables, effect database.tables = some (value, tables) ∧ result = some value ∧
      database' = { database with tables, wal := database.tables :: database.wal } := by
  rw [write] at h
  split at h
  · exact .inl ⟨(Prod.mk.inj h).1.symm, (Prod.mk.inj h).2.symm⟩
  · split at h
    · exact .inl ⟨(Prod.mk.inj h).1.symm, (Prod.mk.inj h).2.symm⟩
    · next value tables heffect =>
      exact .inr ⟨value, tables, heffect, (Prod.mk.inj h).1.symm, (Prod.mk.inj h).2.symm⟩

/-! What a write leaves, related to what was there before. `R` is reflexive and
holds of the statement's own effect. -/

section Effects

variable {R : Tables → Tables → Prop} {database database' : DatabaseHandle}

theorem write_effect {α : Type} {statement : SqlStatement} {step : ℕ}
    {effect : Tables → Option (α × Tables)} {result : Option α}
    (h : database.write statement step effect = (result, database'))
    (hrefl : ∀ tables, R tables tables)
    (heffect : ∀ {result tables}, effect database.tables = some (result, tables) →
      R database.tables tables) :
    R database.tables database'.tables := by
  obtain ⟨-, rfl⟩ | ⟨value, tables, hwritten, -, rfl⟩ := write_cases h
  · exact hrefl _
  · exact heffect hwritten

/-- A write touches neither the open transaction nor the faults. -/
theorem write_frame {α : Type} {statement : SqlStatement} {step : ℕ}
    {effect : Tables → Option (α × Tables)} {result : Option α}
    (h : database.write statement step effect = (result, database')) :
    database'.transaction = database.transaction ∧ database'.faults = database.faults := by
  obtain ⟨-, rfl⟩ | ⟨value, tables, -, -, rfl⟩ := write_cases h
  · exact ⟨rfl, rfl⟩
  · exact ⟨rfl, rfl⟩

/-- A call that fails leaves the tables, or what a rollback restores. -/
theorem afterFailure_cases (database : DatabaseHandle) :
    database.afterFailure = database ∨ database.afterFailure = database.undone := by
  unfold afterFailure
  split
  · exact .inr rfl
  · exact .inl rfl

/-- So does a rollback. -/
theorem rollback_cases (database : DatabaseHandle) :
    database.rollback.2 = database ∨ database.rollback.2 = database.undone := by
  unfold rollback
  split
  · exact .inl rfl
  · exact .inr rfl

/-- Undoing a second time changes nothing. -/
@[simp] theorem undone_undone (database : DatabaseHandle) :
    database.undone.undone = database.undone := rfl

/-- Whatever happens to a transaction whose body has failed, it leaves the tables of
the body or those from before it. -/
theorem abandoned_cases (database : DatabaseHandle) :
    database.afterFailure.rollback.2 = database ∨
      database.afterFailure.rollback.2 = database.undone := by
  rcases afterFailure_cases database with hopen | hundone
  · rw [hopen]
    exact rollback_cases database
  · rw [hundone]
    rcases rollback_cases database.undone with h | h <;> exact .inr h

/-- A COMMIT leaves the tables of the body, too, or those from before it. -/
theorem commit_cases (database : DatabaseHandle) :
    database.commit.2.tables = database.tables ∨ database.commit.2 = database.undone := by
  unfold commit
  split
  · rcases afterFailure_cases database with h | h
    · exact .inl (congrArg tables h)
    · exact .inr h
  · exact .inl rfl

/-- Whether it commits, rolls back or fails to do either, a transaction leaves
what its body may leave. -/
theorem inTransaction_effect {body : DatabaseHandle → Bool × DatabaseHandle} {done : Bool}
    (h : database.inTransaction body = (done, database')) (hrefl : ∀ tables, R tables tables)
    (hbody : ∀ {database database' done}, body database = (done, database') →
      R database.tables database'.tables ∧ database'.transaction = database.transaction) :
    R database.tables database'.tables := by
  unfold inTransaction at h
  rcases hbegin : database.beginImmediate with ⟨started, opened⟩
  rw [hbegin] at h
  unfold beginImmediate at hbegin
  split at hbegin
  · obtain ⟨rfl, rfl⟩ := Prod.mk.inj hbegin
    obtain ⟨-, rfl⟩ := Prod.mk.inj h
    exact hrefl _
  · obtain ⟨rfl, rfl⟩ := Prod.mk.inj hbegin
    rcases hrun : body { database with transaction := some database.tables } with ⟨ok, left⟩
    simp only [hrun] at h
    obtain ⟨hafter, hopen⟩ := hbody hrun
    -- the snapshot taken by BEGIN is the table the call started from
    have hundone : R database.tables left.undone.tables := by
      change R database.tables (left.transaction.getD left.tables)
      rw [hopen]
      exact hrefl _
    cases ok with
    | true =>
      change left.commit = (done, database') at h
      have hleft := commit_cases left
      rw [h] at hleft
      rcases hleft with hleft | hleft
      · rw [show database'.tables = left.tables from hleft]
        exact hafter
      · rw [show database' = left.undone from hleft]
        exact hundone
    | false =>
      obtain ⟨-, rfl⟩ := Prod.mk.inj h
      rcases abandoned_cases left with hleft | hleft <;> rw [hleft]
      · exact hafter
      · exact hundone

end Effects

end DatabaseHandle

end HyperCom
