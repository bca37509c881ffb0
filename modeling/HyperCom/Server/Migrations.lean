import HyperCom.Lib.Run
import HyperCom.Lib.Transactions
import HyperCom.Server.Database
import Mathlib.Data.List.Nodup
import Mathlib.Data.List.Sort

/-!
# The migration runner

`migration_runner.cpp`, over any number of server starts. The runner reads the
scripts of a directory, and commits each one it has not recorded yet together
with its record in `schema_migrations`. What a script does to the database is a
parameter; the directory, the files and every call of SQLite may fail.

A start begins with what the one before has committed: when the process ends, a
transaction it left open is undone. `MigrationRun` keeps the history of the
scripts that were applied, with the text that was executed and the time that was
recorded. The source keeps no history: it is what `schema_migrations` and the
rest of the database are compared with.
-/

namespace HyperCom

open StepRun Transactions

variable {σ : Type*}

/-! ## The directory -/

/-- An entry of the directory. -/
structure DirectoryEntry where
  name : ByteString
  regular : Bool := true
  contents : ByteString

/-- A directory: no two entries have one name. -/
structure ScriptDirectory where
  entries : List DirectoryEntry
  names_nodup : (entries.map DirectoryEntry.name).Nodup

/-- `migration_file`: the contents stand for the path. -/
structure MigrationFile where
  name : ByteString
  contents : ByteString
deriving DecidableEq

/-- `path().extension() == ".sql"`: a name that is nothing but a suffix has no
extension. -/
def hasSqlExtension (name : ByteString) : Bool :=
  name.length > 4 && name.drop (name.length - 4) == ascii ".sql"

/-- The scripts of a directory. -/
def ScriptDirectory.scripts (directory : ScriptDirectory) : List MigrationFile :=
  (directory.entries.filter fun entry => entry.regular && hasSqlExtension entry.name).map
    fun entry => { name := entry.name, contents := entry.contents }

/-! ## What may fail -/

/-- How the directory can be read: `is_directory` says no; the iterator cannot be
opened; it throws on the way; or it goes through all entries. -/
inductive DirectoryListing where
  | missing
  | refused
  | interrupted
  | complete
deriving DecidableEq

/-- How a file can be read: not at all, up to some length, or whole. -/
inductive FileRead where
  | unopened
  | cut (length : ℕ)
  | whole
deriving DecidableEq

/-- A row of `schema_migrations`. -/
structure MigrationRow where
  name : ByteString
  appliedAt : ℤ
deriving DecidableEq

/-- The database: what the scripts build, and `schema_migrations`, which the
first start creates. -/
structure MigratedContents (σ : Type*) where
  schema : σ
  migrations : Option (List MigrationRow) := none

/-- What the outside world answers during one start, call by call. A script that
is stopped leaves some contents behind. -/
structure MigrationWorld (σ : Type*) where
  listing : DirectoryListing := .complete
  read : ByteString → FileRead := fun _ => .whole
  createFails : Bool := false
  lookupFails : ByteString → Bool := fun _ => false
  scriptStops : ByteString → Option (MigratedContents σ) := fun _ => none
  bindFails : ByteString → Bool := fun _ => false
  insertFails : ByteString → Bool := fun _ => false
  block : ByteString → BlockFaults := fun _ => {}
  /-- a failure outside of the runner's own transactions undoes one that is open -/
  undoes : Bool := false
  /-- `get_unix_timestamp` when a migration is recorded -/
  now : ByteString → UInt64 := fun _ => 0
  /-- the text of SQLite for the call that fails -/
  message : ByteString := []

/-! ## `migration_runner.cpp` -/

/-- What `collect_migration_files` comes to. -/
inductive CollectedFiles where
  | failed (error : ByteString)
  | threw
  | files (files : List MigrationFile)

/-- The order of the names. -/
def MigrationFile.Before (first second : MigrationFile) : Prop := first.name ≤ second.name

instance : DecidableRel MigrationFile.Before :=
  fun first second => inferInstanceAs (Decidable (first.name ≤ second.name))

instance : Std.Total MigrationFile.Before := ⟨fun _ _ => Std.le_total⟩

instance : IsTrans MigrationFile MigrationFile.Before := ⟨fun _ _ _ => Std.le_trans⟩

/-- The files in the order of their names. -/
def sortFiles (files : List MigrationFile) : List MigrationFile :=
  files.insertionSort MigrationFile.Before

/-- `collect_migration_files`: the error of the iterator is not looked at, and an
iterator that could not be opened has no entries. -/
def collectMigrationFiles (world : MigrationWorld σ) (path : ByteString)
    (directory : ScriptDirectory) : CollectedFiles :=
  match world.listing with
  | .missing => .failed (ascii "repertoire de migrations introuvable : " ++ path)
  | .refused => .files []
  | .interrupted => .threw
  | .complete => .files (sortFiles directory.scripts)

/-- `is_already_applied` -/
def isAlreadyApplied (world : MigrationWorld σ) (name : ByteString)
    (contents : MigratedContents σ) : Option Bool :=
  if world.lookupFails name then none
  else contents.migrations.map fun rows => rows.any fun row => row.name = name

/-- `record_applied_migration`: the name is the primary key. -/
def recordAppliedMigration (world : MigrationWorld σ) (name : ByteString)
    (contents : MigratedContents σ) : Except ByteString Unit × MigratedContents σ :=
  match contents.migrations with
  | none => (.error (ascii "liaison impossible pour schema_migrations"), contents)
  | some rows =>
    if world.bindFails name then
      (.error (ascii "liaison impossible pour schema_migrations"), contents)
    else if world.insertFails name || rows.any fun row => row.name = name then
      (.error (ascii "enregistrement de la migration " ++ name ++ ascii " impossible"), contents)
    else
      (.ok (), { contents with migrations := some (rows ++ [{ name, appliedAt := castInt64 (world.now name) }]) })

/-- `read_file_contents`: a read that fails on the way is not noticed. -/
def readFileContents (world : MigrationWorld σ) (file : MigrationFile) : Option ByteString :=
  match world.read file.name with
  | .unopened => none
  | .cut length => some (file.contents.take length)
  | .whole => some file.contents

/-- What the scripts do: whether SQLite executes one to its end, and what it
leaves. -/
abbrev ScriptEffect (σ : Type*) : Type _ :=
  ByteString → MigratedContents σ → Bool × MigratedContents σ

variable (execute : ScriptEffect σ)

/-- `execute_script` for a migration, then `record_applied_migration`. -/
def runMigration (world : MigrationWorld σ) (name script : ByteString)
    (contents : MigratedContents σ) : Except ByteString Unit × MigratedContents σ :=
  match world.scriptStops name with
  | some left => (.error world.message, left)
  | none =>
    match execute script contents with
    | (false, left) => (.error world.message, left)
    | (true, left) => recordAppliedMigration world name left

/-- The body of the transaction of a migration. -/
def migrationBody (world : MigrationWorld σ) (name script : ByteString)
    (contents : MigratedContents σ) : Bool × MigratedContents σ :=
  let out := runMigration execute world name script contents
  (out.1.toBool, out.2)

/-- What the operator is told when a migration fails. -/
def migrationFailure (name error : ByteString) : ByteString :=
  name ++ ascii " : " ++ error ++ ascii "\n  La base n'a pas ete modifiee. Voir docs/ADMIN.md, " ++
    ascii "section " ++ [0xC2, 0xAB] ++ ascii " Migrations " ++ [0xC2, 0xBB] ++
    ascii ", pour resoudre puis relancer."

/-- `apply_one_migration` -/
def applyOneMigration (world : MigrationWorld σ) (file : MigrationFile)
    (database : Connection (MigratedContents σ)) :
    Except ByteString Unit × Connection (MigratedContents σ) :=
  match readFileContents world file with
  | none => (.error (ascii "lecture impossible : " ++ file.name), database)
  | some script =>
    match database.begin (world.block file.name).begins with
    | (false, database) => (.error world.message, database)
    | (true, database) =>
      match runMigration execute world file.name script database.contents with
      | (.error error, contents) =>
        (.error (migrationFailure file.name error),
          (({ database with contents }.afterFailure (world.block file.name).undoes).rollback
            (world.block file.name).rollbacks).2)
      | (.ok (), contents) =>
        match { database with contents }.commit (world.block file.name).commits
          (world.block file.name).undoes with
        | (false, database) => (.error world.message, database)
        | (true, database) => (.ok (), database)

/-- What `apply_pending_migrations` comes to. -/
inductive MigrationOutcome where
  | applied
  | failed (error : ByteString)
  | threw
deriving DecidableEq

/-- The loop of `apply_pending_migrations`. -/
def applyFiles (world : MigrationWorld σ) :
    List MigrationFile → Connection (MigratedContents σ) →
      MigrationOutcome × Connection (MigratedContents σ)
  | [], database => (.applied, database)
  | file :: files, database =>
    match isAlreadyApplied world file.name database.contents with
    | none => (.failed (ascii "lecture de schema_migrations impossible"),
        database.afterFailure world.undoes)
    | some true => applyFiles world files database
    | some false =>
      match applyOneMigration execute world file database with
      | (.error error, database) => (.failed error, database)
      | (.ok (), database) => applyFiles world files database

/-- `CREATE TABLE IF NOT EXISTS schema_migrations` -/
def MigratedContents.withTable (contents : MigratedContents σ) : MigratedContents σ :=
  { contents with migrations := some (contents.migrations.getD []) }

/-- `apply_pending_migrations` -/
def applyPendingMigrations (world : MigrationWorld σ) (path : ByteString)
    (directory : ScriptDirectory) (database : Connection (MigratedContents σ)) :
    MigrationOutcome × Connection (MigratedContents σ) :=
  if world.createFails then (.failed world.message, database.afterFailure world.undoes)
  else
    let database := { database with contents := database.contents.withTable }
    match collectMigrationFiles world path directory with
    | .failed error => (.failed error, database)
    | .threw => (.threw, database)
    | .files files => applyFiles execute world files database

/-! ## What was applied -/

/-- A script that was applied: the text that was executed, and the time in its
record. -/
structure AppliedMigration where
  name : ByteString
  script : ByteString
  appliedAt : ℤ
deriving DecidableEq

namespace AppliedMigration

/-- Its row of `schema_migrations`. -/
def row (applied : AppliedMigration) : MigrationRow :=
  { name := applied.name, appliedAt := applied.appliedAt }

/-- The file it was read from, if it was read whole. -/
def file (applied : AppliedMigration) : MigrationFile :=
  { name := applied.name, contents := applied.script }

/-- The script and its record, once more, if SQLite executes the script to its end. -/
def replay (contents : MigratedContents σ) (applied : AppliedMigration) :
    Option (MigratedContents σ) :=
  match execute applied.script contents with
  | (false, _) => none
  | (true, left) => some { left with migrations := some (left.migrations.getD [] ++ [applied.row]) }

/-- Scripts one after another, as long as each of them goes through. -/
def replayAll (contents : MigratedContents σ) (log : List AppliedMigration) :
    Option (MigratedContents σ) :=
  log.foldlM (replay execute) contents

end AppliedMigration

/-- The entry of a file that is being applied. -/
def MigrationFile.applied (world : MigrationWorld σ) (file : MigrationFile) : AppliedMigration :=
  { name := file.name
    script := (readFileContents world file).getD []
    appliedAt := castInt64 (world.now file.name) }

theorem AppliedMigration.replayAll_append (execute : ScriptEffect σ)
    (contents : MigratedContents σ) (earlier later : List AppliedMigration) :
    replayAll execute contents (earlier ++ later) =
      (replayAll execute contents earlier).bind fun left => replayAll execute left later := by
  rw [replayAll, List.foldlM_append]
  rfl

/-- A script that was replayed went through. -/
theorem AppliedMigration.replayAll_cons_some {execute : ScriptEffect σ}
    {contents left : MigratedContents σ} {applied : AppliedMigration} {log : List AppliedMigration}
    (h : replayAll execute contents (applied :: log) = some left) :
    (execute applied.script contents).1 = true := by
  rw [replayAll, List.foldlM_cons] at h
  obtain ⟨replayed, hreplay, -⟩ := Option.bind_eq_some_iff.mp h
  rw [replay] at hreplay
  split at hreplay
  · cases hreplay
  · next hdone => rw [hdone]

/-- The scripts the loop applies. -/
def appliedFiles (world : MigrationWorld σ) :
    List MigrationFile → Connection (MigratedContents σ) → List AppliedMigration
  | [], _ => []
  | file :: files, database =>
    match isAlreadyApplied world file.name database.contents with
    | none => []
    | some true => appliedFiles world files database
    | some false =>
      match applyOneMigration execute world file database with
      | (.error _, _) => []
      | (.ok (), database) => file.applied world :: appliedFiles world files database

/-- The files that are not recorded. -/
def pendingFiles (rows : List MigrationRow) (files : List MigrationFile) : List MigrationFile :=
  files.filter fun file => !rows.any fun row => row.name = file.name

/-- The file is read whole, or not at all. -/
def MigrationFile.ReadWhole (world : MigrationWorld σ) (file : MigrationFile) : Prop :=
  ∀ length, world.read file.name = .cut length → file.contents.length ≤ length

/-- The script leaves `schema_migrations` to the runner. -/
def MigrationFile.KeepsRecords (file : MigrationFile) : Prop :=
  ∀ contents, (execute file.contents contents).1 = true →
    (execute file.contents contents).2.migrations = contents.migrations

section Loop

variable {execute} {world : MigrationWorld σ} {file : MigrationFile} {files : List MigrationFile}
  {database : Connection (MigratedContents σ)} {contents left : MigratedContents σ}
  {name script : ByteString} {rows : List MigrationRow}

theorem readFileContents_whole (hread : file.ReadWhole world)
    (h : readFileContents world file = some script) : script = file.contents := by
  rcases hhow : world.read file.name with _ | length | _
  · simp [readFileContents, hhow] at h
  · simp only [readFileContents, hhow, Option.some.injEq] at h
    rw [← h, List.take_of_length_le (hread length hhow)]
  · simpa [readFileContents, hhow, eq_comm] using h

/-- A migration that succeeds: its script went through, and its name was not
recorded. -/
theorem runMigration_ok (h : runMigration execute world name script contents = (.ok (), left)) :
    world.scriptStops name = none ∧ (execute script contents).1 = true ∧
      ∃ rows, (execute script contents).2.migrations = some rows ∧
        left = { (execute script contents).2 with
          migrations := some (rows ++ [{ name, appliedAt := castInt64 (world.now name) }]) } := by
  rcases hstops : world.scriptStops name with _ | stopped
  · rcases hscript : execute script contents with ⟨_ | _, built⟩
    · simp [runMigration, hstops, hscript] at h
    · simp only [runMigration, hstops, hscript, recordAppliedMigration] at h
      rcases hrows : built.migrations with _ | rows
      · simp [hrows] at h
      · simp only [hrows] at h
        split at h
        · simp at h
        · split at h
          · simp at h
          · exact ⟨rfl, rfl, rows, rfl, (Prod.mk.inj h).2.symm⟩
  · simp [runMigration, hstops] at h

/-- `apply_one_migration` is a transaction around the script and its record. -/
theorem applyOneMigration_block (execute : ScriptEffect σ)
    (database : Connection (MigratedContents σ)) (hread : readFileContents world file = some script) :
    ((applyOneMigration execute world file database).1.toBool,
      (applyOneMigration execute world file database).2) =
    database.block (world.block file.name) (migrationBody execute world file.name script) := by
  simp only [applyOneMigration, hread, Connection.block, migrationBody]
  rcases database.begin (world.block file.name).begins with ⟨_ | _, opened⟩
  · rfl
  · simp only
    rcases runMigration execute world file.name script opened.contents with ⟨_ | _, left⟩
    · rfl
    · simp only [Except.toBool]
      rcases ({ opened with contents := left } : Connection (MigratedContents σ)).commit
        (world.block file.name).commits (world.block file.name).undoes with ⟨_ | _, closed⟩ <;> rfl

/-- All of a migration is committed, with its record, or nothing of it. -/
theorem applyOneMigration_cases (execute : ScriptEffect σ) (world : MigrationWorld σ)
    (file : MigrationFile) (hclosed : database.saved = none) :
    (∃ script left, readFileContents world file = some script ∧
      runMigration execute world file.name script database.contents = (.ok (), left) ∧
      applyOneMigration execute world file database = (.ok (), { contents := left })) ∨
    ∃ error, (applyOneMigration execute world file database).1 = .error error ∧
      (applyOneMigration execute world file database).2.committed = database.committed := by
  rcases hread : readFileContents world file with _ | script
  · exact .inr ⟨ascii "lecture impossible : " ++ file.name, by simp [applyOneMigration, hread],
      by simp [applyOneMigration, hread]⟩
  have hblock := applyOneMigration_block execute database hread
  rcases hout : applyOneMigration execute world file database with ⟨error | _, left⟩
  · rw [hout] at hblock
    refine .inr ⟨error, rfl, ?_⟩
    have hfailed := Connection.block_failed hclosed (congrArg Prod.fst hblock).symm
    rw [← hblock] at hfailed
    exact hfailed
  · rw [hout] at hblock
    obtain ⟨hbody, hleft⟩ := Connection.block_succeeded hclosed (congrArg Prod.fst hblock).symm
    rw [← hblock] at hleft
    rcases hrun : runMigration execute world file.name script database.contents with ⟨_ | _, built⟩
    · simp [migrationBody, hrun, Except.toBool] at hbody
    · refine .inl ⟨script, built, rfl, hrun, ?_⟩
      simp only [migrationBody, hrun] at hleft
      rw [hleft]

variable (execute world) in
/-- What the loop does from a database whose records are `rows`. -/
structure LoopApplies (rows : List MigrationRow) (files : List MigrationFile)
    (contents : MigratedContents σ) (log : List AppliedMigration)
    (out : MigrationOutcome × Connection (MigratedContents σ)) : Prop where
  inOrder : log.map AppliedMigration.file <+: pendingFiles rows files
  complete : out.1 = .applied → log.map AppliedMigration.file = pendingFiles rows files
  stopped : out.1 = .applied ∨ ∃ error, out.1 = .failed error
  uninterrupted : ∀ applied ∈ log, world.scriptStops applied.name = none
  effects : AppliedMigration.replayAll execute contents log = some out.2.committed
  recorded : out.2.committed.migrations = some (rows ++ log.map AppliedMigration.row)

/-- A loop that stops before anything is applied. -/
theorem LoopApplies.idle (hrows : contents.migrations = some rows)
    {out : MigrationOutcome × Connection (MigratedContents σ)} {error : ByteString}
    (hfailed : out.1 = .failed error) (hcommitted : out.2.committed = contents) :
    LoopApplies execute world rows files contents [] out where
  inOrder := List.nil_prefix
  complete := fun h => by cases hfailed.symm.trans h
  stopped := .inr ⟨error, hfailed⟩
  uninterrupted := by simp
  effects := congrArg some hcommitted.symm
  recorded := by rw [hcommitted, hrows, List.map_nil, List.append_nil]

/-- A record of a name that is not in the directory changes nothing for it. -/
theorem pendingFiles_append {row : MigrationRow} (hname : row.name ∉ files.map MigrationFile.name) :
    pendingFiles (rows ++ [row]) files = pendingFiles rows files := by
  refine List.filter_congr fun file hfile => ?_
  have hother : row.name ≠ file.name := fun h => hname (h ▸ List.mem_map_of_mem hfile)
  simp [hother]

theorem pendingFiles_cons_recorded (h : rows.any (fun row => row.name = file.name) = true) :
    pendingFiles rows (file :: files) = pendingFiles rows files := by
  simp [pendingFiles, h]

theorem pendingFiles_cons_new (h : rows.any (fun row => row.name = file.name) = false) :
    pendingFiles rows (file :: files) = file :: pendingFiles rows files := by
  simp [pendingFiles, h]

/-- A migration that goes through replays its file and records its name; one that
does not leaves what was committed. -/
theorem applyOneMigration_replays (hread : file.ReadWhole world) (hkeeps : file.KeepsRecords execute)
    (hclosed : database.saved = none) (hrows : database.contents.migrations = some rows) :
    (∃ left, (file.applied world).file = file ∧ world.scriptStops file.name = none ∧
      (file.applied world).replay execute database.contents = some left ∧
      left.migrations = some (rows ++ [(file.applied world).row]) ∧
      applyOneMigration execute world file database = (.ok (), { contents := left })) ∨
    ∃ error, (applyOneMigration execute world file database).1 = .error error ∧
      (applyOneMigration execute world file database).2.committed = database.committed := by
  rcases applyOneMigration_cases execute world file hclosed with
    ⟨script, left, hscript, hrun, happly⟩ | hfailed
  · obtain rfl := readFileContents_whole hread hscript
    obtain ⟨hstops, hdone, before, hbefore, rfl⟩ := runMigration_ok hrun
    have hkept := hkeeps database.contents hdone
    obtain rfl : before = rows := Option.some.inj (hbefore.symm.trans (hkept.trans hrows))
    have hentry : file.applied world =
        { name := file.name, script := file.contents
          appliedAt := castInt64 (world.now file.name) } := by
      simp [MigrationFile.applied, hscript]
    have hreplayed : (file.applied world).replay execute database.contents =
        some { (execute file.contents database.contents).2 with
          migrations := some (before ++ [(file.applied world).row]) } := by
      have hscript : execute (file.applied world).script database.contents =
          (true, (execute file.contents database.contents).2) := by
        rw [hentry, ← hdone]
      rw [AppliedMigration.replay, hscript]
      simp only [hbefore, Option.getD_some]
    have hfile : (file.applied world).file = file := by
      rw [hentry]
      rfl
    refine .inl ⟨_, hfile, hstops, hreplayed, rfl, happly.trans ?_⟩
    rw [hentry]
    rfl
  · exact .inr hfailed

/-- The loop after a file it has applied. -/
theorem LoopApplies.applied {entry : AppliedMigration} {log : List AppliedMigration}
    {out : MigrationOutcome × Connection (MigratedContents σ)}
    (h : LoopApplies execute world (rows ++ [entry.row]) files left log out)
    (hreplayed : entry.replay execute contents = some left)
    (hstops : world.scriptStops entry.name = none)
    (hname : entry.file.name ∉ files.map MigrationFile.name)
    (hnew : rows.any (fun row => row.name = entry.file.name) = false) :
    LoopApplies execute world rows (entry.file :: files) contents (entry :: log) out := by
  obtain ⟨inOrder, complete, stopped, uninterrupted, effects, recorded⟩ := h
  have hrow : entry.row.name ∉ files.map MigrationFile.name := hname
  rw [pendingFiles_append hrow] at inOrder complete
  have heffects : AppliedMigration.replayAll execute contents (entry :: log) =
      some out.2.committed := by
    rw [AppliedMigration.replayAll, List.foldlM_cons, hreplayed]
    exact effects
  refine ⟨?_, fun happlied => ?_, stopped, List.forall_mem_cons.mpr ⟨hstops, uninterrupted⟩,
    heffects, ?_⟩
  · rw [List.map_cons, pendingFiles_cons_new hnew]
    exact (List.prefix_cons_inj entry.file).mpr inOrder
  · rw [List.map_cons, pendingFiles_cons_new hnew, complete happlied]
  · rw [recorded, List.map_cons, List.append_assoc, List.singleton_append]

/-- The loop after a file that is recorded already. -/
theorem LoopApplies.recordedBefore {log : List AppliedMigration}
    {out : MigrationOutcome × Connection (MigratedContents σ)}
    (h : LoopApplies execute world rows files contents log out)
    (hrecorded : rows.any (fun row => row.name = file.name) = true) :
    LoopApplies execute world rows (file :: files) contents log out := by
  obtain ⟨inOrder, complete, stopped, uninterrupted, effects, recorded⟩ := h
  rw [← pendingFiles_cons_recorded hrecorded] at inOrder complete
  exact ⟨inOrder, complete, stopped, uninterrupted, effects, recorded⟩

/-- The loop: induction over the files, the records growing with each one that is
applied. -/
theorem applyFiles_applies (hnodup : (files.map MigrationFile.name).Nodup)
    (hread : ∀ file ∈ files, file.ReadWhole world)
    (hkeeps : ∀ file ∈ files, file.KeepsRecords execute)
    (hclosed : database.saved = none) (hrows : database.contents.migrations = some rows) :
    LoopApplies execute world rows files database.contents
      (appliedFiles execute world files database) (applyFiles execute world files database) := by
  induction files generalizing database rows with
  | nil =>
    refine ⟨List.nil_prefix, fun _ => rfl, .inl rfl, by simp [appliedFiles],
      congrArg some (Connection.committed_eq hclosed).symm, ?_⟩
    simp [applyFiles, appliedFiles, Connection.committed_eq hclosed, hrows]
  | cons file files ih =>
    obtain ⟨hname, hnodup⟩ := List.nodup_cons.mp hnodup
    have hreadRest : ∀ file ∈ files, file.ReadWhole world :=
      fun other hother => hread other (List.mem_cons_of_mem _ hother)
    have hkeepsRest : ∀ file ∈ files, file.KeepsRecords execute :=
      fun other hother => hkeeps other (List.mem_cons_of_mem _ hother)
    by_cases hlookup : world.lookupFails file.name = true
    · have hnone : isAlreadyApplied world file.name database.contents = none := by
        simp [isAlreadyApplied, hlookup]
      simp only [applyFiles, appliedFiles, hnone]
      exact .idle hrows rfl ((Connection.committed_afterFailure ..).trans
        (Connection.committed_eq hclosed))
    have hfound : isAlreadyApplied world file.name database.contents =
        some (rows.any fun row => row.name = file.name) := by
      simp [isAlreadyApplied, hlookup, hrows]
    cases hrecorded : rows.any fun row => row.name = file.name with
    | true =>
      rw [hrecorded] at hfound
      simp only [applyFiles, appliedFiles, hfound]
      exact (ih hnodup hreadRest hkeepsRest hclosed hrows).recordedBefore hrecorded
    | false =>
      rw [hrecorded] at hfound
      rcases applyOneMigration_replays (hread file List.mem_cons_self)
        (hkeeps file List.mem_cons_self) hclosed hrows with
        ⟨left, hfile, hstops, hreplayed, hleft, happly⟩ | ⟨error, hfailed, hcommitted⟩
      · simp only [applyFiles, appliedFiles, hfound, happly]
        have hsettled : (Connection.mk left none).saved = none := rfl
        have happlied := (ih hnodup hreadRest hkeepsRest hsettled hleft).applied hreplayed hstops
          (by rwa [hfile]) (by rwa [hfile])
        rwa [hfile] at happlied
      · rcases hout : applyOneMigration execute world file database with ⟨stopped | _, left⟩
        · rw [hout] at hcommitted
          simp only [applyFiles, appliedFiles, hfound, hout]
          exact .idle hrows rfl (hcommitted.trans (Connection.committed_eq hclosed))
        · rw [hout] at hfailed
          cases hfailed

end Loop

/-! ## Server starts -/

/-- The committed database, the scripts applied to it so far, and those of the
directory the last start found. -/
structure MigrationRun (σ : Type*) where
  committed : MigratedContents σ
  history : List AppliedMigration := []
  scripts : List MigrationFile := []

/-- One start of the server. -/
structure ServerStart (σ : Type*) where
  path : ByteString := ascii "db/migrations"
  directory : ScriptDirectory
  world : MigrationWorld σ := {}

namespace ServerStart

/-- `apply_pending_migrations` on a database just opened. -/
def outcome (start : ServerStart σ) (run : MigrationRun σ) :
    MigrationOutcome × Connection (MigratedContents σ) :=
  applyPendingMigrations execute start.world start.path start.directory
    { contents := run.committed }

/-- The scripts this start applies. -/
def newlyApplied (start : ServerStart σ) (run : MigrationRun σ) : List AppliedMigration :=
  if start.world.createFails then []
  else
    match collectMigrationFiles start.world start.path start.directory with
    | .failed _ => []
    | .threw => []
    | .files files =>
      appliedFiles execute start.world files { contents := run.committed.withTable }

/-- The process ends, and only what it committed is left. -/
def perform (run : MigrationRun σ) (start : ServerStart σ) : Option (MigrationRun σ) :=
  some {
    committed := (start.outcome execute run).2.committed
    history := run.history ++ start.newlyApplied execute run
    scripts := start.directory.scripts }

/-- Scripts are added to the directory, never changed or removed. -/
def DirectoryGrows (run : MigrationRun σ) (start : ServerStart σ) : Prop :=
  run.scripts ⊆ start.directory.scripts

/-- The directory can be listed, none of its scripts is read in part, and none
writes into `schema_migrations`. -/
def ScriptsRead (start : ServerStart σ) : Prop :=
  start.world.listing ≠ .refused ∧
    ∀ file ∈ start.directory.scripts, file.ReadWhole start.world ∧ file.KeepsRecords execute

end ServerStart

/-- The names recorded in `schema_migrations`. -/
def MigratedContents.recordedNames (contents : MigratedContents σ) : List ByteString :=
  (contents.migrations.getD []).map MigrationRow.name

/-- What holds between starts: the recorded names are those of the scripts that
were applied, each once; each of these scripts went through, and the database is
what they make of the initial one, one after another; and they are scripts of the
directory. -/
structure MigrationRun.Sound (initial : MigratedContents σ) (run : MigrationRun σ) : Prop where
  recorded : run.committed.recordedNames = run.history.map AppliedMigration.name
  once : (run.history.map AppliedMigration.name).Nodup
  effects : AppliedMigration.replayAll execute initial.withTable run.history =
    some run.committed.withTable
  fromDirectory : ∀ applied ∈ run.history, applied.file ∈ run.scripts

/-- The scripts of the directory that are not recorded, in the order of their
names. -/
def ServerStart.pending (start : ServerStart σ) (run : MigrationRun σ) : List MigrationFile :=
  pendingFiles (run.committed.migrations.getD [])
    (sortFiles start.directory.scripts)

/-- The script of a file fails on a database: SQLite is stopped in it, or executes it
to an error. -/
def ServerStart.Fails (start : ServerStart σ) (file : MigrationFile)
    (contents : MigratedContents σ) : Prop :=
  start.world.scriptStops file.name ≠ none ∨ (execute file.contents contents).1 = false

/-- What holds of one start: it goes through the scripts that are not recorded in
the increasing order of their names, and what it commits is what those it applies
make of the database, each of them executed to its end. A script that fails where
its turn comes ends the start: the start does not return true, nothing is applied
from there on, and the database is what it was before the script. If the start
returns true, all scripts of the directory have been applied. -/
structure ServerStart.InOrder (run : MigrationRun σ) (start : ServerStart σ) : Prop where
  increasing : (start.newlyApplied execute run).Pairwise fun first second =>
    first.name < second.name
  stops : (start.newlyApplied execute run).map AppliedMigration.file <+: start.pending run
  uninterrupted : ∀ applied ∈ start.newlyApplied execute run,
    start.world.scriptStops applied.name = none
  committed : AppliedMigration.replayAll execute run.committed.withTable
      (start.newlyApplied execute run) =
    some (start.outcome execute run).2.committed.withTable
  failing : ∀ earlier later file rest contents,
    start.newlyApplied execute run = earlier ++ later →
    start.pending run = earlier.map AppliedMigration.file ++ file :: rest →
    AppliedMigration.replayAll execute run.committed.withTable earlier = some contents →
    start.Fails execute file contents →
      (start.outcome execute run).1 ≠ .applied ∧
        (start.world.listing = .complete → ∃ error, (start.outcome execute run).1 = .failed error) ∧
        later = [] ∧ (start.outcome execute run).2.committed.withTable = contents
  complete : (start.outcome execute run).1 = .applied → ∀ file ∈ start.directory.scripts,
    ∃ applied ∈ run.history ++ start.newlyApplied execute run, applied.file = file

section Starts

variable {execute} {initial : MigratedContents σ} {run run' : MigrationRun σ} {start : ServerStart σ}

theorem ScriptDirectory.names_scripts_nodup (directory : ScriptDirectory) :
    (directory.scripts.map MigrationFile.name).Nodup := by
  have hnames : directory.scripts.map MigrationFile.name =
      (directory.entries.filter fun entry => entry.regular && hasSqlExtension entry.name).map
        DirectoryEntry.name := by
    simp [ScriptDirectory.scripts]
  rw [hnames]
  exact directory.names_nodup.sublist (List.filter_sublist.map _)

/-- The sorted scripts, strictly. -/
theorem ScriptDirectory.sorted_increasing (directory : ScriptDirectory) :
    (sortFiles directory.scripts).Pairwise fun first second =>
      first.name < second.name := by
  have hsorted : (sortFiles directory.scripts).Pairwise MigrationFile.Before :=
    List.pairwise_insertionSort MigrationFile.Before _
  have hdistinct : (sortFiles directory.scripts).Pairwise fun first second =>
      first.name ≠ second.name := by
    have hperm := (List.perm_insertionSort MigrationFile.Before directory.scripts).map
      MigrationFile.name
    exact List.pairwise_map.mp (hperm.nodup_iff.mpr directory.names_scripts_nodup)
  refine (hsorted.and hdistinct).imp fun hboth => ?_
  exact Std.lt_of_le_of_ne hboth.1 hboth.2

theorem MigratedContents.withTable_eq {contents : MigratedContents σ} {rows : List MigrationRow}
    (h : contents.migrations = some rows) : contents.withTable = contents := by
  rw [withTable, h, Option.getD_some, ← h]

@[simp] theorem MigratedContents.withTable_withTable (contents : MigratedContents σ) :
    contents.withTable.withTable = contents.withTable :=
  withTable_eq rfl

@[simp] theorem MigratedContents.recordedNames_withTable (contents : MigratedContents σ) :
    contents.withTable.recordedNames = contents.recordedNames := rfl

variable (execute) in
/-- What a start does, whether or not it gets to its loop. -/
structure ServerStart.Applies (run : MigrationRun σ) (start : ServerStart σ) : Prop where
  stops : (start.newlyApplied execute run).map AppliedMigration.file <+: start.pending run
  complete : (start.outcome execute run).1 = .applied →
    (start.newlyApplied execute run).map AppliedMigration.file = start.pending run
  stopped : start.world.listing = .complete → (start.outcome execute run).1 = .applied ∨
    ∃ error, (start.outcome execute run).1 = .failed error
  uninterrupted : ∀ applied ∈ start.newlyApplied execute run,
    start.world.scriptStops applied.name = none
  effects : AppliedMigration.replayAll execute run.committed.withTable
      (start.newlyApplied execute run) =
    some (start.outcome execute run).2.committed.withTable
  recorded : (start.outcome execute run).2.committed.recordedNames =
    run.committed.recordedNames ++ (start.newlyApplied execute run).map AppliedMigration.name

/-- A start that ends before its loop. -/
theorem ServerStart.Applies.idle (hnone : start.newlyApplied execute run = [])
    (hfailed : (start.outcome execute run).1 ≠ .applied)
    (hstopped : start.world.listing = .complete →
      ∃ error, (start.outcome execute run).1 = .failed error)
    (hcommitted : (start.outcome execute run).2.committed.withTable = run.committed.withTable) :
    start.Applies execute run := by
  refine ⟨?_, fun h => absurd h hfailed, fun hlisting => .inr (hstopped hlisting), ?_, ?_, ?_⟩
  · rw [hnone]
    exact List.nil_prefix
  · rw [hnone]
    simp
  · rw [hnone, hcommitted]
    rfl
  · rw [hnone, List.map_nil, List.append_nil, ← MigratedContents.recordedNames_withTable,
      hcommitted, MigratedContents.recordedNames_withTable]

theorem ServerStart.applies (run : MigrationRun σ) (hread : start.ScriptsRead execute) :
    start.Applies execute run := by
  cases hcreate : start.world.createFails with
  | true =>
    exact .idle (by simp [newlyApplied, hcreate])
      (by simp [outcome, applyPendingMigrations, hcreate])
      (by simp [outcome, applyPendingMigrations, hcreate])
      (by simp [outcome, applyPendingMigrations, hcreate])
  | false =>
    rcases hlisting : start.world.listing with _ | _ | _ | _
    · exact .idle (by simp [newlyApplied, hcreate, collectMigrationFiles, hlisting])
        (by simp [outcome, applyPendingMigrations, hcreate, collectMigrationFiles, hlisting])
        (fun hcomplete => by cases hlisting.symm.trans hcomplete)
        (by simp [outcome, applyPendingMigrations, hcreate, collectMigrationFiles, hlisting])
    · exact absurd hlisting hread.1
    · exact .idle (by simp [newlyApplied, hcreate, collectMigrationFiles, hlisting])
        (by simp [outcome, applyPendingMigrations, hcreate, collectMigrationFiles, hlisting])
        (fun hcomplete => by cases hlisting.symm.trans hcomplete)
        (by simp [outcome, applyPendingMigrations, hcreate, collectMigrationFiles, hlisting])
    · have hperm := List.perm_insertionSort MigrationFile.Before start.directory.scripts
      have hnodup : ((sortFiles start.directory.scripts).map
          MigrationFile.name).Nodup :=
        (hperm.map MigrationFile.name).nodup_iff.mpr start.directory.names_scripts_nodup
      have hclosed : (Connection.mk run.committed.withTable none).saved = none := rfl
      have houtcome : start.outcome execute run = applyFiles execute start.world
          (sortFiles start.directory.scripts)
          (Connection.mk run.committed.withTable none) := by
        simp [outcome, applyPendingMigrations, hcreate, collectMigrationFiles, hlisting]
      have hnew : start.newlyApplied execute run = appliedFiles execute start.world
          (sortFiles start.directory.scripts)
          (Connection.mk run.committed.withTable none) := by
        simp [newlyApplied, hcreate, collectMigrationFiles, hlisting]
      obtain ⟨inOrder, complete, stopped, uninterrupted, effects, recorded⟩ :=
        applyFiles_applies hnodup (fun file hfile => (hread.2 file (hperm.mem_iff.mp hfile)).1)
          (fun file hfile => (hread.2 file (hperm.mem_iff.mp hfile)).2) hclosed rfl
      rw [← houtcome, ← hnew] at complete effects recorded
      rw [← houtcome] at stopped
      rw [← hnew] at inOrder uninterrupted
      refine ⟨inOrder, complete, fun _ => stopped, uninterrupted, ?_, ?_⟩
      · rw [MigratedContents.withTable_eq recorded]
        exact effects
      · rw [MigratedContents.recordedNames, recorded, Option.getD_some, List.map_append,
          MigratedContents.recordedNames, List.map_map]
        rfl

/-- The names a start applies are new, and increasing. -/
theorem ServerStart.Applies.names (h : start.Applies execute run) :
    ((start.newlyApplied execute run).Pairwise fun first second => first.name < second.name) ∧
      ∀ applied ∈ start.newlyApplied execute run,
        applied.file ∈ start.directory.scripts ∧ applied.name ∉ run.committed.recordedNames := by
  have hsub : ((start.newlyApplied execute run).map AppliedMigration.file).Sublist
      (sortFiles start.directory.scripts) :=
    h.stops.sublist.trans List.filter_sublist
  constructor
  · have hfiles := start.directory.sorted_increasing.sublist hsub
    rw [List.pairwise_map] at hfiles
    exact hfiles
  · intro applied happlied
    have hpending : applied.file ∈ start.pending run :=
      h.stops.subset (List.mem_map_of_mem happlied)
    obtain ⟨hfile, hnew⟩ := List.mem_filter.mp hpending
    refine ⟨(List.mem_insertionSort _).mp hfile, fun hrecorded => ?_⟩
    obtain ⟨row, hrow, hname⟩ := List.mem_map.mp hrecorded
    have hany : ((run.committed.migrations.getD []).any fun row => row.name = applied.file.name) =
        true := List.any_eq_true.mpr ⟨row, hrow, decide_eq_true hname⟩
    rw [hany] at hnew
    cases hnew

/-- Each start keeps the history sound. -/
theorem MigrationRun.Sound.perform (h : run.Sound execute initial)
    (hgrows : start.DirectoryGrows run) (hread : start.ScriptsRead execute)
    (hstep : start.perform execute run = some run') : run'.Sound execute initial := by
  obtain rfl := Option.some.inj hstep
  have happlies := ServerStart.applies run hread
  obtain ⟨hincreasing, hnew⟩ := happlies.names
  refine ⟨?_, ?_, ?_, ?_⟩
  · rw [List.map_append, ← h.recorded]
    exact happlies.recorded
  · rw [List.map_append]
    refine List.nodup_append.mpr ⟨h.once, ?_, ?_⟩
    · exact (List.pairwise_map.mpr hincreasing).imp fun hlt => Std.ne_of_lt hlt
    · rintro name hold _ hadded rfl
      obtain ⟨applied, happlied, rfl⟩ := List.mem_map.mp hadded
      rw [← h.recorded] at hold
      exact (hnew applied happlied).2 hold
  · rw [AppliedMigration.replayAll_append, h.effects]
    exact happlies.effects
  · intro applied happlied
    rcases List.mem_append.mp happlied with hold | hadded
    · exact hgrows (h.fromDirectory applied hold)
    · exact (hnew applied hadded).1

/-- A script that fails where its turn comes is not applied, nor is any behind it. -/
theorem ServerStart.Applies.failing (h : start.Applies execute run)
    {earlier later : List AppliedMigration} {file : MigrationFile} {rest : List MigrationFile}
    {contents : MigratedContents σ} (hnew : start.newlyApplied execute run = earlier ++ later)
    (hpending : start.pending run = earlier.map AppliedMigration.file ++ file :: rest)
    (hcontents : AppliedMigration.replayAll execute run.committed.withTable earlier = some contents)
    (hfails : start.Fails execute file contents) :
    (start.outcome execute run).1 ≠ .applied ∧
      (start.world.listing = .complete → ∃ error, (start.outcome execute run).1 = .failed error) ∧
      later = [] ∧ (start.outcome execute run).2.committed.withTable = contents := by
  have heffects := h.effects
  rw [hnew, AppliedMigration.replayAll_append, hcontents, Option.bind_some] at heffects
  obtain rfl : later = [] := by
    cases later with
    | nil => rfl
    | cons applied later =>
      -- the next one applied would be this script, and it went through
      have hstops := h.stops
      rw [hnew, hpending, List.map_append, List.prefix_append_right_inj, List.map_cons,
        List.cons_prefix_cons] at hstops
      obtain rfl := hstops.1
      rcases hfails with hstopped | hfailed
      · have happlied : applied ∈ start.newlyApplied execute run := by simp [hnew]
        exact absurd (h.uninterrupted applied happlied) hstopped
      · exact absurd (AppliedMigration.replayAll_cons_some heffects) (by
          rw [show applied.script = applied.file.contents from rfl, hfailed]
          exact Bool.false_ne_true)
  have hnot : (start.outcome execute run).1 ≠ .applied := by
    intro happlied
    have hall := h.complete happlied
    rw [hnew, List.append_nil, hpending] at hall
    simpa using congrArg List.length hall
  exact ⟨hnot, fun hlisting => (h.stopped hlisting).resolve_left hnot, rfl,
    (Option.some.inj heffects).symm⟩

/-- And goes through its directory in order. -/
theorem MigrationRun.Sound.inOrder (h : run.Sound execute initial)
    (hgrows : start.DirectoryGrows run) (hread : start.ScriptsRead execute) :
    start.InOrder execute run := by
  have happlies := ServerStart.applies run hread
  obtain ⟨hincreasing, -⟩ := happlies.names
  refine ⟨hincreasing, happlies.stops, happlies.uninterrupted, happlies.effects,
    fun _ _ _ _ _ => happlies.failing, fun happlied file hfile => ?_⟩
  by_cases hrecorded : file.name ∈ run.committed.recordedNames
  · -- recorded by an earlier start, which found the same script
    rw [h.recorded] at hrecorded
    obtain ⟨applied, hmem, hname⟩ := List.mem_map.mp hrecorded
    refine ⟨applied, List.mem_append_left _ hmem, ?_⟩
    exact List.inj_on_of_nodup_map start.directory.names_scripts_nodup
      (hgrows (h.fromDirectory applied hmem)) hfile hname
  · have hpending : file ∈ start.pending run := by
      refine List.mem_filter.mpr ⟨(List.mem_insertionSort _).mpr hfile, ?_⟩
      rw [Bool.not_eq_true', ← Bool.not_eq_true, List.any_eq_true]
      rintro ⟨row, hrow, hname⟩
      exact hrecorded (List.mem_map.mpr ⟨row, hrow, by simpa using hname⟩)
    rw [← happlies.complete happlied] at hpending
    obtain ⟨applied, hmem, hsame⟩ := List.mem_map.mp hpending
    exact ⟨applied, List.mem_append_right _ hmem, hsame⟩

end Starts

/-- Over any sequence of server starts, with a directory that only grows and
scripts and calls that may fail anywhere, if the directory can be listed and its
scripts are read whole: what is recorded is what was applied, each script once,
and the database is made of just these scripts; and each start applies the
scripts in the order of their names, stops at the first that fails without a
trace of it, and returns true only if all have been applied. -/
theorem migrations_applied_once (schema : σ) (starts : List (ServerStart σ))
    (hgrows : Along (ServerStart.perform execute) (fun run start => start.DirectoryGrows run)
      { committed := { schema } } starts)
    (hread : Along (ServerStart.perform execute) (fun _ start => start.ScriptsRead execute)
      { committed := { schema } } starts) :
    (∀ run, after (ServerStart.perform execute) { committed := { schema } } starts = some run →
      run.Sound execute { schema }) ∧
    Along (ServerStart.perform execute) (fun run start => start.InOrder execute run)
      { committed := { schema } } starts := by
  have hinitial : MigrationRun.Sound execute { schema }
      { committed := { schema } : MigrationRun σ } :=
    ⟨rfl, List.nodup_nil, rfl, by simp⟩
  have hstep : ∀ {run start run'}, MigrationRun.Sound execute { schema } run →
      (start.DirectoryGrows run ∧ start.ScriptsRead execute) →
      ServerStart.perform execute run start = some run' → run'.Sound execute { schema } :=
    fun hsound hcond hperform => hsound.perform hcond.1 hcond.2 hperform
  constructor
  · intro run hrun
    exact after_invariant hstep hinitial (hgrows.and hread) hrun
  · exact Along.of_invariant hstep (fun hsound hcond => hsound.inOrder hcond.1 hcond.2) hinitial
      (hgrows.and hread)

/-- A stand-in for SQLite that writes down the scripts it executes. -/
def transcribe : ScriptEffect (List ByteString) := fun script contents =>
  (true, { contents with schema := contents.schema ++ [script] })

/-- A directory of two scripts and a file that is none. -/
def twoEntries : List DirectoryEntry :=
  [{ name := ascii "0002_users.sql", contents := ascii "ALTER" },
    { name := ascii "README", contents := [] },
    { name := ascii "0001_schema.sql", contents := ascii "CREATE" }]

theorem twoEntries_nodup : (twoEntries.map DirectoryEntry.name).Nodup := by decide

def twoScripts : ScriptDirectory := { entries := twoEntries, names_nodup := twoEntries_nodup }

/-- A start in which the second script fails, and one in which it does not. -/
def repeatedStarts : List (ServerStart (List ByteString)) :=
  [{ directory := twoScripts
     world := { scriptStops := fun name =>
       if name = ascii "0002_users.sql" then some { schema := [] } else none } },
    { directory := twoScripts }]

theorem transcribe_keepsRecords (file : MigrationFile) : file.KeepsRecords transcribe :=
  fun _ _ => rfl

theorem migrations_applied_once_repeated :
    ∃ run, after (ServerStart.perform transcribe) { committed := { schema := [] } } repeatedStarts =
        some run ∧ run.Sound transcribe { schema := [] } ∧
      run.history.map AppliedMigration.name = [ascii "0001_schema.sql", ascii "0002_users.sql"] := by
  have hread : ∀ world : MigrationWorld (List ByteString), world.listing = .complete →
      (world.read = fun _ => .whole) →
        ServerStart.ScriptsRead transcribe { directory := twoScripts, world } := by
    intro world hlisting hwhole
    refine ⟨by simp [hlisting], fun file _ => ⟨fun length hcut => ?_, transcribe_keepsRecords file⟩⟩
    rw [hwhole] at hcut
    cases hcut
  have hend : (after (ServerStart.perform transcribe) { committed := { schema := [] } }
      repeatedStarts).map (fun run => run.history.map AppliedMigration.name) =
      some [ascii "0001_schema.sql", ascii "0002_users.sql"] := by
    decide +kernel
  obtain ⟨run, hrun, hnames⟩ := Option.map_eq_some_iff.mp hend
  obtain ⟨hsound, -⟩ := migrations_applied_once transcribe [] repeatedStarts
    ⟨List.nil_subset _, fun _ hstep => by
      obtain rfl := Option.some.inj hstep
      exact ⟨List.Subset.refl _, fun _ _ => trivial⟩⟩
    ⟨hread _ rfl rfl, fun _ _ => ⟨hread _ rfl rfl, fun _ _ => trivial⟩⟩
  exact ⟨run, hrun, hsound run hrun, hnames⟩

/-- A start that cannot list the directory returns true with nothing applied; one
that reads half a script executes that half and records the script. -/
theorem migrations_missed :
    let start : ServerStart (List ByteString) := { directory := twoScripts }
    let unlisted := { start with world := { listing := .refused } }
    let halved := { start with world := { read := fun _ => .cut 2 } }
    (unlisted.outcome transcribe { committed := { schema := [] } }).1 = .applied ∧
      unlisted.newlyApplied transcribe { committed := { schema := [] } } = [] ∧
      unlisted.directory.scripts.length = 2 ∧
      (halved.outcome transcribe { committed := { schema := [] } }).1 = .applied ∧
      (halved.outcome transcribe { committed := { schema := [] } }).2.committed.schema =
        [ascii "CR", ascii "AL"] := by
  decide +kernel

end HyperCom
