import HyperCom.Client.Registry
import HyperCom.Lib.Run

/-!
# What is done to the server registry

`cli_server_commands.cpp`, `server_actions.cpp` and the start of `gui_main.cpp`:
the commands that save the list of servers, as steps of one system. The disk
remembers, besides its files, which list was last saved at a path, so that a run
can be asked whether that list can still be loaded.

The registry is a file, sealed under the passphrase and loaded as a whole. Saving writes
whatever list the client has in memory, and the loader is strict, so it is the commands that
have to keep the list loadable, over every order in which they can be given.
-/

namespace HyperCom

variable [Sodium]

/-! ## The disk -/

/-- The files, and for each path the passphrase and the list of the last
successful save, as long as nothing else was written there. -/
structure Disk where
  files : Files
  saved : ByteString → Option (ByteString × List ServerEntry) := fun _ => none

/-- `server_registry::save` at a path. -/
def Disk.save (disk : Disk) (path passphrase : ByteString) (entries : List ServerEntry)
    (world : SaveWorld) : Except ByteString Unit × Disk :=
  match saveRegistry path passphrase entries world disk.files with
  | (.ok (), files) =>
    (.ok (), { files, saved := Function.update disk.saved path (some (passphrase, entries)) })
  | (.error error, files) =>
    -- a failed save can have replaced the file all the same
    (.error error,
      { files
        saved :=
          if files path = disk.files path then disk.saved
          else Function.update disk.saved path none })

/-! ## `cli_server_commands.cpp` -/

/-- What the registry commands use of `cli_options`. -/
structure CliOptions where
  host : ByteString := ascii "127.0.0.1"
  port : UInt16 := 7717
  serverKeyHex : ByteString := []
  socks5Host : ByteString := []
  socks5Port : UInt16 := 0
  identityPath : ByteString := ascii "hypercom_identity.key"
  masterSeedPath : ByteString := ascii "hypercom_master.key"
  registryPath : ByteString := ascii "hypercom_servers.dat"

/-- `has_stored_registry` -/
def hasStoredRegistry (path : ByteString) (files : Files) : Bool := (files path).isSome

/-- `load_existing`: a missing registry is not an error. -/
def loadExisting (path passphrase : ByteString) (files : Files) :
    Except ByteString (List ServerEntry) :=
  if !hasStoredRegistry path files then .ok [] else loadRegistry path passphrase files

/-- `read_passphrase`, with what the environment or the terminal gave. -/
def readPassphrase (given : Option ByteString) : Except ByteString ByteString :=
  match given with
  | none => .error (ascii "passphrase requise")
  | some passphrase => .ok passphrase

/-- The entry `run_server_add` makes of a link. -/
def linkEntry (options : CliOptions) (label : ByteString) (link : InviteLink)
    (serverKey : X25519PublicKey) : ServerEntry where
  label
  endpoint := {
    host := link.host, port := link.port, socks5Host := options.socks5Host
    socks5Port := options.socks5Port }
  serverKey

/-- `run_server_add`: what is saved where, up to the call of `save`. -/
def prepareServerAdd (options : CliOptions) (arguments : List ByteString)
    (given : Option ByteString) (files : Files) :
    Except ByteString (ByteString × List ServerEntry) :=
  match arguments with
  | [] => .error (ascii "usage : server-add <hypercom://hote:port#cle> [nom]")
  | linkText :: rest => do
    let link ← parseInviteLink linkText
    let label := rest.head?.getD link.host
    match decodeKey link.serverKeyHex with
    | none => .error (ascii "cle du serveur illisible")
    | some serverKey =>
      let passphrase ← readPassphrase given
      let entries ← loadExisting options.registryPath passphrase files
      if entries.any fun entry => entry.label == label then
        .error (ascii "un serveur porte deja le nom " ++ label)
      else pure (passphrase, entries ++ [linkEntry options label link serverKey])

/-- `run_server_add` -/
def runServerAdd (options : CliOptions) (arguments : List ByteString) (given : Option ByteString)
    (world : SaveWorld) (disk : Disk) : Except ByteString Unit × Disk :=
  match prepareServerAdd options arguments given disk.files with
  | .error error => (.error error, disk)
  | .ok (passphrase, entries) => disk.save options.registryPath passphrase entries world

/-- Attach an imported identity to the first entry with a label. -/
def importIdentity (label path : ByteString) : List ServerEntry → Option (List ServerEntry)
  | [] => none
  | entry :: rest =>
    if entry.label = label then
      some ({ entry with source := .imported, importedIdentityPath := path } :: rest)
    else (importIdentity label path rest).map (entry :: ·)

/-- `run_server_import`: what is saved where, up to the call of `save`. -/
def prepareServerImport (options : CliOptions) (arguments : List ByteString)
    (given : Option ByteString) (files : Files) :
    Except ByteString (ByteString × List ServerEntry) :=
  match arguments with
  | label :: path :: _ => do
    let passphrase ← readPassphrase given
    let entries ← loadExisting options.registryPath passphrase files
    match importIdentity label path entries with
    | none => .error (ascii "serveur inconnu : " ++ label)
    | some entries => pure (passphrase, entries)
  | _ => .error (ascii "usage : server-import <nom> <chemin_identite>")

/-- `run_server_import` -/
def runServerImport (options : CliOptions) (arguments : List ByteString)
    (given : Option ByteString) (world : SaveWorld) (disk : Disk) : Except ByteString Unit × Disk :=
  match prepareServerImport options arguments given disk.files with
  | .error error => (.error error, disk)
  | .ok (passphrase, entries) => disk.save options.registryPath passphrase entries world

/-! ## `server_actions.cpp` -/

/-- What the registry actions use of `app_state`, and the entries of the slots. -/
structure AppState where
  passphrase : ByteString
  registryPath : ByteString
  masterSeedPath : ByteString
  slots : List ServerEntry
  statusMessage : ByteString := []
  statusIsError : Bool := false
  inviteInput : InputBuffer 160 := InputBuffer.cleared 160 (by decide)

/-- What resolving the identity of a slot came to. The only file it can write is
a master seed that was not there yet. -/
structure IdentityOutcome where
  ready : Except ByteString Unit := .ok ()
  createdSeed : Option ByteString := none

/-- The trace `resolve_identity` leaves on the disk. -/
def Disk.resolveIdentity (disk : Disk) (masterSeedPath : ByteString) (identity : IdentityOutcome) :
    Disk :=
  match disk.files masterSeedPath, identity.createdSeed with
  | none, some seed =>
    { disk with files := Function.update disk.files masterSeedPath (some seed) }
  | _, _ => disk

/-- `report` -/
def AppState.report (app : AppState) (message : ByteString) (isError : Bool) : AppState :=
  { app with statusMessage := message, statusIsError := isError }

/-- `persist` -/
def persist (app : AppState) (world : SaveWorld) (disk : Disk) : Except ByteString Unit × Disk :=
  disk.save app.registryPath app.passphrase app.slots world

/-- The entry `add_server_from_invite` makes of a link. -/
def inviteEntry (link : InviteLink) (serverKey : X25519PublicKey) : ServerEntry where
  label := link.host
  endpoint := { host := link.host, port := link.port }
  serverKey

/-- `add_server_from_invite`. The slot stays even when it could not be saved. -/
def addServerFromInvite (app : AppState) (identity : IdentityOutcome) (world : SaveWorld)
    (disk : Disk) : AppState × Disk :=
  match parseInviteLink app.inviteInput.1 with
  | .error failure => (app.report failure true, disk)
  | .ok link =>
    match decodeKey link.serverKeyHex with
    | none => (app.report (ascii "cle du serveur illisible") true, disk)
    | some serverKey =>
      let entry := inviteEntry link serverKey
      if app.slots.any fun existing => existing.serverKey == serverKey then
        (app.report (ascii "ce serveur est deja dans la liste") true, disk)
      else
        let disk := disk.resolveIdentity app.masterSeedPath identity
        match identity.ready with
        | .error failure => (app.report failure true, disk)
        | .ok () =>
          let app := { app with slots := app.slots ++ [entry] }
          match persist app world disk with
          | (.error failure, disk) => (app.report failure true, disk)
          | (.ok (), disk) =>
            let app := { app with inviteInput := InputBuffer.cleared 160 (by decide) }
            (app.report (ascii "serveur ajoute : " ++ entry.label) false, disk)

/-- `acknowledge_slot_trust` -/
def acknowledgeSlotTrust (app : AppState) (index : ℕ) (world : SaveWorld) (disk : Disk) :
    AppState × Disk :=
  if index ≥ app.slots.length then (app, disk)
  else
    let app := { app with
      slots := app.slots.modify index fun entry => { entry with trustAcknowledged := true } }
    match persist app world disk with
    | (.error failure, disk) => (app.report failure true, disk)
    | (.ok (), disk) => (app, disk)

/-! ## The start of the graphical client -/

/-- `load_server_entries`: the registry if there is one, else the server of the
command line. -/
def loadServerEntries (options : CliOptions) (passphrase : ByteString) (files : Files) :
    Except ByteString (List ServerEntry) :=
  if hasStoredRegistry options.registryPath files then
    loadRegistry options.registryPath passphrase files
  else if options.serverKeyHex.length ≠ 64 then
    .error (ascii ("Aucun serveur enregistre, et --server-key absent.\n\n" ++
      "Ajoutez un serveur avec hypercom_cli server-add, ou passez --server-key."))
  else
    match decodeKey options.serverKeyHex with
    | none => .error (ascii "--server-key doit faire 64 caracteres hexadecimaux.")
    | some serverKey =>
      .ok [{
        label := options.host
        endpoint := {
          host := options.host, port := options.port, socks5Host := options.socks5Host
          socks5Port := options.socks5Port }
        serverKey
        source := .imported
        importedIdentityPath := options.identityPath
        trustAcknowledged := true }]

/-- `main` up to the render loop. -/
def launch (options : CliOptions) (given : Option ByteString) (identity : IdentityOutcome)
    (disk : Disk) : Option AppState × Disk :=
  match readPassphrase given with
  | .error _ => (none, disk)
  | .ok passphrase =>
    match loadServerEntries options passphrase disk.files with
    | .error _ => (none, disk)
    | .ok entries =>
      let disk := disk.resolveIdentity options.masterSeedPath identity
      match identity.ready with
      | .error _ => (none, disk)
      | .ok () =>
        (some {
          passphrase, registryPath := options.registryPath
          masterSeedPath := options.masterSeedPath, slots := entries }, disk)

/-! ## The system -/

/-- The disk, and the graphical client while it runs. -/
structure ServerListState where
  disk : Disk
  app : Option AppState := none

/-- What can happen to the list of servers. -/
inductive ServerListEvent where
  /-- `hypercom_cli server-add` -/
  | serverAdd (options : CliOptions) (arguments : List ByteString) (given : Option ByteString)
      (world : SaveWorld)
  /-- `hypercom_cli server-import` -/
  | serverImport (options : CliOptions) (arguments : List ByteString) (given : Option ByteString)
      (world : SaveWorld)
  /-- the graphical client is started -/
  | launchClient (options : CliOptions) (given : Option ByteString) (identity : IdentityOutcome)
  /-- the user types into the invite field -/
  | typeInvite (text : InputBuffer 160)
  /-- `add_server_from_invite` -/
  | addFromInvite (identity : IdentityOutcome) (world : SaveWorld)
  /-- `acknowledge_slot_trust` -/
  | acknowledgeTrust (index : ℕ) (world : SaveWorld)

/-- One step; the actions of the graphical client need it to be running. -/
def ServerListState.step (state : ServerListState) : ServerListEvent → Option ServerListState
  | .serverAdd options arguments given world =>
    some { state with disk := (runServerAdd options arguments given world state.disk).2 }
  | .serverImport options arguments given world =>
    some { state with disk := (runServerImport options arguments given world state.disk).2 }
  | .launchClient options given identity =>
    let (app, disk) := launch options given identity state.disk
    some { disk, app }
  | .typeInvite text =>
    state.app.map fun app => { state with app := some { app with inviteInput := text } }
  | .addFromInvite identity world =>
    state.app.map fun app =>
      let (app, disk) := addServerFromInvite app identity world state.disk
      { disk, app := some app }
  | .acknowledgeTrust index world =>
    state.app.map fun app =>
      let (app, disk) := acknowledgeSlotTrust app index world state.disk
      { disk, app := some app }

/-! ## The property and its condition -/

/-- Every list that was saved, and not overwritten since, is loaded again by the
passphrase it was saved with. -/
def Disk.Recoverable (disk : Disk) : Prop :=
  ∀ path passphrase entries, disk.saved path = some (passphrase, entries) →
    loadRegistry path passphrase disk.files = .ok entries

/-- What the operation is given stays within the bounds of the reader. -/
def InputsInRange (state : ServerListState) : ServerListEvent → Prop
  | .serverAdd options arguments _ _ =>
    ∀ link, (arguments.head?.map parseInviteLink) = some (.ok link) →
      TextInRange maxLabelLength ((arguments[1]?).getD link.host) ∧
      TextInRange maxHostLength link.host ∧ TextInRange maxHostLength options.socks5Host
  | .serverImport _ arguments _ _ => ∀ path, arguments[1]? = some path → TextInRange maxPathLength path
  | .launchClient options _ _ =>
    hasStoredRegistry options.registryPath state.disk.files = false →
      TextInRange maxLabelLength options.host ∧ TextInRange maxHostLength options.socks5Host ∧
      TextInRange maxPathLength options.identityPath
  | .addFromInvite _ _ =>
    ∀ app link, state.app = some app → parseInviteLink app.inviteInput.1 = .ok link →
      TextInRange maxLabelLength link.host
  | _ => True

/-! ## One save -/

/-- Loading depends on one file, -/
theorem loadRegistry_congr {path passphrase : ByteString} {files files' : Files}
    (h : files' path = files path) :
    loadRegistry path passphrase files' = loadRegistry path passphrase files := by
  rw [loadRegistry, loadRegistry, readSealedFile, readSealedFile, h]

/-- and saving changes one. -/
theorem saveRegistry_other {path other passphrase : ByteString} {entries : List ServerEntry}
    {world : SaveWorld} {files : Files} (h : other ≠ path) :
    (saveRegistry path passphrase entries world files).2 other = files other := by
  unfold saveRegistry
  split
  · rfl
  · split
    · rfl
    · exact writeSealedFile_other h

/-- Saving a list in range keeps every promise, and adds its own. -/
theorem Disk.Recoverable.save {disk : Disk} (h : disk.Recoverable) {entries : List ServerEntry}
    (hrange : ∀ entry ∈ entries, entry.InRange) (path passphrase : ByteString) (world : SaveWorld) :
    (disk.save path passphrase entries world).2.Recoverable := by
  intro path' passphrase' entries' hsaved
  unfold Disk.save at hsaved ⊢
  have hother : ∀ {other}, other ≠ path →
      (saveRegistry path passphrase entries world disk.files).2 other = disk.files other :=
    fun hne => saveRegistry_other hne
  cases hresult : saveRegistry path passphrase entries world disk.files with
  | mk result files =>
    rw [hresult] at hother hsaved
    cases result with
    | ok _ =>
      dsimp only at hsaved ⊢
      by_cases hpath : path' = path
      · subst hpath
        rw [Function.update_self] at hsaved
        obtain ⟨rfl, rfl⟩ := Prod.mk.inj (Option.some.inj hsaved)
        exact (loadRegistry_saveRegistry_iff hresult).mpr hrange
      · rw [Function.update_of_ne hpath] at hsaved
        rw [loadRegistry_congr (hother hpath)]
        exact h path' passphrase' entries' hsaved
    | error error =>
      dsimp only at hsaved ⊢
      by_cases hpath : path' = path
      · subst hpath
        by_cases hsame : files path' = disk.files path'
        · rw [if_pos hsame] at hsaved
          rw [loadRegistry_congr hsame]
          exact h path' passphrase' entries' hsaved
        · rw [if_neg hsame, Function.update_self] at hsaved
          cases hsaved
      · have hkept : disk.saved path' = some (passphrase', entries') := by
          by_cases hsame : files path = disk.files path
          · rwa [if_pos hsame] at hsaved
          · rwa [if_neg hsame, Function.update_of_ne hpath] at hsaved
        rw [loadRegistry_congr (hother hpath)]
        exact h path' passphrase' entries' hkept

/-- A master seed is only created where there was no file. -/
theorem Disk.Recoverable.resolveIdentity {disk : Disk} (h : disk.Recoverable)
    (masterSeedPath : ByteString) (identity : IdentityOutcome) :
    (disk.resolveIdentity masterSeedPath identity).Recoverable := by
  intro path passphrase entries hsaved
  unfold Disk.resolveIdentity at hsaved ⊢
  split at hsaved
  · next seed hmissing hseed =>
    have hload := h path passphrase entries hsaved
    have hpath : path ≠ masterSeedPath := by
      rintro rfl
      rw [loadRegistry, readSealedFile, hmissing] at hload
      cases hload
    rw [loadRegistry_congr (Function.update_of_ne hpath ..)]
    exact hload
  · exact h path passphrase entries hsaved

/-! ## What each operation saves is in range -/

/-- What was loaded has passed the reader. -/
theorem loadExisting_inRange {path passphrase : ByteString} {files : Files}
    {entries : List ServerEntry} (h : loadExisting path passphrase files = .ok entries) :
    ∀ entry ∈ entries, entry.InRange := by
  unfold loadExisting at h
  split at h
  · obtain rfl := Except.ok.inj h
    exact fun _ hmem => nomatch hmem
  · exact loadRegistry_inRange h

/-- What `run_server_add` saves: the entry of the link behind the list there was, under
a label that is not taken. -/
theorem prepareServerAdd_ok {options : CliOptions} {arguments : List ByteString}
    {given : Option ByteString} {files : Files} {passphrase : ByteString}
    {entries : List ServerEntry}
    (h : prepareServerAdd options arguments given files = .ok (passphrase, entries)) :
    ∃ link serverKey loaded, arguments.head?.map parseInviteLink = some (.ok link) ∧
      loadExisting options.registryPath passphrase files = .ok loaded ∧
      (∀ entry ∈ loaded, entry.label ≠ (arguments[1]?).getD link.host) ∧
      entries = loaded ++ [linkEntry options ((arguments[1]?).getD link.host) link serverKey] := by
  rcases arguments with _ | ⟨linkText, rest⟩
  · cases h
  unfold prepareServerAdd at h
  obtain ⟨link, hlink, h⟩ := BinaryCodec.exceptBind_eq_ok h
  split at h
  · cases h
  next serverKey _ =>
    obtain ⟨passphrase', -, h⟩ := BinaryCodec.exceptBind_eq_ok h
    obtain ⟨loaded, hloaded, h⟩ := BinaryCodec.exceptBind_eq_ok h
    split at h
    · cases h
    next hfree =>
      obtain ⟨rfl, rfl⟩ := Prod.mk.inj (Except.ok.inj h)
      have hsecond : (linkText :: rest)[1]? = rest.head? := List.head?_eq_getElem?.symm
      rw [hsecond]
      refine ⟨link, serverKey, loaded, congrArg some hlink, hloaded, fun entry hmem heq => hfree ?_, rfl⟩
      rw [List.any_eq_true]
      exact ⟨entry, hmem, beq_iff_eq.mpr heq⟩

/-- What is added is within the bounds, or nothing is saved, -/
theorem prepareServerAdd_inRange {options : CliOptions} {arguments : List ByteString}
    {given : Option ByteString} {state : ServerListState} {world : SaveWorld}
    {passphrase : ByteString} {entries : List ServerEntry}
    (hinputs : InputsInRange state (.serverAdd options arguments given world))
    (h : prepareServerAdd options arguments given state.disk.files = .ok (passphrase, entries)) :
    ∀ entry ∈ entries, entry.InRange := by
  obtain ⟨link, serverKey, loaded, hlink, hloaded, -, rfl⟩ := prepareServerAdd_ok h
  obtain ⟨hlabel, hhost, hsocks⟩ := hinputs link hlink
  intro entry hmem
  rcases List.mem_append.mp hmem with hold | hnew
  · exact loadExisting_inRange hloaded entry hold
  · obtain rfl := List.mem_singleton.mp hnew
    exact ⟨hlabel, hhost, hsocks, TextInRange.nil _⟩

omit [Sodium] in
/-- and so is what is imported, -/
theorem importIdentity_inRange {label path : ByteString} {entries entries' : List ServerEntry}
    (hpath : TextInRange maxPathLength path) (hentries : ∀ entry ∈ entries, entry.InRange)
    (h : importIdentity label path entries = some entries') :
    ∀ entry ∈ entries', entry.InRange := by
  induction entries generalizing entries' with
  | nil => cases h
  | cons entry rest ih =>
    have hfirst := hentries entry (List.mem_cons_self ..)
    have hrest : ∀ other ∈ rest, other.InRange :=
      fun other hmem => hentries other (List.mem_cons_of_mem _ hmem)
    rw [importIdentity] at h
    split at h
    · obtain rfl := Option.some.inj h
      rintro other (_ | ⟨_, hmem⟩)
      · exact ⟨hfirst.label, hfirst.host, hfirst.socks5Host, hpath⟩
      · exact hrest other hmem
    · obtain ⟨rest', hrest', rfl⟩ := Option.map_eq_some_iff.mp h
      rintro other (_ | ⟨_, hmem⟩)
      · exact hfirst
      · exact ih hrest hrest' other hmem

theorem prepareServerImport_inRange {options : CliOptions} {arguments : List ByteString}
    {given : Option ByteString} {state : ServerListState} {world : SaveWorld}
    {passphrase : ByteString} {entries : List ServerEntry}
    (hinputs : InputsInRange state (.serverImport options arguments given world))
    (h : prepareServerImport options arguments given state.disk.files = .ok (passphrase, entries)) :
    ∀ entry ∈ entries, entry.InRange := by
  rcases arguments with _ | ⟨label, _ | ⟨path, rest⟩⟩
  · cases h
  · cases h
  unfold prepareServerImport at h
  obtain ⟨passphrase', -, h⟩ := BinaryCodec.exceptBind_eq_ok h
  obtain ⟨loaded, hloaded, h⟩ := BinaryCodec.exceptBind_eq_ok h
  split at h
  · cases h
  next imported himported =>
    obtain ⟨-, rfl⟩ := Prod.mk.inj (Except.ok.inj h)
    exact importIdentity_inRange (hinputs path rfl) (loadExisting_inRange hloaded) himported

/-- and what the graphical client starts with. -/
theorem loadServerEntries_inRange {options : CliOptions} {given : Option ByteString}
    {identity : IdentityOutcome} {state : ServerListState} {passphrase : ByteString}
    {entries : List ServerEntry}
    (hinputs : InputsInRange state (.launchClient options given identity))
    (h : loadServerEntries options passphrase state.disk.files = .ok entries) :
    ∀ entry ∈ entries, entry.InRange := by
  unfold loadServerEntries at h
  split at h
  · exact loadRegistry_inRange h
  next hmissing =>
    obtain ⟨hhost, hsocks, hpath⟩ := hinputs (by simpa using hmissing)
    split at h
    · cases h
    · split at h
      · cases h
      · obtain rfl := Except.ok.inj h
        intro entry hmem
        obtain rfl := List.mem_singleton.mp hmem
        exact ⟨hhost, hhost.mono (by decide), hsocks, hpath⟩

/-! ## One change of the list -/

/-- The invite names a server that is not in the list, and there is an identity for it. -/
structure InviteAdds (app : AppState) (identity : IdentityOutcome) (link : InviteLink)
    (serverKey : X25519PublicKey) : Prop where
  parsed : parseInviteLink app.inviteInput.1 = .ok link
  decoded : decodeKey link.serverKeyHex = some serverKey
  free : ∀ entry ∈ app.slots, entry.serverKey ≠ serverKey
  ready : identity.ready = .ok ()

section Invite

variable {app : AppState} {identity : IdentityOutcome}

omit [Sodium] in
/-- A server is added once. -/
theorem any_serverKey_iff {slots : List ServerEntry} {serverKey : X25519PublicKey} :
    (slots.any fun existing => existing.serverKey == serverKey) = true ↔
      ¬∀ entry ∈ slots, entry.serverKey ≠ serverKey := by
  simp only [List.any_eq_true, beq_iff_eq, ne_eq, not_forall, not_not, exists_prop]

/-- Then `add_server_from_invite` saves the longer list. -/
theorem addServerFromInvite_adds {link : InviteLink} {serverKey : X25519PublicKey}
    (h : InviteAdds app identity link serverKey) (world : SaveWorld) (disk : Disk) :
    (addServerFromInvite app identity world disk).1.slots =
        app.slots ++ [inviteEntry link serverKey] ∧
      (addServerFromInvite app identity world disk).1.registryPath = app.registryPath ∧
      (addServerFromInvite app identity world disk).2 =
        ((disk.resolveIdentity app.masterSeedPath identity).save app.registryPath app.passphrase
          (app.slots ++ [inviteEntry link serverKey]) world).2 := by
  have hnone : (app.slots.any fun existing => existing.serverKey == serverKey) = false := by
    rw [← Bool.not_eq_true, any_serverKey_iff, not_not]
    exact h.free
  rcases hsave : (disk.resolveIdentity app.masterSeedPath identity).save app.registryPath
      app.passphrase (app.slots ++ [inviteEntry link serverKey]) world with ⟨_ | _, saved⟩ <;>
    simp only [addServerFromInvite, h.parsed, h.decoded, hnone, h.ready, persist, hsave,
      Bool.false_eq_true, if_false] <;>
    exact ⟨rfl, rfl, trivial⟩

/-- Otherwise it ends before the list is changed. -/
theorem addServerFromInvite_unchanged
    (h : ¬∃ link serverKey, InviteAdds app identity link serverKey) (world : SaveWorld)
    (disk : Disk) :
    (addServerFromInvite app identity world disk).1.slots = app.slots ∧
      (addServerFromInvite app identity world disk).1.registryPath = app.registryPath ∧
      ((addServerFromInvite app identity world disk).2 = disk ∨
        (addServerFromInvite app identity world disk).2 =
          disk.resolveIdentity app.masterSeedPath identity) := by
  rcases hlink : parseInviteLink app.inviteInput.1 with failure | link
  · simp [addServerFromInvite, hlink, AppState.report]
  rcases hkey : decodeKey link.serverKeyHex with _ | serverKey
  · simp [addServerFromInvite, hlink, hkey, AppState.report]
  rcases hclash : app.slots.any fun existing => existing.serverKey == serverKey with _ | _
  · rcases hready : identity.ready with failure | _
    · simp only [addServerFromInvite, hlink, hkey, hclash, hready, Bool.false_eq_true, if_false]
      exact ⟨rfl, rfl, .inr trivial⟩
    · have hfree : ∀ entry ∈ app.slots, entry.serverKey ≠ serverKey := by
        rw [← Bool.not_eq_true, any_serverKey_iff, not_not] at hclash
        exact hclash
      exact absurd ⟨link, serverKey, hlink, hkey, hfree, hready⟩ h
  · simp only [addServerFromInvite, hlink, hkey, hclash, if_true]
    exact ⟨rfl, rfl, .inl trivial⟩

end Invite

/-- `acknowledge_slot_trust` does nothing, or saves the list with the slot
acknowledged. -/
theorem acknowledgeSlotTrust_cases (app : AppState) (index : ℕ) (world : SaveWorld) (disk : Disk) :
    (app.slots[index]? = none ∧ acknowledgeSlotTrust app index world disk = (app, disk)) ∨
    ∃ entry, app.slots[index]? = some entry ∧
      (acknowledgeSlotTrust app index world disk).1.slots =
        app.slots.modify index (fun entry => { entry with trustAcknowledged := true }) ∧
      (acknowledgeSlotTrust app index world disk).1.registryPath = app.registryPath ∧
      (acknowledgeSlotTrust app index world disk).2 = (disk.save app.registryPath app.passphrase
        (app.slots.modify index fun entry => { entry with trustAcknowledged := true }) world).2 := by
  by_cases hindex : index ≥ app.slots.length
  · exact .inl ⟨List.getElem?_eq_none_iff.mpr hindex, by rw [acknowledgeSlotTrust, if_pos hindex]⟩
  · have hin : index < app.slots.length := by omega
    refine .inr ⟨app.slots[index], List.getElem?_eq_getElem hin, ?_⟩
    rcases hsave : disk.save app.registryPath app.passphrase
        (app.slots.modify index fun entry => { entry with trustAcknowledged := true }) world with
      ⟨_ | _, saved⟩ <;>
      simp only [acknowledgeSlotTrust, if_neg hindex, persist, hsave] <;>
      exact ⟨by trivial, by trivial, trivial⟩

/-! ## Every run -/

/-- The disk keeps its promises, and what the graphical client holds is in
range. -/
structure ServerListState.Sound (state : ServerListState) : Prop where
  recoverable : state.disk.Recoverable
  slots : ∀ app, state.app = some app → ∀ entry ∈ app.slots, entry.InRange

/-- A successful addition keeps the slots in range and the disk recoverable, and
so does a failed one. -/
theorem addServerFromInvite_sound {app : AppState} {disk : Disk} (identity : IdentityOutcome)
    (world : SaveWorld) (hdisk : disk.Recoverable) (hslots : ∀ entry ∈ app.slots, entry.InRange)
    (hinputs : ∀ link, parseInviteLink app.inviteInput.1 = .ok link →
      TextInRange maxLabelLength link.host) :
    (addServerFromInvite app identity world disk).2.Recoverable ∧
      ∀ entry ∈ (addServerFromInvite app identity world disk).1.slots, entry.InRange := by
  have hresolved := hdisk.resolveIdentity app.masterSeedPath identity
  by_cases hadds : ∃ link serverKey, InviteAdds app identity link serverKey
  · obtain ⟨link, serverKey, hadds⟩ := hadds
    obtain ⟨hlonger, -, hsaved⟩ := addServerFromInvite_adds hadds world disk
    have hhost := hinputs link hadds.parsed
    have hnew : ∀ entry ∈ app.slots ++ [inviteEntry link serverKey], entry.InRange := by
      intro entry hmem
      rcases List.mem_append.mp hmem with hold | hnew
      · exact hslots entry hold
      · obtain rfl := List.mem_singleton.mp hnew
        exact ⟨hhost, hhost.mono (by decide), TextInRange.nil _, TextInRange.nil _⟩
    rw [hlonger, hsaved]
    exact ⟨hresolved.save hnew app.registryPath app.passphrase world, hnew⟩
  · obtain ⟨hsame, -, hkept⟩ := addServerFromInvite_unchanged hadds world disk
    rw [hsame]
    rcases hkept with hkept | hkept
    · rw [hkept]
      exact ⟨hdisk, hslots⟩
    · rw [hkept]
      exact ⟨hresolved, hslots⟩

/-- Trusting a server changes a flag, which any file can hold. -/
theorem acknowledgeSlotTrust_sound {app : AppState} {disk : Disk} (index : ℕ) (world : SaveWorld)
    (hdisk : disk.Recoverable) (hslots : ∀ entry ∈ app.slots, entry.InRange) :
    (acknowledgeSlotTrust app index world disk).2.Recoverable ∧
      ∀ entry ∈ (acknowledgeSlotTrust app index world disk).1.slots, entry.InRange := by
  rcases acknowledgeSlotTrust_cases app index world disk with
    ⟨-, hout⟩ | ⟨entry, -, hmodified, -, hsaved⟩
  · rw [hout]
    exact ⟨hdisk, hslots⟩
  have hrange : ∀ entry ∈ app.slots.modify index
      (fun entry => { entry with trustAcknowledged := true }), entry.InRange := by
    intro entry hmem
    obtain ⟨position, hposition⟩ := List.mem_iff_getElem?.mp hmem
    rw [List.getElem?_modify] at hposition
    obtain ⟨old, hold, rfl⟩ := Option.map_eq_some_iff.mp hposition
    have hrange := hslots old (List.mem_of_getElem? hold)
    split
    · exact ⟨hrange.label, hrange.host, hrange.socks5Host, hrange.importedIdentityPath⟩
    · exact hrange
  rw [hmodified, hsaved]
  exact ⟨hdisk.save hrange app.registryPath app.passphrase world, hrange⟩

/-- The start of the client. -/
theorem launch_sound {options : CliOptions} {given : Option ByteString} {identity : IdentityOutcome}
    {state : ServerListState} (hdisk : state.disk.Recoverable)
    (hinputs : InputsInRange state (.launchClient options given identity)) :
    (launch options given identity state.disk).2.Recoverable ∧
      ∀ app, (launch options given identity state.disk).1 = some app →
        ∀ entry ∈ app.slots, entry.InRange := by
  unfold launch
  split
  · exact ⟨hdisk, fun _ h => nomatch h⟩
  split
  · exact ⟨hdisk, fun _ h => nomatch h⟩
  next entries hentries =>
    dsimp only
    have hresolved := hdisk.resolveIdentity options.masterSeedPath identity
    split
    · exact ⟨hresolved, fun _ h => nomatch h⟩
    · refine ⟨hresolved, fun app happ => ?_⟩
      obtain rfl := Option.some.inj happ
      exact loadServerEntries_inRange hinputs hentries

/-- One step with inputs in range keeps the state sound. -/
theorem ServerListState.Sound.step {state state' : ServerListState} {event : ServerListEvent}
    (h : state.Sound) (hinputs : InputsInRange state event)
    (hstep : state.step event = some state') : state'.Sound := by
  cases event with
  | serverAdd options arguments given world =>
    obtain rfl := Option.some.inj hstep
    refine ⟨?_, h.slots⟩
    dsimp only [runServerAdd]
    cases hprepared : prepareServerAdd options arguments given state.disk.files with
    | error error => exact h.recoverable
    | ok prepared =>
      exact h.recoverable.save (prepareServerAdd_inRange hinputs hprepared) options.registryPath
        prepared.1 world
  | serverImport options arguments given world =>
    obtain rfl := Option.some.inj hstep
    refine ⟨?_, h.slots⟩
    dsimp only [runServerImport]
    cases hprepared : prepareServerImport options arguments given state.disk.files with
    | error error => exact h.recoverable
    | ok prepared =>
      exact h.recoverable.save (prepareServerImport_inRange hinputs hprepared) options.registryPath
        prepared.1 world
  | launchClient options given identity =>
    obtain rfl := Option.some.inj hstep
    obtain ⟨hdisk, hslots⟩ := launch_sound h.recoverable hinputs
    exact ⟨hdisk, hslots⟩
  | typeInvite text =>
    obtain ⟨app, happ, rfl⟩ := Option.map_eq_some_iff.mp hstep
    refine ⟨h.recoverable, fun app' happ' => ?_⟩
    obtain rfl := Option.some.inj happ'
    exact h.slots app happ
  | addFromInvite identity world =>
    obtain ⟨app, happ, rfl⟩ := Option.map_eq_some_iff.mp hstep
    obtain ⟨hdisk, hslots⟩ := addServerFromInvite_sound identity world h.recoverable
      (h.slots app happ) fun link hlink => hinputs app link happ hlink
    refine ⟨hdisk, fun app' happ' => ?_⟩
    obtain rfl := Option.some.inj happ'
    exact hslots
  | acknowledgeTrust index world =>
    obtain ⟨app, happ, rfl⟩ := Option.map_eq_some_iff.mp hstep
    obtain ⟨hdisk, hslots⟩ := acknowledgeSlotTrust_sound index world h.recoverable (h.slots app happ)
    refine ⟨hdisk, fun app' happ' => ?_⟩
    obtain rfl := Option.some.inj happ'
    exact hslots

/-- Over every run whose operations are given inputs in range, from any disk,
every list that was saved is loaded again. -/
theorem saved_registry_recoverable {files : Files} {events : List ServerListEvent}
    {state : ServerListState}
    (hinputs : StepRun.Along ServerListState.step InputsInRange { disk := { files } } events)
    (hrun : StepRun.after ServerListState.step { disk := { files } } events = some state) :
    state.disk.Recoverable := by
  have hstart : ServerListState.Sound { disk := { files } } :=
    ⟨fun _ _ _ hsaved => (nomatch hsaved), fun _ happ => (nomatch happ)⟩
  exact (StepRun.after_invariant (fun h hinputs hstep => h.step hinputs hstep) hstart hinputs
    hrun).recoverable

/-- A link to a host of `length` letters. -/
def hostLink (length : ℕ) : ByteString :=
  linkScheme ++ List.replicate length 0x61 ++ ascii ":7717#" ++ List.replicate 64 0x30

/-- `server-add` with that link and no name. -/
def addHost (length : ℕ) : ServerListEvent :=
  .serverAdd {} [hostLink length] (some (ascii "passe")) {}

/-- The entry it makes. -/
def hostEntry (length : ℕ) : ServerEntry where
  label := List.replicate length 0x61
  endpoint := { host := List.replicate length 0x61, port := 7717 }

/-- What it leaves on an empty disk. -/
def diskWithHost (length : ℕ) : ServerListState :=
  let _ := transparentSodium
  { disk := (runServerAdd {} [hostLink length] (some (ascii "passe")) {}
      { files := fun _ => none }).2 }

omit [Sodium] in
/-- A short host is saved and loaded again. -/
theorem saved_registry_recoverable_short :
    letI := transparentSodium
    (diskWithHost 9).disk.saved (ascii "hypercom_servers.dat") =
      some (ascii "passe", [hostEntry 9]) ∧
    loadRegistry (ascii "hypercom_servers.dat") (ascii "passe") (diskWithHost 9).disk.files =
      .ok [hostEntry 9] := by
  let _ := transparentSodium
  have hsaved : (diskWithHost 9).disk.saved (ascii "hypercom_servers.dat") =
      some (ascii "passe", [hostEntry 9]) := by decide +kernel
  refine ⟨hsaved, ?_⟩
  have hrun : StepRun.after ServerListState.step { disk := { files := fun _ => none } } [addHost 9] =
      some (diskWithHost 9) := rfl
  have hhost : (parseInviteLink (hostLink 9)).toOption.map InviteLink.host =
      some (List.replicate 9 0x61) := by decide +kernel
  have hinputs : StepRun.Along ServerListState.step InputsInRange
      { disk := { files := fun _ => none } } [addHost 9] := by
    refine ⟨fun link hlink => ?_, fun _ _ => trivial⟩
    rw [show parseInviteLink (hostLink 9) = .ok link from Option.some.inj hlink] at hhost
    rw [show link.host = List.replicate 9 0x61 from Option.some.inj hhost]
    decide +kernel
  have hrecoverable := saved_registry_recoverable hinputs hrun
  exact hrecoverable _ _ _ hsaved

omit [Sodium] in
/-- The host of a hidden service has 62 characters; without a name it becomes the
label, the list is saved, and it cannot be loaded any more. -/
theorem saved_registry_lost :
    letI := transparentSodium
    StepRun.after ServerListState.step { disk := { files := fun _ => none } } [addHost 62] =
      some (diskWithHost 62) ∧
    (diskWithHost 62).disk.saved (ascii "hypercom_servers.dat") =
      some (ascii "passe", [hostEntry 62]) ∧
    ¬ (diskWithHost 62).disk.Recoverable := by
  let _ := transparentSodium
  have hsaved : (diskWithHost 62).disk.saved (ascii "hypercom_servers.dat") =
      some (ascii "passe", [hostEntry 62]) := by decide +kernel
  refine ⟨rfl, hsaved, fun hrecoverable => ?_⟩
  have hload := hrecoverable _ _ _ hsaved
  have hrange := loadRegistry_inRange hload (hostEntry 62) (List.mem_singleton.mpr rfl)
  exact absurd hrange.label (by decide +kernel)

end HyperCom
