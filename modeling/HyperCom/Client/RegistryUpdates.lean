import HyperCom.Client.ServerList

/-!
# The list in memory and the list on the disk

The graphical client changes its list of servers first and saves it then.
`registry_in_step_iff` compares the list with the last one that was saved, over
every run of the client: the two agree as long as no save of a changed list
fails.

A save can fail, and the client goes on with the list it has; a later save that succeeds
brings both together again. So the condition is about the last save after the last change.
-/

namespace HyperCom

variable [Sodium]

/-! ## One save -/

/-- `save` of a list does not fail: the list is short enough, it is sealed, the file
is opened and `chmod` succeeds. -/
structure SaveSucceeds (passphrase : ByteString) (entries : List ServerEntry) (world : SaveWorld) :
    Prop where
  count : entries.length ≤ maxServers
  isSealed : (sealBlob passphrase (writeEntries entries) world.salt world.nonce).isSome = true
  opened : world.outcome.opened = true
  restricted : world.outcome.restricted = true

/-- `save` fails exactly if one of the four does. -/
theorem saveRegistry_cases (path passphrase : ByteString) (entries : List ServerEntry)
    (world : SaveWorld) (files : Files) :
    (SaveSucceeds passphrase entries world ∧
      (saveRegistry path passphrase entries world files).1 = .ok ()) ∨
    (¬ SaveSucceeds passphrase entries world ∧
      ∃ failure, (saveRegistry path passphrase entries world files).1 = .error failure) := by
  by_cases hcount : entries.length > maxServers
  · refine .inr ⟨fun h => absurd h.count (by omega), ascii "trop de serveurs enregistres", ?_⟩
    rw [saveRegistry, if_pos hcount]
  rcases hsealed : sealBlob passphrase (writeEntries entries) world.salt world.nonce with _ | sealed
  · refine .inr ⟨fun h => ?_, ascii "scellement du registre impossible", ?_⟩
    · have hnone := h.isSealed
      rw [hsealed] at hnone
      cases hnone
    · rw [saveRegistry, if_neg hcount, hsealed]
  have hwritten : saveRegistry path passphrase entries world files =
      writeSealedFile path sealed world.outcome files := by
    rw [saveRegistry, if_neg hcount, hsealed]
  rw [hwritten]
  rcases hopened : world.outcome.opened with _ | _
  · refine .inr ⟨fun h => ?_, ascii "ecriture impossible : " ++ path, ?_⟩
    · rw [h.opened] at hopened
      cases hopened
    · simp [writeSealedFile, hopened]
  rcases hrestricted : world.outcome.restricted with _ | _
  · refine .inr ⟨fun h => ?_, ascii "chmod 0600 impossible sur " ++ path, ?_⟩
    · rw [h.restricted] at hrestricted
      cases hrestricted
    · simp [writeSealedFile, hopened, hrestricted]
  · refine .inl ⟨⟨by omega, by rw [hsealed]; rfl, hopened, hrestricted⟩, ?_⟩
    simp [writeSealedFile, hopened, hrestricted]

/-- What a save comes to, and the list the disk remembers after it. -/
theorem Disk.save_cases (disk : Disk) (path passphrase : ByteString) (entries : List ServerEntry)
    (world : SaveWorld) :
    (SaveSucceeds passphrase entries world ∧
      (disk.save path passphrase entries world).1 = .ok () ∧
      (disk.save path passphrase entries world).2.saved path = some (passphrase, entries)) ∨
    (¬ SaveSucceeds passphrase entries world ∧
      (∃ failure, (disk.save path passphrase entries world).1 = .error failure) ∧
      ((disk.save path passphrase entries world).2.saved path = disk.saved path ∨
        (disk.save path passphrase entries world).2.saved path = none)) := by
  rcases hsave : saveRegistry path passphrase entries world disk.files with ⟨result, files⟩
  have hcases := saveRegistry_cases path passphrase entries world disk.files
  rw [hsave] at hcases
  rcases hcases with ⟨hsucceeds, rfl⟩ | ⟨hfails, failure, rfl⟩
  · simp only [Disk.save, hsave]
    exact .inl ⟨hsucceeds, trivial, Function.update_self ..⟩
  · simp only [Disk.save, hsave]
    refine .inr ⟨hfails, ⟨failure, rfl⟩, ?_⟩
    split_ifs
    · exact .inl rfl
    · exact .inr (Function.update_self ..)

omit [Sodium] in
/-- Resolving an identity saves no list. -/
theorem Disk.resolveIdentity_saved (disk : Disk) (masterSeedPath : ByteString)
    (identity : IdentityOutcome) :
    (disk.resolveIdentity masterSeedPath identity).saved = disk.saved := by
  rw [Disk.resolveIdentity]
  split <;> rfl

/-! ## The graphical client with what it saved last -/

/-- The graphical client while it runs, and the list it saved last: the one it
started with, until then. -/
structure RegistryClient where
  disk : Disk
  app : AppState
  lastSaved : List ServerEntry

/-- What the user does that concerns the list. -/
inductive RegistryAction where
  | typeInvite (text : InputBuffer 160)
  /-- `add_server_from_invite` -/
  | addFromInvite (identity : IdentityOutcome) (world : SaveWorld)
  /-- `acknowledge_slot_trust` -/
  | acknowledgeTrust (index : ℕ) (world : SaveWorld)

namespace RegistryClient

/-- The client when it has been started. -/
def started (app : AppState) (disk : Disk) : RegistryClient where
  disk
  app
  lastSaved := app.slots

/-- The client after a function that may have saved the list. -/
def acted (client : RegistryClient) (out : AppState × Disk) : RegistryClient where
  disk := out.2
  app := out.1
  lastSaved := ((out.2.saved out.1.registryPath).map Prod.snd).getD client.lastSaved

/-- One action. -/
def step (client : RegistryClient) : RegistryAction → Option RegistryClient
  | .typeInvite text => some { client with app := { client.app with inviteInput := text } }
  | .addFromInvite identity world =>
    some (client.acted (addServerFromInvite client.app identity world client.disk))
  | .acknowledgeTrust index world =>
    some (client.acted (acknowledgeSlotTrust client.app index world client.disk))

/-- The list in memory is the one that was saved last, and a save of it is not
refused for its length. -/
structure InStep (client : RegistryClient) : Prop where
  saved : client.app.slots = client.lastSaved
  accepted : client.app.slots.length ≤ maxServers

/-- If the action comes to saving a changed list, that save does not fail. -/
def Saves (client : RegistryClient) : RegistryAction → Prop
  | .typeInvite _ => True
  | .addFromInvite identity world =>
    ∀ link serverKey, parseInviteLink client.app.inviteInput.1 = .ok link →
      decodeKey link.serverKeyHex = some serverKey →
      (∀ entry ∈ client.app.slots, entry.serverKey ≠ serverKey) → identity.ready = .ok () →
      SaveSucceeds client.app.passphrase (client.app.slots ++ [inviteEntry link serverKey]) world
  | .acknowledgeTrust index world =>
    ∀ entry, client.app.slots[index]? = some entry → entry.trustAcknowledged = false →
      SaveSucceeds client.app.passphrase
        (client.app.slots.modify index fun entry => { entry with trustAcknowledged := true }) world

/-! ## One action -/

/-- In step, and the disk remembers the list that was saved last. -/
structure Tracked (client : RegistryClient) : Prop where
  inStep : client.InStep
  remembered : ∀ saved, client.disk.saved client.app.registryPath = some saved →
    saved.2 = client.lastSaved

omit [Sodium] in
/-- Where the disk remembers no other list than before, the list saved last stays. -/
theorem lastSaved_acted {client : RegistryClient} {out : AppState × Disk}
    (hkept : ∀ saved, out.2.saved out.1.registryPath = some saved → saved.2 = client.lastSaved) :
    (client.acted out).lastSaved = client.lastSaved := by
  simp only [acted]
  rcases hremembered : out.2.saved out.1.registryPath with _ | saved
  · rfl
  · exact hkept saved hremembered

omit [Sodium] in
theorem acted_kept {client : RegistryClient} (h : client.Tracked) {out : AppState × Disk}
    (hkept : ∀ saved, out.2.saved out.1.registryPath = some saved → saved.2 = client.lastSaved)
    (hslots : out.1.slots = client.app.slots) : (client.acted out).Tracked := by
  have hlast := lastSaved_acted hkept
  refine ⟨⟨hslots.trans (h.inStep.saved.trans hlast.symm), ?_⟩, fun saved hremembered => ?_⟩
  · exact (congrArg List.length hslots).trans_le h.inStep.accepted
  · exact (hkept saved hremembered).trans hlast.symm

omit [Sodium] in
/-- A function that saves nothing and leaves the list alone. -/
theorem acted_unsaved {client : RegistryClient} (h : client.Tracked) {out : AppState × Disk}
    (hslots : out.1.slots = client.app.slots) (hpath : out.1.registryPath = client.app.registryPath)
    (hdisk : out.2.saved = client.disk.saved) : (client.acted out).Tracked := by
  refine acted_kept h (fun saved hremembered => ?_) hslots
  rw [hdisk, hpath] at hremembered
  exact h.remembered saved hremembered

/-- After a save of the list in memory the client is in step exactly if the save
succeeded or there was nothing to save. -/
theorem acted_save {client : RegistryClient} (h : client.Tracked) {out : AppState × Disk}
    {disk : Disk} {entries : List ServerEntry} {world : SaveWorld} (hslots : out.1.slots = entries)
    (hpath : out.1.registryPath = client.app.registryPath) (hdisk : disk.saved = client.disk.saved)
    (hsave : out.2 = (disk.save client.app.registryPath client.app.passphrase entries world).2) :
    ((entries ≠ client.app.slots → SaveSucceeds client.app.passphrase entries world) →
      (client.acted out).Tracked) ∧
    ((client.acted out).InStep → entries ≠ client.app.slots →
      SaveSucceeds client.app.passphrase entries world) := by
  have hremembered : out.2.saved out.1.registryPath =
      (disk.save client.app.registryPath client.app.passphrase entries world).2.saved
        client.app.registryPath := by rw [hpath, hsave]
  rcases disk.save_cases client.app.registryPath client.app.passphrase entries world with
    ⟨hsucceeds, -, hsaved⟩ | ⟨hfails, -, hkept⟩
  · rw [hsaved] at hremembered
    have hlast : (client.acted out).lastSaved = entries := by
      simp only [acted, hremembered, Option.map_some, Option.getD_some]
    refine ⟨fun _ => ⟨⟨hslots.trans hlast.symm, ?_⟩, fun saved hsome => ?_⟩, fun _ _ => hsucceeds⟩
    · exact (congrArg List.length hslots).trans_le hsucceeds.count
    · obtain rfl := Option.some.inj (hremembered.symm.trans hsome)
      exact hlast.symm
  · -- a failed save leaves the last list as it was
    have hold : ∀ saved, out.2.saved out.1.registryPath = some saved →
        saved.2 = client.lastSaved := by
      intro saved hsome
      rw [hremembered] at hsome
      rcases hkept with hkept | hkept
      · exact h.remembered saved (by rw [← hdisk, ← hkept, hsome])
      · rw [hkept] at hsome
        cases hsome
    constructor
    · intro hchanged
      refine acted_kept h hold (hslots.trans ?_)
      by_contra hne
      exact hfails (hchanged hne)
    · intro hinStep hne
      refine absurd ?_ hne
      rw [← hslots]
      exact hinStep.saved.trans ((lastSaved_acted hold).trans h.inStep.saved.symm)

omit [Sodium] in
/-- Acknowledging changes the list exactly if the slot was not acknowledged. -/
theorem modify_acknowledged_iff {slots : List ServerEntry} {index : ℕ} {entry : ServerEntry}
    (hentry : slots[index]? = some entry) :
    slots.modify index (fun entry => { entry with trustAcknowledged := true }) ≠ slots ↔
      entry.trustAcknowledged = false := by
  obtain ⟨hin, hentry⟩ := List.getElem?_eq_some_iff.mp hentry
  constructor
  · intro hchanged
    by_contra hacknowledged
    rw [Bool.not_eq_false] at hacknowledged
    refine hchanged (List.ext_getElem (by simp) fun position hposition hposition' => ?_)
    rw [List.getElem_modify]
    split_ifs with hsame
    · subst hsame
      rw [hentry, ← hacknowledged]
    · rfl
  · intro hnot hsame
    have hget := congrArg (fun slots : List ServerEntry => slots[index]?) hsame
    simp only [List.getElem?_modify_eq, List.getElem?_eq_getElem hin, hentry] at hget
    have hacknowledged := congrArg ServerEntry.trustAcknowledged (Option.some.inj hget)
    rw [hnot] at hacknowledged
    cases hacknowledged

omit [Sodium] in
theorem started_tracked {app : AppState} {disk : Disk} (hcount : app.slots.length ≤ maxServers)
    (hdisk : disk.saved app.registryPath = none) : (started app disk).Tracked where
  inStep := ⟨rfl, hcount⟩
  remembered := by
    intro saved hremembered
    rw [show (started app disk).disk.saved (started app disk).app.registryPath = none from hdisk]
      at hremembered
    cases hremembered

/-- An action keeps a client in step exactly if it comes to no failing save of a
changed list. -/
theorem step_tracked {client client' : RegistryClient} {action : RegistryAction}
    (h : client.Tracked) (hstep : client.step action = some client') :
    (client.Saves action → client'.Tracked) ∧ (client'.InStep → client.Saves action) := by
  cases action with
  | typeInvite text =>
    obtain rfl := Option.some.inj hstep
    exact ⟨fun _ => ⟨⟨h.inStep.saved, h.inStep.accepted⟩, h.remembered⟩, fun _ => trivial⟩
  | addFromInvite identity world =>
    obtain rfl := Option.some.inj hstep
    by_cases hadds : ∃ link serverKey, InviteAdds client.app identity link serverKey
    · obtain ⟨link, serverKey, hadds⟩ := hadds
      have hlonger : client.app.slots ++ [inviteEntry link serverKey] ≠ client.app.slots := by simp
      obtain ⟨hslots, hpath, hdisk⟩ := addServerFromInvite_adds hadds world client.disk
      obtain ⟨hkeeps, hneeds⟩ :=
        acted_save h hslots hpath (Disk.resolveIdentity_saved ..) hdisk
      constructor
      · exact fun hsaves => hkeeps fun _ =>
          hsaves link serverKey hadds.parsed hadds.decoded hadds.free hadds.ready
      · intro hinStep link' serverKey' hlink' hkey' _ _
        obtain rfl := Except.ok.inj (hadds.parsed.symm.trans hlink')
        obtain rfl := Option.some.inj (hadds.decoded.symm.trans hkey')
        exact hneeds hinStep hlonger
    · obtain ⟨hslots, hpath, hdisk⟩ := addServerFromInvite_unchanged hadds world client.disk
      have hsaved : (addServerFromInvite client.app identity world client.disk).2.saved =
          client.disk.saved := by
        rcases hdisk with hdisk | hdisk
        · rw [hdisk]
        · rw [hdisk, Disk.resolveIdentity_saved]
      refine ⟨fun _ => acted_unsaved h hslots hpath hsaved, fun _ link serverKey => ?_⟩
      intro hlink hkey hfree hready
      exact absurd ⟨link, serverKey, hlink, hkey, hfree, hready⟩ hadds
  | acknowledgeTrust index world =>
    obtain rfl := Option.some.inj hstep
    rcases acknowledgeSlotTrust_cases client.app index world client.disk with
      ⟨hnone, hout⟩ | ⟨entry, hentry, hslots, hpath, hdisk⟩
    · refine ⟨fun _ => ?_, fun _ entry hentry => ?_⟩
      · rw [hout]
        exact acted_unsaved h rfl rfl rfl
      · rw [hnone] at hentry
        cases hentry
    · obtain ⟨hkeeps, hneeds⟩ := acted_save h hslots hpath rfl hdisk
      constructor
      · exact fun hsaves => hkeeps fun hchanged =>
          hsaves entry hentry ((modify_acknowledged_iff hentry).mp hchanged)
      · intro hinStep entry' hentry' hnot
        obtain rfl := Option.some.inj (hentry.symm.trans hentry')
        exact hneeds hinStep ((modify_acknowledged_iff hentry).mpr hnot)

/-! ## Every run -/

theorem loadServerEntries_length {options : CliOptions} {passphrase : ByteString} {files : Files}
    {entries : List ServerEntry} (h : loadServerEntries options passphrase files = .ok entries) :
    entries.length ≤ maxServers := by
  unfold loadServerEntries at h
  split_ifs at h
  · exact loadRegistry_length h
  · split at h
    · cases h
    · obtain rfl := Except.ok.inj h
      simp [maxServers]

/-- The client starts with at most as many servers as it can save, and nothing
saved yet. -/
theorem launch_tracked {options : CliOptions} {given : Option ByteString}
    {identity : IdentityOutcome} {files : Files} {app : AppState} {disk : Disk}
    (h : launch options given identity { files } = (some app, disk)) :
    (started app disk).Tracked := by
  rcases given with _ | passphrase
  · simp [launch, readPassphrase] at h
  rcases hentries : loadServerEntries options passphrase files with failure | entries
  · simp [launch, readPassphrase, hentries] at h
  rcases hready : identity.ready with failure | _
  · simp [launch, readPassphrase, hentries, hready] at h
  simp only [launch, readPassphrase, hentries, hready, Prod.mk.injEq, Option.some.injEq] at h
  obtain ⟨rfl, rfl⟩ := h
  refine started_tracked (loadServerEntries_length hentries) ?_
  rw [Disk.resolveIdentity_saved]

/-- The graphical client, from its start and over any run: the list in memory is
the list saved last, in every state reached, exactly if no action comes to a
failing save of a changed list. -/
theorem registry_in_step_iff {options : CliOptions} {given : Option ByteString}
    {identity : IdentityOutcome} {files : Files} {app : AppState} {disk : Disk}
    (hlaunch : launch options given identity { files } = (some app, disk))
    (actions : List RegistryAction) :
    (started app disk).InStep ∧
    (StepRun.Along step (fun client action =>
        ∀ client', client.step action = some client' → client'.InStep)
      (started app disk) actions ↔
      StepRun.Along step Saves (started app disk) actions) := by
  have hstart := launch_tracked hlaunch
  refine ⟨hstart.inStep, StepRun.Along.iff_of_invariant ?_ ?_ hstart⟩
  · intro client action client' htracked hsaves hstep
    exact (step_tracked htracked hstep).1 hsaves
  · intro client action htracked
    obtain ⟨client', hstep⟩ : ∃ client', client.step action = some client' := by
      cases action <;> exact ⟨_, rfl⟩
    obtain ⟨hkeeps, hneeds⟩ := step_tracked htracked hstep
    constructor
    · exact fun hinStep => hneeds (hinStep client' hstep)
    · intro hsaves client'' hstep'
      obtain rfl := Option.some.inj (hstep.symm.trans hstep')
      exact (hkeeps hsaves).inStep

/-! ## One server more -/

omit [Sodium]

/-- The graphical client started with the server of the command line. -/
def oneServer : CliOptions where
  host := ascii "a"
  serverKeyHex := List.replicate 64 0x30

/-- An invite to another server. -/
def secondInvite : InputBuffer 160 :=
  ⟨linkScheme ++ ascii "b:7717#" ++ List.replicate 64 0x31, by decide⟩

theorem inviteInput_pos : 0 < 160 := by decide

/-- The client with the server of the command line. -/
def oneServerApp : AppState where
  passphrase := ascii "passe"
  registryPath := ascii "hypercom_servers.dat"
  masterSeedPath := ascii "hypercom_master.key"
  slots := [{
    label := ascii "a"
    endpoint := { host := ascii "a", port := 7717 }
    source := .imported
    importedIdentityPath := ascii "hypercom_identity.key"
    trustAcknowledged := true }]
  inviteInput := InputBuffer.cleared 160 inviteInput_pos

theorem launch_oneServer :
    letI := transparentSodium
    launch oneServer (some (ascii "passe")) {} { files := fun _ => none } =
      (some oneServerApp, { files := fun _ => none }) := rfl

/-- The invite is typed in and added; the registry can be written or not. -/
def addSecond (opened : Bool) : List RegistryAction :=
  [.typeInvite secondInvite, .addFromInvite {} { outcome := { opened } }]

/-- If the registry is written, the two lists agree after both actions. -/
theorem second_server_saved :
    letI := transparentSodium
    StepRun.Along step (fun client action =>
      ∀ client', client.step action = some client' → client'.InStep)
      (started oneServerApp { files := fun _ => none }) (addSecond true) := by
  let := transparentSodium
  refine (registry_in_step_iff launch_oneServer (addSecond true)).2.mpr
    ⟨trivial, fun client hclient => ⟨?_, fun _ _ => trivial⟩⟩
  obtain rfl := Option.some.inj hclient
  intro link serverKey _ _ _ _
  exact ⟨by simp [started, oneServerApp, maxServers], rfl, rfl, rfl⟩

/-- If it is not, the second server is in the list and was never saved. -/
theorem second_server_unsaved :
    letI := transparentSodium
    ∃ client, StepRun.after step (started oneServerApp { files := fun _ => none })
        (addSecond false) = some client ∧
      client.app.slots.length = 2 ∧ client.lastSaved = oneServerApp.slots ∧ ¬ client.InStep := by
  let := transparentSodium
  refine ⟨_, rfl, by decide +kernel, by decide +kernel, fun h => ?_⟩
  have hlengths := congrArg List.length h.saved
  revert hlengths
  decide +kernel

end RegistryClient

end HyperCom
