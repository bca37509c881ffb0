import HyperCom.Client.CommandLine

/-!
# Hidden services in the registry

The switch to Tor is made while the command line is parsed and looks at `--host`;
the endpoint of an entry is made of a link, in `run_server_add` with the proxy of
the command line and in `add_server_from_invite` without any. What `open_session`
dials much later is what stands in the entry.

The two places that make an endpoint are compared with the one place that dials it. A link
to a hidden service that was added from an invite is kept without a proxy, and no later step
puts one in.
-/

namespace HyperCom

open CommandLine

/-! ## Dialling -/

/-- `dial_host` and `dial_port` of `open_session` -/
def ServerEndpoint.dial (endpoint : ServerEndpoint) : ByteString × UInt16 :=
  let throughProxy := !endpoint.socks5Host.isEmpty
  (if throughProxy then endpoint.socks5Host else endpoint.host,
    if throughProxy then endpoint.socks5Port else endpoint.port)

/-- The name `connect_to_host` hands to `getaddrinfo`, as a C string. -/
def ServerEndpoint.resolvedName (endpoint : ServerEndpoint) : ByteString :=
  endpoint.dial.1.takeWhile (· != 0)

/-- The entry has a proxy, that is what is dialled, and the host of the link is
not what is looked up. -/
structure ServerEntry.ThroughProxy (entry : ServerEntry) (link : InviteLink) : Prop where
  proxy : entry.endpoint.socks5Host ≠ []
  dialled : entry.endpoint.dial = (entry.endpoint.socks5Host, entry.endpoint.socks5Port)
  looked_up : entry.endpoint.resolvedName ≠ link.host

theorem ServerEntry.throughProxy_iff {entry : ServerEntry} {link : InviteLink} :
    entry.ThroughProxy link ↔ entry.endpoint.socks5Host ≠ [] ∧
      entry.endpoint.socks5Host.takeWhile (· != 0) ≠ link.host := by
  constructor
  · rintro ⟨hproxy, hdialled, hname⟩
    rw [ServerEndpoint.resolvedName, hdialled] at hname
    exact ⟨hproxy, hname⟩
  · rintro ⟨hproxy, hname⟩
    have hdialled : entry.endpoint.dial =
        (entry.endpoint.socks5Host, entry.endpoint.socks5Port) := by
      simp [ServerEndpoint.dial, hproxy]
    refine ⟨hproxy, hdialled, ?_⟩
    rwa [ServerEndpoint.resolvedName, hdialled]

variable [Sodium]

/-- `resolve_server` of the command line client; the graphical client opens the
endpoint of the slot itself. -/
def resolveServer (options : CommandLine) (passphrase : ByteString) (files : Files) :
    Except ByteString ServerEntry :=
  if options.serverLabel.isEmpty then
    match decodeKey options.serverKeyHex with
    | none => .error (ascii "--server-key doit faire 64 caracteres hexadecimaux")
    | some serverKey =>
      .ok {
        label := options.host
        endpoint := {
          host := options.host, port := options.port, socks5Host := options.socks5Host
          socks5Port := options.socks5Port }
        serverKey
        source := .imported
        importedIdentityPath := options.identityPath }
  else
    match loadRegistry options.registryPath passphrase files with
    | .error error => .error error
    | .ok entries =>
      match entries.find? fun entry => entry.label == options.serverLabel with
      | some entry => .ok entry
      | none => .error (ascii "serveur inconnu dans le registre : " ++ options.serverLabel)

/-! ## Adding an entry -/

/-- The function that adds an entry, and what it finds. -/
inductive Addition where
  | serverAdd (given : Option ByteString) (world : SaveWorld) (disk : Disk)
  | fromInvite (app : AppState) (identity : IdentityOutcome) (world : SaveWorld) (disk : Disk)

/-- In a program started with these arguments, the addition makes this entry of
this link: at the end of the list that is saved, or of the slots. -/
def Addition.Stores (files : Files) (arguments : List ByteString) (link : InviteLink)
    (entry : ServerEntry) : Addition → Prop
  | serverAdd given world disk =>
    ∃ options passphrase entries, parseCliOptions files arguments = .ok options ∧
      options.command = ascii "server-add" ∧
      options.arguments.head?.map parseInviteLink = some (.ok link) ∧
      prepareServerAdd options.toCliOptions options.arguments given disk.files =
        .ok (passphrase, entries ++ [entry]) ∧
      (runServerAdd options.toCliOptions options.arguments given world disk).1 = .ok ()
  | fromInvite app identity world disk =>
    ∃ options, parseCliOptions files arguments false false = .ok options ∧
      parseInviteLink app.inviteInput.1 = .ok link ∧
      (addServerFromInvite app identity world disk).1.slots = app.slots ++ [entry]

/-- `--direct` stands among the arguments as an option. -/
def PassesDirect (files : Files) (arguments : List ByteString) : Prop :=
  .proxy .direct ∈ settings files arguments

/-- The command line of `server-add` names a proxy, and another one than the host
of the link; or it has the default one, for a host of its own. -/
def Addition.NamesProxy (files : Files) (arguments : List ByteString) (link : InviteLink) :
    Addition → Prop
  | serverAdd .. =>
    match lastProxy files arguments with
    | some (.through host _) => host.takeWhile (· != 0) ≠ link.host
    | _ => onionSuffix.isSuffixOf (finalHost files arguments) = true
  | fromInvite .. => False

/-- What `add_server_from_invite` puts behind the slots. -/
theorem addServerFromInvite_slots {app : AppState} {identity : IdentityOutcome} {world : SaveWorld}
    {disk : Disk} {link : InviteLink} {entry : ServerEntry}
    (hlink : parseInviteLink app.inviteInput.1 = .ok link)
    (h : (addServerFromInvite app identity world disk).1.slots = app.slots ++ [entry]) :
    ∃ serverKey, entry = inviteEntry link serverKey := by
  by_cases hadds : ∃ link serverKey, InviteAdds app identity link serverKey
  · obtain ⟨link', serverKey, hadds⟩ := hadds
    obtain rfl := Except.ok.inj (hadds.parsed.symm.trans hlink)
    obtain ⟨hslots, -⟩ := addServerFromInvite_adds hadds world disk
    rw [hslots] at h
    exact ⟨serverKey, (List.singleton_inj.mp (List.append_cancel_left h)).symm⟩
  · obtain ⟨hsame, -⟩ := addServerFromInvite_unchanged hadds world disk
    rw [hsame] at h
    have hshorter : app.slots ≠ app.slots ++ [entry] := by simp
    exact absurd h hshorter

omit [Sodium] in
/-- The proxy of an entry made by `server-add`. -/
theorem linkEntry_throughProxy_iff {files : Files} {arguments : List ByteString}
    {options : CommandLine} {requireCommand requireServerKey : Bool}
    (h : parseCliOptions files arguments requireCommand requireServerKey = .ok options)
    (label : ByteString) {link : InviteLink} (serverKey : X25519PublicKey)
    (honion : onionSuffix.isSuffixOf link.host = true) :
    (linkEntry options.toCliOptions label link serverKey).ThroughProxy link ↔
      match lastProxy files arguments with
      | some (.through host _) => host.takeWhile (· != 0) ≠ link.host
      | _ => onionSuffix.isSuffixOf (finalHost files arguments) = true := by
  obtain ⟨-, -, -, hproxy⟩ := parseCliOptions_last h
  rw [ServerEntry.throughProxy_iff]
  change options.socks5Host ≠ [] ∧ options.socks5Host.takeWhile (· != 0) ≠ link.host ↔ _
  have hdefault : (options.socks5Host, options.socks5Port) =
        (if onionSuffix.isSuffixOf (finalHost files arguments) then
          (defaultTorSocksHost, defaultTorSocksPort) else ([], 0)) →
      (options.socks5Host ≠ [] ∧ options.socks5Host.takeWhile (· != 0) ≠ link.host ↔
        onionSuffix.isSuffixOf (finalHost files arguments) = true) := by
    intro hsettled
    split_ifs at hsettled with hfinal
    · obtain ⟨hhost, -⟩ := Prod.mk.inj hsettled
      rw [hhost]
      refine iff_of_true ⟨by decide, ?_⟩ hfinal
      -- the local proxy is not a hidden service
      intro hsame
      rw [← hsame] at honion
      revert honion
      decide
    · obtain ⟨hhost, -⟩ := Prod.mk.inj hsettled
      rw [hhost]
      exact iff_of_false (fun hboth => hboth.1 rfl) hfinal
  rcases hlast : lastProxy files arguments with _ | _ | _
  · rw [hlast] at hproxy
    exact hdefault hproxy
  · rw [hlast] at hproxy
    obtain ⟨hhost, -⟩ := Prod.mk.inj hproxy
    rw [hhost]
    exact and_iff_right (lastProxy_named hlast)
  · rw [hlast] at hproxy
    exact hdefault hproxy

/-- An entry made of a link to a hidden service is dialled through its proxy, or
the user passed `--direct`, exactly if `server-add` makes it and its command line
names a proxy. -/
theorem onion_entry_through_proxy_iff {files : Files} {arguments : List ByteString}
    {addition : Addition} {link : InviteLink} {entry : ServerEntry}
    (hstored : addition.Stores files arguments link entry)
    (honion : onionSuffix.isSuffixOf link.host = true) :
    PassesDirect files arguments ∨ entry.ThroughProxy link ↔
      PassesDirect files arguments ∨ addition.NamesProxy files arguments link := by
  refine or_congr_right ?_
  cases addition with
  | serverAdd given world disk =>
    obtain ⟨options, passphrase, entries, hoptions, -, hlink, hprepared, -⟩ := hstored
    obtain ⟨link', serverKey, loaded, hlink', -, -, hentries⟩ := prepareServerAdd_ok hprepared
    obtain rfl := Except.ok.inj (Option.some.inj (hlink.symm.trans hlink'))
    obtain ⟨-, hentry⟩ := List.append_inj' hentries rfl
    obtain rfl := List.singleton_inj.mp hentry
    exact linkEntry_throughProxy_iff hoptions _ serverKey honion
  | fromInvite app identity world disk =>
    obtain ⟨options, -, hlink, hslots⟩ := hstored
    obtain ⟨serverKey, rfl⟩ := addServerFromInvite_slots hlink hslots
    exact iff_of_false (fun h => h.proxy rfl) id

/-! ## The entry later -/

/-- Once it is saved, `--server` with its label finds the entry as it was made. -/
theorem resolveServer_after_add {options : CliOptions} {arguments : List ByteString}
    {given : Option ByteString} {world : SaveWorld} {disk disk' : Disk} {passphrase : ByteString}
    {entries : List ServerEntry} {entry : ServerEntry} {link : InviteLink}
    (hlink : arguments.head?.map parseInviteLink = some (.ok link))
    (hprepared : prepareServerAdd options arguments given disk.files =
      .ok (passphrase, entries ++ [entry]))
    (hadded : runServerAdd options arguments given world disk = (.ok (), disk'))
    (hrange : ∀ stored ∈ entries ++ [entry], stored.InRange) {later : CommandLine}
    (hpath : later.registryPath = options.registryPath) (hlabel : later.serverLabel = entry.label)
    (hnamed : entry.label ≠ []) :
    resolveServer later passphrase disk'.files = .ok entry := by
  obtain ⟨link', serverKey, loaded, hlink', -, hfree, hentries⟩ := prepareServerAdd_ok hprepared
  obtain rfl := Except.ok.inj (Option.some.inj (hlink.symm.trans hlink'))
  generalize (arguments[1]?).getD link.host = label at hfree hentries
  obtain ⟨rfl, hentry⟩ := List.append_inj' hentries rfl
  obtain rfl := List.singleton_inj.mp hentry
  rw [runServerAdd, hprepared] at hadded
  simp only [Disk.save] at hadded
  split at hadded
  next files hsaved =>
    obtain ⟨-, rfl⟩ := Prod.mk.inj hadded
    have hload := (loadRegistry_saveRegistry_iff hsaved).mpr hrange
    have hfound : (entries ++ [linkEntry options label link serverKey]).find?
        (fun stored => stored.label == label) = some (linkEntry options label link serverKey) := by
      have hnone : entries.find? (fun stored => stored.label == label) = none := by
        rw [List.find?_eq_none]
        intro stored hmem heq
        exact hfree stored hmem (beq_iff_eq.mp heq)
      rw [List.find?_append, hnone]
      simp [linkEntry]
    have hgiven : label.isEmpty = false := by simpa [linkEntry] using hnamed
    have hsame : later.serverLabel = label := hlabel
    simp only [resolveServer, hgiven, hpath, hload, hsame, hfound, Bool.false_eq_true, if_false]
  next => cases hadded

/-! ## A hidden service -/

/-- A link to a hidden service. -/
def onionLink : ByteString := linkScheme ++ ascii "a.onion:7717#" ++ List.replicate 64 0x30

/-- What it says. -/
def onionInvite : InviteLink where
  host := ascii "a.onion"
  port := 7717
  serverKeyHex := List.replicate 64 0x30

/-- The entry `server-add` makes of it under the name `forum`. -/
def onionEntry (socks5Host : ByteString) (socks5Port : UInt16) : ServerEntry where
  label := ascii "forum"
  endpoint := { host := ascii "a.onion", port := 7717, socks5Host, socks5Port }

/-- `server-add` on an empty disk. -/
def onionAddition : Addition := .serverAdd (some (ascii "passe")) {} { files := fun _ => none }

/-- The command line that says nothing about a proxy. -/
def plainAddition : List ByteString := [ascii "server-add", onionLink, ascii "forum"]

omit [Sodium] in
/-- With `--tor` the entry is dialled through Tor. -/
theorem onion_entry_with_tor :
    letI := transparentSodium
    (onionEntry (ascii "127.0.0.1") 9050).ThroughProxy onionInvite := by
  let := transparentSodium
  have hstored : onionAddition.Stores (fun _ => none) (ascii "--tor" :: plainAddition)
      onionInvite (onionEntry (ascii "127.0.0.1") 9050) :=
    ⟨_, ascii "passe", [], rfl, rfl, rfl, by decide +kernel, by decide +kernel⟩
  have hnames : onionAddition.NamesProxy (fun _ => none) (ascii "--tor" :: plainAddition)
      onionInvite := by
    change _ ≠ _
    decide +kernel
  have hnotDirect : ¬ PassesDirect (fun _ => none) (ascii "--tor" :: plainAddition) := by
    rw [PassesDirect]
    decide +kernel
  exact ((onion_entry_through_proxy_iff hstored (by decide +kernel)).mpr (.inr hnames)).resolve_left
    hnotDirect

omit [Sodium] in
/-- Without it the entry has no proxy. It is saved, `--server forum` finds it, and
the name of the hidden service is looked up. -/
theorem onion_entry_looked_up :
    letI := transparentSodium
    onionAddition.Stores (fun _ => none) plainAddition onionInvite (onionEntry [] 0) ∧
    onionSuffix.isSuffixOf onionInvite.host = true ∧
    ¬ (PassesDirect (fun _ => none) plainAddition ∨
      (onionEntry [] 0).ThroughProxy onionInvite) ∧
    resolveServer { serverLabel := ascii "forum" } (ascii "passe")
      (runServerAdd {} [onionLink, ascii "forum"] (some (ascii "passe")) {}
        { files := fun _ => none }).2.files = .ok (onionEntry [] 0) ∧
    (onionEntry [] 0).endpoint.resolvedName = ascii "a.onion" := by
  let := transparentSodium
  have hstored : onionAddition.Stores (fun _ => none) plainAddition onionInvite
      (onionEntry [] 0) :=
    ⟨_, ascii "passe", [], rfl, rfl, rfl, by decide +kernel, by decide +kernel⟩
  have hnotDirect : ¬ PassesDirect (fun _ => none) plainAddition := by
    rw [PassesDirect]
    decide +kernel
  refine ⟨hstored, by decide +kernel, fun h => ?_, by decide +kernel, by decide +kernel⟩
  exact (h.resolve_left hnotDirect).proxy rfl

end HyperCom
