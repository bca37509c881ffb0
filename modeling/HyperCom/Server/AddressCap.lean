import HyperCom.Server.ConfigValidator
import HyperCom.Server.ConnectionRegistry

/-!
# The share of one address

`max_connections_per_address` bounds the live connections of an address, as long as it
is not 0: `insert_connection` compares it with the count of an address that has one
already, so the first connection of an address is not compared with anything, and
`validate_config` accepts a share of 0.

The count is kept in a map beside the connections, raised by an insertion and lowered by a
removal, so the first thing to show is that it is the number of live connections of the
address (`ConnectionRegistry`). The bound then holds at every insertion that is compared,
and nothing else raises a count.
-/

namespace HyperCom

variable [Sodium]

namespace ConnectionRegistry

variable {registry registry' : ConnectionRegistry} {event : RegistryEvent}

/-- No count is above the share of an address. -/
def CountsWithinShare (registry : ConnectionRegistry) : Prop :=
  ∀ address count, registry.addressCounts.lookup address = some count →
    count ≤ registry.maxConnectionsPerAddress

omit [Sodium] in
/-- A count that is allowed to grow is below the share, if there is a share. -/
theorem CountsWithinShare.insertConnection (h : registry.CountsWithinShare)
    (hshare : registry.maxConnectionsPerAddress ≠ 0) (entry : Option (ℤ × ClientConnection)) :
    (registry.insertConnection entry).2.CountsWithinShare := by
  rcases entry with _ | ⟨descriptor, connection⟩
  · exact h
  simp only [ConnectionRegistry.insertConnection]
  split
  · exact h
  split
  · exact h
  next hbelow =>
  intro address count hcount
  dsimp only at hcount ⊢
  by_cases haddress : address = connection.session.peerAddress
  · subst haddress
    rw [AList.lookup_insert] at hcount
    obtain rfl := Option.some.inj hcount
    rw [UInt32.le_iff_toNat_le]
    rcases hexisting : registry.addressCounts.lookup connection.session.peerAddress with _ | existing
    · have hone := UInt32.toNat_inj.ne.mpr hshare
      exact Nat.one_le_iff_ne_zero.mpr hone
    · have hless : existing < registry.maxConnectionsPerAddress := by
        simpa [hexisting] using hbelow
      have hlt := UInt32.lt_iff_toNat_lt.mp hless
      have hmax := registry.maxConnectionsPerAddress.toNat_lt
      rw [Option.getD_some, UInt32.toNat_add, UInt32.toNat_one, Nat.mod_eq_of_lt (by omega)]
      omega
  · rw [AList.lookup_insert_ne haddress] at hcount
    exact h address count hcount

omit [Sodium] in
/-- A removal lowers one count. -/
theorem CountsWithinShare.removeConnection (h : registry.CountsWithinShare) (descriptor : ℤ) :
    (registry.removeConnection descriptor).CountsWithinShare := by
  rw [ConnectionRegistry.removeConnection]
  split
  · exact h
  next connection _ =>
  intro address count hcount
  dsimp only at hcount ⊢
  split at hcount
  · exact h address count hcount
  next counted hcounted =>
  split at hcount
  · by_cases haddress : address = connection.session.peerAddress
    · rw [haddress, AList.lookup_erase] at hcount
      cases hcount
    · rw [AList.lookup_erase_ne haddress] at hcount
      exact h address count hcount
  · next hlast =>
    by_cases haddress : address = connection.session.peerAddress
    · subst haddress
      rw [AList.lookup_insert] at hcount
      obtain rfl := Option.some.inj hcount
      have hone : 1 ≤ counted := UInt32.le_of_lt (UInt32.not_le.mp hlast)
      rw [UInt32.le_iff_toNat_le, UInt32.toNat_sub_of_le _ _ hone]
      exact (Nat.sub_le ..).trans (UInt32.le_iff_toNat_le.mp (h _ counted hcounted))
    · rw [AList.lookup_insert_ne haddress] at hcount
      exact h address count hcount

omit [Sodium] in
/-- Serving a connection changes no count. -/
theorem CountsWithinShare.withConnection (h : registry.CountsWithinShare) (descriptor : ℤ)
    (serve : ClientConnection → ClientConnection) :
    (registry.withConnection descriptor serve).CountsWithinShare := by
  rw [ConnectionRegistry.withConnection]
  split
  · exact h
  · exact h

/-- One event keeps the counts within the share. -/
theorem CountsWithinShare.perform (h : registry.CountsWithinShare)
    (hshare : registry.maxConnectionsPerAddress ≠ 0)
    (hstep : event.perform registry = some registry') : registry'.CountsWithinShare := by
  cases event with
  | insert entry =>
    obtain rfl := Option.some.inj hstep
    exact h.insertConnection hshare entry
  | remove descriptor =>
    obtain rfl := Option.some.inj hstep
    exact h.removeConnection descriptor
  | receive =>
    obtain rfl := Option.some.inj hstep
    exact CountsWithinShare.withConnection h _ _
  | flush =>
    obtain rfl := Option.some.inj hstep
    exact CountsWithinShare.withConnection h _ _

/-! ## Every run -/

/-- The registry of a server started with the settings, after some accepts and closes,
with whatever its connections receive and send in between. -/
def ReachedWith (settings : ServerSettings) (registry : ConnectionRegistry) : Prop :=
  ∃ events, StepRun.Along RegistryEvent.perform (fun registry event => event.Fresh registry)
      (empty settings.limits.maxConnections settings.limits.maxConnectionsPerAddress) events ∧
    StepRun.after RegistryEvent.perform
      (empty settings.limits.maxConnections settings.limits.maxConnectionsPerAddress) events =
        some registry

omit [Sodium] in
/-- What is counted for an address are its live connections. -/
theorem Consistent.liveConnections_eq (h : registry.Consistent) (address : ByteString) :
    registry.liveConnections address =
      ((registry.addressCounts.lookup address).getD 0).toNat := by
  have hcount : (registry.countOf address).getD 0 = registry.liveConnections address :=
    h.counted.getD_eq
  rw [← hcount, countOf]
  cases registry.addressCounts.lookup address <;> rfl

/-- Along every run of insertions, removals and requests. -/
theorem ReachedWith.within_share {settings : ServerSettings} (h : ReachedWith settings registry)
    (hshare : settings.limits.maxConnectionsPerAddress ≠ 0) (address : ByteString) :
    registry.liveConnections address ≤ settings.limits.maxConnectionsPerAddress.toNat := by
  obtain ⟨events, hfresh, hrun⟩ := h
  have hinv : registry.Consistent ∧ registry.CountsWithinShare ∧
      registry.maxConnectionsPerAddress = settings.limits.maxConnectionsPerAddress := by
    refine StepRun.after_invariant (I := fun registry : ConnectionRegistry =>
      registry.Consistent ∧ registry.CountsWithinShare ∧
        registry.maxConnectionsPerAddress = settings.limits.maxConnectionsPerAddress) ?_
      ⟨.empty _ _, fun _ _ hcount => (by cases hcount), rfl⟩ hfresh hrun
    rintro registry event registry' ⟨hconsistent, hcounts, hsame⟩ hnew hstep
    exact ⟨hconsistent.perform hnew hstep, hcounts.perform (hsame ▸ hshare) hstep,
      (perform_caps hstep).2.trans hsame⟩
  obtain ⟨hconsistent, hcounts, hsame⟩ := hinv
  rw [hconsistent.liveConnections_eq]
  rcases hcount : registry.addressCounts.lookup address with _ | count
  · exact Nat.zero_le _
  · rw [← hsame]
    exact UInt32.le_iff_toNat_le.mp (hcounts address count hcount)

/-- A first connection is admitted without a look at the share. -/
theorem reachedWith_first {settings : ServerSettings} (address : ByteString)
    (hroom : settings.limits.maxConnections ≠ 0) :
    ∃ registry, ReachedWith settings registry ∧ registry.liveConnections address = 1 := by
  let connection := ClientConnection.accepted (FixedBytes.zero _) (FixedBytes.zero _) address 0
  let start := empty settings.limits.maxConnections settings.limits.maxConnectionsPerAddress
  have hpos : ¬ start.connections.entries.length ≥ start.maxConnections.toNat := by
    have hmax := UInt32.toNat_inj.ne.mpr hroom
    exact not_le.mpr (Nat.pos_of_ne_zero hmax)
  refine ⟨(start.insertConnection (some (5, connection))).2,
    ⟨[.insert (some (5, connection))], ⟨rfl, fun _ _ => trivial⟩, rfl⟩, ?_⟩
  have hadmitted : (start.insertConnection (some (5, connection))).1 = true := by
    simp only [ConnectionRegistry.insertConnection, if_neg hpos]
    rfl
  rw [(insertConnection_admitted rfl hadmitted).2]
  change Census.tally (fun connection : ClientConnection => connection.session.peerAddress)
    (start.connections.insert 5 connection) connection.session.peerAddress = 1
  rw [Census.tally_insert, Census.share_self]
  rfl

/-- For every configuration the validator accepts: no address ever has more live
connections than its share if and only if that share is not 0. -/
theorem address_cap_iff (settings : ServerSettings)
    (accepted : (validateConfig settings).1 = true) :
    (∀ registry, ReachedWith settings registry → ∀ address,
      registry.liveConnections address ≤ settings.limits.maxConnectionsPerAddress.toNat) ↔
    settings.limits.maxConnectionsPerAddress ≠ 0 := by
  constructor
  · rintro hbound hzero
    obtain ⟨registry, hreached, hlive⟩ :=
      reachedWith_first (ascii "::1") (validateConfig_maxConnections accepted)
    have hle := hbound registry hreached (ascii "::1")
    rw [hlive, hzero] at hle
    exact absurd hle (by decide)
  · exact fun hshare registry hreached => hreached.within_share hshare

/-- A server on the loopback interface. -/
def loopbackSettings (share : UInt32) : ServerSettings :=
  { clearnet := { enabled := true, bindAddress := ascii "127.0.0.1", port := 4433 }
    limits := { maxConnectionsPerAddress := share } }

omit [Sodium] in
/-- A share of 8, as the loopback address meets it. -/
theorem address_cap_iff_loopback :
    letI := transparentSodium
    (validateConfig (loopbackSettings 8)).1 = true ∧
      ∀ registry, ReachedWith (loopbackSettings 8) registry →
        registry.liveConnections (ascii "::1") ≤ 8 := by
  let _ := transparentSodium
  have accepted : (validateConfig (loopbackSettings 8)).1 = true := by decide +kernel
  refine ⟨accepted, fun registry reached => ?_⟩
  exact (address_cap_iff (loopbackSettings 8) accepted).mpr (by decide) registry reached _

omit [Sodium] in
/-- A share of 0 is accepted, and so is a connection. -/
theorem zero_share_admits :
    letI := transparentSodium
    (validateConfig (loopbackSettings 0)).1 = true ∧
      ¬ ∀ registry, ReachedWith (loopbackSettings 0) registry → ∀ address,
        registry.liveConnections address ≤ 0 := by
  let _ := transparentSodium
  refine ⟨by decide +kernel, fun hbound => ?_⟩
  obtain ⟨registry, reached, hlive⟩ :=
    reachedWith_first (ascii "::1") (show (loopbackSettings 0).limits.maxConnections ≠ 0 by decide)
  have hle := hbound registry reached (ascii "::1")
  rw [hlive] at hle
  exact absurd hle (by decide)

end ConnectionRegistry

end HyperCom
