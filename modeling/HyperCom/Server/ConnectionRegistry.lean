import HyperCom.Lib.Census
import HyperCom.Lib.Run
import HyperCom.Server.Expiry

/-!
# The registry of live connections

`connection_registry`: the connections by descriptor, and how many of them each
address holds. A connection is refused when the registry is full or when its
address holds its share already; both tables are written by `insertConnection`
and `removeConnection` only, while the processing of input replaces a connection
where it stands. `Consistent` is what holds of the two tables after any run.

Descriptors are used again as soon as they are closed, so `insert_connection` may meet one
that is still in the table; what it does then is part of the model. The invariant is
`Census`, with addresses for labels.
-/

namespace HyperCom

/-! ## `connection_registry` -/

/-- `connection_registry` -/
structure ConnectionRegistry where
  maxConnections : UInt32 := 0
  maxConnectionsPerAddress : UInt32 := 0
  connections : AList fun _ : ℤ => ClientConnection := ∅
  addressCounts : AList fun _ : ByteString => UInt32 := ∅

namespace ConnectionRegistry

/-- The registry the server starts with. -/
def empty (maxConnections maxConnectionsPerAddress : UInt32) : ConnectionRegistry :=
  { maxConnections, maxConnectionsPerAddress }

/-- `insert_connection`: the entry is a descriptor and its connection, or the
null pointer. `emplace` keeps what the descriptor already names. -/
def insertConnection (registry : ConnectionRegistry) :
    Option (ℤ × ClientConnection) → Bool × ConnectionRegistry
  | none => (false, registry)
  | some (descriptor, connection) =>
    if registry.connections.entries.length ≥ registry.maxConnections.toNat then (false, registry)
    else
      let address := connection.session.peerAddress
      let existing := registry.addressCounts.lookup address
      if existing.any (· ≥ registry.maxConnectionsPerAddress) then (false, registry)
      else
        (true, { registry with
          addressCounts := registry.addressCounts.insert address (existing.getD 0 + 1)
          connections :=
            if descriptor ∈ registry.connections then registry.connections
            else registry.connections.insert descriptor connection })

/-- `remove_connection`: the last connection of an address takes its count with
it. -/
def removeConnection (registry : ConnectionRegistry) (descriptor : ℤ) : ConnectionRegistry :=
  match registry.connections.lookup descriptor with
  | none => registry
  | some connection =>
    let address := connection.session.peerAddress
    { registry with
      addressCounts :=
        match registry.addressCounts.lookup address with
        | none => registry.addressCounts
        | some counted =>
          if counted ≤ 1 then registry.addressCounts.erase address
          else registry.addressCounts.insert address (counted - 1)
      connections := registry.connections.erase descriptor }

/-- `find_connection` -/
def findConnection (registry : ConnectionRegistry) (descriptor : ℤ) : Option ClientConnection :=
  registry.connections.lookup descriptor

/-- What is done to a connection through the pointer `find_connection`
returned. -/
def withConnection (registry : ConnectionRegistry) (descriptor : ℤ)
    (serve : ClientConnection → ClientConnection) : ConnectionRegistry :=
  match registry.findConnection descriptor with
  | none => registry
  | some connection =>
    { registry with connections := registry.connections.insert descriptor (serve connection) }

end ConnectionRegistry

namespace ConnectionRegistry

/-! ## What holds of the two tables -/

/-- The live connections of an address. -/
def liveConnections (registry : ConnectionRegistry) (address : ByteString) : ℕ :=
  registry.connections.entries.countP fun entry => entry.2.session.peerAddress = address

/-- What `address_counts` holds for an address. -/
def countOf (registry : ConnectionRegistry) (address : ByteString) : Option ℕ :=
  (registry.addressCounts.lookup address).map UInt32.toNat

/-- `address_counts` is the census of the connections by address, and there are
no more connections than allowed. -/
structure Consistent (registry : ConnectionRegistry) : Prop where
  counted : Census (fun connection : ClientConnection => connection.session.peerAddress)
    registry.connections registry.countOf
  bounded : registry.connections.entries.length ≤ registry.maxConnections.toNat

variable {registry : ConnectionRegistry} {descriptor : ℤ} {connection : ClientConnection}

theorem Consistent.empty (maxConnections maxConnectionsPerAddress : UInt32) :
    (ConnectionRegistry.empty maxConnections maxConnectionsPerAddress).Consistent :=
  ⟨Census.empty, Nat.zero_le _⟩

/-- A refusal changes nothing. -/
theorem insertConnection_refused {entry : Option (ℤ × ClientConnection)}
    (h : (registry.insertConnection entry).1 = false) :
    (registry.insertConnection entry).2 = registry := by
  rcases entry with _ | ⟨descriptor, connection⟩
  · rfl
  simp only [insertConnection] at h ⊢
  by_cases hfull : registry.connections.entries.length ≥ registry.maxConnections.toNat
  · rw [if_pos hfull]
  · rw [if_neg hfull] at h ⊢
    by_cases hshare : (registry.addressCounts.lookup connection.session.peerAddress).any
        (· ≥ registry.maxConnectionsPerAddress) = true
    · rw [if_pos hshare]
    · rw [if_neg hshare] at h
      cases h

/-- An admitted connection was below the cap, and is counted for its address. -/
theorem insertConnection_admitted (hfresh : registry.connections.lookup descriptor = none)
    (h : (registry.insertConnection (some (descriptor, connection))).1 = true) :
    registry.connections.entries.length < registry.maxConnections.toNat ∧
      (registry.insertConnection (some (descriptor, connection))).2 = { registry with
        addressCounts := registry.addressCounts.insert connection.session.peerAddress
          ((registry.addressCounts.lookup connection.session.peerAddress).getD 0 + 1)
        connections := registry.connections.insert descriptor connection } := by
  simp only [insertConnection] at h ⊢
  by_cases hfull : registry.connections.entries.length ≥ registry.maxConnections.toNat
  · rw [if_pos hfull] at h
    cases h
  · rw [if_neg hfull] at h ⊢
    by_cases hshare : (registry.addressCounts.lookup connection.session.peerAddress).any
        (· ≥ registry.maxConnectionsPerAddress) = true
    · rw [if_pos hshare] at h
      cases h
    · rw [if_neg hshare, if_neg (AList.lookup_eq_none.mp hfresh)]
      exact ⟨not_le.mp hfull, rfl⟩

/-- A new connection: its count cannot wrap around, being at most the number of
connections. -/
theorem Consistent.insertConnection (h : registry.Consistent)
    (hfresh : registry.connections.lookup descriptor = none) :
    (registry.insertConnection (some (descriptor, connection))).2.Consistent := by
  cases hadmitted : (registry.insertConnection (some (descriptor, connection))).1 with
  | false =>
    rw [insertConnection_refused hadmitted]
    exact h
  | true =>
    obtain ⟨hroom, hleft⟩ := insertConnection_admitted hfresh hadmitted
    rw [hleft]
    refine ⟨h.counted.insert hfresh ?_ ?_, ?_⟩
    · have hcount : ((registry.addressCounts.lookup connection.session.peerAddress).getD 0).toNat =
          (registry.countOf connection.session.peerAddress).getD 0 := by
        rw [countOf]
        cases registry.addressCounts.lookup connection.session.peerAddress <;> rfl
      have hbelow : (registry.countOf connection.session.peerAddress).getD 0 ≤
          registry.connections.entries.length := by
        rw [h.counted.getD_eq]
        exact Census.tally_le_size
      have hmax := registry.maxConnections.toNat_lt
      simp only [countOf, AList.lookup_insert, Option.map_some, Option.some.injEq]
      rw [UInt32.toNat_add, UInt32.toNat_one, Nat.mod_eq_of_lt (by omega), hcount]
      rfl
    · intro address hother
      simp only [countOf, AList.lookup_insert_ne hother]
    · rw [Census.size_insert hfresh]
      exact hroom

/-- A closed descriptor, whether or not it names a connection. -/
theorem Consistent.removeConnection (h : registry.Consistent) (descriptor : ℤ) :
    (registry.removeConnection descriptor).Consistent := by
  rcases hfound : registry.connections.lookup descriptor with _ | connection
  · simp only [ConnectionRegistry.removeConnection, hfound]
    exact h
  have hsize := Census.size_erase_add hfound
  simp only [ConnectionRegistry.removeConnection, hfound]
  refine ⟨h.counted.erase hfound ?_ ?_, ?_⟩
  · rcases hcounted : registry.addressCounts.lookup connection.session.peerAddress with _ | counted
    · simp [countOf, hcounted]
    · by_cases hlast : counted ≤ 1
      · have hlast' : counted.toNat ≤ 1 := UInt32.le_iff_toNat_le.mp hlast
        simp [countOf, hcounted, hlast, hlast']
      · have hone : 1 < counted.toNat := not_le.mp fun hle => hlast (UInt32.le_iff_toNat_le.mpr hle)
        have hless : (counted - 1).toNat = counted.toNat - 1 :=
          UInt32.toNat_sub_of_le _ _ (UInt32.le_iff_toNat_le.mpr hone.le)
        simp [countOf, hcounted, hlast, hless, not_le.mpr hone]
  · intro address hother
    simp only [countOf]
    split
    · rfl
    · split
      · rw [AList.lookup_erase_ne hother]
      · rw [AList.lookup_insert_ne hother]
  · have hbounded := h.bounded
    simp only
    omega

/-- What is done to a connection in place, as long as its address stays. -/
theorem Consistent.withConnection {serve : ClientConnection → ClientConnection}
    (h : registry.Consistent)
    (haddress : ∀ connection, (serve connection).session.peerAddress =
      connection.session.peerAddress) :
    (registry.withConnection descriptor serve).Consistent := by
  rcases hfound : registry.connections.lookup descriptor with _ | connection
  · simp only [ConnectionRegistry.withConnection, findConnection, hfound]
    exact h
  · simp only [ConnectionRegistry.withConnection, findConnection, hfound]
    refine ⟨h.counted.replace hfound (haddress connection), ?_⟩
    rw [Census.size_replace hfound]
    exact h.bounded

end ConnectionRegistry

/-! ## Events -/

/-- What happens to the registry: a connection is offered, a descriptor is
closed, input is processed on a connection, or the peer takes output. The
context of the processing is arbitrary. -/
inductive RegistryEvent where
  | insert (entry : Option (ℤ × ClientConnection))
  | remove (descriptor : ℤ)
  | receive (descriptor : ℤ) (config : ServerConfig) (database : DatabaseHandle)
      (policy : RatePolicy) (received : ByteString) (stillOpen : Bool) (world : ℕ → Ambient)
  | flush (descriptor : ℤ) (count : ℕ)

variable [Sodium]

namespace RegistryEvent

/-- What `process_connection_input` makes of a connection. -/
def served (config : ServerConfig) (database : DatabaseHandle) (policy : RatePolicy)
    (received : ByteString) (stillOpen : Bool) (world : ℕ → Ambient)
    (connection : ClientConnection) : ClientConnection :=
  (processConnectionInput world received stillOpen
    { context := { config, database, connection }, policy }).2.context.connection

/-- The registry after the event. -/
def perform (registry : ConnectionRegistry) : RegistryEvent → Option ConnectionRegistry
  | insert entry => some (registry.insertConnection entry).2
  | remove descriptor => some (registry.removeConnection descriptor)
  | receive descriptor config database policy received stillOpen world =>
    some (registry.withConnection descriptor
      (served config database policy received stillOpen world))
  | flush descriptor count => some (registry.withConnection descriptor fun connection =>
      { connection with
        socket := { pendingOutput := connection.socket.pendingOutput.drop count } })

/-- The descriptor of a connection just accepted names no live connection. -/
def Fresh (registry : ConnectionRegistry) : RegistryEvent → Prop
  | insert (some (descriptor, _)) => registry.connections.lookup descriptor = none
  | _ => True

instance (registry : ConnectionRegistry) : (event : RegistryEvent) →
    Decidable (event.Fresh registry)
  | insert none => isTrue trivial
  | insert (some (descriptor, _)) =>
    decidable_of_iff ((registry.connections.lookup descriptor).isNone = true) Option.isNone_iff_eq_none
  | remove _ => isTrue trivial
  | receive .. => isTrue trivial
  | flush .. => isTrue trivial

end RegistryEvent

/-! ## The address of a connection stays -/

section Address

variable {context : HandlerContext} {type : MessageType} {reader : ByteReader}
  {database : DatabaseHandle} {session : SessionState} {address : ByteString}

/-- No request touches the address of the peer. -/
theorem RequestEffect.peerAddress (h : RequestEffect context type reader database session) :
    session.peerAddress = context.connection.session.peerAddress := by
  cases h with
  | unchanged => rfl
  | own => rfl
  | greeted => rfl
  | accepted => rfl
  | proven => rfl
  | enrolled _ _ _ _ _ left => rcases left with rfl | ⟨_, -, -, rfl⟩ <;> rfl

theorem advanceHandshake_peerAddress (context : HandlerContext) (message : ByteString) :
    (advanceHandshake context message).2.connection.session.peerAddress =
      context.connection.session.peerAddress := by
  unfold advanceHandshake
  split
  · rfl
  · simp only
    split <;> rfl

/-- Nor does the handling of a message. -/
theorem processMessage_peerAddress (state : ProcessorState) (message : ByteString) :
    (processMessage state message).2.context.connection.session.peerAddress =
      state.context.connection.session.peerAddress := by
  have houtcome := processMessage_outcome state message
  generalize processMessage state message = out at houtcome ⊢
  cases houtcome with
  | handshake => exact advanceHandshake_peerAddress state.context message
  | unopened => rfl
  | rejected => rfl
  | limited =>
    rw [sendStatusError, (sendMessage_frame ..).2]
    rfl
  | @routed channel _ _ type reader =>
    exact (routeMessage_answer (state.context.withChannel channel).noteActivity type
      reader).effect.peerAddress

/-- Nor does the processing of input. -/
theorem RegistryEvent.served_peerAddress (config : ServerConfig) (database : DatabaseHandle)
    (policy : RatePolicy) (received : ByteString) (stillOpen : Bool) (world : ℕ → Ambient)
    (connection : ClientConnection) :
    (served config database policy received stillOpen world
      connection).session.peerAddress = connection.session.peerAddress := by
  unfold served processConnectionInput
  split
  · rfl
  · exact processBuffer_always (J := fun state =>
        state.context.connection.session.peerAddress = connection.session.peerAddress)
      (fun h => h) (fun h => (processMessage_peerAddress _ _).trans h) rfl

end Address

/-! ## Runs -/

namespace ConnectionRegistry

variable {event : RegistryEvent} {registry registry' : ConnectionRegistry}

/-- One event keeps the tables consistent. -/
theorem Consistent.perform
    (h : registry.Consistent) (hfresh : event.Fresh registry)
    (hstep : event.perform registry = some registry') : registry'.Consistent := by
  cases event with
  | insert entry =>
    obtain rfl := Option.some.inj hstep
    rcases entry with _ | ⟨descriptor, connection⟩
    · exact h
    · exact h.insertConnection hfresh
  | remove descriptor =>
    obtain rfl := Option.some.inj hstep
    exact h.removeConnection descriptor
  | receive descriptor config database policy received stillOpen world =>
    obtain rfl := Option.some.inj hstep
    exact h.withConnection
      (RegistryEvent.served_peerAddress config database policy received stillOpen world)
  | flush =>
    obtain rfl := Option.some.inj hstep
    exact h.withConnection fun _ => rfl

/-- No event changes the caps. -/
theorem perform_caps (hstep : event.perform registry = some registry') :
    registry'.maxConnections = registry.maxConnections ∧
      registry'.maxConnectionsPerAddress = registry.maxConnectionsPerAddress := by
  cases event with
  | insert entry =>
    obtain rfl := Option.some.inj hstep
    rcases entry with _ | ⟨descriptor, connection⟩
    · exact ⟨rfl, rfl⟩
    · simp only [insertConnection]
      split
      · exact ⟨rfl, rfl⟩
      · split <;> exact ⟨rfl, rfl⟩
  | remove descriptor =>
    obtain rfl := Option.some.inj hstep
    rw [removeConnection]
    split <;> exact ⟨rfl, rfl⟩
  | receive =>
    obtain rfl := Option.some.inj hstep
    rw [withConnection]
    split <;> exact ⟨rfl, rfl⟩
  | flush =>
    obtain rfl := Option.some.inj hstep
    rw [withConnection]
    split <;> exact ⟨rfl, rfl⟩

/-- Whatever is inserted under a new descriptor, removed and served, in any
order: each address is counted as many times as it has live connections, no
count of zero is kept, the cap holds, and a refused connection changes
nothing. -/
theorem registry_consistent (maxConnections maxConnectionsPerAddress : UInt32)
    (events : List RegistryEvent) {registry : ConnectionRegistry}
    (hfresh : StepRun.Along RegistryEvent.perform (fun registry event => event.Fresh registry)
      (empty maxConnections maxConnectionsPerAddress) events)
    (hrun : StepRun.after RegistryEvent.perform (empty maxConnections maxConnectionsPerAddress)
      events = some registry) :
    (∀ address, ((registry.addressCounts.lookup address).getD 0).toNat =
        registry.liveConnections address ∧ registry.addressCounts.lookup address ≠ some 0) ∧
      registry.connections.entries.length ≤ maxConnections.toNat ∧
      ∀ entry, (registry.insertConnection entry).1 = false →
        (registry.insertConnection entry).2 = registry := by
  have hinv : registry.Consistent ∧ registry.maxConnections = maxConnections := by
    refine StepRun.after_invariant (I := fun registry : ConnectionRegistry =>
      registry.Consistent ∧ registry.maxConnections = maxConnections) ?_
      ⟨.empty _ _, rfl⟩ hfresh hrun
    rintro registry event registry' ⟨hconsistent, hmax⟩ hnew hstep
    exact ⟨hconsistent.perform hnew hstep, (perform_caps hstep).1.trans hmax⟩
  obtain ⟨hconsistent, hmax⟩ := hinv
  refine ⟨fun address => ⟨?_, fun hzero => ?_⟩, ?_, fun entry => insertConnection_refused⟩
  · have hcount : (registry.countOf address).getD 0 = registry.liveConnections address :=
      hconsistent.counted.getD_eq
    rw [← hcount, countOf]
    cases registry.addressCounts.lookup address <;> rfl
  · refine hconsistent.counted.ne_zero (a := address) ?_
    rw [countOf, hzero]
    rfl
  · rw [← hmax]
    exact hconsistent.bounded

/-- Two connections from one address, the second over its share; the first is
closed twice, and its descriptor used again. -/
def reusingRun : List RegistryEvent :=
  let connection := ClientConnection.accepted (FixedBytes.zero _) (FixedBytes.zero _) (ascii "::1") 0
  [.insert (some (5, connection)), .insert (some (6, connection)), .flush 5 1, .remove 5,
    .remove 5, .insert (some (5, connection))]

omit [Sodium] in
theorem registry_consistent_reused :
    letI := transparentSodium
    ∃ registry, StepRun.after RegistryEvent.perform (empty 2 1) reusingRun = some registry ∧
      registry.addressCounts.lookup (ascii "::1") = some 1 ∧
      registry.liveConnections (ascii "::1") = 1 ∧ registry.connections.entries.length ≤ 2 := by
  let _ := transparentSodium
  have hend : (StepRun.after RegistryEvent.perform (empty 2 1) reusingRun).map
      (fun registry => registry.addressCounts.lookup (ascii "::1")) = some (some 1) := by
    decide +kernel
  obtain ⟨registry, hrun, hcount⟩ := Option.map_eq_some_iff.mp hend
  have hfresh : StepRun.Along RegistryEvent.perform (fun registry event => event.Fresh registry)
      (empty 2 1) reusingRun := by decide +kernel
  obtain ⟨hcounts, hsize, -⟩ := registry_consistent 2 1 reusingRun hfresh hrun
  refine ⟨registry, hrun, hcount, ?_, hsize⟩
  rw [← (hcounts _).1, hcount]
  rfl

end ConnectionRegistry

end HyperCom
