import HyperCom.Lib.Tickets
import HyperCom.Server.AdminService

/-!
# The event loop

`run_until_stopped` and what it dispatches, by descriptor number. An event is
collected with the number alone; by the time it is dispatched an earlier event of
the same round may have closed that descriptor, and `accept` may have handed out
its number again.

The loop keeps no record of whom an event was collected for. `EventLoopState`
does: each pending event is a ticket of the desk that hands out descriptors.
-/

namespace HyperCom

open StepRun Tickets AdminDispatcher

/-! ## `server_runtime` -/

def epollIn : UInt32 := 0x001
def epollErr : UInt32 := 0x008
def epollHup : UInt32 := 0x010

def maxAcceptsPerCall : ℕ := 32

/-- The descriptors the runtime itself holds, -1 for a listener that is not open. -/
structure Listeners where
  clearnet : ℤ := -1
  onion : ℤ := -1
  admin : ℤ := -1
  signal : ℤ

/-- A descriptor `accept_connection` returned. -/
structure AcceptAnswer where
  descriptor : ℤ
  peerAddress : ByteString := []
  acceptedAt : UInt64 := 0
  /-- `watch_descriptor` succeeds -/
  watched : Bool := true

/-- What the outside contributes to the service of a client. -/
structure ClientAnswers where
  config : ServerConfig := {}
  database : DatabaseHandle := {}
  policy : RatePolicy
  received : ByteString := []
  stillOpen : Bool := true
  world : ℕ → Ambient := fun _ => {}
  /-- the output `send` takes, unless it reports an error -/
  flushed : Option ℕ := some 0
  watched : Bool := true

/-- What a command of the administration finds, apart from the registry. -/
structure AdminConsole where
  ambient : AdminAmbient := {}
  config : ConfigParser.Configuration := {}
  database : DatabaseHandle := {}
  startedAt : UInt64 := 0

/-- `execute_admin_command` with the registry of the loop. -/
def AdminConsole.execute (console : AdminConsole) (registry : ConnectionRegistry)
    (command : AdminCommand) : AdminReply :=
  executeAdminCommand console.ambient
    { config := console.config, database := console.database, registry
      startedAt := console.startedAt } command

/-- What the outside contributes while one event is dispatched. -/
structure DispatchAnswers where
  /-- the descriptors accepted until `accept` has no more -/
  accepted : List AcceptAnswer := []
  admin : AdminAnswers := {}
  console : AdminConsole := {}
  client : ClientAnswers

/-- The members of `server_runtime` with descriptors in them. -/
structure DescriptorTables where
  listeners : Listeners
  staticPublic : X25519PublicKey
  staticSecret : X25519SecretKey
  registry : ConnectionRegistry
  /-- the connections of `admin_` -/
  admins : AList fun _ : ℤ => AdminConnection := ∅

variable [Sodium]

namespace DescriptorTables

/-- `close_connection` -/
def closeConnection (tables : DescriptorTables) (descriptor : ℤ) : DescriptorTables :=
  { tables with registry := tables.registry.removeConnection descriptor }

/-- One pass of `accept_pending_connections`: whether the connection stays. -/
def acceptConnection (tables : DescriptorTables) (answer : AcceptAnswer) :
    Bool × DescriptorTables :=
  let connection := ClientConnection.accepted tables.staticPublic tables.staticSecret
    answer.peerAddress answer.acceptedAt
  match tables.registry.insertConnection (some (answer.descriptor, connection)) with
  | (false, _) => (false, tables)
  | (true, registry) =>
    if answer.watched then (true, { tables with registry })
    else (false, { tables with registry }.closeConnection answer.descriptor)

/-- One pass of `accept_admin_connections`. -/
def acceptAdminConnection (tables : DescriptorTables) (answer : AcceptAnswer) :
    Bool × DescriptorTables :=
  let admins :=
    if answer.descriptor ∈ tables.admins then tables.admins
    else tables.admins.insert answer.descriptor {}
  if answer.watched then (true, { tables with admins })
  else (false, { tables with admins := admins.erase answer.descriptor })

/-- `accept_pending_connections` -/
def acceptPendingConnections (tables : DescriptorTables) (answers : List AcceptAnswer) :
    DescriptorTables :=
  (answers.take maxAcceptsPerCall).foldl (fun tables answer => (tables.acceptConnection answer).2)
    tables

/-- `accept_admin_connections` -/
def acceptAdminConnections (tables : DescriptorTables) (answers : List AcceptAnswer) :
    DescriptorTables :=
  answers.foldl (fun tables answer => (tables.acceptAdminConnection answer).2) tables

/-- `service_connection` -/
def serviceConnection (tables : DescriptorTables) (descriptor : ℤ) (events : UInt32)
    (answers : ClientAnswers) : DescriptorTables :=
  match tables.registry.findConnection descriptor with
  | none => tables
  | some connection =>
    if events &&& (epollHup ||| epollErr) ≠ 0 then tables.closeConnection descriptor
    else
      let state : ProcessorState :=
        { context := { config := answers.config, database := answers.database, connection }
          policy := answers.policy }
      let out := if events &&& epollIn ≠ 0 then
          processConnectionInput answers.world answers.received answers.stillOpen state
        else (true, state)
      let tables := { tables with registry :=
        tables.registry.withConnection descriptor fun _ => out.2.context.connection }
      if !out.1 then tables.closeConnection descriptor
      else
        match answers.flushed with
        | none => tables.closeConnection descriptor
        | some count =>
          let tables := { tables with registry :=
            tables.registry.withConnection descriptor fun connection =>
              { connection with
                socket := { pendingOutput := connection.socket.pendingOutput.drop count } } }
          if answers.watched then tables else tables.closeConnection descriptor

omit [Sodium] in
/-- `service_admin_connection`, and the sessions it asks to be closed. -/
def serviceAdmin (tables : DescriptorTables) (descriptor : ℤ) (answers : DispatchAnswers) :
    List ℤ × DescriptorTables :=
  match tables.admins.lookup descriptor with
  | none => ([], tables)
  | some connection =>
    let out := serviceAdminConnection (answers.console.execute tables.registry) answers.admin
      connection
    let requests := (out.2.map AdminReply.closeRequests).getD []
    match out.1 with
    | none => (requests, { tables with admins := tables.admins.erase descriptor })
    | some connection =>
      (requests, { tables with admins := tables.admins.insert descriptor connection })

/-- `dispatch_event` -/
def dispatchEvent (tables : DescriptorTables) (descriptor : ℤ) (events : UInt32)
    (answers : DispatchAnswers) : DescriptorTables :=
  if descriptor = tables.listeners.clearnet ∨ descriptor = tables.listeners.onion then
    tables.acceptPendingConnections answers.accepted
  else if descriptor = tables.listeners.admin then tables.acceptAdminConnections answers.accepted
  else if descriptor ∈ tables.admins then
    let out := tables.serviceAdmin descriptor answers
    out.1.foldl closeConnection out.2
  else tables.serviceConnection descriptor events answers.client

omit [Sodium] in
/-- `sweep_expired_connections` -/
def sweepExpired (tables : DescriptorTables) (now : UInt64) (limits : LimitsConfig) :
    DescriptorTables :=
  let expired := tables.registry.connections.entries.filter fun entry =>
    entry.2.session.isExpired now limits
  (expired.map Sigma.fst).foldl closeConnection tables

/-- The numbers under which connections that stay are accepted. -/
def admitted (accept : DescriptorTables → AcceptAnswer → Bool × DescriptorTables) :
    DescriptorTables → List AcceptAnswer → List ℤ
  | _, [] => []
  | tables, answer :: answers =>
    let out := accept tables answer
    if out.1 then answer.descriptor :: admitted accept out.2 answers
    else admitted accept out.2 answers

/-- The numbers handed out while an event on this descriptor is dispatched. -/
def admittedBy (tables : DescriptorTables) (descriptor : ℤ) (answers : DispatchAnswers) :
    List ℤ :=
  if descriptor = tables.listeners.clearnet ∨ descriptor = tables.listeners.onion then
    admitted acceptConnection tables (answers.accepted.take maxAcceptsPerCall)
  else if descriptor = tables.listeners.admin then
    admitted acceptAdminConnection tables answers.accepted
  else []

end DescriptorTables

/-! ## Rounds of events -/

/-- The tables, the events of the round that are not dispatched yet, and the desk
that hands out the descriptors. -/
structure EventLoopState where
  tables : DescriptorTables
  pending : List (Ticket ℤ × UInt32) := []
  desk : Desk ℤ := {}

/-- A condition on the next event and those after it, if there is one. -/
def EventLoopState.AtNext (state : EventLoopState)
    (condition : Ticket ℤ → UInt32 → List (Ticket ℤ × UInt32) → Prop) : Prop :=
  match state.pending with
  | [] => True
  | (ticket, events) :: rest => condition ticket events rest

omit [Sodium] in
theorem EventLoopState.atNext_cons {state : EventLoopState}
    {condition : Ticket ℤ → UInt32 → List (Ticket ℤ × UInt32) → Prop} {ticket : Ticket ℤ}
    {events : UInt32} {rest : List (Ticket ℤ × UInt32)}
    (h : state.pending = (ticket, events) :: rest) :
    state.AtNext condition ↔ condition ticket events rest := by
  rw [AtNext, h]

omit [Sodium] in
instance (state : EventLoopState)
    (condition : Ticket ℤ → UInt32 → List (Ticket ℤ × UInt32) → Prop)
    [∀ ticket events rest, Decidable (condition ticket events rest)] :
    Decidable (state.AtNext condition) :=
  match h : state.pending with
  | [] => isTrue (by rw [EventLoopState.AtNext, h]; trivial)
  | (ticket, events) :: rest =>
    decidable_of_iff (condition ticket events rest) (EventLoopState.atNext_cons h).symm

/-- What `run_until_stopped` does: it collects the events of a round, dispatches
the next one, or sweeps between two rounds. -/
inductive LoopAction where
  | collect (ready : List (ℤ × UInt32))
  | dispatch (answers : DispatchAnswers)
  | sweep (now : UInt64) (limits : LimitsConfig)

namespace LoopAction

/-- The state after the action; the signal descriptor ends the loop. -/
def perform (state : EventLoopState) : LoopAction → Option EventLoopState
  | collect ready =>
    if state.pending.isEmpty then
      some { state with pending := ready.map fun event => (state.desk.issue event.1, event.2) }
    else none
  | dispatch answers =>
    match state.pending with
    | [] => none
    | (ticket, events) :: rest =>
      if ticket.slot = state.tables.listeners.signal then none
      else
        some
          { tables := state.tables.dispatchEvent ticket.slot events answers
            pending := rest
            desk := state.desk.assignAll (state.tables.admittedBy ticket.slot answers) }
  | sweep now limits =>
    if state.pending.isEmpty then
      some { state with tables := state.tables.sweepExpired now limits }
    else none

/-- The event dispatched is applied to no other connection than the one it was
collected for: if its descriptor names a client or the administration now, it
names whom it named then. -/
def AppliedToOwn (state : EventLoopState) : LoopAction → Prop
  | dispatch _ => state.AtNext fun ticket _ _ =>
      ticket.slot ∈ state.tables.admins ∨ ticket.slot ∈ state.tables.registry.connections →
        ticket.Valid state.desk
  | _ => True

/-- No connection is accepted under the number of an event that is still
pending. -/
def SparesPending (state : EventLoopState) : LoopAction → Prop
  | dispatch answers => state.AtNext fun ticket _ rest =>
      ∀ later ∈ rest, later.1.slot ∉ state.tables.admittedBy ticket.slot answers
  | _ => True

instance (state : EventLoopState) : (action : LoopAction) → Decidable (action.AppliedToOwn state)
  | collect _ => isTrue trivial
  | dispatch _ => inferInstanceAs (Decidable (state.AtNext _))
  | sweep .. => isTrue trivial

end LoopAction

/-- Whom each pending event was collected for, its descriptor still names. -/
def EventLoopState.Current (state : EventLoopState) : Prop :=
  ∀ event ∈ state.pending, event.1.Valid state.desk

section Runs

variable {state state' : EventLoopState} {action : LoopAction}

/-- What an action can do. Collecting and sweeping stand between two rounds. -/
theorem LoopAction.perform_cases (hstep : action.perform state = some state') :
    (∃ ready, action = .collect ready ∧ state' = { state with
      pending := ready.map fun event => (state.desk.issue event.1, event.2) }) ∨
    (∃ answers ticket events rest, action = .dispatch answers ∧
      state.pending = (ticket, events) :: rest ∧
      state' =
        { tables := state.tables.dispatchEvent ticket.slot events answers
          pending := rest
          desk := state.desk.assignAll (state.tables.admittedBy ticket.slot answers) }) ∨
    (∃ now limits, action = .sweep now limits ∧ state.pending = [] ∧
      state' = { state with tables := state.tables.sweepExpired now limits }) := by
  cases action with
  | collect ready =>
    simp only [perform] at hstep
    split at hstep
    · exact .inl ⟨ready, rfl, (Option.some.inj hstep).symm⟩
    · cases hstep
  | dispatch answers =>
    simp only [perform] at hstep
    split at hstep
    · cases hstep
    · next ticket events rest hpending =>
      split at hstep
      · cases hstep
      · exact .inr (.inl ⟨answers, ticket, events, rest, rfl, hpending,
          (Option.some.inj hstep).symm⟩)
  | sweep now limits =>
    simp only [perform] at hstep
    split at hstep
    · next hempty =>
      exact .inr (.inr ⟨now, limits, rfl, List.isEmpty_iff.mp hempty,
        (Option.some.inj hstep).symm⟩)
    · cases hstep

/-- The desk never falls behind the numbers it has given. -/
theorem EventLoopState.fresh_perform (hfresh : state.desk.Fresh)
    (hstep : action.perform state = some state') : state'.desk.Fresh := by
  obtain ⟨ready, -, rfl⟩ | ⟨answers, ticket, events, rest, -, -, rfl⟩ | ⟨now, limits, -, -, rfl⟩ :=
    LoopAction.perform_cases hstep
  · exact hfresh
  · exact hfresh.assignAll _
  · exact hfresh

/-- An action leaves every pending event with whom it was collected for exactly if
it hands out none of their numbers. -/
theorem EventLoopState.Current.perform_iff (hfresh : state.desk.Fresh) (h : state.Current)
    (hstep : action.perform state = some state') :
    state'.Current ↔ action.SparesPending state := by
  obtain ⟨ready, rfl, rfl⟩ | ⟨answers, ticket, events, rest, rfl, hpending, rfl⟩ |
    ⟨now, limits, rfl, -, rfl⟩ := LoopAction.perform_cases hstep
  · refine iff_of_true ?_ trivial
    intro event hevent
    obtain ⟨collected, -, rfl⟩ := List.mem_map.mp hevent
    exact valid_issue state.desk collected.1
  · refine Iff.trans ?_ (EventLoopState.atNext_cons hpending).symm
    refine forall₂_congr fun event hevent => ?_
    have hvalid : event.1.Valid state.desk :=
      h event (by rw [hpending]; exact List.mem_cons_of_mem _ hevent)
    exact hvalid.assignAll_iff hfresh
  · exact iff_of_true h trivial

omit [Sodium] in
theorem EventLoopState.Current.appliedToOwn (h : state.Current) : action.AppliedToOwn state := by
  cases action with
  | dispatch answers =>
    rcases hpending : state.pending with _ | ⟨⟨ticket, events⟩, rest⟩
    · simp [LoopAction.AppliedToOwn, AtNext, hpending]
    · refine (atNext_cons hpending).mpr fun _ => ?_
      exact h (ticket, events) (by rw [hpending]; exact List.mem_cons_self ..)
  | collect => trivial
  | sweep => trivial

end Runs

/-! ## What an event changes

`accept` only returns descriptors that are not open. Dispatching an event then
leaves every other connection as it is, unless `sessions close` names it, and
hands out no number that is in use. -/

namespace ConnectionRegistry

variable {registry : ConnectionRegistry} {descriptor other : ℤ}

omit [Sodium] in
theorem findConnection_insertConnection (registry : ConnectionRegistry)
    (connection : ClientConnection) (hother : descriptor ≠ other) :
    (registry.insertConnection (some (other, connection))).2.findConnection descriptor =
      registry.findConnection descriptor := by
  simp only [insertConnection]
  split_ifs
  · rfl
  · rfl
  · rfl
  · exact AList.lookup_insert_ne hother

omit [Sodium] in
theorem findConnection_removeConnection (hother : descriptor ≠ other) :
    (registry.removeConnection other).findConnection descriptor =
      registry.findConnection descriptor := by
  simp only [removeConnection]
  split
  · rfl
  · exact AList.lookup_erase_ne hother

omit [Sodium] in
theorem findConnection_withConnection (serve : ClientConnection → ClientConnection)
    (hother : descriptor ≠ other) :
    (registry.withConnection other serve).findConnection descriptor =
      registry.findConnection descriptor := by
  simp only [withConnection]
  split
  · rfl
  · exact AList.lookup_insert_ne hother

omit [Sodium] in
/-- A connection that is inserted and removed again leaves nothing. -/
theorem findConnection_removeConnection_self (descriptor : ℤ) :
    (registry.removeConnection descriptor).findConnection descriptor = none := by
  simp only [removeConnection]
  split
  · next hnone => exact hnone
  · exact AList.lookup_erase _ _

end ConnectionRegistry

namespace DescriptorTables

variable {tables tables' : DescriptorTables} {descriptor other : ℤ} {answers : List AcceptAnswer}

/-- The descriptor is one of the runtime's. -/
def Open (tables : DescriptorTables) (descriptor : ℤ) : Prop :=
  descriptor = tables.listeners.clearnet ∨ descriptor = tables.listeners.onion ∨
    descriptor = tables.listeners.admin ∨ descriptor = tables.listeners.signal ∨
      descriptor ∈ tables.admins ∨ descriptor ∈ tables.registry.connections

omit [Sodium] in
instance (tables : DescriptorTables) (descriptor : ℤ) : Decidable (tables.Open descriptor) :=
  inferInstanceAs (Decidable (_ ∨ _))

/-- A descriptor names the same client and the same connection of the
administration, in the same state, before and after. -/
structure SameAt (before after : DescriptorTables) (descriptor : ℤ) : Prop where
  client : after.registry.findConnection descriptor = before.registry.findConnection descriptor
  admin : after.admins.lookup descriptor = before.admins.lookup descriptor
  listeners : after.listeners = before.listeners

namespace SameAt

omit [Sodium]

theorem refl (tables : DescriptorTables) (descriptor : ℤ) : SameAt tables tables descriptor :=
  ⟨rfl, rfl, rfl⟩

theorem trans {first second third : DescriptorTables} (h : SameAt first second descriptor)
    (h' : SameAt second third descriptor) : SameAt first third descriptor :=
  ⟨h'.client.trans h.client, h'.admin.trans h.admin, h'.listeners.trans h.listeners⟩

/-- What is open stays open. -/
theorem isOpen (h : SameAt tables tables' descriptor) (hopen : tables.Open descriptor) :
    tables'.Open descriptor := by
  have hadmin : descriptor ∈ tables'.admins ↔ descriptor ∈ tables.admins := by
    rw [← AList.lookup_isSome, ← AList.lookup_isSome, h.admin]
  have hclient : descriptor ∈ tables'.registry.connections ↔
      descriptor ∈ tables.registry.connections := by
    rw [← AList.lookup_isSome, ← AList.lookup_isSome]
    exact iff_of_eq (congrArg (fun found => Option.isSome found = true) h.client)
  rwa [Open, h.listeners, hadmin, hclient]

theorem closeConnection (hother : descriptor ≠ other) :
    SameAt tables (tables.closeConnection other) descriptor :=
  ⟨ConnectionRegistry.findConnection_removeConnection hother, rfl, rfl⟩

theorem closeConnections {requests : List ℤ} (hother : descriptor ∉ requests) :
    SameAt tables (requests.foldl DescriptorTables.closeConnection tables) descriptor := by
  induction requests generalizing tables with
  | nil => exact .refl _ _
  | cons request requests ih =>
    have hrequest : descriptor ≠ request := fun heq => hother (heq ▸ List.mem_cons_self ..)
    exact (closeConnection hrequest).trans (ih fun hmem => hother (List.mem_cons_of_mem _ hmem))

/-- What is done to another connection in place. -/
theorem withConnection (serve : ClientConnection → ClientConnection) (hother : descriptor ≠ other) :
    SameAt tables { tables with registry := tables.registry.withConnection other serve }
      descriptor :=
  ⟨ConnectionRegistry.findConnection_withConnection serve hother, rfl, rfl⟩

theorem serviceAdmin (answers : DispatchAnswers) (hother : descriptor ≠ other) :
    SameAt tables (tables.serviceAdmin other answers).2 descriptor := by
  simp only [DescriptorTables.serviceAdmin]
  split
  · exact .refl _ _
  · split
    · exact ⟨rfl, AList.lookup_erase_ne hother, rfl⟩
    · exact ⟨rfl, AList.lookup_insert_ne hother, rfl⟩

end SameAt

/-- Servicing a client leaves all others as they are. -/
theorem SameAt.serviceConnection (events : UInt32) (answers : ClientAnswers)
    (hother : descriptor ≠ other) :
    SameAt tables (tables.serviceConnection other events answers) descriptor := by
  simp only [DescriptorTables.serviceConnection]
  split
  · exact .refl _ _
  next connection hfound =>
  by_cases hhangup : events &&& (epollHup ||| epollErr) ≠ 0
  · rw [if_pos hhangup]
    exact closeConnection hother
  rw [if_neg hhangup]
  generalize (if events &&& epollIn ≠ 0 then _ else _ : Bool × ProcessorState) = out
  rcases out with ⟨_ | _, state⟩
  · exact (withConnection _ hother).trans (closeConnection hother)
  · simp only [Bool.not_true, Bool.false_eq_true, if_false]
    split
    · exact (withConnection _ hother).trans (closeConnection hother)
    · split
      · exact (withConnection _ hother).trans (withConnection _ hother)
      · exact ((withConnection _ hother).trans (withConnection _ hother)).trans
          (closeConnection hother)

/-! ### Descriptors that are accepted -/

/-- Taking one descriptor changes nothing under any other, nor under this one if it
does not stay: it was not open. -/
def TakesNew (accept : DescriptorTables → AcceptAnswer → Bool × DescriptorTables) : Prop :=
  ∀ tables answer descriptor, ¬ tables.Open answer.descriptor →
    ((accept tables answer).1 = true → descriptor ≠ answer.descriptor) →
    SameAt tables (accept tables answer).2 descriptor

theorem acceptConnection_takesNew : TakesNew acceptConnection := by
  intro tables answer descriptor hnew hkept
  rcases hinsert : tables.registry.insertConnection (some (answer.descriptor,
    ClientConnection.accepted tables.staticPublic tables.staticSecret answer.peerAddress
      answer.acceptedAt)) with ⟨_ | _, registry⟩
  · simp only [acceptConnection, hinsert]
    exact .refl _ _
  have hinserted (hother : descriptor ≠ answer.descriptor) :
      SameAt tables { tables with registry } descriptor := by
    have hsame := tables.registry.findConnection_insertConnection
      (ClientConnection.accepted tables.staticPublic tables.staticSecret answer.peerAddress
        answer.acceptedAt) hother
    rw [hinsert] at hsame
    exact ⟨hsame, rfl, rfl⟩
  simp only [acceptConnection, hinsert] at hkept ⊢
  by_cases hwatched : answer.watched = true
  · rw [if_pos hwatched] at hkept ⊢
    exact hinserted (hkept rfl)
  rw [if_neg hwatched]
  by_cases hother : descriptor = answer.descriptor
  · have hunknown : tables.registry.findConnection descriptor = none :=
      AList.lookup_eq_none.mpr fun hmem => hnew (.inr (.inr (.inr (.inr (.inr (hother ▸ hmem))))))
    refine ⟨?_, rfl, rfl⟩
    rw [hunknown, hother]
    exact ConnectionRegistry.findConnection_removeConnection_self _
  · exact (hinserted hother).trans (.closeConnection hother)

omit [Sodium] in
theorem acceptAdminConnection_takesNew : TakesNew acceptAdminConnection := by
  intro tables answer descriptor hnew hkept
  have hunknown : answer.descriptor ∉ tables.admins :=
    fun hmem => hnew (.inr (.inr (.inr (.inr (.inl hmem)))))
  simp only [acceptAdminConnection, if_neg hunknown] at hkept ⊢
  by_cases hwatched : answer.watched = true
  · rw [if_pos hwatched] at hkept ⊢
    exact ⟨rfl, AList.lookup_insert_ne (hkept rfl), rfl⟩
  rw [if_neg hwatched]
  refine ⟨rfl, ?_, rfl⟩
  by_cases hother : descriptor = answer.descriptor
  · rw [hother]
    exact (AList.lookup_erase _ _).trans (AList.lookup_eq_none.mpr hunknown).symm
  · exact (AList.lookup_erase_ne hother).trans (AList.lookup_insert_ne hother)

omit [Sodium] in
/-- Every descriptor `accept` returns is a new one. -/
def NewDescriptors (accept : DescriptorTables → AcceptAnswer → Bool × DescriptorTables) :
    DescriptorTables → List AcceptAnswer → Prop
  | _, [] => True
  | tables, answer :: answers =>
    ¬ tables.Open answer.descriptor ∧ NewDescriptors accept (accept tables answer).2 answers

omit [Sodium] in
instance decidableNewDescriptors
    (accept : DescriptorTables → AcceptAnswer → Bool × DescriptorTables) :
    (tables : DescriptorTables) → (answers : List AcceptAnswer) →
      Decidable (NewDescriptors accept tables answers)
  | _, [] => isTrue trivial
  | _, _ :: _ => @instDecidableAnd _ _ inferInstance (decidableNewDescriptors accept _ _)

omit [Sodium] in
/-- Descriptors are accepted one after the other: only those that stay change, and
none of them was open before. -/
theorem TakesNew.acceptAll {accept : DescriptorTables → AcceptAnswer → Bool × DescriptorTables}
    (htakes : TakesNew accept) (hnew : NewDescriptors accept tables answers) :
    (∀ descriptor ∉ admitted accept tables answers,
      SameAt tables (answers.foldl (fun tables answer => (accept tables answer).2) tables)
        descriptor) ∧
    ∀ descriptor ∈ admitted accept tables answers, ¬ tables.Open descriptor := by
  induction answers generalizing tables with
  | nil => exact ⟨fun _ _ => .refl _ _, fun _ hmem => absurd hmem List.not_mem_nil⟩
  | cons answer answers ih =>
    obtain ⟨hsame, hfresh⟩ := ih hnew.2
    have hfirst := fun descriptor => htakes tables answer descriptor hnew.1
    have hlater : ∀ descriptor ∈ admitted accept (accept tables answer).2 answers,
        ¬ tables.Open descriptor := by
      intro descriptor hmem hopen
      have hother : descriptor ≠ answer.descriptor := fun heq => hnew.1 (heq ▸ hopen)
      exact hfresh descriptor hmem ((hfirst descriptor fun _ => hother).isOpen hopen)
    simp only [admitted]
    split
    · refine ⟨fun descriptor hnot => ?_, fun descriptor hmem => ?_⟩
      · rw [List.mem_cons, not_or] at hnot
        exact (hfirst descriptor fun _ => hnot.1).trans (hsame descriptor hnot.2)
      · rcases List.mem_cons.mp hmem with rfl | hmem
        · exact hnew.1
        · exact hlater descriptor hmem
    · next hgone =>
      exact ⟨fun descriptor hnot => (hfirst descriptor fun hkept => absurd hkept hgone).trans
        (hsame descriptor hnot), hlater⟩

/-- The descriptors accepted for an event are new ones. -/
def AcceptsNew (tables : DescriptorTables) (descriptor : ℤ) (answers : DispatchAnswers) : Prop :=
  if descriptor = tables.listeners.clearnet ∨ descriptor = tables.listeners.onion then
    NewDescriptors acceptConnection tables (answers.accepted.take maxAcceptsPerCall)
  else if descriptor = tables.listeners.admin then
    NewDescriptors acceptAdminConnection tables answers.accepted
  else True

instance (tables : DescriptorTables) (descriptor : ℤ) (answers : DispatchAnswers) :
    Decidable (tables.AcceptsNew descriptor answers) :=
  inferInstanceAs (Decidable (
    if descriptor = tables.listeners.clearnet ∨ descriptor = tables.listeners.onion then
      NewDescriptors acceptConnection tables (answers.accepted.take maxAcceptsPerCall)
    else if descriptor = tables.listeners.admin then
      NewDescriptors acceptAdminConnection tables answers.accepted
    else True))

omit [Sodium] in
/-- The sessions an event asks to be closed. -/
def closeRequests (tables : DescriptorTables) (descriptor : ℤ) (answers : DispatchAnswers) :
    List ℤ :=
  (tables.serviceAdmin descriptor answers).1

omit [Sodium] in
/-- At most one, and a live one. -/
theorem closeRequests_closesOne (tables : DescriptorTables) (descriptor : ℤ)
    (answers : DispatchAnswers) :
    ClosesOne tables.registry (tables.closeRequests descriptor answers) := by
  simp only [closeRequests, serviceAdmin]
  split
  · exact .inl rfl
  next connection _ =>
  have hone : ClosesOne tables.registry (((serviceAdminConnection
      (answers.console.execute tables.registry) answers.admin connection).2.map
        AdminReply.closeRequests).getD []) := by
    cases hreply : (serviceAdminConnection (answers.console.execute tables.registry) answers.admin
      connection).2 with
    | none => exact .inl rfl
    | some reply =>
      obtain ⟨-, _, -, hbuilt⟩ := serviceAdminConnection_executed hreply
      obtain ⟨command, -, rfl⟩ := buildResponse_executed hbuilt
      exact executeAdminCommand_closesOne ..
  split <;> exact hone

/-- What an event on a descriptor may change: the connection on this descriptor, at
most one session that is asked to be closed, and descriptors that were not in
use and are admitted. Everything else is as it was. -/
structure Confined (before after : DescriptorTables) (descriptor : ℤ) (requests admitted : List ℤ) :
    Prop where
  others : ∀ other, other ≠ descriptor → other ∉ requests → other ∉ admitted →
    SameAt before after other
  requested : ClosesOne before.registry requests
  unused : ∀ other ∈ admitted, ¬ before.Open other

/-- Dispatching an event is confined to its descriptor. -/
theorem dispatchEvent_confined (events : UInt32) {answers : DispatchAnswers}
    (hnew : tables.AcceptsNew descriptor answers) :
    Confined tables (tables.dispatchEvent descriptor events answers) descriptor
      (tables.closeRequests descriptor answers) (tables.admittedBy descriptor answers) := by
  have hrequested := closeRequests_closesOne tables descriptor answers
  by_cases hlistener : descriptor = tables.listeners.clearnet ∨ descriptor = tables.listeners.onion
  · rw [AcceptsNew, if_pos hlistener] at hnew
    rw [dispatchEvent, admittedBy, if_pos hlistener, if_pos hlistener]
    obtain ⟨hsame, hunused⟩ := acceptConnection_takesNew.acceptAll hnew
    exact ⟨fun other _ _ hnot => hsame other hnot, hrequested, hunused⟩
  by_cases hadmin : descriptor = tables.listeners.admin
  · rw [AcceptsNew, if_neg hlistener, if_pos hadmin] at hnew
    rw [dispatchEvent, admittedBy, if_neg hlistener, if_pos hadmin, if_neg hlistener,
      if_pos hadmin]
    obtain ⟨hsame, hunused⟩ := acceptAdminConnection_takesNew.acceptAll hnew
    exact ⟨fun other _ _ hnot => hsame other hnot, hrequested, hunused⟩
  rw [dispatchEvent, admittedBy, if_neg hlistener, if_neg hadmin, if_neg hlistener, if_neg hadmin]
  refine ⟨fun other hother hrequests _ => ?_, hrequested, fun _ hmem => by cases hmem⟩
  split
  · exact (SameAt.serviceAdmin answers hother).trans (.closeConnections hrequests)
  · exact .serviceConnection events answers.client hother

end DescriptorTables

namespace LoopAction

/-- What the system guarantees: `epoll_wait` reports open descriptors, each of them
once, and `accept` returns descriptors that are not open. -/
def Guaranteed (state : EventLoopState) : LoopAction → Prop
  | collect ready =>
    (ready.map Prod.fst).Nodup ∧ ∀ event ∈ ready, state.tables.Open event.1
  | dispatch answers => state.AtNext fun ticket _ _ => state.tables.AcceptsNew ticket.slot answers
  | sweep _ _ => True

omit [Sodium] in
/-- No `sessions close` names a session whose event is still pending. -/
def ClosesNoPending (state : EventLoopState) : LoopAction → Prop
  | dispatch answers => state.AtNext fun ticket _ rest =>
      ∀ later ∈ rest, later.1.slot ∉ state.tables.closeRequests ticket.slot answers
  | _ => True

/-- Dispatching an event changes nothing but its own connection, at most one live
session it asks to be closed, and numbers that were not in use and are handed
out; the connections whose events are still pending stay as they are, each
under its number. -/
def HitsNoOther (state : EventLoopState) : LoopAction → Prop
  | dispatch answers => state.AtNext fun ticket events rest =>
      DescriptorTables.Confined state.tables
        (state.tables.dispatchEvent ticket.slot events answers) ticket.slot
        (state.tables.closeRequests ticket.slot answers)
        (state.tables.admittedBy ticket.slot answers) ∧
      ∀ later ∈ rest, DescriptorTables.SameAt state.tables
        (state.tables.dispatchEvent ticket.slot events answers) later.1.slot
  | _ => True

instance (state : EventLoopState) : (action : LoopAction) → Decidable (action.Guaranteed state)
  | collect _ => inferInstanceAs (Decidable (_ ∧ _))
  | dispatch _ => inferInstanceAs (Decidable (state.AtNext _))
  | sweep .. => isTrue trivial

omit [Sodium] in
instance (state : EventLoopState) :
    (action : LoopAction) → Decidable (action.ClosesNoPending state)
  | collect _ => isTrue trivial
  | dispatch _ => inferInstanceAs (Decidable (state.AtNext _))
  | sweep .. => isTrue trivial

end LoopAction

omit [Sodium] in
/-- The pending events name different descriptors, and these are open. -/
structure EventLoopState.Pending (state : EventLoopState) : Prop where
  distinct : (state.pending.map fun event => event.1.slot).Nodup
  opened : ∀ event ∈ state.pending, state.tables.Open event.1.slot

section Numbers

variable {state state' : EventLoopState} {action : LoopAction}

omit [Sodium] in
theorem EventLoopState.Pending.tail {ticket : Ticket ℤ} {events : UInt32}
    {rest : List (Ticket ℤ × UInt32)} (h : state.Pending)
    (hpending : state.pending = (ticket, events) :: rest) {later : Ticket ℤ × UInt32}
    (hlater : later ∈ rest) : later.1.slot ≠ ticket.slot ∧ state.tables.Open later.1.slot := by
  have hdistinct := h.distinct
  rw [hpending, List.map_cons] at hdistinct
  refine ⟨fun heq => (List.nodup_cons.mp hdistinct).1 ?_, h.opened later ?_⟩
  · rw [← heq]
    exact List.mem_map_of_mem hlater
  · rw [hpending]
    exact List.mem_cons_of_mem _ hlater

/-- The next event, and what it does to those behind it. -/
theorem EventLoopState.Pending.dispatch {ticket : Ticket ℤ} {events : UInt32}
    {rest : List (Ticket ℤ × UInt32)} {answers : DispatchAnswers} (h : state.Pending)
    (hcondition : (LoopAction.dispatch answers).Guaranteed state ∧
      (LoopAction.dispatch answers).ClosesNoPending state)
    (hpending : state.pending = (ticket, events) :: rest) :
    DescriptorTables.Confined state.tables
      (state.tables.dispatchEvent ticket.slot events answers) ticket.slot
      (state.tables.closeRequests ticket.slot answers)
      (state.tables.admittedBy ticket.slot answers) ∧
    ∀ later ∈ rest, later.1.slot ∉ state.tables.admittedBy ticket.slot answers ∧
      DescriptorTables.SameAt state.tables
        (state.tables.dispatchEvent ticket.slot events answers) later.1.slot := by
  obtain ⟨hguaranteed, hcloses⟩ := hcondition
  have hconfined := DescriptorTables.dispatchEvent_confined events
    ((EventLoopState.atNext_cons hpending).mp hguaranteed)
  refine ⟨hconfined, fun later hlater => ?_⟩
  obtain ⟨hother, hopen⟩ := h.tail hpending hlater
  have hnot : later.1.slot ∉ state.tables.admittedBy ticket.slot answers :=
    fun hmem => hconfined.unused _ hmem hopen
  exact ⟨hnot, hconfined.others _ hother
    ((EventLoopState.atNext_cons hpending).mp hcloses later hlater) hnot⟩

theorem EventLoopState.Pending.perform (h : state.Pending)
    (hcondition : action.Guaranteed state ∧ action.ClosesNoPending state)
    (hstep : action.perform state = some state') : state'.Pending := by
  obtain ⟨ready, rfl, rfl⟩ | ⟨answers, ticket, events, rest, rfl, hpending, rfl⟩ |
    ⟨now, limits, rfl, hnone, rfl⟩ := LoopAction.perform_cases hstep
  · constructor
    · simpa [Function.comp_def, Desk.issue] using hcondition.1.1
    · intro event hevent
      obtain ⟨collected, hcollected, rfl⟩ := List.mem_map.mp hevent
      exact hcondition.1.2 collected hcollected
  · constructor
    · have hdistinct := h.distinct
      rw [hpending, List.map_cons] at hdistinct
      exact (List.nodup_cons.mp hdistinct).2
    · intro later hlater
      exact ((h.dispatch hcondition hpending).2 later hlater).2.isOpen (h.tail hpending hlater).2
  · -- a sweep closes connections, but nothing is pending then
    constructor
    · simp [hnone]
    · intro event hevent
      rw [hnone] at hevent
      cases hevent

/-- No pending number is handed out, and nothing but the event's own connection
changes. -/
theorem EventLoopState.Pending.hitsNoOther (h : state.Pending)
    (hcondition : action.Guaranteed state ∧ action.ClosesNoPending state) :
    action.SparesPending state ∧ action.HitsNoOther state := by
  cases action with
  | dispatch answers =>
    rcases hpending : state.pending with _ | ⟨⟨ticket, events⟩, rest⟩
    · simp [LoopAction.SparesPending, LoopAction.HitsNoOther, EventLoopState.AtNext, hpending]
    · obtain ⟨hconfined, hlater⟩ := h.dispatch hcondition hpending
      exact ⟨(EventLoopState.atNext_cons hpending).mpr fun later hmem => (hlater later hmem).1,
        (EventLoopState.atNext_cons hpending).mpr
          ⟨hconfined, fun later hmem => (hlater later hmem).2⟩⟩
  | collect => exact ⟨trivial, trivial⟩
  | sweep => exact ⟨trivial, trivial⟩

end Numbers

/-- In a run in which no `sessions close` names a session whose event is pending,
every event is applied to the connection it was collected for, and to no other:
dispatching it leaves all other connections as they are, but for one session it
asks to be closed, whose own event is not pending, and those that are admitted
under numbers not in use. -/
theorem stale_events_harmless (tables : DescriptorTables) (actions : List LoopAction)
    (hcondition : Along LoopAction.perform
      (fun state action => action.Guaranteed state ∧ action.ClosesNoPending state)
      { tables } actions) :
    Along LoopAction.perform
      (fun state action => action.AppliedToOwn state ∧ action.HitsNoOther state)
      { tables } actions :=
  Along.of_invariant (I := fun state => state.desk.Fresh ∧ state.Current ∧ state.Pending)
    (fun h hcondition hstep => ⟨EventLoopState.fresh_perform h.1 hstep,
      (EventLoopState.Current.perform_iff h.1 h.2.1 hstep).mpr (h.2.2.hitsNoOther hcondition).1,
      h.2.2.perform hcondition hstep⟩)
    (fun h hcondition => ⟨EventLoopState.Current.appliedToOwn h.2.1,
      (h.2.2.hitsNoOther hcondition).2⟩)
    ⟨fun _ => Nat.zero_lt_one, (fun _ hevent => by cases hevent),
      ⟨List.nodup_nil, fun _ hevent => by cases hevent⟩⟩ hcondition

/-! ## A round with a descriptor used again -/

/-- A client on descriptor 5 and the administration on 7. -/
def busyTables : DescriptorTables :=
  let _ := transparentSodium
  { listeners := { clearnet := 3, signal := 4 }
    staticPublic := FixedBytes.zero _
    staticSecret := FixedBytes.zero _
    registry := ((ConnectionRegistry.empty 8 8).insertConnection
      (some (5, .accepted (FixedBytes.zero _) (FixedBytes.zero _) (ascii "::1") 0))).2
    admins := AList.singleton 7 {} }

/-- A command of the administration, a client that connects, and the hang-up of
the client on descriptor 5. -/
def busyRound (command : ByteString) (accepted : ℤ) : List LoopAction :=
  let idle : ClientAnswers := { policy := { perAddress := 0, perIdentity := 0 } }
  [.collect [(7, epollIn), (3, epollIn), (5, epollHup)],
    .dispatch { admin := { received := [command ++ [0x0A]], sent := [4096] }, client := idle },
    .dispatch { accepted := [{ descriptor := accepted, peerAddress := ascii "::2" }], client := idle },
    .dispatch { client := idle }]

omit [Sodium] in
/-- The new client gets a number of its own. -/
theorem stale_events_harmless_fresh :
    letI := transparentSodium
    Along LoopAction.perform
      (fun state action => action.AppliedToOwn state ∧ action.HitsNoOther state)
      { tables := busyTables } (busyRound (ascii "sessions list") 8) := by
  have hcondition : letI := transparentSodium
      Along LoopAction.perform
        (fun state action => action.Guaranteed state ∧ action.ClosesNoPending state)
        { tables := busyTables } (busyRound (ascii "sessions list") 8) := by
    decide +kernel
  exact @stale_events_harmless transparentSodium busyTables _ hcondition

omit [Sodium] in
/-- The session on descriptor 5 is closed and its number handed out again; the
hang-up of the old client then closes the new one. -/
theorem stale_event_closes_new :
    letI := transparentSodium
    (after LoopAction.perform { tables := busyTables }
      ((busyRound (ascii "sessions close 5") 5).take 3)).map
        (fun state => (state.tables.registry.findConnection 5).map
          (·.session.peerAddress)) = some (some (ascii "::2")) ∧
      (after LoopAction.perform { tables := busyTables }
        (busyRound (ascii "sessions close 5") 5)).map
          (fun state => (state.tables.registry.findConnection 5).isSome) = some false ∧
      ¬ Along LoopAction.perform (fun state action => action.AppliedToOwn state)
        { tables := busyTables } (busyRound (ascii "sessions close 5") 5) := by
  let _ := transparentSodium
  decide +kernel

end HyperCom
