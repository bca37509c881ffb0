import HyperCom.Lib.Run
import HyperCom.Server.EventLoop

/-!
# When administration connections go away

`flush_buffer` takes every `send` that takes nothing for one to be tried again, as it
cannot tell without `errno`; `connection_socket::flush_pending_writes` can. So an
administration connection is closed when its peer ends the stream before the response
is ready, and when the response has been taken whole. One whose peer is gone by then
stays, is reported by the loop again and again, and sends to nobody (`gone_peer_stays`).

The turns of the loop are given as what each `send` and each `recv` of the connection
returns, in the order in which the loop comes round. So nothing is assumed about when a peer
goes away.
-/

namespace HyperCom

open AdminDispatcher

/-! ## What the system reports -/

/-- What one `send` reports: the bytes it took, or why it took none. -/
inductive AdminSend where
  | taken (count : ℕ)
  | wouldBlock
  | interrupted
  | failed
deriving DecidableEq

/-- What `flush_buffer` sees of it. -/
def AdminSend.count : AdminSend → ℕ
  | taken count => count
  | wouldBlock | interrupted | failed => 0

/-- What the system reports while one administration connection is serviced. -/
structure AdminOutcome where
  received : List ByteString := []
  /-- `recv` then reports the end of the stream, otherwise that nothing is left -/
  ended : Bool := false
  sends : List AdminSend := []
  /-- `watch_descriptor` succeeds -/
  watched : Bool := true

namespace AdminOutcome

/-- What the service makes of it. -/
def toAnswers (outcome : AdminOutcome) : AdminAnswers :=
  { received := outcome.received, ended := outcome.ended
    sent := outcome.sends.map AdminSend.count, watched := outcome.watched }

/-- `read_into_buffer` gets to the last `recv`: no chunk before it is too long. -/
def readsToEnd : List ByteString → ByteString → Bool
  | [], _ => true
  | chunk :: chunks, buffer =>
    if buffer.length + chunk.length > maxRequestBytes then false
    else readsToEnd chunks (buffer ++ chunk)

/-- `flush_buffer` gets to a `send` that fails. -/
def failsToSend : List AdminSend → ByteString → Bool
  | _, [] => false
  | .taken (count + 1) :: sends, output@(_ :: _) => failsToSend sends (output.drop (count + 1))
  | .failed :: _, _ :: _ => true
  | _, _ :: _ => false

/-- The connection as `flush_buffer` finds it, if the service gets that far. -/
def beforeFlush (outcome : AdminOutcome) (execute : AdminCommand → AdminReply)
    (connection : AdminConnection) : Option AdminConnection :=
  let read := if connection.responseReady then (true, connection.input)
    else readIntoBuffer outcome.ended outcome.received connection.input
  if !read.1 then none
  else
    let connection := { connection with input := read.2 }
    let built := if connection.responseReady then connection
      else (buildResponse execute connection).1
    if built.responseReady then some built else none

/-- `recv` reports the end of the stream in this service. -/
def EndReported (outcome : AdminOutcome) (connection : AdminConnection) : Prop :=
  connection.responseReady = false ∧ outcome.ended = true ∧
    readsToEnd outcome.received connection.input = true

/-- `send` reports an error in this service, other than that it would block or was
interrupted. -/
def SendErrorReported (outcome : AdminOutcome) (execute : AdminCommand → AdminReply)
    (connection : AdminConnection) : Prop :=
  ∃ built, outcome.beforeFlush execute connection = some built ∧
    failsToSend outcome.sends built.output = true

end AdminOutcome

/-! ## One service -/

section Service

variable {execute : AdminCommand → AdminReply} {outcome : AdminOutcome}
  {connection : AdminConnection}

/-- A `send` that fails leaves something to be sent. -/
theorem flushBuffer_of_fails {sends : List AdminSend} {output : ByteString}
    (h : AdminOutcome.failsToSend sends output = true) :
    (flushBuffer (sends.map AdminSend.count) output).1 = true := by
  induction sends generalizing output with
  | nil =>
    cases output with
    | nil => cases h
    | cons byte rest => rfl
  | cons send sends ih =>
    cases output with
    | nil => cases h
    | cons byte rest =>
      cases send with
      | taken count =>
        cases count with
        | zero => rfl
        | succ count => exact ih h
      | wouldBlock => rfl
      | interrupted => rfl
      | failed => rfl

theorem readIntoBuffer_of_ended {chunks : List ByteString} {buffer : ByteString} :
    (readIntoBuffer true chunks buffer).1 = false := by
  induction chunks generalizing buffer with
  | nil => rfl
  | cons chunk chunks ih =>
    rw [readIntoBuffer]
    split
    · rfl
    · exact ih

/-- The end of the stream closes the connection. -/
theorem serviceAdminConnection_ended (h : outcome.EndReported connection) :
    (serviceAdminConnection execute outcome.toAnswers connection).1 = none := by
  obtain ⟨hready, hended, -⟩ := h
  have hread : (readIntoBuffer outcome.ended outcome.received connection.input).1 = false := by
    rw [hended]
    exact readIntoBuffer_of_ended
  simp [serviceAdminConnection, AdminOutcome.toAnswers, hready, hread]

/-- A connection that has something left to send stays if it can be watched. -/
theorem serviceAdminConnection_remaining {built : AdminConnection}
    (hbuilt : outcome.beforeFlush execute connection = some built)
    (hremains : (flushBuffer (outcome.sends.map AdminSend.count) built.output).1 = true) :
    (serviceAdminConnection execute outcome.toAnswers connection).1 =
      if outcome.watched then some { built with
        output := (flushBuffer (outcome.sends.map AdminSend.count) built.output).2 } else none := by
  rcases hread : (if connection.responseReady = true then (true, connection.input)
    else readIntoBuffer outcome.ended outcome.received connection.input) with ⟨_ | _, input⟩
  · simp [AdminOutcome.beforeFlush, hread] at hbuilt
  simp only [AdminOutcome.beforeFlush, hread, Bool.not_true, Bool.false_eq_true, if_false] at hbuilt
  simp only [serviceAdminConnection, AdminOutcome.toAnswers, hread, Bool.not_true,
    Bool.false_eq_true, if_false]
  cases hready : connection.responseReady with
  | true =>
    simp only [hready, if_true, Option.some.injEq] at hbuilt
    subst hbuilt
    cases hwatched : outcome.watched with
    | true => simp [hremains]
    | false => simp [hremains]
  | false =>
    simp only [hready, Bool.false_eq_true, if_false] at hbuilt
    split at hbuilt
    · next hresponse =>
      obtain rfl := Option.some.inj hbuilt
      cases hwatched : outcome.watched with
      | true => simp [hresponse, hremains]
      | false => simp [hresponse, hremains]
    · cases hbuilt

/-- In one service: where the end of the stream or a failing `send` is reported, the
connection is closed, unless it is a failing `send` and the connection can be watched. -/
theorem serviceAdminConnection_closed_iff :
    (outcome.EndReported connection ∨ outcome.SendErrorReported execute connection →
      (serviceAdminConnection execute outcome.toAnswers connection).1 = none) ↔
    (outcome.SendErrorReported execute connection → outcome.watched = false) := by
  constructor
  · intro hclosed hsend
    have hnone := hclosed (.inr hsend)
    obtain ⟨built, hbuilt, hfails⟩ := hsend
    rw [serviceAdminConnection_remaining hbuilt (flushBuffer_of_fails hfails)] at hnone
    cases hwatched : outcome.watched with
    | true => simp [hwatched] at hnone
    | false => rfl
  · rintro hunwatched (hended | hsend)
    · exact serviceAdminConnection_ended hended
    · have hwatched := hunwatched hsend
      obtain ⟨built, hbuilt, hfails⟩ := hsend
      rw [serviceAdminConnection_remaining hbuilt (flushBuffer_of_fails hfails), hwatched]
      rfl

end Service

/-! ## Runs of the loop -/

/-- What the loop takes next: an event, with what the system reports while it is
dispatched, or the sweep. -/
inductive LoopTurn where
  | dispatched (descriptor : ℤ) (events : UInt32) (answers : DispatchAnswers)
      (outcome : AdminOutcome)
  | swept (now : UInt64) (limits : LimitsConfig)

/-- The event goes to the service of an administration connection. -/
def DescriptorTables.RoutesToAdmin (tables : DescriptorTables) (descriptor : ℤ)
    (connection : AdminConnection) : Prop :=
  descriptor ≠ tables.listeners.clearnet ∧ descriptor ≠ tables.listeners.onion ∧
    descriptor ≠ tables.listeners.admin ∧ tables.admins.lookup descriptor = some connection

variable [Sodium]

namespace LoopTurn

/-- The tables after the turn. -/
def perform (tables : DescriptorTables) : LoopTurn → Option DescriptorTables
  | dispatched descriptor events answers outcome =>
    some (tables.dispatchEvent descriptor events { answers with admin := outcome.toAnswers })
  | swept now limits => some (tables.sweepExpired now limits)

/-- A connection on which the end of the stream or a failing `send` is reported is gone. -/
def Reclaims (tables : DescriptorTables) : LoopTurn → Prop
  | dispatched descriptor events answers outcome =>
    ∀ connection, tables.RoutesToAdmin descriptor connection →
      outcome.EndReported connection ∨ outcome.SendErrorReported (answers.console.execute tables.registry)
        connection →
        descriptor ∉ (tables.dispatchEvent descriptor events
          { answers with admin := outcome.toAnswers }).admins
  | swept .. => True

/-- No `send` to an administration connection fails while the connection can be watched. -/
def SendsOrUnwatched (tables : DescriptorTables) : LoopTurn → Prop
  | dispatched descriptor _ answers outcome =>
    ∀ connection, tables.RoutesToAdmin descriptor connection →
      outcome.SendErrorReported (answers.console.execute tables.registry) connection →
        outcome.watched = false
  | swept .. => True

end LoopTurn

section Turns

variable {tables : DescriptorTables} {descriptor : ℤ} {connection : AdminConnection}

omit [Sodium] in
theorem DescriptorTables.closeConnections_admins (descriptors : List ℤ) (tables : DescriptorTables) :
    (descriptors.foldl DescriptorTables.closeConnection tables).admins = tables.admins := by
  induction descriptors generalizing tables with
  | nil => rfl
  | cons descriptor descriptors ih => exact ih _

/-- What is left of the connection that was serviced. -/
theorem DescriptorTables.dispatchEvent_admins (h : tables.RoutesToAdmin descriptor connection)
    (events : UInt32) (answers : DispatchAnswers) :
    (tables.dispatchEvent descriptor events answers).admins.lookup descriptor =
      (serviceAdminConnection (answers.console.execute tables.registry) answers.admin
        connection).1 := by
  obtain ⟨hclearnet, honion, hadmin, hfound⟩ := h
  have hmem : descriptor ∈ tables.admins := AList.lookup_isSome.mp (by rw [hfound]; rfl)
  rw [dispatchEvent, if_neg (not_or.mpr ⟨hclearnet, honion⟩), if_neg hadmin, if_pos hmem]
  dsimp only
  rw [closeConnections_admins, serviceAdmin, hfound]
  dsimp only
  rcases serviceAdminConnection (answers.console.execute tables.registry) answers.admin
    connection with ⟨_ | left, reply⟩
  · exact AList.lookup_erase ..
  · exact AList.lookup_insert ..

theorem LoopTurn.reclaims_iff (turn : LoopTurn) :
    turn.Reclaims tables ↔ turn.SendsOrUnwatched tables := by
  cases turn with
  | swept => exact Iff.rfl
  | dispatched descriptor events answers outcome =>
    refine forall_congr' fun connection => forall_congr' fun hroutes => ?_
    rw [← serviceAdminConnection_closed_iff, ← AList.lookup_eq_none,
      DescriptorTables.dispatchEvent_admins hroutes]

end Turns

/-- In every run of the loop, whatever the system reports: the administration connections
on which an end or an error was reported are all gone exactly if no `send` failed on one
that could be watched. -/
theorem admin_reclaimed_iff (tables : DescriptorTables) (turns : List LoopTurn) :
    StepRun.Along LoopTurn.perform (fun tables turn => turn.Reclaims tables) tables turns ↔
      StepRun.Along LoopTurn.perform (fun tables turn => turn.SendsOrUnwatched tables) tables
        turns :=
  ⟨StepRun.Along.mono fun _ turn => turn.reclaims_iff.mp,
    StepRun.Along.mono fun _ turn => turn.reclaims_iff.mpr⟩

/-! ## A peer that does not wait for its response -/

/-- A server with an administration socket on descriptor 3. -/
def adminTables : DescriptorTables :=
  let _ := transparentSodium
  { listeners := { admin := 3, signal := 4 }
    staticPublic := FixedBytes.zero _
    staticSecret := FixedBytes.zero _
    registry := ConnectionRegistry.empty 8 8 }

def adminTurn (descriptor : ℤ) (accepted : List AcceptAnswer) (outcome : AdminOutcome) : LoopTurn :=
  .dispatched descriptor epollIn
    { accepted, client := { policy := { perAddress := 0, perIdentity := 0 } } } outcome

/-- A connection on descriptor 7, and a request that is answered but not yet read. -/
def askedTurns : List LoopTurn :=
  [adminTurn 3 [{ descriptor := 7 }] {},
    adminTurn 7 [] { received := [ascii "help\n"], sends := [.wouldBlock] }]

/-- The peer is gone. -/
def goneTurn : LoopTurn := adminTurn 7 [] { sends := [.failed] }

/-- The tables with the response waiting. -/
def askedTables : DescriptorTables :=
  { adminTables with
    admins := AList.singleton 7 { output := buildHelp, responseReady := true } }

omit [Sodium] in
theorem goneTurn_askedTables :
    letI := transparentSodium
    goneTurn.perform askedTables = some askedTables := rfl

omit [Sodium] in
/-- However often the loop comes back to it, the connection of the peer that is gone is
still there, with all of its response. -/
theorem gone_peer_stays :
    letI := transparentSodium
    ¬ StepRun.Along LoopTurn.perform (fun tables turn => turn.Reclaims tables) adminTables
      (askedTurns ++ [goneTurn]) ∧
    ∀ count, StepRun.after LoopTurn.perform adminTables
      (askedTurns ++ List.replicate count goneTurn) = some askedTables := by
  let _ := transparentSodium
  have hasked : StepRun.after LoopTurn.perform adminTables askedTurns = some askedTables := rfl
  refine ⟨fun hreclaims => ?_, fun count => StepRun.after_append hasked ?_⟩
  · have hgone : goneTurn.Reclaims askedTables := ((hreclaims.2 _ rfl).2 askedTables rfl).1
    have hroutes : askedTables.RoutesToAdmin 7
        { output := buildHelp, responseReady := true } := ⟨by decide, by decide, by decide, rfl⟩
    have hunwatched := goneTurn.reclaims_iff.mp hgone _ hroutes ⟨_, rfl, rfl⟩
    cases hunwatched
  · induction count with
    | zero => rfl
    | succ count ih => exact StepRun.after_of_step goneTurn_askedTables ih

end HyperCom
