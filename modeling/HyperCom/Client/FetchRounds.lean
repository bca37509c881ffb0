import HyperCom.Client.MailSession
import HyperCom.Client.Sender

/-!
# Fetching mail, round after round

`run_dm_fetch` and `refresh_inbox` ask for the first hundred pending envelopes,
show them, and acknowledge those they could open. The others stay at the head of
the list, and `since_id` is never moved past them.

`readable_delivered_iff` says which envelopes ever get to their reader, over a
network that may bring each list in any pieces, late, or not at all. A hundred
that cannot be opened, in front of one that can, are enough to hide it for good,
over the fastest network (`readable_never_delivered`).

A round is a login, a fetch and its acknowledgements; between two rounds anything may come
in for the account. The list itself is `Lib.Paging`, where what cannot be taken out of the
way stays in front.
-/

namespace HyperCom

open BinaryCodec Interaction Dialogue ServerConnection

variable [Sodium]

/-! ## One request on a steady session -/

section Requests

variable {ambient : Ambient} {owner : ℤ} {requests : ℕ} {session session' : MailSession}
  {type expected reply : MessageType} {payload unsent replyPayload : ByteString} {α : Type}
  {readFrom : Reader α} {trace : ClientTrace} {result : Except ByteString α} {after : Tables}

/-- A request and its reply, as a command makes them. -/
theorem MailSession.Steady.requestReply (h : session.Steady ambient owner (requests + 1))
    (healthy : ambient.sqlFaults = fun _ _ => false) (fits : payload.length ≤ maxPayloadSize)
    (hroute : ∀ context far, ReadyToAnswer context far → context.connection.session.userId = owner →
      context.database.transaction = none → context.database.tables = session.tables →
      ∃ database : DatabaseHandle, database.tables = after ∧ database.Healthy ∧
        database.transaction = none ∧ routeMessage context type (ByteReader.start payload) =
          sendMessage { context with database } reply replyPayload)
    (hperforms : (HyperCom.requestReply type payload unsent expected readFrom).run.Performs trace
      result)
    (hfollows : Follows (Responds (MailSession.respond ambient)) session trace session') :
    ∃ answer, trace = [⟨.sendFrame type payload, true⟩, ⟨.receiveFrame, answer⟩] ∧
      result = answer.bind (decodeReply expected readFrom) ∧ session'.tables = after ∧
      (Arrives (session.arrivals 0) (wireSize replyPayload) →
        answer = .ok (reply, replyPayload) ∧ session'.Steady ambient owner requests) ∧
      (¬ Arrives (session.arrivals 0) (wireSize replyPayload) →
        ∃ error, answer = .error error) := by
  rcases performs_requestReply hperforms with ⟨rfl, -⟩ | ⟨answer, rfl, hresult⟩
  · -- the frame is sealed, so it is sent
    obtain ⟨_, _, _, _, -, -, -, -, -, -, -, -, hrespond⟩ := h.routed type healthy fits
    obtain _ | ⟨hsend, -⟩ := hfollows
    cases (congrArg Prod.fst hrespond).symm.trans (congrArg Prod.fst hsend)
  · obtain ⟨-, htables, harrives, hlate⟩ := h.exchange healthy fits hroute hfollows
    exact ⟨answer, rfl, hresult, htables, harrives, hlate⟩

end Requests

/-! ## The two requests of a round -/

/-- `open_direct_message` accepts the envelope. -/
def readableRow (identity : IdentityKeypair) (envelope : DmEnvelopeRow) : Bool :=
  (openDirectMessage identity envelope.ciphertext).accepted

/-- All of the page arrives: its bytes, the frame header, the tag and the length
field. -/
def PageArrives (arrivals : ℕ → Arrival) (page : List DmEnvelopeRow) : Prop :=
  Arrives arrivals
    (frameLengthFieldSize + (frameHeaderSize + encodedPageSize page + aeadTagSize))

instance (arrivals : ℕ → Arrival) : DecidablePred (PageArrives arrivals) :=
  fun _ => inferInstanceAs (Decidable (Arrives _ _))

/-- The envelopes of the account, in the order they are listed. -/
def MailSession.pending (session : MailSession) (owner : ℤ) : List DmEnvelopeRow :=
  session.tables.pendingEnvelopes owner (castInt64 0)

/-- The list the server would send. -/
def MailSession.list (session : MailSession) (owner : ℤ) : DmListResponse :=
  session.tables.inboxResponse owner {}

section Round

variable {ambient : Ambient} {owner : ℤ} {session session' : MailSession} {trace : ClientTrace}
  {unsent : ByteString} {identity : IdentityKeypair}

omit [Sodium] in
/-- The list a server sends is one its client can read. -/
theorem Tables.MailInOrder.list_inRange (inOrder : session.tables.MailInOrder) (owner : ℤ) :
    (session.list owner).InRange := by
  refine ⟨?_, ?_⟩
  · simp only [MailSession.list, Tables.inboxResponse, List.length_map]
    exact List.length_take_le ..
  · intro record hmem
    obtain ⟨envelope, henvelope, rfl⟩ := List.mem_map.mp hmem
    have hpending := List.mem_of_mem_take henvelope
    rw [show castInt64 (DmFetchRequest.sinceId {}) = castInt64 0 from rfl, inOrder.pending_eq]
      at hpending
    exact inOrder.sizes envelope (List.mem_of_mem_filter hpending)

omit [Sodium] in
/-- Whether a page arrives depends on its size alone. -/
theorem MailSession.list_wireSize {arrivals : ℕ → Arrival} :
    Arrives arrivals (wireSize (session.list owner).writeTo) ↔
      PageArrives arrivals ((session.pending owner).take 100) := by
  rw [wireSize, MailSession.list, inboxResponse_length]
  rfl

/-- The fetch request: the client has the list, or not all of it arrives and the
client has nothing. -/
theorem MailSession.Steady.fetches {result : Except ByteString DmListResponse}
    (h : session.Steady ambient owner 2) (healthy : ambient.sqlFaults = fun _ _ => false)
    (inOrder : session.tables.MailInOrder)
    (hperforms : (HyperCom.requestReply .dmFetchRequest (DmFetchRequest.writeTo {}) unsent
      .dmListResponse DmListResponse.readFrom).run.Performs trace result)
    (hfollows : Follows (Responds (MailSession.respond ambient)) session trace session') :
    session'.tables = session.tables ∧
    (PageArrives (session.arrivals 0) ((session.pending owner).take 100) →
      result = .ok (session.list owner) ∧ session'.Steady ambient owner 1) ∧
    (¬ PageArrives (session.arrivals 0) ((session.pending owner).take 100) →
      ∃ error, result = .error error) := by
  have hroute : ∀ context far, ReadyToAnswer context far →
      context.connection.session.userId = owner → context.database.transaction = none →
      context.database.tables = session.tables →
      ∃ database : DatabaseHandle, database.tables = session.tables ∧ database.Healthy ∧
        database.transaction = none ∧
        routeMessage context .dmFetchRequest (ByteReader.start (DmFetchRequest.writeTo {})) =
          sendMessage { context with database } .dmListResponse (session.list owner).writeTo := by
    intro context far ready haccount hidle htables
    refine ⟨context.database, htables, ready.healthy, hidle, ?_⟩
    rw [routeMessage, handleDmFetchRequest_eq ready (DmFetchRequest.exact.readFrom_start trivial),
      haccount, htables, MailSession.list]
  obtain ⟨answer, rfl, rfl, htables, harrives, hlate⟩ :=
    h.requestReply healthy (by decide) hroute hperforms hfollows
  refine ⟨htables, ?_, ?_⟩
  · intro hpage
    obtain ⟨rfl, hsteady⟩ := harrives (MailSession.list_wireSize.mpr hpage)
    refine ⟨?_, hsteady⟩
    have hread := DmListResponse.exact.readFrom_start (inOrder.list_inRange owner)
    change decodeReply .dmListResponse DmListResponse.readFrom
      (.dmListResponse, (session.list owner).writeTo) = _
    rw [decodeReply, hread]
    rfl
  · intro hmissing
    obtain ⟨error, rfl⟩ := hlate fun hpage => hmissing (MailSession.list_wireSize.mp hpage)
    exact ⟨error, rfl⟩

/-- The acknowledgement: the envelopes with these ids are gone. -/
theorem MailSession.Steady.acknowledges {result : Except ByteString StatusOkResponse}
    {ids : List UInt64} (h : session.Steady ambient owner 1)
    (healthy : ambient.sqlFaults = fun _ _ => false) (hcount : ids.length ≤ maxDmBatchItems)
    (hperforms : (HyperCom.requestReply .dmAckRequest (DmAckRequest.writeTo { envelopeIds := ids })
      unsent .statusOk StatusOkResponse.readFrom).run.Performs trace result)
    (hfollows : Follows (Responds (MailSession.respond ambient)) session trace session') :
    session'.tables = session.tables.withoutEnvelopes owner ids := by
  have hroute : ∀ context far, ReadyToAnswer context far →
      context.connection.session.userId = owner → context.database.transaction = none →
      context.database.tables = session.tables →
      ∃ database : DatabaseHandle,
        database.tables = session.tables.withoutEnvelopes owner ids ∧ database.Healthy ∧
        database.transaction = none ∧
        routeMessage context .dmAckRequest
            (ByteReader.start (DmAckRequest.writeTo { envelopeIds := ids })) =
          sendMessage { context with database } .statusOk
            (StatusOkResponse.writeTo { referenceId := UInt64.ofNat ids.length }) := by
    intro context far ready haccount hidle htables
    obtain ⟨database, hdelete, hafter, hhealthy, htransaction⟩ :=
      deleteAcknowledged_healthy ready.healthy hidle owner ids
    rw [htables] at hafter
    refine ⟨database, hafter, hhealthy, htransaction, ?_⟩
    have hdecoded := DmAckRequest.exact.readFrom_start
      (show DmAckRequest.InRange { envelopeIds := ids } from hcount)
    rw [routeMessage, handleDmAckRequest, guardedRequest_decoded ready.registered hdecoded]
    simp only [haccount, hdelete]
    rfl
  have hfits : (DmAckRequest.writeTo { envelopeIds := ids }).length ≤ maxPayloadSize := by
    have hlength : (DmAckRequest.writeTo { envelopeIds := ids }).length = 2 + 8 * ids.length := by
      simp [DmAckRequest.writeTo, writeRecordList, writeInteger, UnsignedInteger.size,
        List.length_flatMap]
      omega
    rw [hlength]
    simp only [maxDmBatchItems, maxPayloadSize, maxFrameSize, frameHeaderSize, frameLengthFieldSize,
      frameTypeFieldSize] at hcount ⊢
    omega
  obtain ⟨_, -, -, htables, -, -⟩ := h.requestReply healthy hfits hroute hperforms hfollows
  exact htables

/-! ## The course of a round -/

/-- What both commands do on an open connection: fetch, print or not, and
acknowledge what opened. -/
inductive FetchCourse (identity : IdentityKeypair) (unsent unacknowledged : ByteString) :
    ClientTrace → Prop where
  | failed {trace : ClientTrace} {error : ByteString}
      (fetched : (requestReply .dmFetchRequest (DmFetchRequest.writeTo {}) unsent .dmListResponse
        DmListResponse.readFrom).run.Performs trace (.error error)) :
      FetchCourse identity unsent unacknowledged trace
  | listed {fetchTrace ackTrace : ClientTrace} {response : DmListResponse}
      (lines : List ByteString)
      (fetched : (requestReply .dmFetchRequest (DmFetchRequest.writeTo {}) unsent .dmListResponse
        DmListResponse.readFrom).run.Performs fetchTrace (.ok response))
      (acknowledged : (readableIds identity response.envelopes = [] ∧ ackTrace = []) ∨
        ∃ result, (requestReply .dmAckRequest
          (DmAckRequest.writeTo { envelopeIds := readableIds identity response.envelopes })
          unacknowledged .statusOk StatusOkResponse.readFrom).run.Performs ackTrace result) :
      FetchCourse identity unsent unacknowledged
        (fetchTrace ++ lines.map (fun line => ⟨.print line, ()⟩) ++ ackTrace)

/-- The command line goes through the course, -/
theorem runDmFetch_course {result : Except ByteString Unit}
    (h : (runDmFetch identity).run.Performs trace result) :
    FetchCourse identity (ascii "envoi impossible") (ascii "accuse de reception impossible")
      trace := by
  rcases performs_bindExcept.mp h with ⟨error, hfetch, -⟩ |
    ⟨fetchTrace, rest, response, rfl, hfetch, hreport⟩
  · exact .failed hfetch
  obtain ⟨countTrace, rest', ⟨⟩, rfl, hcount, hlines⟩ := performs_lift_bind.mp hreport
  obtain rfl := performs_call.mp hcount
  obtain ⟨reportTrace, ackTrace, ids, rfl, hreported, hack⟩ := performs_lift_bind.mp hlines
  obtain ⟨rfl, rfl⟩ := performs_reportEnvelopes hreported
  have hacknowledged : (readableIds identity response.envelopes = [] ∧ ackTrace = []) ∨
      ∃ result, (requestReply .dmAckRequest
        (DmAckRequest.writeTo { envelopeIds := readableIds identity response.envelopes })
        (ascii "accuse de reception impossible") .statusOk
        StatusOkResponse.readFrom).run.Performs ackTrace result := by
    by_cases hnone : (readableIds identity response.envelopes).isEmpty
    · rw [if_pos hnone] at hack
      exact .inl ⟨List.isEmpty_iff.mp hnone, (performs_pure.mp hack).1⟩
    · rw [if_neg hnone] at hack
      rcases performs_bindExcept.mp hack with ⟨error, hrefused, -⟩ |
        ⟨first, second, ok, rfl, haccepted, hdone⟩
      · exact .inr ⟨_, hrefused⟩
      · obtain ⟨rfl, -⟩ := performs_pure.mp hdone
        rw [List.append_nil]
        exact .inr ⟨_, haccepted⟩
  have hcourse := FetchCourse.listed ((decimal response.envelopes.length ++ ascii " message(s) :") ::
    response.envelopes.map (reportLine identity)) hfetch hacknowledged
  simpa [Function.comp_def] using hcourse

/-- and so does the graphical client. -/
theorem refreshInbox_course {login : ClientSession} {state : UiState}
    {result : CliContext × UiState}
    (h : (refreshInbox { identity, session := login } state).Performs trace result) :
    ∃ (isOpen : Bool) (rest : ClientTrace), trace = ⟨.isOpen, isOpen⟩ :: rest ∧
      (isOpen = true → FetchCourse identity [] [] rest) := by
  obtain ⟨connectTrace, afterwards, connection, rfl, hconnect, hrest⟩ := performs_bind.mp h
  obtain ⟨isOpen, rest, rfl, hbranch⟩ := performs_call_bind.mp hconnect
  refine ⟨isOpen, rest ++ afterwards, rfl, ?_⟩
  rintro rfl
  obtain ⟨rfl, rfl⟩ := performs_pure.mp hbranch
  rw [List.nil_append]
  obtain ⟨fetchTrace, ackTrace, fetched, rfl, hfetch, hack⟩ := performs_bind.mp hrest
  cases fetched with
  | error failure =>
    obtain ⟨rfl, -⟩ := performs_pure.mp hack
    rw [List.append_nil]
    exact .failed hfetch
  | ok response =>
    dsimp only at hack
    by_cases hnone : (readableIds identity response.envelopes).isEmpty
    · rw [if_pos hnone] at hack
      have hcourse : FetchCourse identity [] [] _ :=
        .listed [] hfetch (.inl ⟨List.isEmpty_iff.mp hnone, (performs_pure.mp hack).1⟩)
      simpa using hcourse
    · rw [if_neg hnone] at hack
      obtain ⟨ack, last, answer, rfl, hanswer, hdone⟩ := performs_bind.mp hack
      obtain ⟨rfl, -⟩ := performs_pure.mp hdone
      have hcourse : FetchCourse identity [] [] _ := .listed [] hfetch (.inr ⟨answer, hanswer⟩)
      simpa using hcourse

/-- Printing changes neither end. -/
theorem follows_prints {lines : List ByteString}
    (h : Follows (Responds (MailSession.respond ambient)) session
      (lines.map fun line => ⟨.print line, ()⟩) session') : session' = session := by
  induction lines with
  | nil =>
    obtain ⟨⟩ := h
    rfl
  | cons line lines ih =>
    obtain _ | ⟨hprint, hrest⟩ := h
    obtain ⟨-, rfl⟩ := Prod.mk.inj hprint
    exact ih hrest

/-- The envelopes acknowledged are the first hundred that open. -/
theorem MailSession.readableIds_list :
    readableIds identity (session.list owner).envelopes =
      (((session.pending owner).take 100).filter (readableRow identity)).map
        fun envelope => castUInt64 envelope.id := by
  simp only [readableIds, MailSession.list, Tables.inboxResponse, List.filter_map, List.map_map]
  rfl

/-- What a round does on a steady session. -/
theorem FetchCourse.effect {unacknowledged : ByteString}
    (h : FetchCourse identity unsent unacknowledged trace) (hsteady : session.Steady ambient owner 2)
    (healthy : ambient.sqlFaults = fun _ _ => false) (inOrder : session.tables.MailInOrder)
    (hfollows : Follows (Responds (MailSession.respond ambient)) session trace session') :
    session'.tables.MailInOrder ∧
    session'.pending owner = Paging.showPage 100 (readableRow identity)
      (PageArrives (session.arrivals 0)) (session.pending owner) ∧
    (PageArrives (session.arrivals 0) ((session.pending owner).take 100) →
      fetchedList trace = some (session.list owner)) ∧
    (¬ PageArrives (session.arrivals 0) ((session.pending owner).take 100) →
      fetchedList trace = none) := by
  cases h with
  | @failed _ error hfetched =>
    obtain ⟨htables, harrives, -⟩ := hsteady.fetches healthy inOrder hfetched hfollows
    have hmissing : ¬ PageArrives (session.arrivals 0) ((session.pending owner).take 100) :=
      fun hpage => by cases (harrives hpage).1
    rw [Paging.showPage, if_neg hmissing, MailSession.pending, htables]
    refine ⟨inOrder, rfl, fun hpage => absurd hpage hmissing, fun _ => ?_⟩
    cases hlist : fetchedList trace with
    | none => rfl
    | some response => exact absurd hlist (fetchedList_of_error hfetched)
  | @listed fetchTrace ackTrace response lines hfetched hacknowledged =>
    obtain ⟨printed, hfollows, hackFollows⟩ := follows_append.mp hfollows
    obtain ⟨fetched, hfetchFollows, hprintFollows⟩ := follows_append.mp hfollows
    obtain rfl := follows_prints hprintFollows
    obtain ⟨htables, harrives, hlate⟩ := hsteady.fetches healthy inOrder hfetched hfetchFollows
    have hpage : PageArrives (session.arrivals 0) ((session.pending owner).take 100) := by
      by_contra hmissing
      obtain ⟨error, ⟨⟩⟩ := hlate hmissing
    obtain ⟨hresponse, hsteadyAfter⟩ := harrives hpage
    obtain rfl := Except.ok.inj hresponse
    -- the tables after the acknowledgement, which is not sent for an empty list
    have hafter : session'.tables = session.tables.withoutEnvelopes owner
        (readableIds identity (session.list owner).envelopes) := by
      rcases hacknowledged with ⟨hnone, rfl⟩ | ⟨result, hack⟩
      · obtain ⟨⟩ := hackFollows
        rw [htables, hnone, Tables.withoutEnvelopes_nil]
      · have hcount : (readableIds identity (session.list owner).envelopes).length ≤
            maxDmBatchItems := by
          rw [MailSession.readableIds_list, List.length_map]
          exact (List.length_filter_le ..).trans (List.length_take_le ..)
        rw [hsteadyAfter.acknowledges healthy hcount hack hackFollows, htables]
    refine ⟨?_, ?_, fun _ => ?_, fun hmissing => absurd hpage hmissing⟩
    · rw [hafter]
      exact inOrder.withoutEnvelopes owner _
    · rw [Paging.showPage, if_pos hpage, MailSession.pending, hafter, MailSession.readableIds_list]
      exact inOrder.pending_acknowledged 100 (readableRow identity)
    · obtain ⟨reply, rfl, hread⟩ := performs_requestReply_ok hfetched
      rw [fetchedList, List.append_assoc]
      exact (replyMessage_answered.trans (if_pos rfl)).trans hread

end Round

/-! ## Round after round -/

/-- The two commands that fetch mail. The graphical one starts from a state. -/
inductive FetchCommand where
  | runDmFetch
  | refreshInbox (state : UiState) (login : ClientSession)

/-- A command on the two ends: its trace, and the ends after it. -/
def FetchCommand.round (ambient : Ambient) (identity : IdentityKeypair) (session : MailSession) :
    FetchCommand → ClientTrace × MailSession
  | .runDmFetch => (Dialogue.run (MailSession.respond ambient) (HyperCom.runDmFetch identity).run session).2
  | .refreshInbox state login =>
    (Dialogue.run (MailSession.respond ambient)
      (HyperCom.refreshInbox { identity, session := login } state) session).2

/-- The trace of a round lists the envelope, and it opens. -/
def DeliveredIn (identity : IdentityKeypair) (envelope : DmEnvelopeRow) (trace : ClientTrace) : Prop :=
  readableRow identity envelope = true ∧
    ∃ response, fetchedList trace = some response ∧ envelope.toRecord ∈ response.envelopes

/-- Rounds without end, each on a session with nothing left over and a network of
its own, while nothing is sent to anyone. The rest of the tables may change
between them. -/
structure FetchRounds (identity : IdentityKeypair) (owner : ℤ) (commands : ℕ → FetchCommand)
    (ambients : ℕ → Ambient) (sessions : ℕ → MailSession) : Prop where
  healthy : ∀ n, (ambients n).sqlFaults = fun _ _ => false
  steady : ∀ n, (sessions n).Steady (ambients n) owner 2
  envelopes : ∀ n, (sessions (n + 1)).tables.dmEnvelopes =
    ((commands n).round (ambients n) identity (sessions n)).2.tables.dmEnvelopes
  sequence : ∀ n, (sessions (n + 1)).tables.dmEnvelopesSequence =
    ((commands n).round (ambients n) identity (sessions n)).2.tables.dmEnvelopesSequence

section Rounds

variable {identity : IdentityKeypair} {owner : ℤ} {commands : ℕ → FetchCommand}
  {ambients : ℕ → Ambient} {sessions : ℕ → MailSession} {envelope : DmEnvelopeRow}

/-- One round of either command. -/
theorem FetchCommand.round_effect {ambient : Ambient} {session : MailSession}
    (command : FetchCommand) (identity : IdentityKeypair) (hsteady : session.Steady ambient owner 2)
    (healthy : ambient.sqlFaults = fun _ _ => false) (inOrder : session.tables.MailInOrder) :
    (command.round ambient identity session).2.tables.MailInOrder ∧
    (command.round ambient identity session).2.pending owner =
      Paging.showPage 100 (readableRow identity) (PageArrives (session.arrivals 0))
        (session.pending owner) ∧
    (PageArrives (session.arrivals 0) ((session.pending owner).take 100) →
      fetchedList (command.round ambient identity session).1 = some (session.list owner)) ∧
    (¬ PageArrives (session.arrivals 0) ((session.pending owner).take 100) →
      fetchedList (command.round ambient identity session).1 = none) := by
  cases command with
  | runDmFetch =>
    have hcourse := runDmFetch_course
      (run_performs (MailSession.respond ambient) (HyperCom.runDmFetch identity).run session)
    exact hcourse.effect hsteady healthy inOrder (run_follows ..)
  | refreshInbox state login =>
    have hfollows := run_follows (MailSession.respond ambient)
      (HyperCom.refreshInbox { identity, session := login } state) session
    obtain ⟨isOpen, rest, htrace, hcourse⟩ := refreshInbox_course (run_performs
      (MailSession.respond ambient) (HyperCom.refreshInbox { identity, session := login } state)
      session)
    rw [FetchCommand.round, htrace]
    rw [htrace] at hfollows
    -- the connection is open, so nothing happens before the fetch
    obtain _ | ⟨hopen, hrest⟩ := hfollows
    obtain ⟨rfl, rfl⟩ := Prod.mk.inj hopen
    exact (hcourse hsteady.clientOpen).effect hsteady healthy inOrder hrest

namespace FetchRounds

/-- The mail of the account is in order in every round. -/
theorem inOrder (rounds : FetchRounds identity owner commands ambients sessions)
    (reachable : ReachableInbox (sessions 0).tables) (n : ℕ) :
    (sessions n).tables.MailInOrder := by
  induction n with
  | zero => exact reachable.inOrder
  | succ n ih =>
    have hround := (commands n).round_effect identity (rounds.steady n) (rounds.healthy n) ih
    exact hround.1.congr (rounds.envelopes n) (rounds.sequence n)

/-- A round shows the page, if it arrives. -/
theorem pending_succ (rounds : FetchRounds identity owner commands ambients sessions)
    (reachable : ReachableInbox (sessions 0).tables) (n : ℕ) :
    (sessions (n + 1)).pending owner =
      Paging.showPage 100 (readableRow identity) (PageArrives ((sessions n).arrivals 0))
        ((sessions n).pending owner) := by
  have hround := (commands n).round_effect identity (rounds.steady n)
    (rounds.healthy n) (rounds.inOrder reachable n)
  rw [← hround.2.1, MailSession.pending, MailSession.pending, Tables.pendingEnvelopes,
    Tables.pendingEnvelopes, rounds.envelopes n]

/-- Nothing comes back that was taken out. -/
theorem pending_subset (rounds : FetchRounds identity owner commands ambients sessions)
    (reachable : ReachableInbox (sessions 0).tables) (n : ℕ) :
    ((sessions n).pending owner).Sublist ((sessions 0).pending owner) := by
  induction n with
  | zero => exact List.Sublist.refl _
  | succ n ih =>
    rw [rounds.pending_succ reachable n]
    exact Paging.showPage_sublist.trans ih

/-- A round delivers what is on its page. -/
theorem delivered_iff_page (rounds : FetchRounds identity owner commands ambients sessions)
    (reachable : ReachableInbox (sessions 0).tables)
    (hmem : envelope ∈ (sessions 0).pending owner)
    (readable : readableRow identity envelope = true) (n : ℕ) :
    DeliveredIn identity envelope ((commands n).round (ambients n) identity (sessions n)).1 ↔
      PageArrives ((sessions n).arrivals 0) (((sessions n).pending owner).take 100) ∧
        envelope ∈ ((sessions n).pending owner).take 100 := by
  obtain ⟨-, -, hshown, hhidden⟩ := (commands n).round_effect identity
    (rounds.steady n) (rounds.healthy n) (rounds.inOrder reachable n)
  by_cases hpage : PageArrives ((sessions n).arrivals 0) (((sessions n).pending owner).take 100)
  · simp only [DeliveredIn, readable, hshown hpage, Option.some.injEq, exists_eq_left', hpage, true_and]
    constructor
    · -- the id of a record tells which envelope it is
      intro hlisted
      obtain ⟨other, hother, hrecord⟩ := List.mem_map.mp hlisted
      have hstored : ∀ {row : DmEnvelopeRow}, row ∈ (sessions 0).pending owner →
          row ∈ (sessions 0).tables.dmEnvelopes := by
        intro row hrow
        rw [MailSession.pending, reachable.inOrder.pending_eq] at hrow
        exact List.mem_of_mem_filter hrow
      have hotherStored := hstored ((rounds.pending_subset reachable n).subset
        (List.mem_of_mem_take hother))
      have hid : castInt64 (castUInt64 other.id) = castInt64 (castUInt64 envelope.id) :=
        congrArg (fun record : DmEnvelopeRecord => castInt64 record.id) hrecord
      rw [reachable.inOrder.castInt64_id hotherStored,
        reachable.inOrder.castInt64_id (hstored hmem)] at hid
      rwa [← reachable.inOrder.eq_of_id hotherStored (hstored hmem) hid]
    · exact fun hlisted => List.mem_map_of_mem hlisted
  · simp [DeliveredIn, hhidden hpage, hpage]

/-- A readable envelope is delivered by some round if and only if fewer than a
hundred envelopes before it cannot be opened, and the pages up to its own, each
with what was readable before it taken away, arrive in rounds that follow each
other. -/
theorem readable_delivered_iff (rounds : FetchRounds identity owner commands ambients sessions)
    (reachable : ReachableInbox (sessions 0).tables)
    (hmem : envelope ∈ (sessions 0).pending owner)
    (readable : readableRow identity envelope = true) :
    (∃ n, DeliveredIn identity envelope
      ((commands n).round (ambients n) identity (sessions n)).1) ↔
      Paging.stuckAhead (readableRow identity) envelope ((sessions 0).pending owner) < 100 ∧
      ∃ arrivesIn : ℕ → ℕ, StrictMono arrivesIn ∧
        ∀ page, (∀ earlier < page, envelope ∉ (Paging.cleared 100 (readableRow identity)
            ((sessions 0).pending owner) earlier).take 100) →
          PageArrives ((sessions (arrivesIn page)).arrivals 0)
            ((Paging.cleared 100 (readableRow identity)
              ((sessions 0).pending owner) page).take 100) := by
  rw [exists_congr (rounds.delivered_iff_page reachable hmem readable)]
  exact Paging.shown_iff (fun n => (sessions n).pending owner) (rounds.pending_succ reachable) hmem

end FetchRounds

end Rounds

/-! ## Envelopes that hide others -/

omit [Sodium]

/-- A session of the account 1, with nothing left over. -/
def restingSession (tables : Tables) : MailSession :=
  let _ := transparentSodium
  { client := { ServerConnection.create (FixedBytes.zero _) with
      transport := some (NoiseTransport.create (FixedBytes.zero _) (FixedBytes.zero _))
      isOpen := true }
    server := {
      context := accountContext tables 1 (repeatedKey 1)
      policy := { perAddress := 10, perIdentity := 10 } } }

/-- A message that the identity of fives can open. -/
def openableCiphertext : ByteString :=
  let _ := transparentSodium
  sealDmEnvelope { senderIdentity := repeatedBytes 32 1 } (repeatedBytes 32 0)
    (buildDmPayload 0 (ascii "salut"))

/-- The message stands behind envelopes of one byte. -/
def hiddenEnvelope (count : ℕ) : DmEnvelopeRow :=
  { id := (count : ℤ) + 1, recipientId := 1, senderPubkey := repeatedKey 2
    ciphertext := openableCiphertext }

/-- Envelopes that open for nobody, and one behind them that does. -/
def blockedTables (count : ℕ) : Tables :=
  (crowdedTables [0] count).withEnvelope (hiddenEnvelope count)

/-- Fetching on fresh sessions. -/
def blockedSessions (count : ℕ) : ℕ → MailSession
  | 0 => restingSession (blockedTables count)
  | n + 1 =>
    let _ := transparentSodium
    restingSession (FetchCommand.runDmFetch.round {} (repeatedIdentity 5)
      (blockedSessions count n)).2.tables

/-- Ten requests at a time are enough for a round. -/
theorem restingPolicy_admits :
    RatePolicy.Admits { perAddress := 10, perIdentity := 10 } [] 1 0 2 :=
  ⟨by decide, by decide, by decide, by decide, trivial⟩

/-- A session over given tables, ready for the next command. -/
theorem restingSession_steady (tables : Tables) :
    letI := transparentSodium
    (restingSession tables).Steady {} 1 2 where
  clientOpen := rfl
  consumed := rfl
  serverOpen := rfl
  drained := rfl
  crossed := ⟨_, _, rfl, rfl, ⟨rfl, rfl, rfl, rfl⟩, by decide, by decide⟩
  registered := rfl
  account := rfl
  admits := restingPolicy_admits
  idle := rfl

/-- Every round is like the first, since nothing is acknowledged. -/
theorem blockedSessions_rounds (count : ℕ) :
    letI := transparentSodium
    FetchRounds (repeatedIdentity 5) 1 (fun _ => .runDmFetch) (fun _ => {})
      (blockedSessions count) := by
  let _ := transparentSodium
  refine ⟨fun _ => rfl, fun n => ?_, fun n => rfl, fun n => rfl⟩
  cases n with
  | zero => exact restingSession_steady _
  | succ n => exact restingSession_steady _

/-- `dm_send_request`s of the second account lead there. -/
theorem blockedTables_reachable {count : ℕ} (hcount : (count : ℤ) < maxRowid) :
    letI := transparentSodium
    ReachableInbox (blockedTables count) := by
  let _ := transparentSodium
  have hbefore : ReachableInbox (accountContext (crowdedTables [0] count) 2
      (repeatedKey 2)).database.tables := crowdedTables_reachable (by decide) (by decide) hcount.le
  have hsent := hbefore.sent (ByteReader.start (DmSendRequest.writeTo
    { recipientPubkey := repeatedKey 1, ciphertext := openableCiphertext }))
  have ready := accountContext_ready (crowdedTables [0] count) (repeatedKey 2)
    (show (2 : ℤ) ≠ 0 by decide)
  have hrange : DmSendRequest.InRange { recipientPubkey := repeatedKey 1, ciphertext := openableCiphertext } := by
    change openableCiphertext.length ≤ maxDmCiphertextSize
    decide +kernel
  have hid : nextRowid (crowdedTables [0] count).dmEnvelopesSequence = some ((count : ℤ) + 1) :=
    if_neg (not_le.mpr hcount)
  rwa [handleDmSendRequest_delivers ready.registered ready.healthy
    (DmSendRequest.exact.readFrom_start hrange) (by decide +kernel) rfl hid] at hsent

/-- What the account is shown of it. -/
theorem blockedTables_pending {count : ℕ} (hcount : (count : ℤ) < maxRowid) :
    (restingSession (blockedTables count)).pending 1 =
      (blockedTables count).dmEnvelopes.filter fun envelope => envelope.recipientId = 1 := by
  let _ := transparentSodium
  exact (blockedTables_reachable hcount).inOrder.pending_eq

/-- Behind ninety-nine of them it is delivered. -/
theorem readable_delivered_ninetynine :
    letI := transparentSodium
    readableRow (repeatedIdentity 5) (hiddenEnvelope 99) = true ∧
    ∃ n, DeliveredIn (repeatedIdentity 5) (hiddenEnvelope 99)
      (FetchCommand.runDmFetch.round {} (repeatedIdentity 5) (blockedSessions 99 n)).1 := by
  let _ := transparentSodium
  have hreadable : readableRow (repeatedIdentity 5) (hiddenEnvelope 99) = true := by decide +kernel
  have hpending := blockedTables_pending (show ((99 : ℕ) : ℤ) < maxRowid by decide)
  have hpage : hiddenEnvelope 99 ∈ ((restingSession (blockedTables 99)).pending 1).take 100 := by
    rw [hpending]
    decide +kernel
  refine ⟨hreadable, ((blockedSessions_rounds 99).readable_delivered_iff
    (blockedTables_reachable (by decide)) (List.mem_of_mem_take hpage) hreadable).mpr ⟨?_, ?_⟩⟩
  · change Paging.stuckAhead _ _ ((restingSession (blockedTables 99)).pending 1) < 100
    rw [hpending]
    decide +kernel
  · -- it is on the first page, which arrives in the first round
    refine ⟨id, strictMono_id, fun page hbefore => ?_⟩
    cases page with
    | zero =>
      change PageArrives atOnce (((restingSession (blockedTables 99)).pending 1).take 100)
      rw [hpending]
      exact arrives_atOnce_iff.mpr (by decide +kernel)
    | succ page => exact absurd hpage (hbefore 0 (Nat.succ_pos page))

/-- Behind a hundred it never is. -/
theorem readable_never_delivered :
    letI := transparentSodium
    FetchRounds (repeatedIdentity 5) 1 (fun _ => .runDmFetch) (fun _ => {})
      (blockedSessions 100) ∧
    ReachableInbox (blockedSessions 100 0).tables ∧
    hiddenEnvelope 100 ∈ (blockedSessions 100 0).pending 1 ∧
    readableRow (repeatedIdentity 5) (hiddenEnvelope 100) = true ∧
    ¬ ∃ n, DeliveredIn (repeatedIdentity 5) (hiddenEnvelope 100)
      (FetchCommand.runDmFetch.round {} (repeatedIdentity 5) (blockedSessions 100 n)).1 := by
  let _ := transparentSodium
  have hrounds := blockedSessions_rounds 100
  have hreachable := blockedTables_reachable (show ((100 : ℕ) : ℤ) < maxRowid by decide)
  have hreadable : readableRow (repeatedIdentity 5) (hiddenEnvelope 100) = true := by
    decide +kernel
  have hpending := blockedTables_pending (show ((100 : ℕ) : ℤ) < maxRowid by decide)
  have hmem : hiddenEnvelope 100 ∈ (restingSession (blockedTables 100)).pending 1 := by
    rw [hpending]
    decide +kernel
  refine ⟨hrounds, hreachable, hmem, hreadable, ?_⟩
  rw [exists_congr (hrounds.delivered_iff_page hreachable hmem hreadable),
    Paging.shown_iff (fun n => (blockedSessions 100 n).pending 1)
      (hrounds.pending_succ hreachable) hmem]
  rintro ⟨hfew, -⟩
  change Paging.stuckAhead _ _ ((restingSession (blockedTables 100)).pending 1) < 100 at hfew
  rw [hpending] at hfew
  exact absurd hfew (by decide +kernel)

end HyperCom
