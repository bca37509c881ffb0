import HyperCom.Server.AdminDispatcher

/-!
# The administration socket

`admin_service`: one line in, one answer out, and the connection is closed once the
answer has been sent. A line that is too long closes it at once.

What a command does is up to `execute`: the loop passes `execute_admin_command` with
the context of the server.

The answer is computed once, when the line is complete, and sent in as many pieces as the
socket takes. Between the two the connection has nothing to read, so what comes behind the
first newline is not looked at.
-/

namespace HyperCom

open AdminDispatcher

/-! ## `admin_service` -/

def maxRequestBytes : ℕ := 4096

/-- `admin_connection` -/
structure AdminConnection where
  input : ByteString := []
  output : ByteString := []
  responseReady : Bool := false

/-- `read_into_buffer`: what `recv` delivers until it has nothing more, and
whether that is because the peer closed. -/
def readIntoBuffer (ended : Bool) : List ByteString → ByteString → Bool × ByteString
  | [], buffer => (!ended, buffer)
  | chunk :: chunks, buffer =>
    if buffer.length + chunk.length > maxRequestBytes then (false, buffer)
    else readIntoBuffer ended chunks (buffer ++ chunk)

/-- `flush_buffer`: whether something remains, and what. A `send` that takes
nothing ends the loop. -/
def flushBuffer : List ℕ → ByteString → Bool × ByteString
  | _, [] => (false, [])
  | [], output@(_ :: _) => (true, output)
  | 0 :: _, output@(_ :: _) => (true, output)
  | (sent + 1) :: sends, output@(_ :: _) => flushBuffer sends (output.drop (sent + 1))

/-- `build_response`, and what the command came to if one was executed. -/
def buildResponse (execute : AdminCommand → AdminReply) (connection : AdminConnection) :
    AdminConnection × Option AdminReply :=
  if 0x0A ∈ connection.input then
    let line := connection.input.takeWhile (· != 0x0A)
    match parseAdminCommand line with
    | none =>
      ({ input := [], output := ascii "commande vide ou guillemet non ferme\n"
         responseReady := true }, none)
    | some command =>
      let reply := execute command
      ({ input := [], output := reply.text, responseReady := true }, some reply)
  else (connection, none)

/-- What the system answers while an administration connection is serviced: what
`recv` delivers, whether it then reports the end, and what each `send` takes. -/
structure AdminAnswers where
  received : List ByteString := []
  ended : Bool := false
  sent : List ℕ := []
  /-- `watch_descriptor` succeeds -/
  watched : Bool := true

/-- `service_admin_connection`, for a connection that was found: the connection,
unless it is closed, and what a command came to. -/
def serviceAdminConnection (execute : AdminCommand → AdminReply) (answers : AdminAnswers)
    (connection : AdminConnection) : Option AdminConnection × Option AdminReply :=
  let read := if connection.responseReady then (true, connection.input)
    else readIntoBuffer answers.ended answers.received connection.input
  if !read.1 then (none, none)
  else
    let connection := { connection with input := read.2 }
    let built := if connection.responseReady then (connection, none)
      else buildResponse execute connection
    if !built.1.responseReady then (some built.1, none)
    else
      let flushed := flushBuffer answers.sent built.1.output
      if !flushed.1 then (none, built.2)
      else if !answers.watched then (none, built.2)
      else (some { built.1 with output := flushed.2 }, built.2)

/-! ## What a command came to -/

section Replies

variable {execute : AdminCommand → AdminReply} {connection : AdminConnection} {reply : AdminReply}

/-- It is what `execute` makes of a command that was parsed. -/
theorem buildResponse_executed (h : (buildResponse execute connection).2 = some reply) :
    ∃ command, parseAdminCommand (connection.input.takeWhile (· != 0x0A)) = some command ∧
      reply = execute command := by
  by_cases hline : 0x0A ∈ connection.input
  · rw [buildResponse, if_pos hline] at h
    dsimp only at h
    split at h
    · cases h
    · next command hparse => exact ⟨command, hparse, (Option.some.inj h).symm⟩
  · rw [buildResponse, if_neg hline] at h
    cases h

/-- A service comes to what the response that it builds comes to. -/
theorem serviceAdminConnection_executed {answers : AdminAnswers}
    (h : (serviceAdminConnection execute answers connection).2 = some reply) :
    connection.responseReady = false ∧ ∃ input,
      readIntoBuffer answers.ended answers.received connection.input = (true, input) ∧
      (buildResponse execute { connection with input }).2 = some reply := by
  cases hready : connection.responseReady with
  | true =>
    simp only [serviceAdminConnection, hready, if_true, Bool.not_true, Bool.false_eq_true,
      if_false] at h
    split_ifs at h
  | false =>
    rcases hread : readIntoBuffer answers.ended answers.received connection.input with
      ⟨_ | _, input⟩
    · simp only [serviceAdminConnection, hready, hread, Bool.false_eq_true, if_false,
        Bool.not_false, if_true] at h
      cases h
    · simp only [serviceAdminConnection, hready, hread, Bool.false_eq_true, if_false,
        Bool.not_true] at h
      refine ⟨rfl, input, rfl, ?_⟩
      split_ifs at h <;> exact h

end Replies

end HyperCom
