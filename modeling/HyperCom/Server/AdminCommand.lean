import HyperCom.Server.ConnectionRegistry

/-!
# A command of the administration

`admin_command` cuts a line into the verb and its arguments, at blanks and quotes.
The `sessions` command asks for a session of the registry to be closed; the closing
itself is left to the loop.

`parseAdminCommand` is the grammar of the console, shared by everything that takes or
makes a line (`Server.AdminTool`). An argument may be empty between two quotes, and a
line whose last quote stays open is no command at all.
-/

namespace HyperCom

/-! ## `admin_command` -/

def maxCommandTokens : ℕ := 16

/-- `is_blank` -/
def isBlank (character : UInt8) : Bool :=
  character == 0x20 || character == 0x09 || character == 0x0D

/-- `admin_command` -/
structure AdminCommand where
  verb : ByteString
  arguments : List ByteString := []
deriving DecidableEq

/-- Where the loops of `parse_admin_command` and `take_token` are: between two
words, or inside of one. -/
inductive TokenState where
  | between
  | word (token : ByteString)
  | quoted (token : ByteString)

/-- The two loops, one character after the other, with the words taken so far. -/
def takeTokens : TokenState → List ByteString → ByteString → Option (List ByteString)
  | .between, tokens, [] => some tokens
  | .word token, tokens, [] => some (tokens ++ [token])
  | .quoted _, _, [] => none
  | .between, tokens, character :: rest =>
    if isBlank character then takeTokens .between tokens rest
    else if tokens.length ≥ maxCommandTokens then none
    else if character == 0x22 then takeTokens (.quoted []) tokens rest
    else takeTokens (.word [character]) tokens rest
  | .word token, tokens, character :: rest =>
    if isBlank character then takeTokens .between (tokens ++ [token]) rest
    else takeTokens (.word (token ++ [character])) tokens rest
  | .quoted token, tokens, character :: rest =>
    if character == 0x22 then takeTokens .between (tokens ++ [token]) rest
    else takeTokens (.quoted (token ++ [character])) tokens rest

/-- `parse_admin_command` -/
def parseAdminCommand (line : ByteString) : Option AdminCommand :=
  match takeTokens .between [] line with
  | some (verb :: arguments) => some { verb, arguments }
  | _ => none

/-! ## `admin_session_command` -/

/-- `std::from_chars` for an `int`: a sign and the digits in front, if there are
any and the number fits. -/
def fromChars (text : ByteString) : Option ℤ :=
  let negative := text.head? = some 0x2D
  let digits := (if negative then text.tail else text).takeWhile fun character =>
    character ≥ 0x30 && character ≤ 0x39
  let value : ℤ := digits.foldl (fun value digit => value * 10 + (digit.toNat - 0x30 : ℕ)) 0
  let number := if negative then -value else value
  if digits.isEmpty || number < -2 ^ 31 || number ≥ 2 ^ 31 then none else some number

/-- `close_session`: the text it prints and the requests it leaves. -/
def closeSession (registry : ConnectionRegistry) (argument : ByteString) : ByteString × List ℤ :=
  match fromChars argument with
  | none => (ascii "usage : sessions close <descripteur>\n", [])
  | some descriptor =>
    if descriptor ∈ registry.connections then
      (ascii "session " ++ argument ++ ascii " marquee pour fermeture\n", [descriptor])
    else (ascii "descripteur inconnu : " ++ argument ++ ascii "\n", [])

/-- `run_sessions_command`, with what the list of the sessions prints. -/
def runSessionsCommand (registry : ConnectionRegistry) (printed : ByteString)
    (command : AdminCommand) : ByteString × List ℤ :=
  match command.arguments with
  | [] => (printed, [])
  | argument :: arguments =>
    if argument = ascii "list" then (printed, [])
    else if argument = ascii "close" then
      match arguments with
      | [] => (ascii "usage : sessions close <descripteur>\n", [])
      | descriptor :: _ => closeSession registry descriptor
    else (ascii "usage : sessions [list | close <descripteur>]\n", [])

/-! ## What is asked to be closed -/

/-- Nothing, or one session of the registry. -/
def ClosesOne (registry : ConnectionRegistry) (requests : List ℤ) : Prop :=
  requests = [] ∨ ∃ descriptor ∈ registry.connections, requests = [descriptor]

section Requests

variable (registry : ConnectionRegistry)

theorem closeSession_closesOne (argument : ByteString) :
    ClosesOne registry (closeSession registry argument).2 := by
  rw [closeSession]
  split
  · exact .inl rfl
  · next descriptor _ =>
    by_cases hknown : descriptor ∈ registry.connections
    · rw [if_pos hknown]
      exact .inr ⟨descriptor, hknown, rfl⟩
    · rw [if_neg hknown]
      exact .inl rfl

theorem runSessionsCommand_closesOne (printed : ByteString) (command : AdminCommand) :
    ClosesOne registry (runSessionsCommand registry printed command).2 := by
  rw [runSessionsCommand]
  split
  · exact .inl rfl
  split_ifs
  · exact .inl rfl
  · split
    · exact .inl rfl
    · exact closeSession_closesOne registry _
  · exact .inl rfl

end Requests

end HyperCom
