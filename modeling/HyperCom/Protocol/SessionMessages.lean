import HyperCom.Protocol.ByteCodec

/-!
# Session messages

`hello_message`, `auth_message`, `register_message`, `ping_message`,
`motd_message` and the success half of `status_message`: each structure with
its defaults, `write_to`, `read_from`, the range of values the reader accepts,
and exactness. A structure whose fields are all fixed-width has no range of its
own. A failing `read_from` leaves its target half-filled in the source; every
caller drops the target then, so the model only returns it on success.

The order in which they travel is `hello_request`, `auth_challenge`, `auth_response` and
then `auth_accepted` if the key has an account, or `status_ok` if it has none and a
`register_request` has to follow. A ping can be sent at any time, even before that. The
rules of who may send what when are not here: a message is only a value, and the session
decides (`Server.Handlers`).

Beside the messages stand the two texts that others build on: the input of the
authentication signature, with its domain in front, and the rule for handles.
-/

namespace HyperCom

open BinaryCodec

/-- Session opening: the client announces its identity key. -/
structure HelloRequest where
  protocolVersion : UInt16 := HyperCom.protocolVersion
  clientPubkey : WirePublicKey := FixedBytes.zero _
deriving DecidableEq

def HelloRequest.writeTo (request : HelloRequest) : ByteString :=
  List.flatten [writeInteger request.protocolVersion, writeFixedBytes request.clientPubkey.1]

def HelloRequest.readFrom : Reader HelloRequest := do
  let protocolVersion ← readInteger UInt16
  let clientPubkey ← readFixedBytes publicKeySize
  pure { protocolVersion, clientPubkey }

theorem HelloRequest.exact :
    WireExact HelloRequest.writeTo HelloRequest.readFrom (fun _ => True) := by
  apply ExactOn.exact
  · apply ExactOn.field readInteger_exact
    intro protocolVersion
    apply ExactOn.field (readFixedBytes_exact _)
    intro clientPubkey
    exact .done (by rintro ⟨⟩; simp)
  · intro request
    simp

/-- The challenge to sign, and whether the announced key has an account. -/
structure AuthChallenge where
  protocolVersion : UInt16 := HyperCom.protocolVersion
  nonce : WireNonce := FixedBytes.zero _
  accountExists : UInt8 := 0
  serverTime : UInt64 := 0
deriving DecidableEq

def AuthChallenge.writeTo (challenge : AuthChallenge) : ByteString :=
  List.flatten [
    writeInteger challenge.protocolVersion,
    writeFixedBytes challenge.nonce.1,
    writeInteger challenge.accountExists,
    writeInteger challenge.serverTime]

def AuthChallenge.readFrom : Reader AuthChallenge := do
  let protocolVersion ← readInteger UInt16
  let nonce ← readFixedBytes authNonceSize
  let accountExists ← readInteger UInt8
  let serverTime ← readInteger UInt64
  pure { protocolVersion, nonce, accountExists, serverTime }

theorem AuthChallenge.exact :
    WireExact AuthChallenge.writeTo AuthChallenge.readFrom (fun _ => True) := by
  apply ExactOn.exact
  · apply ExactOn.field readInteger_exact
    intro protocolVersion
    apply ExactOn.field (readFixedBytes_exact _)
    intro nonce
    apply ExactOn.field readInteger_exact
    intro accountExists
    apply ExactOn.field readInteger_exact
    intro serverTime
    exact .done (by rintro ⟨⟩; simp [and_assoc])
  · intro challenge
    simp

/-- `auth_response`: the signature over `buildAuthSigningInput`, and nothing that says by
whom; the key was announced before. -/
structure AuthResponse where
  signature : WireSignature := FixedBytes.zero _
deriving DecidableEq

def AuthResponse.writeTo (response : AuthResponse) : ByteString :=
  List.flatten [writeFixedBytes response.signature.1]

def AuthResponse.readFrom : Reader AuthResponse := do
  let signature ← readFixedBytes signatureSize
  pure { signature }

theorem AuthResponse.exact :
    WireExact AuthResponse.writeTo AuthResponse.readFrom (fun _ => True) := by
  apply ExactOn.exact
  · apply ExactOn.field (readFixedBytes_exact _)
    intro signature
    exact .done (by rintro ⟨⟩; simp)
  · intro response
    simp

/-- `auth_accepted`: the session has an account. The id is for display, no request names an
account by it. -/
structure AuthAccepted where
  userId : UInt64 := 0
  handle : ByteString := []
  serverTime : UInt64 := 0
deriving DecidableEq

def AuthAccepted.writeTo (accepted : AuthAccepted) : ByteString :=
  List.flatten [
    writeInteger accepted.userId,
    writeTextField accepted.handle,
    writeInteger accepted.serverTime]

def AuthAccepted.readFrom : Reader AuthAccepted := do
  let userId ← readInteger UInt64
  let handle ← readTextField maxHandleLength
  let serverTime ← readInteger UInt64
  pure { userId, handle, serverTime }

/-- A handle as long as any that can be registered. -/
def AuthAccepted.InRange (accepted : AuthAccepted) : Prop :=
  TextInRange maxHandleLength accepted.handle

theorem AuthAccepted.exact :
    WireExact AuthAccepted.writeTo AuthAccepted.readFrom AuthAccepted.InRange := by
  apply ExactOn.exact
  · apply ExactOn.field readInteger_exact
    intro userId
    apply ExactOn.field (readTextField_exact (by decide))
    intro handle
    apply ExactOn.field readInteger_exact
    intro serverTime
    exact .done (by rintro ⟨⟩; simp [and_assoc])
  · intro accepted
    simp [AuthAccepted.InRange]

/-- `AUTH_SIGNATURE_DOMAIN` -/
def authSignatureDomain : ByteString := ascii "hypercom-auth-v1"

/-- `build_auth_signing_input`: domain, then nonce, then the announced key. -/
def buildAuthSigningInput (nonce : WireNonce) (clientPubkey : WirePublicKey) : ByteString :=
  List.flatten [
    writeFixedBytes authSignatureDomain,
    writeFixedBytes nonce.1,
    writeFixedBytes clientPubkey.1]

/-- The bytes that are signed, in full. -/
theorem buildAuthSigningInput_eq (nonce : WireNonce) (clientPubkey : WirePublicKey) :
    buildAuthSigningInput nonce clientPubkey =
      ascii "hypercom-auth-v1" ++ nonce.1 ++ clientPubkey.1 := by
  simp [buildAuthSigningInput, writeFixedBytes, authSignatureDomain]

/-- `register_request`: asks for an account under the key that has just been proven. -/
structure RegisterRequest where
  handle : ByteString := []
deriving DecidableEq

def RegisterRequest.writeTo (request : RegisterRequest) : ByteString :=
  List.flatten [writeTextField request.handle]

def RegisterRequest.readFrom : Reader RegisterRequest := do
  let handle ← readTextField maxHandleLength
  pure { handle }

/-- What the reader checks is the cap and the encoding; `validateHandle` is for the handler. -/
def RegisterRequest.InRange (request : RegisterRequest) : Prop :=
  TextInRange maxHandleLength request.handle

theorem RegisterRequest.exact :
    WireExact RegisterRequest.writeTo RegisterRequest.readFrom RegisterRequest.InRange := by
  apply ExactOn.exact
  · apply ExactOn.field (readTextField_exact (by decide))
    intro handle
    exact .done (by rintro ⟨⟩; simp)
  · intro request
    simp [RegisterRequest.InRange]

/-- `MIN_HANDLE_LENGTH` -/
def minHandleLength : ℕ := 3

/-- `is_handle_character` -/
def isHandleCharacter (character : UInt8) : Bool :=
  if (character ≥ 0x61 && character ≤ 0x7A) || (character ≥ 0x41 && character ≤ 0x5A) then true
  else if character ≥ 0x30 && character ≤ 0x39 then true
  else character == 0x2D || character == 0x5F

/-- `validate_handle` -/
def validateHandle (handle : ByteString) : Bool :=
  if handle.length < minHandleLength || handle.length > maxHandleLength then false
  else if handle.head?.any (fun front => front ≥ 0x30 && front ≤ 0x39) then false
  else handle.all isHandleCharacter

/-- `ping_request`: answered in every phase of a session, with the token it came with. -/
structure PingRequest where
  token : UInt64 := 0
deriving DecidableEq

def PingRequest.writeTo (request : PingRequest) : ByteString :=
  List.flatten [writeInteger request.token]

def PingRequest.readFrom : Reader PingRequest := do
  let token ← readInteger UInt64
  pure { token }

theorem PingRequest.exact : WireExact PingRequest.writeTo PingRequest.readFrom (fun _ => True) := by
  apply ExactOn.exact
  · apply ExactOn.field readInteger_exact
    intro token
    exact .done (by rintro ⟨⟩; simp)
  · intro request
    simp

/-- `ping_response` -/
structure PingResponse where
  token : UInt64 := 0
  serverTime : UInt64 := 0
deriving DecidableEq

def PingResponse.writeTo (response : PingResponse) : ByteString :=
  List.flatten [writeInteger response.token, writeInteger response.serverTime]

def PingResponse.readFrom : Reader PingResponse := do
  let token ← readInteger UInt64
  let serverTime ← readInteger UInt64
  pure { token, serverTime }

theorem PingResponse.exact :
    WireExact PingResponse.writeTo PingResponse.readFrom (fun _ => True) := by
  apply ExactOn.exact
  · apply ExactOn.field readInteger_exact
    intro token
    apply ExactOn.field readInteger_exact
    intro serverTime
    exact .done (by rintro ⟨⟩; simp)
  · intro response
    simp

/-- `motd_push`: the active announcement, pushed behind every `auth_accepted` if there is
one. The revision tells a client whether it has seen it. -/
structure MotdPush where
  revision : UInt64 := 0
  body : ByteString := []
deriving DecidableEq

def MotdPush.writeTo (push : MotdPush) : ByteString :=
  List.flatten [writeInteger push.revision, writeTextField push.body]

def MotdPush.readFrom : Reader MotdPush := do
  let revision ← readInteger UInt64
  let body ← readTextField maxMotdLength
  pure { revision, body }

/-- The cap on the announcement; the console checks the same one before it stores it. -/
def MotdPush.InRange (push : MotdPush) : Prop :=
  TextInRange maxMotdLength push.body

theorem MotdPush.exact : WireExact MotdPush.writeTo MotdPush.readFrom MotdPush.InRange := by
  apply ExactOn.exact
  · apply ExactOn.field readInteger_exact
    intro revision
    apply ExactOn.field (readTextField_exact (by decide))
    intro body
    exact .done (by rintro ⟨⟩; simp)
  · intro push
    simp [MotdPush.InRange]

/-- `status_ok_response`: done, with the id of what was made or 0. -/
structure StatusOkResponse where
  referenceId : UInt64 := 0
deriving DecidableEq

def StatusOkResponse.writeTo (response : StatusOkResponse) : ByteString :=
  List.flatten [writeInteger response.referenceId]

def StatusOkResponse.readFrom : Reader StatusOkResponse := do
  let referenceId ← readInteger UInt64
  pure { referenceId }

theorem StatusOkResponse.exact :
    WireExact StatusOkResponse.writeTo StatusOkResponse.readFrom (fun _ => True) := by
  apply ExactOn.exact
  · apply ExactOn.field readInteger_exact
    intro referenceId
    exact .done (by rintro ⟨⟩; simp)
  · intro response
    simp

end HyperCom
