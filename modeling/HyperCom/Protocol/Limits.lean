import Mathlib.Data.List.Basic

/-!
# Protocol bounds and wire types

The constants of `protocol_limits.hpp` and `key_types.hpp`, and the byte types
everything else is built from. A C++ `std::string` or `std::vector<uint8_t>` is
a `ByteString`; a `std::array<uint8_t, n>` is a `FixedBytes n`, which carries
its length, so a 31-byte key cannot be written down.

The source keeps every bound of the protocol in one header and makes it a `constexpr`, so
that no limit can be changed while the program runs; what varies from one deployment to the
next is in the configuration instead (`ServerConfig`). Here they are plain
definitions for the same reason: what is said of a limit is said of the code's own number.

The sizes that are tied to libsodium stand twice in the source, so that the parser can be
read (and fuzzed) without it. They have the same values, which is why the key types below
are one type each.
-/

namespace HyperCom

/-- A byte buffer, or the bytes of a `std::string`. -/
abbrev ByteString : Type := List UInt8

/-- An array of exactly `n` bytes. -/
abbrev FixedBytes (n : ℕ) : Type := { bytes : ByteString // bytes.length = n }

/-- The value-initialised array: all zeros. -/
def FixedBytes.zero (n : ℕ) : FixedBytes n := ⟨List.replicate n 0, List.length_replicate⟩

/-- An array that repeats one byte. -/
def repeatedBytes (n : ℕ) (byte : UInt8) : FixedBytes n :=
  ⟨List.replicate n byte, List.length_replicate⟩

/-- The bytes of an ASCII literal. -/
def ascii (text : String) : ByteString := text.toList.map fun c => UInt8.ofNat c.toNat

/-! ## `protocol_limits.hpp` -/

/-- `PROTOCOL_VERSION`. It travels in `hello_request` and in `auth_challenge`; a
`hello_request` with another one opens no session. -/
def protocolVersion : UInt16 := 1

/-- Framing is `[u32 body_size][u8 type][payload]`. -/
def frameLengthFieldSize : ℕ := 4
def frameTypeFieldSize : ℕ := 1
/-- What stands before the payload: the length field and the type. -/
def frameHeaderSize : ℕ := frameLengthFieldSize + frameTypeFieldSize

/-- The hard cap on a frame, checked before anything is allocated. -/
def maxFrameSize : ℕ := 1024 * 1024
/-- `body_size` counts the type byte and the payload, but not the length field itself. -/
def maxBodySize : ℕ := maxFrameSize - frameLengthFieldSize
/-- What a frame can carry. A reply above it is not sent at all. -/
def maxPayloadSize : ℕ := maxFrameSize - frameHeaderSize

/-- The cryptographic sizes, which the parser needs without needing libsodium. -/
def publicKeySize : ℕ := 32
def signatureSize : ℕ := 64
def authNonceSize : ℕ := 32

/-- The caps of the texts. Each is checked by the reader of the field that has it, before
the text reaches a handler, and the same numbers bound what the database can hold. -/
def maxHandleLength : ℕ := 32
def maxForumNameLength : ℕ := 48
def maxForumDescriptionLength : ℕ := 512
def maxPostTitleLength : ℕ := 200
def maxPostBodyLength : ℕ := 16 * 1024
/-- What a list of posts shows of each body, in characters. Without it a page of posts would
not fit a frame. -/
def maxPostPreviewLength : ℕ := 280
def maxCommentBodyLength : ℕ := 8 * 1024
def maxDisplayNameLength : ℕ := 48
def maxBioLength : ℕ := 2048
def maxThemeJsonLength : ℕ := 1024
def maxBlobReferenceLength : ℕ := 96
def maxErrorMessageLength : ℕ := 256
def maxMotdLength : ℕ := 4096
/-- A report is a signal for the administration, so its reason is short. -/
def maxReportReasonLength : ℕ := 500

/-- Opaque to the server, but bounded like everything else. -/
def maxDmCiphertextSize : ℕ := 64 * 1024

/-- Pagination: however many rows a client asks for, a reply has at most so many. -/
def maxListItems : ℕ := 200
/-- What a request for 0 rows asks for. -/
def defaultListItems : ℕ := 50
/-- A thread has no pages: it is cut here, and says so with `truncated`. -/
def maxThreadComments : ℕ := 500
/-- Envelopes on a page of an inbox, and ids in an acknowledgement. -/
def maxDmBatchItems : ℕ := 100
def maxFriendItems : ℕ := 500

/-- A top 8 has exactly so many slots, occupied or not. -/
def top8SlotCount : ℕ := 8

/-! ## `wire_key.hpp` and `key_types.hpp`

The protocol's key types are independent of libsodium in the source but have
the same representation, so one Lean type serves both. -/

abbrev WirePublicKey : Type := FixedBytes publicKeySize
abbrev WireSignature : Type := FixedBytes signatureSize
abbrev WireNonce : Type := FixedBytes authNonceSize

/-- An identity: the long-term key that signs the challenges and the prekeys. -/
abbrev Ed25519PublicKey : Type := FixedBytes 32
abbrev Ed25519SecretKey : Type := FixedBytes 64
abbrev Ed25519Signature : Type := FixedBytes 64
/-- A key to agree on secrets with: prekeys, ephemerals and the static key of the server. -/
abbrev X25519PublicKey : Type := FixedBytes 32
abbrev X25519SecretKey : Type := FixedBytes 32
/-- What an agreement leads to, a chain key or the key of one message. -/
abbrev SymmetricKey : Type := FixedBytes 32

/-- The nonce of ChaCha20-Poly1305 as Noise uses it, a counter in 12 bytes. -/
def chachaIetfNonceSize : ℕ := 12
def xchachaNonceSize : ℕ := 24
/-- By how much a ciphertext is longer than its plaintext. -/
def aeadTagSize : ℕ := 16
def argon2idSaltSize : ℕ := 16

end HyperCom
