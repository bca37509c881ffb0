import HyperCom.Protocol.Frame

/-!
# Errors that reach the client

The reader of `status_error_response` takes `not_implemented` for the last error
code. It is the last but one: what is sent with `account_banned` is no message to
the client (`error_reaches_client_iff`).

The server writes any code, with its description as the detail. A client that gets a code
its reader does not know cannot read the message at all, and takes the session for broken
instead of learning what was wrong.
-/

namespace HyperCom

open BinaryCodec

/-- The check and the cast of `read_error_code`. -/
def ErrorCode.ofRaw (raw : UInt16) : Option ErrorCode :=
  if raw > notImplemented.toRaw then Option.none else all.find? fun code => code.toRaw == raw

/-- What the comparison with the last code lets through: everything but `account_banned`. -/
theorem ErrorCode.ofRaw_eq_some (raw : UInt16) (code : ErrorCode) :
    ofRaw raw = some code ↔ code ≠ accountBanned ∧ raw = code.toRaw := by
  constructor
  · intro h
    rw [ofRaw] at h
    split at h
    · cases h
    · next hsmall =>
      have hraw := List.find?_some h
      obtain rfl := beq_iff_eq.mp hraw
      refine ⟨?_, rfl⟩
      rintro rfl
      exact hsmall (by decide)
  · rintro ⟨hcode, rfl⟩
    cases code with
    | accountBanned => exact absurd rfl hcode
    | _ => decide

/-- The range check is all that stands between the integer and the code. -/
theorem readErrorCode_eq :
    readErrorCode = readInteger UInt16 >>= fun raw => Fallible.ofOption (ErrorCode.ofRaw raw) := by
  rw [readErrorCode]
  congr 1
  funext raw
  rw [ErrorCode.ofRaw]
  split <;> rfl

/-- On the codes it knows, the reader is the inverse of the writer. -/
theorem readErrorCode_exact :
    WireExact (fun code : ErrorCode => writeInteger code.toRaw) readErrorCode
      (fun code => code ≠ .accountBanned) := by
  rw [readErrorCode_eq]
  exact readInteger_exact.decodeWhere ErrorCode.ofRaw_eq_some fun _ => trivial

/-- What the reader accepts. -/
def StatusErrorResponse.InRange (response : StatusErrorResponse) : Prop :=
  response.code ≠ .accountBanned ∧ TextInRange maxErrorMessageLength response.detail

/-- So the whole message is exact, on those codes. -/
theorem StatusErrorResponse.exact :
    WireExact StatusErrorResponse.writeTo StatusErrorResponse.readFrom
      StatusErrorResponse.InRange := by
  apply ExactOn.exact
  · apply ExactOn.field readErrorCode_exact
    intro code
    apply ExactOn.field (readTextField_exact (by decide))
    intro detail
    exact .done (by rintro ⟨⟩; simp)
  · intro response
    simp [StatusErrorResponse.InRange]

/-- The texts the server sends along fit their field. -/
theorem describeErrorCode_inRange (code : ErrorCode) :
    TextInRange maxErrorMessageLength (describeErrorCode code) := by
  cases code <;> decide

/-- The client reads the error as it was sent, whatever follows it. -/
def ErrorReaches (code : ErrorCode) (detail suffix : ByteString) : Prop :=
  ∃ left, StatusErrorResponse.readFrom (ByteReader.start
      (StatusErrorResponse.writeTo { code, detail } ++ suffix)) = (some { code, detail }, left) ∧
    left.remaining = suffix

/-- Every error with a detail that fits reaches the client, except that of a
banned account; a number that is no error code is never read. -/
theorem error_reaches_client_iff (code : ErrorCode) (detail suffix : ByteString) (raw : UInt16)
    (rest : ByteString) (fits : TextInRange maxErrorMessageLength detail) :
    (ErrorReaches code detail suffix ↔ code ≠ .accountBanned) ∧
    ((∀ code : ErrorCode, code.toRaw ≠ raw) →
      (StatusErrorResponse.readFrom (ByteReader.start (writeInteger raw ++ rest))).1 = none) := by
  constructor
  · constructor
    · rintro ⟨left, hread, -⟩
      exact (StatusErrorResponse.exact.sound hread).1.1
    · intro hcode
      exact StatusErrorResponse.exact.complete ⟨hcode, fits⟩ (ByteReader.remaining_start _)
  · intro hraw
    rcases hread : StatusErrorResponse.readFrom (ByteReader.start (writeInteger raw ++ rest)) with
      ⟨_ | response, left⟩
    · rfl
    · -- what is read was written, with the number of its code in front
      have hwritten := (StatusErrorResponse.exact.sound hread).2
      rw [ByteReader.remaining_start, StatusErrorResponse.writeTo, List.flatten_cons,
        List.append_assoc] at hwritten
      have hsame : writeInteger raw = writeInteger response.code.toRaw :=
        (List.append_inj hwritten (by simp [writeInteger])).1
      have hcode := congrArg (fun bytes => loadLittleEndian UInt16 (bytes ++ [])) hsame
      simp only [writeInteger, loadLittleEndian_store, Option.some.injEq] at hcode
      exact absurd hcode.symm (hraw response.code)

/-- The error of a rate limit, in front of another message. -/
theorem error_reaches_client_iff_limited :
    ErrorReaches .rateLimited (describeErrorCode .rateLimited) [1, 2] ∧
      (StatusErrorResponse.readFrom (ByteReader.start (writeInteger (16 : UInt16) ++ []))).1 = none :=
  have hreaches := error_reaches_client_iff .rateLimited (describeErrorCode .rateLimited) [1, 2] 16 []
    (describeErrorCode_inRange _)
  ⟨hreaches.1.mpr (by decide), hreaches.2 fun code => by cases code <;> decide⟩

/-- What the server sends to a banned account. -/
theorem ban_unreadable :
    (StatusErrorResponse.readFrom (ByteReader.start (StatusErrorResponse.writeTo
      { code := .accountBanned, detail := describeErrorCode .accountBanned }))).1 = none ∧
    ¬ ErrorReaches .accountBanned (describeErrorCode .accountBanned) [] := by
  have hunread : (StatusErrorResponse.readFrom (ByteReader.start (StatusErrorResponse.writeTo
      { code := .accountBanned, detail := describeErrorCode .accountBanned }))).1 = none := by
    decide +kernel
  refine ⟨hunread, ?_⟩
  rintro ⟨left, hread, -⟩
  rw [List.append_nil] at hread
  rw [hread] at hunread
  cases hunread

end HyperCom
