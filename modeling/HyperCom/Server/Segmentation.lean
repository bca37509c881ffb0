import HyperCom.Lib.Cutting
import HyperCom.Server.Processor

/-!
# Messages and the segments they arrive in

TCP delivers a stream in whatever segments it likes. Both peers append what they
receive to a buffer and call `extract_length_prefixed_message` until it returns
`false`. The messages they get, and the place where they find a bad length, do
not depend on the segments.

It is a property of the framing alone, before any cipher: the peers can be written as
functions of the stream. Everything later that speaks of messages instead of segments rests
on it.
-/

namespace HyperCom

open BinaryCodec StreamCutting

/-! ## Extraction cuts a stream -/

section Extraction

variable {buffer payload rest : ByteString} {maximumSize : ℕ}

theorem loadLittleEndian_append {T : Type} [UnsignedInteger T] {value : T} (more : ByteString)
    (h : loadLittleEndian T buffer = some value) :
    loadLittleEndian T (buffer ++ more) = some value := by
  rw [loadLittleEndian] at h ⊢
  split_ifs at h with hshort
  rw [if_neg (by simp only [List.length_append]; omega),
    List.take_append_of_le_length (not_lt.mp hshort)]
  exact h

/-- A message that is detached stands behind its length. -/
theorem extract_message_iff :
    extractLengthPrefixedMessage buffer maximumSize = .message payload rest ↔
      ∃ announced, loadLittleEndian UInt32 buffer = some announced ∧
        0 < announced.toNat ∧ announced.toNat ≤ maximumSize ∧
        frameLengthFieldSize + announced.toNat ≤ buffer.length ∧
        payload = (buffer.drop frameLengthFieldSize).take announced.toNat ∧
        rest = buffer.drop (frameLengthFieldSize + announced.toNat) := by
  rw [extractLengthPrefixedMessage]
  by_cases hshort : buffer.length < frameLengthFieldSize
  · rw [if_pos hshort]
    simp only [reduceCtorEq, false_iff]
    rintro ⟨announced, -, -, -, hlong, -⟩
    omega
  rw [if_neg hshort]
  cases hload : loadLittleEndian UInt32 buffer with
  | none => simp
  | some announced =>
    simp only [Option.some.injEq, exists_eq_left']
    split_ifs with hcap hwait
    · simp only [Bool.or_eq_true, decide_eq_true_eq] at hcap
      simp only [false_iff]
      rintro ⟨hpos, hmax, -⟩
      omega
    · simp only [false_iff]
      rintro ⟨-, -, hlong, -⟩
      omega
    · simp only [Bool.or_eq_true, decide_eq_true_eq, not_or] at hcap
      simp only [Extraction.message.injEq]
      constructor
      · rintro ⟨rfl, rfl⟩
        exact ⟨by omega, by omega, by omega, rfl, rfl⟩
      · rintro ⟨-, -, -, rfl, rfl⟩
        exact ⟨rfl, rfl⟩

theorem extract_malformed_iff :
    extractLengthPrefixedMessage buffer maximumSize = .malformed ↔
      frameLengthFieldSize ≤ buffer.length ∧ ∃ announced,
        loadLittleEndian UInt32 buffer = some announced ∧
        (announced.toNat = 0 ∨ maximumSize < announced.toNat) := by
  rw [extractLengthPrefixedMessage]
  by_cases hshort : buffer.length < frameLengthFieldSize
  · rw [if_pos hshort]
    simp only [reduceCtorEq, false_iff]
    rintro ⟨hlong, -⟩
    omega
  rw [if_neg hshort]
  cases hload : loadLittleEndian UInt32 buffer with
  | none => simp
  | some announced =>
    simp only [Option.some.injEq, exists_eq_left', not_lt.mp hshort, true_and]
    split_ifs with hcap hwait
    · simpa using hcap
    · simpa using hcap
    · simpa using hcap

end Extraction

/-- The three outcomes of `extract_length_prefixed_message`. -/
def Extraction.toCut : Extraction → Cut UInt8 ByteString
  | .message payload rest => .piece payload rest
  | .incomplete => .wait
  | .malformed => .reject

/-- `extract_length_prefixed_message` as a way to cut a stream. -/
def cutMessage (maximumSize : ℕ) (buffer : ByteString) : Cut UInt8 ByteString :=
  (extractLengthPrefixedMessage buffer maximumSize).toCut

theorem cutMessage_piece {maximumSize : ℕ} {buffer payload rest : ByteString} :
    cutMessage maximumSize buffer = .piece payload rest ↔
      extractLengthPrefixedMessage buffer maximumSize = .message payload rest := by
  rw [cutMessage]
  cases extractLengthPrefixedMessage buffer maximumSize <;> simp [Extraction.toCut]

theorem cutMessage_reject {maximumSize : ℕ} {buffer : ByteString} :
    cutMessage maximumSize buffer = .reject ↔
      extractLengthPrefixedMessage buffer maximumSize = .malformed := by
  rw [cutMessage]
  cases extractLengthPrefixedMessage buffer maximumSize <;> simp [Extraction.toCut]

theorem cutMessage_wait {maximumSize : ℕ} {buffer : ByteString} :
    cutMessage maximumSize buffer = .wait ↔
      extractLengthPrefixedMessage buffer maximumSize = .incomplete := by
  rw [cutMessage]
  cases extractLengthPrefixedMessage buffer maximumSize <;> simp [Extraction.toCut]

/-- What comes later changes neither a message nor a bad length. -/
theorem cutMessage_prefixed (maximumSize : ℕ) : Prefixed (cutMessage maximumSize) where
  shrinks := fun hcut => extract_rest_length (cutMessage_piece.mp hcut)
  piece_append := by
    intro buffer payload rest more hcut
    obtain ⟨announced, hload, hpos, hmax, hlong, hpayload, hrest⟩ :=
      extract_message_iff.mp (cutMessage_piece.mp hcut)
    refine cutMessage_piece.mpr (extract_message_iff.mpr ⟨announced, loadLittleEndian_append more hload,
      hpos, hmax, ?_, ?_, ?_⟩)
    · rw [List.length_append]
      omega
    · rw [hpayload, List.drop_append_of_le_length (by omega),
        List.take_append_of_le_length (by rw [List.length_drop]; omega)]
    · rw [hrest, List.drop_append_of_le_length hlong]
  reject_append := by
    intro buffer more hcut
    obtain ⟨hlong, announced, hload, hbad⟩ := extract_malformed_iff.mp (cutMessage_reject.mp hcut)
    refine cutMessage_reject.mpr (extract_malformed_iff.mpr ⟨?_, announced,
      loadLittleEndian_append more hload, hbad⟩)
    rw [List.length_append]
    omega

/-- A buffer that waits for more is shorter than the longest message with its
length. -/
theorem cutMessage_wait_length {maximumSize : ℕ} {buffer : ByteString}
    (h : cutMessage maximumSize buffer = .wait) :
    buffer.length < frameLengthFieldSize + maximumSize := by
  by_contra hlong
  have hfield : ¬ buffer.length < frameLengthFieldSize := by omega
  have hload : loadLittleEndian UInt32 buffer =
      some (UnsignedInteger.ofNat (decodeLE (buffer.take 4))) := by
    rw [loadLittleEndian]
    exact if_neg hfield
  have hwait := cutMessage_wait.mp h
  rw [extractLengthPrefixedMessage, if_neg hfield, hload] at hwait
  simp only at hwait
  split_ifs at hwait with hcap hshort
  simp only [Bool.or_eq_true, decide_eq_true_eq, not_or] at hcap
  omega

/-! ## Both peers -/

/-- The stream so far, cut into messages: what a peer has after receiving these
chunks and calling `extract_length_prefixed_message` until it returns `false`
after each of them. -/
def receiveChunks (maximumSize fuel : ℕ) (chunks : List ByteString) :
    Option (Progress UInt8 ByteString) :=
  feed (cutMessage maximumSize) fuel {} chunks

/-- For every cap, the messages, the verdict and its place in the stream do not
depend on how the stream is cut into chunks; a stream of messages within the cap is
read back whole; the buffer stays below the longest message with its length; and
the calls come to an end. Every frame that `encode_frame` accepts is, once sealed,
within the cap of both peers, and its header is accepted with its size. -/
theorem framing_ignores_segments [Sodium] :
    (∀ (maximumSize fuel : ℕ) (chunks : List ByteString), chunks.flatten.length < fuel →
      ∃ pieced whole, receiveChunks maximumSize fuel chunks = some pieced ∧
        receiveChunks maximumSize fuel [chunks.flatten] = some whole ∧
        pieced.pieces = whole.pieces ∧ pieced.rejected = whole.rejected ∧
        pieced.position = whole.position ∧
        (pieced.rejected = false → pieced.buffer = whole.buffer ∧
          pieced.buffer.length < frameLengthFieldSize + maximumSize)) ∧
    (∀ (maximumSize fuel : ℕ) (payloads chunks : List ByteString), maximumSize < 2 ^ 32 →
      (∀ payload ∈ payloads, 1 ≤ payload.length ∧ payload.length ≤ maximumSize) →
      chunks.flatten = payloads.flatMap appendLengthPrefixedMessage →
      chunks.flatten.length < fuel →
      ∃ progress, receiveChunks maximumSize fuel chunks = some progress ∧
        progress.pieces = payloads ∧ progress.buffer = [] ∧ progress.rejected = false) ∧
    (∀ (type : MessageType) (payload frame sealed : ByteString) (transport : NoiseTransport),
      encodeFrame type payload = some frame →
      (transport.encryptMessage frame).1 = some sealed →
      sealed.length = frame.length + 16 ∧ sealed.length ≤ maxNoiseMessageSize ∧
      ∃ header, decodeFrameHeader frame = some header ∧ header.type = type ∧
        frameLengthFieldSize + header.bodySize.toNat = frame.length) := by
  refine ⟨?_, ?_, ?_⟩
  · intro maximumSize fuel chunks hfuel
    have hprefixed := cutMessage_prefixed maximumSize
    obtain ⟨pieced, whole, hpieced, hwhole, hagrees⟩ := hprefixed.feed_eq rfl chunks hfuel
    refine ⟨pieced, whole, hpieced, hwhole, hagrees.pieces, hagrees.rejected, hagrees.position,
      fun hgood => ⟨hagrees.buffer hgood, ?_⟩⟩
    exact cutMessage_wait_length (feed_waits hpieced (fun _ => rfl) hgood)
  · intro maximumSize fuel payloads chunks hword hsizes hstream hfuel
    refine (cutMessage_prefixed maximumSize).feed_written ?_ rfl hstream hfuel
    intro payload hpayload rest
    obtain ⟨hpos, hmax⟩ := hsizes payload hpayload
    exact cutMessage_piece.mpr (extract_append (List.ne_nil_of_length_pos hpos) hmax (by omega))
  · intro type payload frame sealed transport hencode hseal
    obtain ⟨hfits, rfl⟩ := encodeFrame_eq_some.mp hencode
    rcases hout : transport.encryptMessage (frameBytes type payload) with ⟨sealed?, transport'⟩
    rw [hout] at hseal
    obtain rfl : sealed? = some sealed := hseal
    rcases NoiseTransport.encryptMessage_cases hout with ⟨⟨⟩, -⟩ | ⟨hsealed, -⟩
    obtain rfl := Option.some.inj hsealed
    refine ⟨sealedMessage_length .., ?_, _, decodeFrameHeader_frameBytes hfits, rfl,
      (frameBytes_bodySize hfits).symm⟩
    rw [sealedMessage_length, frameBytes_length, maxNoiseMessageSize]
    simp only [maxPayloadSize, maxFrameSize, frameHeaderSize, frameLengthFieldSize,
      frameTypeFieldSize] at hfits ⊢
    omega

/-- Two messages that arrive with a cut inside the second length. -/
theorem framing_ignores_segments_split :
    letI := transparentSodium
    (∃ progress, receiveChunks 8 20 [[1, 0, 0, 0, 7, 2, 0], [0, 0, 8, 9]] = some progress ∧
      progress.pieces = [[7], [8, 9]] ∧ progress.buffer = [] ∧ progress.rejected = false) ∧
    ∃ frame sealed : ByteString, encodeFrame .pingRequest [] = some frame ∧
      ((NoiseTransport.create (FixedBytes.zero _) (FixedBytes.zero _)).encryptMessage frame).1 =
        some sealed ∧
      sealed.length = frame.length + 16 ∧ sealed.length ≤ maxNoiseMessageSize := by
  let _ := transparentSodium
  refine ⟨framing_ignores_segments.2.1 8 20 [[7], [8, 9]] _ (by decide) (by decide)
    (by decide +kernel) (by decide), _, _, rfl, rfl, ?_⟩
  obtain ⟨hlength, hfits, -⟩ := framing_ignores_segments.2.2 .pingRequest [] _ _
    (NoiseTransport.create (FixedBytes.zero _) (FixedBytes.zero _)) rfl rfl
  exact ⟨hlength, hfits⟩

end HyperCom
