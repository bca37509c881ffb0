import HyperCom.Lib.ExactCodec
import HyperCom.Lib.LittleEndian
import HyperCom.Protocol.Limits

/-!
# The bounds-checked reader, the writer and the field codecs

`byte_reader`, `byte_writer`, `endian_codec.hpp`, `text_field_codec` and
`record_list_codec.hpp`. A `byte_writer` only ever appends, so a writing
function is modelled by the bytes it appends. A `byte_reader` keeps its buffer
and an offset that never leaves it; a reading function returns `false` by
failing in `Fallible ByteReader`, which keeps whatever it had consumed.

Every primitive is an exact codec (`BinaryCodec.Exact`), which is what the
message codecs are assembled from.
-/

namespace HyperCom

open BinaryCodec

/-! ## Unsigned integers -/

/-- What the templates over unsigned integer types use of their argument:
`sizeof(T)` and the value. -/
class UnsignedInteger (T : Type) where
  /-- `sizeof(T)` -/
  size : ℕ
  toNat : T → ℕ
  ofNat : ℕ → T
  toNat_lt : ∀ v, toNat v < 256 ^ size
  ofNat_toNat : ∀ v, ofNat (toNat v) = v
  toNat_ofNat : ∀ {n}, n < 256 ^ size → toNat (ofNat n) = n

instance : UnsignedInteger UInt8 where
  size := 1
  toNat := UInt8.toNat
  ofNat := UInt8.ofNat
  toNat_lt := fun v => v.toNat_lt
  ofNat_toNat := fun _ => UInt8.ofNat_toNat
  toNat_ofNat := fun h => UInt8.toNat_ofNat_of_lt' h

instance : UnsignedInteger UInt16 where
  size := 2
  toNat := UInt16.toNat
  ofNat := UInt16.ofNat
  toNat_lt := fun v => v.toNat_lt
  ofNat_toNat := fun _ => UInt16.ofNat_toNat
  toNat_ofNat := fun h => UInt16.toNat_ofNat_of_lt' h

instance : UnsignedInteger UInt32 where
  size := 4
  toNat := UInt32.toNat
  ofNat := UInt32.ofNat
  toNat_lt := fun v => v.toNat_lt
  ofNat_toNat := fun _ => UInt32.ofNat_toNat
  toNat_ofNat := fun h => UInt32.toNat_ofNat_of_lt' h

instance : UnsignedInteger UInt64 where
  size := 8
  toNat := UInt64.toNat
  ofNat := UInt64.ofNat
  toNat_lt := fun v => v.toNat_lt
  ofNat_toNat := fun _ => UInt64.ofNat_toNat
  toNat_ofNat := fun h => UInt64.toNat_ofNat_of_lt' h

open UnsignedInteger (size)

variable {T : Type} [UnsignedInteger T]

/-- `load_little_endian`: the bytes beyond `sizeof(T)` are ignored. -/
def loadLittleEndian (T : Type) [UnsignedInteger T] (source : ByteString) : Option T :=
  if source.length < size T then none
  else some (UnsignedInteger.ofNat (decodeLE (source.take (size T))))

/-- `store_little_endian` into a span of exactly `sizeof(T)` bytes. -/
def storeLittleEndian (value : T) : ByteString :=
  encodeLE (size T) (UnsignedInteger.toNat value)

@[simp] theorem storeLittleEndian_length (value : T) :
    (storeLittleEndian value).length = size T :=
  encodeLE_length ..

/-- Loading a stored integer, whatever follows it. -/
theorem loadLittleEndian_store (value : T) (suffix : ByteString) :
    loadLittleEndian T (storeLittleEndian value ++ suffix) = some value := by
  have hlen := storeLittleEndian_length value
  rw [loadLittleEndian, if_neg (by simp [hlen]), List.take_left' hlen, storeLittleEndian,
    decodeLE_encodeLE (UnsignedInteger.toNat_lt value), UnsignedInteger.ofNat_toNat]

/-- The bytes an integer was loaded from are its stored form. -/
theorem storeLittleEndian_load {source : ByteString} {value : T}
    (h : loadLittleEndian T source = some value) :
    source.take (size T) = storeLittleEndian value := by
  unfold loadLittleEndian at h
  split at h
  · cases h
  · next hlen =>
    obtain rfl := Option.some.inj h
    have htake : (source.take (size T)).length = size T := by simp; omega
    have hlt := decodeLE_lt (source.take (size T))
    have hself := encodeLE_decodeLE (source.take (size T))
    rw [htake] at hlt hself
    rw [storeLittleEndian, UnsignedInteger.toNat_ofNat hlt, hself]

/-! ## `byte_reader` -/

/-- A buffer and how far it has been read. The offset stays inside the buffer. -/
structure ByteReader where
  buffer : ByteString
  offset : ℕ
  inBounds : offset ≤ buffer.length

namespace ByteReader

/-- A reader at the start of `buffer`. -/
def start (buffer : ByteString) : ByteReader := ⟨buffer, 0, Nat.zero_le _⟩

/-- The bytes not read yet. -/
def remaining (reader : ByteReader) : ByteString := reader.buffer.drop reader.offset

def countRemainingBytes (reader : ByteReader) : ℕ := reader.buffer.length - reader.offset

@[simp] theorem remaining_start (buffer : ByteString) : (start buffer).remaining = buffer := rfl

@[simp] theorem remaining_length (reader : ByteReader) :
    reader.remaining.length = reader.countRemainingBytes := by
  simp [remaining, countRemainingBytes]

end ByteReader

/-- A reading method of `byte_reader`. -/
abbrev Reader (α : Type) : Type := Fallible ByteReader α

/-- `take_slice`: the one place the offset moves. -/
def takeSlice (size : ℕ) : Reader ByteString := fun reader =>
  if h : size > reader.countRemainingBytes then (none, reader)
  else
    (some ((reader.buffer.drop reader.offset).take size),
      ⟨reader.buffer, reader.offset + size, by
        have := reader.inBounds
        simp only [ByteReader.countRemainingBytes] at h
        omega⟩)

/-- `read_integer` -/
def readInteger (T : Type) [UnsignedInteger T] : Reader T := do
  let slice ← takeSlice (size T)
  Fallible.ofOption (loadLittleEndian T slice)

/-- `read_fixed_bytes` into a destination of `n` bytes. -/
def readFixedBytes (n : ℕ) : Reader (FixedBytes n) := do
  let slice ← takeSlice n
  if h : slice.length = n then pure ⟨slice, h⟩ else Fallible.fail

/-- The second half of `read_length_prefixed`: the announced size is checked
against the cap and the buffer before anything is taken. -/
def takeAnnounced (maximumLength announcedLength : ℕ) : Reader ByteString := fun reader =>
  if announcedLength > maximumLength ∨ announcedLength > reader.countRemainingBytes then
    (none, reader)
  else takeSlice announcedLength reader

/-- `read_length_prefixed` -/
def readLengthPrefixed (maximumLength : ℕ) : Reader ByteString := do
  let announcedLength ← readInteger UInt32
  takeAnnounced maximumLength announcedLength.toNat

/-! ## `byte_writer` -/

/-- `write_integer` -/
def writeInteger (value : T) : ByteString := storeLittleEndian value

/-- `write_fixed_bytes` -/
def writeFixedBytes (data : ByteString) : ByteString := data

/-- `write_length_prefixed`: the size is truncated to 32 bits, the data is not. -/
def writeLengthPrefixed (data : ByteString) : ByteString :=
  writeInteger (UInt32.ofNat data.length) ++ writeFixedBytes data

/-! ## `text_field_codec.cpp` -/

def isAllowedAscii (byte : UInt8) : Bool :=
  if byte == 0x09 || byte == 0x0A then true else byte ≥ 0x20 && byte != 0x7F

/-- Rejects overlong encodings, surrogates and out-of-plane code points. -/
def isCanonicalCodePoint (codePoint : UInt32) (length : ℕ) : Bool :=
  if codePoint ≥ 0xD800 && codePoint ≤ 0xDFFF then false
  else if length = 2 then codePoint ≥ 0x80
  else if length = 3 then codePoint ≥ 0x800
  else codePoint ≥ 0x10000 && codePoint ≤ 0x10FFFF

/-- The length a lead byte announces and the bits of the code point it carries. -/
def decodeLeadByte (lead : UInt8) : Option (ℕ × UInt32) :=
  if lead &&& 0xE0 == 0xC0 then some (2, (lead &&& 0x1F).toUInt32)
  else if lead &&& 0xF0 == 0xE0 then some (3, (lead &&& 0x0F).toUInt32)
  else if lead &&& 0xF8 == 0xF0 then some (4, (lead &&& 0x07).toUInt32)
  else none

/-- The loop over the continuation bytes. -/
def appendContinuation : UInt32 → ByteString → Option UInt32
  | codePoint, [] => some codePoint
  | codePoint, byte :: rest =>
    if byte &&& 0xC0 != 0x80 then none
    else appendContinuation ((codePoint <<< 6) ||| (byte &&& 0x3F).toUInt32) rest

/-- `measure_utf8_sequence`: the bytes consumed at the head of what is left of
the text, or 0 if the sequence is invalid. The source passes the whole text and
an offset; here the text starts at the offset. -/
def measureUtf8Sequence : ByteString → ℕ
  | [] => 0
  | lead :: rest =>
    if lead < 0x80 then (if isAllowedAscii lead then 1 else 0)
    else
      match decodeLeadByte lead with
      | none => 0
      | some (length, codePoint) =>
        if length > rest.length + 1 then 0
        else
          match appendContinuation codePoint (rest.take (length - 1)) with
          | none => 0
          | some codePoint => if isCanonicalCodePoint codePoint length then length else 0

/-- The loop of `validate_text_field`. Each pass consumes at least one byte, so
the length of the text bounds the passes. -/
def validateSequences : ℕ → ByteString → Bool
  | _, [] => true
  | 0, _ :: _ => false
  | passes + 1, text@(_ :: _) =>
    let consumed := measureUtf8Sequence text
    if consumed = 0 then false else validateSequences passes (text.drop consumed)

/-- `validate_text_field` -/
def validateTextField (text : ByteString) : Bool := validateSequences text.length text

/-- `read_text_field` -/
def readTextField (maximumLength : ℕ) : Reader ByteString := do
  let raw ← readLengthPrefixed maximumLength
  if validateTextField raw then pure raw else Fallible.fail

/-- `write_text_field` -/
def writeTextField (text : ByteString) : ByteString := writeLengthPrefixed text

/-- A text the reader accepts under the cap `maximumLength`. -/
def TextInRange (maximumLength : ℕ) (text : ByteString) : Prop :=
  text.length ≤ maximumLength ∧ validateTextField text = true

instance (maximumLength : ℕ) (text : ByteString) : Decidable (TextInRange maximumLength text) :=
  inferInstanceAs (Decidable (_ ∧ _))

theorem TextInRange.nil (maximumLength : ℕ) : TextInRange maximumLength [] :=
  ⟨Nat.zero_le _, rfl⟩

theorem TextInRange.mono {small large : ℕ} {text : ByteString} (h : TextInRange small text)
    (hle : small ≤ large) : TextInRange large text :=
  ⟨h.1.trans hle, h.2⟩

/-! ## `record_list_codec.hpp` -/

/-- `read_record_list` -/
def readRecordList {α : Type} (readFrom : Reader α) (maximumItems : ℕ) : Reader (List α) := do
  let announcedCount ← readInteger UInt16
  if announcedCount.toNat > maximumItems then Fallible.fail
  else readFrom.repeatTimes announcedCount.toNat

/-- `write_record_list` -/
def writeRecordList {α : Type} (writeTo : α → ByteString) (items : List α) : ByteString :=
  writeInteger (UInt16.ofNat items.length) ++ items.flatMap writeTo

/-! ## The primitives are exact -/

/-- Exactness of a wire codec: the unread bytes are the reader's. -/
abbrev WireExact {α : Type} (writeTo : α → ByteString) (readFrom : Reader α)
    (inRange : α → Prop) : Prop :=
  Exact ByteReader.remaining writeTo readFrom inRange

theorem takeSlice_complete {reader : ByteReader} {slice suffix : ByteString}
    (h : reader.remaining = slice ++ suffix) :
    ∃ reader', takeSlice slice.length reader = (some slice, reader') ∧
      reader'.remaining = suffix := by
  have hlen : reader.countRemainingBytes = slice.length + suffix.length := by
    rw [← ByteReader.remaining_length, h, List.length_append]
  have hdrop : reader.buffer.drop reader.offset = slice ++ suffix := h
  refine ⟨_, by rw [takeSlice, dif_neg (by omega), hdrop, List.take_left], ?_⟩
  simp only [ByteReader.remaining, ← List.drop_drop, hdrop, List.drop_left]

theorem takeSlice_sound {n : ℕ} {reader reader' : ByteReader} {slice : ByteString}
    (h : takeSlice n reader = (some slice, reader')) :
    slice.length = n ∧ reader.remaining = slice ++ reader'.remaining := by
  unfold takeSlice at h
  split at h
  · cases h
  · next hsize =>
    obtain ⟨hslice, rfl⟩ := Prod.mk.inj h
    obtain rfl := Option.some.inj hslice
    simp only [ByteReader.countRemainingBytes] at hsize
    refine ⟨by simp; omega, ?_⟩
    simp only [ByteReader.remaining, ← List.drop_drop, List.take_append_drop]

theorem readInteger_exact :
    WireExact (writeInteger (T := T)) (readInteger T) (fun _ => True) where
  complete := by
    intro reader v suffix _ h
    obtain ⟨reader', hslice, hrest⟩ := takeSlice_complete h
    rw [writeInteger, storeLittleEndian_length] at hslice
    have hload := loadLittleEndian_store v []
    rw [List.append_nil] at hload
    exact ⟨reader', by
      rw [readInteger, Fallible.bind_some hslice, hload, Fallible.ofOption_some], hrest⟩
  sound := by
    intro reader v reader' h
    obtain ⟨slice, reader₁, hslice, h⟩ := Fallible.bind_eq_some h
    obtain ⟨hlen, hrest⟩ := takeSlice_sound hslice
    rcases hload : loadLittleEndian T slice with _ | v'
    · rw [hload] at h
      cases h
    · rw [hload] at h
      obtain ⟨hv, rfl⟩ := Prod.mk.inj h
      obtain rfl := Option.some.inj hv
      have hstore := storeLittleEndian_load hload
      rw [List.take_of_length_le (by omega)] at hstore
      exact ⟨trivial, by rw [hrest, writeInteger, hstore]⟩

theorem readFixedBytes_exact (n : ℕ) :
    WireExact (fun bytes : FixedBytes n => writeFixedBytes bytes.1) (readFixedBytes n)
      (fun _ => True) where
  complete := by
    intro reader bytes suffix _ h
    obtain ⟨reader', hslice, hrest⟩ := takeSlice_complete h
    rw [writeFixedBytes, bytes.2] at hslice
    exact ⟨reader', by
      rw [readFixedBytes, Fallible.bind_some hslice, dif_pos bytes.2, Fallible.pure_apply], hrest⟩
  sound := by
    intro reader v reader' h
    obtain ⟨slice, reader₁, hslice, h⟩ := Fallible.bind_eq_some h
    obtain ⟨hlen, hrest⟩ := takeSlice_sound hslice
    rw [dif_pos hlen] at h
    obtain ⟨hv, rfl⟩ := Prod.mk.inj h
    obtain rfl := Option.some.inj hv
    exact ⟨trivial, hrest⟩

theorem readLengthPrefixed_exact {maximumLength : ℕ} (hmax : maximumLength < 2 ^ 32) :
    WireExact writeLengthPrefixed (readLengthPrefixed maximumLength)
      (fun data => data.length ≤ maximumLength) where
  complete := by
    intro reader data suffix hdata h
    rw [writeLengthPrefixed, List.append_assoc] at h
    have hnat : (UInt32.ofNat data.length).toNat = data.length :=
      UInt32.toNat_ofNat_of_lt' (Nat.lt_of_le_of_lt hdata hmax)
    obtain ⟨reader₁, hread, hrest⟩ := readInteger_exact.complete trivial h
    obtain ⟨reader₂, hslice, hrest₂⟩ := takeSlice_complete hrest
    refine ⟨reader₂, ?_, hrest₂⟩
    have hlen : reader₁.countRemainingBytes = data.length + suffix.length := by
      rw [← ByteReader.remaining_length, hrest, List.length_append, writeFixedBytes]
    rw [readLengthPrefixed, Fallible.bind_some hread, hnat, takeAnnounced, if_neg (by omega)]
    exact hslice
  sound := by
    intro reader data reader' h
    obtain ⟨announced, reader₁, hread, h⟩ := Fallible.bind_eq_some h
    obtain ⟨-, hrest⟩ := readInteger_exact.sound hread
    unfold takeAnnounced at h
    split at h
    · cases h
    · next hcap =>
      obtain ⟨hlen, hrest₂⟩ := takeSlice_sound h
      have hann : UInt32.ofNat data.length = announced := by
        rw [hlen, UInt32.ofNat_toNat]
      exact ⟨by omega, by
        rw [hrest, hrest₂, writeLengthPrefixed, hann, writeFixedBytes, List.append_assoc]⟩

theorem readTextField_exact {maximumLength : ℕ} (hmax : maximumLength < 2 ^ 32) :
    WireExact writeTextField (readTextField maximumLength) (TextInRange maximumLength) :=
  (readLengthPrefixed_exact hmax).guard validateTextField

theorem readRecordList_exact {α : Type} {writeTo : α → ByteString} {readFrom : Reader α}
    {inRange : α → Prop} (h : WireExact writeTo readFrom inRange) {maximumItems : ℕ}
    (hmax : maximumItems < 2 ^ 16) :
    WireExact (writeRecordList writeTo) (readRecordList readFrom maximumItems)
      (fun items => items.length ≤ maximumItems ∧ ∀ item ∈ items, inRange item) where
  complete := by
    intro reader items suffix hitems hs
    rw [writeRecordList, List.append_assoc] at hs
    have hnat : (UInt16.ofNat items.length).toNat = items.length :=
      UInt16.toNat_ofNat_of_lt' (Nat.lt_of_le_of_lt hitems.1 hmax)
    obtain ⟨reader₁, hread, hrest⟩ := readInteger_exact.complete trivial hs
    obtain ⟨reader₂, hread₂, hrest₂⟩ :=
      (h.repeatTimes items.length).complete ⟨rfl, hitems.2⟩ hrest
    refine ⟨reader₂, ?_, hrest₂⟩
    rw [readRecordList, Fallible.bind_some hread, hnat, if_neg (by have := hitems.1; omega)]
    exact hread₂
  sound := by
    intro reader items reader' hs
    obtain ⟨announced, reader₁, hread, hs⟩ := Fallible.bind_eq_some hs
    obtain ⟨-, hrest⟩ := readInteger_exact.sound hread
    split at hs
    · cases hs
    · next hcap =>
      obtain ⟨⟨hlen, hitems⟩, hrest₂⟩ := (h.repeatTimes announced.toNat).sound hs
      have hann : UInt16.ofNat items.length = announced := by
        rw [hlen, UInt16.ofNat_toNat]
      exact ⟨⟨by omega, hitems⟩, by
        rw [hrest, hrest₂, writeRecordList, hann, List.append_assoc]⟩

/-- A value in range is read back from its own encoding. -/
theorem WireExact.readFrom_start {α : Type} {writeTo : α → ByteString} {readFrom : Reader α}
    {inRange : α → Prop} (codec : WireExact writeTo readFrom inRange) {value : α}
    (h : inRange value) : (readFrom (ByteReader.start (writeTo value))).1 = some value := by
  have hstart : (ByteReader.start (writeTo value)).remaining = writeTo value ++ [] := by
    rw [ByteReader.remaining_start, List.append_nil]
  obtain ⟨reader, hread, -⟩ := codec.complete h hstart
  rw [hread]

end HyperCom
