import HyperCom.Protocol.ByteCodec

/-!
# What a failed read leaves behind

The reading functions with the destination they are given, and what becomes of it and
of the reader when they fail. The destination is written last in all of them, so a
failure leaves it alone. The reader is where it was after a failed integer or array.
A length prefix stays consumed when what it announces is refused, and so does the body
of a text that is not valid (`reader_failures_iff`).

The readers of `ByteCodec` return an `Option`, which suits every caller, since they all give
up when a field fails. Here the functions have the signature of the source instead, with the
destination as an argument and the verdict as a `Bool`, and the two are tied together by
`intoDestination` before anything is said about failures.
-/

namespace HyperCom

open BinaryCodec UnsignedInteger

/-! ## The functions with their destination -/

/-- What a reading function returns, what it leaves in its destination, and the reader. -/
abbrev ReadResult (α : Type) : Type := Bool × α × ByteReader

section Definitions

variable {T : Type} [UnsignedInteger T]

/-- `read_integer` -/
def readIntegerInto (out : T) (reader : ByteReader) : ReadResult T :=
  match takeSlice (size T) reader with
  | (none, reader) => (false, out, reader)
  | (some slice, reader) =>
    match loadLittleEndian T slice with
    | none => (false, out, reader)
    | some value => (true, value, reader)

/-- `read_fixed_bytes` -/
def readFixedBytesInto {n : ℕ} (destination : FixedBytes n) (reader : ByteReader) :
    ReadResult (FixedBytes n) :=
  match takeSlice n reader with
  | (none, reader) => (false, destination, reader)
  | (some slice, reader) =>
    if h : slice.length = n then (true, ⟨slice, h⟩, reader) else (false, destination, reader)

/-- `read_length_prefixed`: the announced length goes into a local variable. -/
def readLengthPrefixedInto (maximumLength : ℕ) (out : ByteString) (reader : ByteReader) :
    ReadResult ByteString :=
  match readIntegerInto (0 : UInt32) reader with
  | (false, _, reader) => (false, out, reader)
  | (true, announcedLength, reader) =>
    let length := announcedLength.toNat
    if length > maximumLength ∨ length > reader.countRemainingBytes then (false, out, reader)
    else
      match takeSlice length reader with
      | (none, reader) => (false, out, reader)
      | (some slice, reader) => (true, slice, reader)

/-- `read_text_field`: the body goes into a local buffer until it has been validated. -/
def readTextFieldInto (maximumLength : ℕ) (out : ByteString) (reader : ByteReader) :
    ReadResult ByteString :=
  match readLengthPrefixedInto maximumLength [] reader with
  | (false, _, reader) => (false, out, reader)
  | (true, raw, reader) =>
    if validateTextField raw then (true, raw, reader) else (false, out, reader)

end Definitions

/-! ## They are the readers of the codecs -/

/-- A reader of the codecs, given a destination. -/
def intoDestination {α : Type} (read : Reader α) (out : α) (reader : ByteReader) : ReadResult α :=
  match read reader with
  | (some value, reader) => (true, value, reader)
  | (none, reader) => (false, out, reader)

section Connection

variable {T : Type} [UnsignedInteger T]

/-- With the destination passed through, each is the reader of `ByteCodec`. -/
theorem readIntegerInto_eq (out : T) (reader : ByteReader) :
    readIntegerInto out reader = intoDestination (readInteger T) out reader := by
  rw [readIntegerInto, intoDestination, readInteger]
  rcases hslice : takeSlice (size T) reader with ⟨_ | slice, reader'⟩
  · rw [Fallible.bind_none hslice]
  · rw [Fallible.bind_some hslice]
    dsimp only
    rcases hload : loadLittleEndian T slice with _ | value
    · rfl
    · rfl

theorem readFixedBytesInto_eq {n : ℕ} (destination : FixedBytes n) (reader : ByteReader) :
    readFixedBytesInto destination reader = intoDestination (readFixedBytes n) destination reader := by
  rw [readFixedBytesInto, intoDestination, readFixedBytes]
  rcases hslice : takeSlice n reader with ⟨_ | slice, reader'⟩
  · rw [Fallible.bind_none hslice]
  · rw [Fallible.bind_some hslice]
    dsimp only
    split
    · rfl
    · rfl

theorem readLengthPrefixedInto_eq (maximumLength : ℕ) (out : ByteString) (reader : ByteReader) :
    readLengthPrefixedInto maximumLength out reader =
      intoDestination (readLengthPrefixed maximumLength) out reader := by
  rw [readLengthPrefixedInto, readIntegerInto_eq, intoDestination, intoDestination,
    readLengthPrefixed]
  rcases hannounced : readInteger UInt32 reader with ⟨_ | announced, reader'⟩
  · rw [Fallible.bind_none hannounced]
  · rw [Fallible.bind_some hannounced, takeAnnounced]
    dsimp only
    split
    · rfl
    · rcases takeSlice announced.toNat reader' with ⟨_ | slice, reader''⟩
      · rfl
      · rfl

theorem readTextFieldInto_eq (maximumLength : ℕ) (out : ByteString) (reader : ByteReader) :
    readTextFieldInto maximumLength out reader =
      intoDestination (readTextField maximumLength) out reader := by
  rw [readTextFieldInto, readLengthPrefixedInto_eq, intoDestination, intoDestination, readTextField]
  rcases hraw : readLengthPrefixed maximumLength reader with ⟨_ | raw, reader'⟩
  · rw [Fallible.bind_none hraw]
  · rw [Fallible.bind_some hraw]
    dsimp only
    split
    · rfl
    · rfl

end Connection

/-! ## What a failure leaves -/

/-- A failed call has left the destination and the number of unread bytes alone. -/
def LeavesNothing {α : Type} (out : α) (reader : ByteReader) (result : ReadResult α) : Prop :=
  result.1 = false → result.2.1 = out ∧ result.2.2.countRemainingBytes = reader.countRemainingBytes

/-- The length that the four bytes ahead announce. -/
def ByteReader.announcedLength (reader : ByteReader) : ℕ := decodeLE (reader.remaining.take 4)

/-- The bytes behind them that this length names. -/
def ByteReader.announcedBody (reader : ByteReader) : ByteString :=
  (reader.remaining.drop 4).take reader.announcedLength

/-- A length prefix is ahead, and what it announces is within the cap and the buffer. -/
def AnnouncesWithin (maximumLength : ℕ) (reader : ByteReader) : Prop :=
  4 ≤ reader.countRemainingBytes ∧ reader.announcedLength ≤ maximumLength ∧
    reader.announcedLength ≤ reader.countRemainingBytes - 4

/-- A slice that is refused costs nothing. -/
theorem takeSlice_none {n : ℕ} {reader reader' : ByteReader}
    (h : takeSlice n reader = (none, reader')) :
    reader' = reader ∧ reader.countRemainingBytes < n := by
  rw [takeSlice] at h
  split at h
  · next hshort => exact ⟨(Prod.mk.inj h).2.symm, hshort⟩
  · cases (Prod.mk.inj h).1

/-- A slice that is given is what comes next, and the reader moves behind it. -/
theorem takeSlice_some {n : ℕ} {reader reader' : ByteReader} {slice : ByteString}
    (h : takeSlice n reader = (some slice, reader')) :
    slice = reader.remaining.take n ∧ reader'.remaining = reader.remaining.drop n ∧
      n ≤ reader.countRemainingBytes := by
  obtain ⟨hlength, hremaining⟩ := takeSlice_sound h
  subst hlength
  rw [hremaining, List.take_left, List.drop_left, ← ByteReader.remaining_length, hremaining,
    List.length_append]
  exact ⟨rfl, rfl, Nat.le_add_right ..⟩

section Primitives

variable {T : Type} [UnsignedInteger T] {reader reader' : ByteReader}

/-- An integer is only refused where it does not fit in what is left. -/
theorem readInteger_none (h : readInteger T reader = (none, reader')) :
    reader' = reader ∧ reader.countRemainingBytes < size T := by
  rw [readInteger] at h
  rcases hslice : takeSlice (size T) reader with ⟨_ | slice, taken⟩
  · rw [Fallible.bind_none hslice] at h
    obtain ⟨rfl, hshort⟩ := takeSlice_none hslice
    exact ⟨(Prod.mk.inj h).2.symm, hshort⟩
  · rw [Fallible.bind_some hslice, loadLittleEndian, if_neg (takeSlice_sound hslice).1.ge.not_gt] at h
    cases (Prod.mk.inj h).1

/-- The bytes read are the little-endian digits of the value. -/
theorem readInteger_some {value : T} (h : readInteger T reader = (some value, reader')) :
    UnsignedInteger.toNat value = decodeLE (reader.remaining.take (size T)) ∧
      reader'.remaining = reader.remaining.drop (size T) ∧ size T ≤ reader.countRemainingBytes := by
  obtain ⟨slice, taken, hslice, h⟩ := Fallible.bind_eq_some h
  obtain ⟨rfl, hrest, hroom⟩ := takeSlice_some hslice
  have hlength : (reader.remaining.take (size T)).length = size T := (takeSlice_sound hslice).1
  rw [loadLittleEndian, if_neg hlength.ge.not_gt, List.take_of_length_le hlength.le] at h
  obtain ⟨hvalue, rfl⟩ := Prod.mk.inj h
  have hlt := decodeLE_lt (reader.remaining.take (size T))
  rw [hlength] at hlt
  rw [← Option.some.inj hvalue, UnsignedInteger.toNat_ofNat hlt]
  exact ⟨rfl, hrest, hroom⟩

/-- An array is one slice, so a failure leaves the reader where it was. -/
theorem readFixedBytes_none {n : ℕ} (h : readFixedBytes n reader = (none, reader')) :
    reader' = reader := by
  rw [readFixedBytes] at h
  rcases hslice : takeSlice n reader with ⟨_ | slice, taken⟩
  · rw [Fallible.bind_none hslice] at h
    obtain ⟨rfl, -⟩ := takeSlice_none hslice
    exact (Prod.mk.inj h).2.symm
  · rw [Fallible.bind_some hslice, dif_pos (takeSlice_sound hslice).1] at h
    cases (Prod.mk.inj h).1

/-- A refused length prefix: either it is not there, or it stays consumed. -/
theorem readLengthPrefixed_none {maximumLength : ℕ}
    (h : readLengthPrefixed maximumLength reader = (none, reader')) :
    (reader' = reader ∧ reader.countRemainingBytes < 4) ∨
      (reader'.countRemainingBytes = reader.countRemainingBytes - 4 ∧
        4 ≤ reader.countRemainingBytes ∧ ¬ AnnouncesWithin maximumLength reader) := by
  rw [readLengthPrefixed] at h
  rcases hannounced : readInteger UInt32 reader with ⟨_ | announced, behind⟩
  · rw [Fallible.bind_none hannounced] at h
    obtain ⟨rfl, hshort⟩ := readInteger_none hannounced
    exact .inl ⟨(Prod.mk.inj h).2.symm, hshort⟩
  · rw [Fallible.bind_some hannounced, takeAnnounced] at h
    obtain ⟨hvalue, hrest, hroom⟩ := readInteger_some hannounced
    have hvalue : announced.toNat = reader.announcedLength := hvalue
    have hbehind : behind.countRemainingBytes = reader.countRemainingBytes - 4 := by
      rw [← ByteReader.remaining_length, hrest, List.length_drop, ByteReader.remaining_length]
      rfl
    split at h
    · next hrefused =>
      obtain rfl := (Prod.mk.inj h).2
      rw [hvalue, hbehind] at hrefused
      refine .inr ⟨hbehind, hroom, fun hwithin => ?_⟩
      exact hrefused.elim hwithin.2.1.not_gt hwithin.2.2.not_gt
    · next hallowed =>
      -- the slice was just compared with what is left
      exact absurd (takeSlice_none h).2 (fun hshort => hallowed (.inr hshort))

/-- When it succeeds, the prefix was within the maximum and what it announced was there. -/
theorem readLengthPrefixed_some {maximumLength : ℕ} {raw : ByteString}
    (h : readLengthPrefixed maximumLength reader = (some raw, reader')) :
    AnnouncesWithin maximumLength reader ∧ raw = reader.announcedBody ∧
      reader'.countRemainingBytes < reader.countRemainingBytes := by
  obtain ⟨announced, behind, hannounced, h⟩ := Fallible.bind_eq_some h
  obtain ⟨hvalue, hrest, hroom⟩ := readInteger_some hannounced
  have hvalue : announced.toNat = reader.announcedLength := hvalue
  have hroom : 4 ≤ reader.countRemainingBytes := hroom
  have hbehind : behind.countRemainingBytes = reader.countRemainingBytes - 4 := by
    rw [← ByteReader.remaining_length, hrest, List.length_drop, ByteReader.remaining_length]
    rfl
  rw [takeAnnounced] at h
  split at h
  · cases (Prod.mk.inj h).1
  next hallowed =>
  obtain ⟨hraw, htaken, -⟩ := takeSlice_some h
  rw [hvalue, hbehind, not_or, not_lt, not_lt] at hallowed
  refine ⟨⟨hroom, hallowed.1, hallowed.2⟩, ?_, ?_⟩
  · rw [hraw, hrest, hvalue]
    rfl
  · rw [← ByteReader.remaining_length, htaken, List.length_drop, ByteReader.remaining_length]
    omega

end Primitives

/-! ## Which failures leave nothing behind -/

/-- What a function leaves behind is decided by the reader it is made of. -/
theorem intoDestination_leavesNothing {α : Type} {read : Reader α} {out : α} {reader : ByteReader} :
    LeavesNothing out reader (intoDestination read out reader) ↔
      ∀ reader', read reader = (none, reader') →
        reader'.countRemainingBytes = reader.countRemainingBytes := by
  rw [LeavesNothing, intoDestination]
  rcases hread : read reader with ⟨_ | value, reader'⟩
  · simp
  · simp

/-- For every buffer, position and destination: a failed integer or array leaves the
reader and the destination as they were. A failed length prefix does so exactly where it
could not be read, a failed text where its prefix could not. -/
theorem reader_failures_iff (maximumLength : ℕ) (reader : ByteReader) :
    (∀ (T : Type) [UnsignedInteger T] (out : T),
      LeavesNothing out reader (readIntegerInto out reader)) ∧
    (∀ (n : ℕ) (destination : FixedBytes n),
      LeavesNothing destination reader (readFixedBytesInto destination reader)) ∧
    (∀ out, LeavesNothing out reader (readLengthPrefixedInto maximumLength out reader) ↔
      reader.countRemainingBytes < 4 ∨ AnnouncesWithin maximumLength reader) ∧
    (∀ out, LeavesNothing out reader (readTextFieldInto maximumLength out reader) ↔
      reader.countRemainingBytes < 4 ∨ (AnnouncesWithin maximumLength reader ∧
        validateTextField reader.announcedBody = true)) := by
  refine ⟨fun T _ out => ?_, fun n destination => ?_, fun out => ?_, fun out => ?_⟩
  · rw [readIntegerInto_eq, intoDestination_leavesNothing]
    intro reader' hread
    rw [(readInteger_none hread).1]
  · rw [readFixedBytesInto_eq, intoDestination_leavesNothing]
    intro reader' hread
    rw [readFixedBytes_none hread]
  · rw [readLengthPrefixedInto_eq, intoDestination_leavesNothing]
    constructor
    · intro hclean
      rcases hread : readLengthPrefixed maximumLength reader with ⟨_ | raw, reader'⟩
      · rcases readLengthPrefixed_none hread with ⟨-, hshort⟩ | ⟨hconsumed, hroom, -⟩
        · exact .inl hshort
        · have hsame := hclean reader' hread
          omega
      · exact .inr (readLengthPrefixed_some hread).1
    · rintro hahead reader' hread
      rcases readLengthPrefixed_none hread with ⟨rfl, -⟩ | ⟨-, hroom, hbeyond⟩
      · rfl
      · exact absurd hahead (not_or.mpr ⟨hroom.not_gt, hbeyond⟩)
  · rw [readTextFieldInto_eq, intoDestination_leavesNothing, readTextField]
    rcases hread : readLengthPrefixed maximumLength reader with ⟨_ | raw, behind⟩
    · rw [Fallible.bind_none hread]
      rcases readLengthPrefixed_none hread with ⟨rfl, hshort⟩ | ⟨hconsumed, hroom, hbeyond⟩
      · exact ⟨fun _ => .inl hshort, fun _ reader' heq => by rw [(Prod.mk.inj heq).2]⟩
      · refine ⟨fun hclean => ?_, fun hahead => ?_⟩
        · have hsame := hclean behind rfl
          omega
        · exact absurd hahead (not_or.mpr ⟨hroom.not_gt, fun h => hbeyond h.1⟩)
    · rw [Fallible.bind_some hread]
      obtain ⟨hwithin, rfl, hless⟩ := readLengthPrefixed_some hread
      split
      · next hvalid => exact ⟨fun _ => .inr ⟨hwithin, hvalid⟩, fun _ reader' heq => by cases heq⟩
      · next hvalid =>
        -- the body is gone as well
        refine ⟨fun hclean => ?_, fun hahead => ?_⟩
        · have hsame := hclean behind rfl
          omega
        · exact absurd hahead (not_or.mpr ⟨hwithin.1.not_gt, fun h => hvalid h.2⟩)

/-- A length prefix that announces four gigabytes: it is refused, and it is gone. -/
theorem refused_length_consumed :
    ¬ LeavesNothing [] (ByteReader.start [0xFF, 0xFF, 0xFF, 0xFF])
      (readLengthPrefixedInto 1024 [] (ByteReader.start [0xFF, 0xFF, 0xFF, 0xFF])) := by
  intro hclean
  have hsame : 0 = 4 := (hclean rfl).2
  cases hsame

end HyperCom
