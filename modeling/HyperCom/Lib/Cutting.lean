import Mathlib.Data.List.Basic

/-!
# Cutting a stream that arrives in chunks

A reader keeps what has arrived in a buffer and cuts pieces off its front. `cut`
looks at a buffer and gives the first piece and the rest, or wants to wait for
more, or rejects the stream for good. `drain` is the loop that cuts until there
is nothing left to cut, `feed` gives it one chunk after another.

If more bytes behind a piece or behind a rejection do not change it
(`Prefixed`), the way a stream is cut into chunks does not matter (`feed_eq`).
-/

namespace StreamCutting

variable {α β : Type*}

/-- What a buffer begins with. -/
inductive Cut (α β : Type*) where
  /-- a piece, and what follows it -/
  | piece (value : β) (rest : List α)
  /-- not enough yet -/
  | wait
  /-- something that cannot become a piece -/
  | reject

/-- How far the reader has got: the pieces so far, how many bytes they took, what
is left in the buffer, and whether the stream was rejected. -/
structure Progress (α β : Type*) where
  pieces : List β := []
  position : ℕ := 0
  buffer : List α := []
  rejected : Bool := false

/-- Cut until there is nothing left to cut, in at most `fuel` rounds. -/
def drain (cut : List α → Cut α β) : ℕ → Progress α β → Option (Progress α β)
  | 0, _ => none
  | fuel + 1, s =>
    match cut s.buffer with
    | .piece value rest =>
      drain cut fuel { s with
        pieces := s.pieces ++ [value]
        position := s.position + (s.buffer.length - rest.length)
        buffer := rest }
    | .wait => some s
    | .reject => some { s with rejected := true }

/-- One more chunk. A rejected stream is not read any more. -/
def feedChunk (cut : List α → Cut α β) (fuel : ℕ) (s : Progress α β) (chunk : List α) :
    Option (Progress α β) :=
  if s.rejected then some s else drain cut fuel { s with buffer := s.buffer ++ chunk }

/-- One chunk after another. -/
def feed (cut : List α → Cut α β) (fuel : ℕ) : Progress α β → List (List α) →
    Option (Progress α β)
  | s, [] => some s
  | s, chunk :: chunks => (feedChunk cut fuel s chunk).bind fun s' => feed cut fuel s' chunks

/-- What comes later does not change what was found. -/
structure Prefixed (cut : List α → Cut α β) : Prop where
  shrinks : ∀ {buffer value rest}, cut buffer = .piece value rest → rest.length < buffer.length
  piece_append : ∀ {buffer value rest} (more : List α), cut buffer = .piece value rest →
    cut (buffer ++ more) = .piece value (rest ++ more)
  reject_append : ∀ {buffer} (more : List α), cut buffer = .reject →
    cut (buffer ++ more) = .reject

/-- The two readers have found the same pieces and the same fault, at the same
place. A rejected stream leaves them with different buffers. -/
structure Progress.Agrees (s t : Progress α β) : Prop where
  pieces : s.pieces = t.pieces
  position : s.position = t.position
  rejected : s.rejected = t.rejected
  buffer : s.rejected = false → s.buffer = t.buffer

section Prefixed

variable {cut : List α → Cut α β} {fuel fuel' : ℕ} {s s' t : Progress α β}

/-! ## The loop -/

/-- The loop ends. -/
theorem Prefixed.drain_ends (h : Prefixed cut) (hfuel : s.buffer.length < fuel) :
    ∃ s', drain cut fuel s = some s' := by
  induction fuel generalizing s with
  | zero => omega
  | succ fuel ih =>
    rw [drain]
    split
    · next value rest hcut =>
      have hshrinks := h.shrinks hcut
      exact ih (by simp only; omega)
    · exact ⟨_, rfl⟩
    · exact ⟨_, rfl⟩

/-- More rounds than needed make no difference. -/
theorem drain_mono (h : drain cut fuel s = some s') (hle : fuel ≤ fuel') :
    drain cut fuel' s = some s' := by
  induction fuel generalizing s fuel' with
  | zero => cases h
  | succ fuel ih =>
    obtain ⟨fuel', rfl⟩ : ∃ n, fuel' = n + 1 := ⟨fuel' - 1, by omega⟩
    rw [drain] at h ⊢
    split at h
    · exact ih h (by omega)
    · exact h
    · exact h

theorem drain_unique (h : drain cut fuel s = some s') (h' : drain cut fuel' s = some t) : s' = t := by
  have hs := drain_mono h (Nat.le_max_left fuel fuel')
  rw [drain_mono h' (Nat.le_max_right fuel fuel')] at hs
  exact (Option.some.inj hs).symm

/-- After the loop there is no piece at the front of the buffer. -/
theorem drain_rest (h : drain cut fuel s = some s') (hstart : s.rejected = false) :
    (s'.rejected = false ∧ cut s'.buffer = .wait) ∨
      (s'.rejected = true ∧ cut s'.buffer = .reject) := by
  induction fuel generalizing s with
  | zero => cases h
  | succ fuel ih =>
    rw [drain] at h
    split at h
    · exact ih h hstart
    · next hcut =>
      obtain rfl := Option.some.inj h
      exact .inl ⟨hstart, hcut⟩
    · next hcut =>
      obtain rfl := Option.some.inj h
      exact .inr ⟨rfl, hcut⟩

theorem Prefixed.drain_length (h : Prefixed cut) (hdrain : drain cut fuel s = some s') :
    s'.buffer.length ≤ s.buffer.length := by
  induction fuel generalizing s with
  | zero => cases hdrain
  | succ fuel ih =>
    rw [drain] at hdrain
    split at hdrain
    · next value rest hcut => exact Nat.le_trans (ih hdrain) (Nat.le_of_lt (h.shrinks hcut))
    · exact (Option.some.inj hdrain) ▸ Nat.le_refl _
    · exact (Option.some.inj hdrain) ▸ Nat.le_refl _

/-! ## More to come -/

/-- The loop with more bytes behind the buffer: it gets as far as without them,
and if the stream was not rejected it goes on from there. -/
theorem Prefixed.drain_append (h : Prefixed cut) (more : List α)
    (hdrain : drain cut fuel s = some s') :
    (s'.rejected = true → s.rejected = false → drain cut fuel
      { s with buffer := s.buffer ++ more } = some { s' with buffer := s'.buffer ++ more }) ∧
    (s'.rejected = false → ∀ {fuel' t},
      drain cut fuel' { s' with buffer := s'.buffer ++ more } = some t →
        drain cut (fuel + fuel') { s with buffer := s.buffer ++ more } = some t) := by
  induction fuel generalizing s with
  | zero => cases hdrain
  | succ fuel ih =>
    rw [drain] at hdrain
    split at hdrain
    · next value rest hcut =>
      have hmore := h.piece_append more hcut
      have hcount : (s.buffer ++ more).length - (rest ++ more).length =
          s.buffer.length - rest.length := by
        simp only [List.length_append]
        omega
      obtain ⟨hreject, hgo⟩ := ih hdrain
      refine ⟨fun hbad hstart => ?_, fun hgood fuel' t hrest => ?_⟩
      · rw [drain]
        simp only [hmore, hcount]
        exact hreject hbad hstart
      · rw [Nat.succ_add, drain]
        simp only [hmore, hcount]
        exact hgo hgood hrest
    · next hcut =>
      obtain rfl := Option.some.inj hdrain
      refine ⟨fun hbad hstart => ?_, fun _ fuel' t hrest => ?_⟩
      · cases hbad.symm.trans hstart
      · exact drain_mono hrest (Nat.le_add_left ..)
    · next hcut =>
      obtain rfl := Option.some.inj hdrain
      refine ⟨fun _ _ => ?_, fun hgood => nomatch hgood⟩
      rw [drain]
      simp only [h.reject_append more hcut]

/-! ## Chunk after chunk -/

/-- A rejected stream stays as it is. -/
theorem feed_rejected (hrejected : s.rejected = true) (chunks : List (List α)) :
    feed cut fuel s chunks = some s := by
  induction chunks with
  | nil => rfl
  | cons chunk chunks ih =>
    rw [feed, feedChunk, if_pos hrejected]
    exact ih

/-- Whatever the chunks, a reader that waits gets as far as with the stream in
one piece. -/
theorem Prefixed.feed_agrees (h : Prefixed cut) (chunks : List (List α))
    (hstart : s.rejected = false) (hwaits : cut s.buffer = .wait)
    (hfuel : s.buffer.length + chunks.flatten.length < fuel) :
    ∃ s' fuel' whole, feed cut fuel s chunks = some s' ∧
      drain cut fuel' { s with buffer := s.buffer ++ chunks.flatten } = some whole ∧
      s'.Agrees whole := by
  induction chunks generalizing s with
  | nil =>
    refine ⟨s, 1, s, rfl, ?_, ⟨rfl, rfl, rfl, fun _ => rfl⟩⟩
    simp [drain, hwaits]
  | cons chunk chunks ih =>
    rw [List.flatten_cons, List.length_append] at hfuel
    have harrived : ({ s with buffer := s.buffer ++ chunk } : Progress α β).buffer.length < fuel := by
      simp only [List.length_append]
      omega
    obtain ⟨mid, hmid⟩ := h.drain_ends harrived
    have hchunk : feed cut fuel s (chunk :: chunks) = feed cut fuel mid chunks := by
      rw [feed, feedChunk, if_neg (by simp [hstart]), hmid]
      rfl
    have hlength := h.drain_length hmid
    simp only [List.length_append] at hlength
    rw [hchunk, List.flatten_cons, ← List.append_assoc]
    rcases drain_rest hmid hstart with ⟨hgood, hrest⟩ | ⟨hbad, -⟩
    · -- the loop goes on from where it waited
      obtain ⟨s', fuel', whole, hfeed, hwhole, hagrees⟩ := ih hgood hrest (by omega)
      exact ⟨s', fuel + fuel', whole, hfeed, (h.drain_append _ hmid).2 hgood hwhole, hagrees⟩
    · exact ⟨mid, fuel, _, feed_rejected hbad chunks,
        (h.drain_append _ hmid).1 hbad hstart,
        ⟨rfl, rfl, rfl, fun hgood => by cases hbad.symm.trans hgood⟩⟩

/-- How a stream is cut into chunks does not matter. -/
theorem Prefixed.feed_eq (h : Prefixed cut) (hempty : cut [] = .wait) (chunks : List (List α))
    (hfuel : chunks.flatten.length < fuel) :
    ∃ s whole, feed cut fuel {} chunks = some s ∧ feed cut fuel {} [chunks.flatten] = some whole ∧
      s.Agrees whole := by
  obtain ⟨s, fuel', whole, hfeed, hwhole, hagrees⟩ :=
    h.feed_agrees chunks (s := {}) rfl hempty (by simpa using hfuel)
  have hends : ({ buffer := chunks.flatten } : Progress α β).buffer.length < fuel := hfuel
  obtain ⟨whole', hwhole'⟩ := h.drain_ends hends
  obtain rfl := drain_unique hwhole hwhole'
  refine ⟨s, whole, hfeed, ?_, hagrees⟩
  rw [feed, feedChunk, if_neg (by simp), List.nil_append, hwhole']
  rfl

/-- A reader that has not rejected its stream waits. -/
theorem feed_waits {chunks : List (List α)} (h : feed cut fuel s chunks = some s')
    (hwaits : s.rejected = false → cut s.buffer = .wait) (hgood : s'.rejected = false) :
    cut s'.buffer = .wait := by
  induction chunks generalizing s with
  | nil =>
    obtain rfl := Option.some.inj h
    exact hwaits hgood
  | cons chunk chunks ih =>
    obtain ⟨mid, hmid, hrest⟩ := Option.bind_eq_some_iff.mp h
    refine ih hrest fun hmidGood => ?_
    rw [feedChunk] at hmid
    split at hmid
    · next hrejected =>
      obtain rfl := Option.some.inj hmid
      cases hrejected.symm.trans hmidGood
    · next hstart =>
      rcases drain_rest hmid (by simpa using hstart) with ⟨-, hrest⟩ | ⟨hbad, -⟩
      · exact hrest
      · cases hbad.symm.trans hmidGood

/-! ## Streams of whole pieces -/

/-- A stream that was written piece by piece is read back. -/
theorem drain_written {write : β → List α} {values : List β}
    (hcut : ∀ value ∈ values, ∀ rest, cut (write value ++ rest) = .piece value rest)
    (hempty : cut [] = .wait) (s : Progress α β) :
    ∃ position, drain cut (values.length + 1) { s with buffer := values.flatMap write } =
      some { s with pieces := s.pieces ++ values, position, buffer := [] } := by
  induction values generalizing s with
  | nil => exact ⟨s.position, by simp [drain, hempty]⟩
  | cons value values ih =>
    have hfirst := hcut value (List.mem_cons_self ..) (values.flatMap write)
    obtain ⟨position, hrest⟩ := ih (fun v hv => hcut v (List.mem_cons_of_mem _ hv))
      { s with
        pieces := s.pieces ++ [value]
        position := s.position + ((write value ++ values.flatMap write).length -
          (values.flatMap write).length) }
    refine ⟨position, ?_⟩
    rw [List.length_cons, drain]
    simp only [List.flatMap_cons, hfirst]
    rw [hrest]
    simp

/-- In whatever chunks it arrives. -/
theorem Prefixed.feed_written (h : Prefixed cut) {write : β → List α} {values : List β}
    {chunks : List (List α)}
    (hcut : ∀ value ∈ values, ∀ rest, cut (write value ++ rest) = .piece value rest)
    (hempty : cut [] = .wait) (hstream : chunks.flatten = values.flatMap write)
    (hfuel : chunks.flatten.length < fuel) :
    ∃ s, feed cut fuel {} chunks = some s ∧ s.pieces = values ∧ s.buffer = [] ∧
      s.rejected = false := by
  obtain ⟨s, fuel', whole, hfeed, hwhole, hagrees⟩ :=
    h.feed_agrees chunks (s := {}) rfl hempty (by simpa using hfuel)
  obtain ⟨position, hwritten⟩ := drain_written hcut hempty {}
  rw [List.nil_append, hstream] at hwhole
  obtain rfl := drain_unique hwhole hwritten
  have hgood : s.rejected = false := hagrees.rejected
  exact ⟨s, hfeed, hagrees.pieces, hagrees.buffer hgood, hgood⟩

end Prefixed

end StreamCutting
