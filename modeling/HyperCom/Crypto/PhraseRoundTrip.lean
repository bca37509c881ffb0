import HyperCom.Crypto.RecoveryWords
import HyperCom.Lib.BitPacking
import HyperCom.Lib.Words

/-!
# The recovery phrase there and back

The bit loops of `recovery_phrase.cpp` are a packing of twelve numerals of
eleven bits; `lower_bound` inverts the word list, which is sorted; and
`split_words` finds the words of a phrase wherever the blanks are.

Three general things meet here: `Lib.BitPacking` for the bits, `Lib.Words` for the blanks,
and the order of the word list, which is decided once in `Crypto.RecoveryWords`. What
belongs to the phrase alone is the checksum: its four bits are the low bits of the last
word, and a phrase whose checksum is wrong has no entropy.
-/

namespace HyperCom

open BitPacking

/-! ## The bits -/

/-- The code counts bits as the library does. -/
theorem bitAt_eq (bits : ByteString) (index : ℕ) : bitAt bits index = (bit bits index).toNat := by
  rw [bitAt, bit, Nat.and_one_is_mod, Nat.shiftRight_eq_div_pow, Nat.toNat_testBit]

/-- The loop that builds the index of a word. -/
theorem wordIndex_eq (bits : ByteString) (word : ℕ) :
    wordIndex bits word = unpack bitsPerWord bits word := by
  simp only [wordIndex, unpack, numeral, bitAt_eq]

/-- The loop that sets the bits of a word. -/
theorem storeWordIndex_eq (bits : ByteString) (word index : ℕ) :
    storeWordIndex bits word index = store bitsPerWord bits word index := by
  simp only [storeWordIndex, store, orBit, Nat.and_one_is_mod, Nat.shiftRight_eq_div_pow,
    Nat.toNat_testBit]

/-- The bits of the indexes of a phrase. -/
def packedIndexes (indexes : List ℕ) : ByteString :=
  pack bitsPerWord indexes (List.replicate (recoveryEntropySize + 1) 0)

/-- The buffers have room for one bit more than the words need. -/
@[simp] theorem packedIndexes_length (indexes : List ℕ) :
    (packedIndexes indexes).length = recoveryEntropySize + 1 := by simp [packedIndexes]

/-- The four bits under the checksum stay zero. -/
theorem packedIndexes_low {indexes : List ℕ} (hcount : indexes.length = recoveryWordCount)
    {position : ℕ} (hposition : recoveryWordCount * bitsPerWord ≤ position) :
    bit (packedIndexes indexes) position = false := by
  have hbeyond : indexes[position / bitsPerWord]? = none := by
    rw [List.getElem?_eq_none_iff, hcount]
    exact (Nat.le_div_iff_mul_le (by decide)).mpr hposition
  rw [packedIndexes, bit_pack (by decide) (by rw [hcount]; decide), bit_replicate_zero,
    List.getD_eq_getElem?_getD, hbeyond]
  simp

/-- A byte whose low half is zero is its high half. -/
theorem and_highHalf {byte : UInt8} (hlow : ∀ place < 4, byte.toNat.testBit place = false) :
    byte &&& 0xF0 = byte := by
  rw [← UInt8.toNat_inj]
  refine Nat.eq_of_testBit_eq fun place => ?_
  have hmask : ∀ place < 8, 4 ≤ place → Nat.testBit 0xF0 place = true := by decide
  rw [UInt8.toNat_and, Nat.testBit_and]
  rcases lt_or_ge place 4 with hplace | hplace
  · simp [hlow place hplace]
  · rcases lt_or_ge place 8 with hplace' | hplace'
    · simp [hmask place hplace' hplace]
    · have hbeyond : byte.toNat.testBit place = false :=
        Nat.testBit_lt_two_pow
          (byte.toNat_lt.trans_le (Nat.pow_le_pow_right (by decide) hplace'))
      simp [hbeyond]

/-- The low half of a masked byte. -/
theorem testBit_highHalf (byte : UInt8) {place : ℕ} (hplace : place < 4) :
    (byte &&& 0xF0).toNat.testBit place = false := by
  have hmask : ∀ place < 4, Nat.testBit 0xF0 place = false := by decide
  rw [UInt8.toNat_and, Nat.testBit_and]
  simp [hmask place hplace]

section Entropy

variable [Sodium]

/-- The bits of an entropy with its checksum. -/
def packedEntropy (entropy : RecoveryEntropy) : ByteString :=
  entropy.1 ++ [checksumNibble entropy]

@[simp] theorem packedEntropy_length (entropy : RecoveryEntropy) :
    (packedEntropy entropy).length = recoveryEntropySize + 1 := by
  simp [packedEntropy, entropy.2]

/-- The checksum is in the byte behind the entropy. -/
theorem packedEntropy_checksum (entropy : RecoveryEntropy) :
    (packedEntropy entropy).getD recoveryEntropySize 0 = checksumNibble entropy := by
  rw [packedEntropy, List.getD_append_right _ _ _ _ entropy.2.le, entropy.2]
  rfl

/-- Nothing is behind the checksum. -/
theorem packedEntropy_low (entropy : RecoveryEntropy) {position : ℕ}
    (hposition : recoveryWordCount * bitsPerWord ≤ position)
    (hin : position < 8 * (packedEntropy entropy).length) :
    bit (packedEntropy entropy) position = false := by
  rw [packedEntropy_length] at hin
  change 132 ≤ position at hposition
  change position < 136 at hin
  have hbyte : position / 8 = recoveryEntropySize := by
    change position / 8 = 16
    omega
  rw [bit, hbyte, packedEntropy_checksum, checksumNibble]
  exact testBit_highHalf _ (by omega)

/-- The indexes of the words that stand for an entropy. -/
def entropyIndexes (entropy : RecoveryEntropy) : List ℕ :=
  (List.range recoveryWordCount).map (unpack bitsPerWord (packedEntropy entropy))

/-- Twelve words, -/
@[simp] theorem entropyIndexes_length (entropy : RecoveryEntropy) :
    (entropyIndexes entropy).length = recoveryWordCount := by simp [entropyIndexes]

/-- each of which is in the list. -/
theorem entropyIndexes_lt (entropy : RecoveryEntropy) :
    ∀ index ∈ entropyIndexes entropy, index < 2048 := by
  simp only [entropyIndexes, List.mem_map]
  rintro _ ⟨word, -, rfl⟩
  exact numeral_lt bitsPerWord _

/-- Storing the indexes of an entropy gives its bits back. -/
theorem packedIndexes_entropyIndexes (entropy : RecoveryEntropy) :
    packedIndexes (entropyIndexes entropy) = packedEntropy entropy := by
  have hin : recoveryWordCount * bitsPerWord ≤ 8 * (packedEntropy entropy).length := by
    rw [packedEntropy_length]
    decide
  have hback := pack_unpack (by decide) hin fun position => packedEntropy_low entropy
  rwa [packedEntropy_length] at hback

/-- Bits whose last byte carries the checksum of the others are an entropy's. -/
theorem packedIndexes_eq_packedEntropy {indexes : List ℕ}
    (hcount : indexes.length = recoveryWordCount)
    (hchecksum : (packedIndexes indexes).getD recoveryEntropySize 0 &&& 0xF0 =
      checksumNibble (FixedBytes.copyFrom recoveryEntropySize (packedIndexes indexes))) :
    packedIndexes indexes =
      packedEntropy (FixedBytes.copyFrom recoveryEntropySize (packedIndexes indexes)) := by
  set last := (packedIndexes indexes).getD recoveryEntropySize 0 with hlast
  have hlow : ∀ place < 4, last.toNat.testBit place = false := by
    intro place hplace
    have hbehind : recoveryWordCount * bitsPerWord ≤ 8 * recoveryEntropySize + (7 - place) := by
      change 132 ≤ 8 * 16 + (7 - place)
      omega
    have hbit := packedIndexes_low hcount hbehind
    have hdiv : (8 * recoveryEntropySize + (7 - place)) / 8 = recoveryEntropySize := by omega
    have hmod : 7 - (8 * recoveryEntropySize + (7 - place)) % 8 = place := by omega
    rwa [bit, hdiv, hmod, ← hlast] at hbit
  have hsplit : packedIndexes indexes = (packedIndexes indexes).take recoveryEntropySize ++ [last] := by
    have hlength := packedIndexes_length indexes
    refine List.ext_getElem (by simp [hlength]) fun position hposition hposition' => ?_
    rw [hlength] at hposition
    by_cases hbefore : position < recoveryEntropySize
    · rw [List.getElem_append_left (by simp [hlength, hbefore]), List.getElem_take]
    · have hend : position = recoveryEntropySize := by omega
      subst hend
      rw [List.getElem_append_right (by simp [hlength])]
      simp [hlast, List.getD_eq_getElem?_getD, hlength]
  rw [and_highHalf hlow] at hchecksum
  rw [packedEntropy, ← hchecksum,
    FixedBytes.copyFrom_val (by rw [packedIndexes_length]; exact Nat.le_succ _)]
  exact hsplit

/-- An entropy is known by its indexes. -/
theorem entropyIndexes_of_packed {indexes : List ℕ} {entropy : RecoveryEntropy}
    (hcount : indexes.length = recoveryWordCount) (hsmall : ∀ index ∈ indexes, index < 2048)
    (hpacked : packedIndexes indexes = packedEntropy entropy) : entropyIndexes entropy = indexes := by
  refine List.ext_getElem (by simp [hcount]) fun word hword hword' => ?_
  have hin : indexes.length * bitsPerWord ≤ 8 * (recoveryEntropySize + 1) := by
    rw [hcount]
    decide
  have hread := unpack_pack hin hword' (hsmall _ (List.getElem_mem hword'))
  rw [← hread]
  simp only [entropyIndexes, List.getElem_map, List.getElem_range, ← hpacked, packedIndexes]

end Entropy

/-! ## The words -/

/-- The loop of `split_words` is the library's. -/
theorem wordsFrom_eq (word text : ByteString) :
    wordsFrom word text = Words.split isSpace word text := by
  induction text generalizing word with
  | nil => rfl
  | cons letter text ih => simp only [wordsFrom, Words.split, ih]

/-- `split_words`, from the words that are there. -/
theorem splitWords_of_spaced {words : List ByteString} {phrase : ByteString}
    (h : Words.Spaced isSpace words phrase) :
    splitWords phrase = if words.length = recoveryWordCount then some (words.map normalizeWord)
      else none := by
  simp only [splitWords, wordsFrom_eq, h.split_eq, List.length_map]

/-- A word of the list has no blank in it, -/
theorem isSpelled_isWord {word : ByteString} (h : isSpelled word = true) :
    Words.IsWord isSpace word := by
  simp only [isSpelled, Bool.and_eq_true, Bool.not_eq_true', List.isEmpty_eq_false_iff,
    List.all_eq_true, decide_eq_true_eq] at h
  refine ⟨h.1, fun letter hletter => ?_⟩
  obtain ⟨hlow, hhigh⟩ := h.2 letter hletter
  rw [ge_iff_le, UInt8.le_iff_toNat_le] at hlow
  rw [UInt8.le_iff_toNat_le] at hhigh
  simp only [isSpace, Bool.or_eq_false_iff, Bool.and_eq_false_iff, beq_eq_false_iff_ne, ne_eq,
    decide_eq_false_iff_not, ge_iff_le, UInt8.le_iff_toNat_le, ← UInt8.toNat_inj]
  have h61 : UInt8.toNat 0x61 = 0x61 := rfl
  have h20 : UInt8.toNat 0x20 = 0x20 := rfl
  have h0D : UInt8.toNat 0x0D = 0x0D := rfl
  omega

/-- and nothing to fold. -/
theorem normalizeWord_of_spelled {word : ByteString} (h : isSpelled word = true) :
    normalizeWord word = word := by
  simp only [isSpelled, Bool.and_eq_true, List.all_eq_true, decide_eq_true_eq] at h
  refine (List.map_congr_left fun letter hletter => ?_).trans word.map_id
  obtain ⟨hlow, -⟩ := h.2 letter hletter
  have hnotCapital : ¬ letter ≤ 0x5A := by
    rw [ge_iff_le, UInt8.le_iff_toNat_le] at hlow
    rw [UInt8.le_iff_toNat_le]
    have h61 : UInt8.toNat 0x61 = 0x61 := rfl
    have h5A : UInt8.toNat 0x5A = 0x5A := rfl
    omega
  simp [hnotCapital]

section List

variable [RecoveryWordlist]

/-- `RECOVERY_WORDLIST[index]` -/
def wordAt (index : ℕ) : ByteString := RecoveryWordlist.words.getD index []

/-- What was found is the word, and its index is one of the list. -/
theorem findWordIndex_eq_some {word : ByteString} {index : ℕ}
    (h : findWordIndex word = some index) : wordAt index = word ∧ index < 2048 := by
  simp only [findWordIndex, Option.ite_none_right_eq_some, Option.some.injEq] at h
  obtain ⟨hword, rfl⟩ := h
  refine ⟨by rw [wordAt, List.getD_eq_getElem?_getD, hword, Option.getD_some], ?_⟩
  rw [← RecoveryWordlist.words_length]
  exact (List.getElem?_eq_some_iff.mp hword).1

/-- What is found in the list is there, at that index. -/
theorem mapM_findWordIndex_eq_some {words : List ByteString} {indexes : List ℕ}
    (h : words.mapM findWordIndex = some indexes) :
    words = indexes.map wordAt ∧ ∀ index ∈ indexes, index < 2048 := by
  induction words generalizing indexes with
  | nil =>
    obtain rfl : [] = indexes := by simpa using h
    simp
  | cons word words ih =>
    rw [List.mapM_cons] at h
    obtain ⟨index, hindex, h⟩ := Option.bind_eq_some_iff.mp h
    obtain ⟨rest, hrest, h⟩ := Option.bind_eq_some_iff.mp h
    obtain rfl : index :: rest = indexes := by simpa using h
    obtain ⟨hword, hsmall⟩ := findWordIndex_eq_some hindex
    obtain ⟨hwords, hsmalls⟩ := ih hrest
    exact ⟨by rw [List.map_cons, hword, ← hwords], List.forall_mem_cons.mpr ⟨hsmall, hsmalls⟩⟩

variable (hproper : RecoveryWordlist.Proper)
include hproper

/-- The list is spelled as the words are typed. -/
theorem wordAt_spelled {index : ℕ} (hindex : index < 2048) : isSpelled (wordAt index) = true := by
  rw [← RecoveryWordlist.words_length] at hindex
  rw [wordAt, List.getD_eq_getElem _ _ hindex]
  exact hproper.spelled _ (List.getElem_mem hindex)

/-- `lower_bound` finds every word of an ascending list. -/
theorem findWordIndex_wordAt {index : ℕ} (hindex : index < 2048) :
    findWordIndex (wordAt index) = some index := by
  rw [← RecoveryWordlist.words_length] at hindex
  have hword : wordAt index = RecoveryWordlist.words[index] := List.getD_eq_getElem _ _ hindex
  have hfound : (RecoveryWordlist.words.findIdx fun entry => !entry.lex (wordAt index) (· < ·)) =
      index := by
    rw [List.findIdx_eq hindex, hword]
    constructor
    · have hirrefl : ¬ RecoveryWordlist.words[index] < RecoveryWordlist.words[index] :=
        List.lt_irrefl _
      rw [← List.lex_eq_true_iff_lt, Bool.not_eq_true] at hirrefl
      rw [hirrefl, Bool.not_false]
    · intro earlier hearlier
      have hlt : RecoveryWordlist.words[earlier] < RecoveryWordlist.words[index] :=
        List.pairwise_iff_getElem.mp hproper.ascending _ _ _ hindex hearlier
      rw [List.lex_eq_true_iff_lt.mpr hlt, Bool.not_true]
  simp only [findWordIndex, hfound]
  rw [List.getElem?_eq_getElem hindex, hword, if_pos rfl]

/-- And every word of it is found. -/
theorem mapM_findWordIndex_wordAt {indexes : List ℕ} (hsmall : ∀ index ∈ indexes, index < 2048) :
    (indexes.map wordAt).mapM findWordIndex = some indexes := by
  induction indexes with
  | nil => rfl
  | cons index indexes ih =>
    rw [List.forall_mem_cons] at hsmall
    rw [List.map_cons, List.mapM_cons, findWordIndex_wordAt hproper hsmall.1, ih hsmall.2]
    rfl

end List

/-! ## The phrase -/

section Phrase

variable [Sodium] [RecoveryWordlist]

/-- A phrase is the words with one blank between them. -/
theorem entropyToPhrase_eq (entropy : RecoveryEntropy) :
    entropyToPhrase entropy = (ascii " ").intercalate ((entropyIndexes entropy).map wordAt) := by
  simp only [entropyToPhrase, entropyIndexes, List.map_map, wordIndex_eq, packedEntropy]
  rfl

omit [Sodium] [RecoveryWordlist] in
/-- The packing loop of `phrase_to_entropy`. -/
theorem storeWordIndex_foldl (indexes : List ℕ) :
    indexes.zipIdx.foldl (fun bits index => storeWordIndex bits index.2 index.1)
      (List.replicate (recoveryEntropySize + 1) 0) = packedIndexes indexes := by
  simp only [storeWordIndex_eq, packedIndexes, pack]

/-- `phrase_to_entropy` once its words are found in the list. -/
theorem phraseToEntropy_of_indexes {phrase : ByteString} {indexes : List ℕ}
    (h : (splitWords phrase).bind (List.mapM findWordIndex) = some indexes) :
    phraseToEntropy phrase =
      if (packedIndexes indexes).getD recoveryEntropySize 0 &&& 0xF0 =
          checksumNibble (FixedBytes.copyFrom recoveryEntropySize (packedIndexes indexes)) then
        some (FixedBytes.copyFrom recoveryEntropySize (packedIndexes indexes))
      else none := by
  simp only [phraseToEntropy, h, storeWordIndex_foldl]

/-- The output is written where an entropy is found, and nowhere else. -/
theorem phraseToEntropyInto_eq (phrase : ByteString) (out : RecoveryEntropy) :
    phraseToEntropyInto phrase out =
      ((phraseToEntropy phrase).isSome, (phraseToEntropy phrase).getD out) := by
  rcases hindexes : (splitWords phrase).bind (List.mapM findWordIndex) with _ | indexes
  · simp only [phraseToEntropyInto, phraseToEntropy, hindexes, Option.isSome_none, Option.getD_none]
  · simp only [phraseToEntropyInto, hindexes, phraseToEntropy_of_indexes hindexes,
      storeWordIndex_foldl]
    split_ifs with hvalid hchecksum hchecksum
    · rw [hvalid]
      rfl
    · exact absurd (eq_of_beq hvalid) hchecksum
    · exact absurd (beq_iff_eq.mpr hchecksum) hvalid
    · rw [Bool.not_eq_true] at hvalid
      rw [hvalid]
      rfl

/-- The words that are there decide the answer, whatever their case. -/
theorem phraseToEntropy_congr {words words' : List ByteString} {phrase phrase' : ByteString}
    (h : Words.Spaced isSpace words phrase) (h' : Words.Spaced isSpace words' phrase')
    (hsame : words.map normalizeWord = words'.map normalizeWord) :
    phraseToEntropy phrase = phraseToEntropy phrase' := by
  have hlength : words.length = words'.length := by simpa using congrArg List.length hsame
  have hsplit : splitWords phrase = splitWords phrase' := by
    rw [splitWords_of_spaced h, splitWords_of_spaced h', hsame, hlength]
  simp only [phraseToEntropy, hsplit]

/-- What is accepted is the phrase of its result, in small letters and with one
space between two words. -/
theorem entropyToPhrase_of_accepted {phrase : ByteString} {entropy : RecoveryEntropy}
    (h : phraseToEntropy phrase = some entropy) :
    ∃ words, Words.Spaced isSpace words phrase ∧
      entropyToPhrase entropy = (ascii " ").intercalate (words.map normalizeWord) := by
  have hspaced : Words.Spaced isSpace (Words.split isSpace [] phrase) phrase :=
    Words.split_eq_iff.mp rfl
  refine ⟨_, hspaced, ?_⟩
  set words := Words.split isSpace [] phrase
  rcases hindexes : (splitWords phrase).bind (List.mapM findWordIndex) with _ | indexes
  · simp [phraseToEntropy, hindexes] at h
  obtain ⟨split, hsplit, hfound⟩ := Option.bind_eq_some_iff.mp hindexes
  rw [splitWords_of_spaced hspaced, Option.ite_none_right_eq_some] at hsplit
  obtain ⟨hcount, hsplit⟩ := hsplit
  obtain rfl := Option.some.inj hsplit
  obtain ⟨hwords, hsmall⟩ := mapM_findWordIndex_eq_some hfound
  have htwelve : indexes.length = recoveryWordCount := by
    rw [← hcount, ← List.length_map (f := normalizeWord), hwords, List.length_map]
  rw [phraseToEntropy_of_indexes hindexes, Option.ite_none_right_eq_some] at h
  obtain ⟨hchecksum, h⟩ := h
  obtain rfl := Option.some.inj h
  have hpacked := packedIndexes_eq_packedEntropy htwelve hchecksum
  rw [entropyToPhrase_eq, entropyIndexes_of_packed htwelve hsmall hpacked, hwords]

/-- The phrase of an entropy gives it back. -/
theorem phraseToEntropy_entropyToPhrase (hproper : RecoveryWordlist.Proper)
    (entropy : RecoveryEntropy) : phraseToEntropy (entropyToPhrase entropy) = some entropy := by
  have hspelled : ∀ word ∈ (entropyIndexes entropy).map wordAt, isSpelled word = true := by
    simp only [List.mem_map]
    rintro _ ⟨index, hindex, rfl⟩
    exact wordAt_spelled hproper (entropyIndexes_lt entropy index hindex)
  have hspaced : Words.Spaced isSpace ((entropyIndexes entropy).map wordAt)
      (entropyToPhrase entropy) := by
    rw [entropyToPhrase_eq]
    exact Words.spaced_intercalate rfl fun word hword => isSpelled_isWord (hspelled word hword)
  have hnormal : ((entropyIndexes entropy).map wordAt).map normalizeWord =
      (entropyIndexes entropy).map wordAt :=
    (List.map_congr_left fun word hword => normalizeWord_of_spelled (hspelled word hword)).trans
      (List.map_id _)
  have hindexes : (splitWords (entropyToPhrase entropy)).bind (List.mapM findWordIndex) =
      some (entropyIndexes entropy) := by
    rw [splitWords_of_spaced hspaced, if_pos (by simp), hnormal, Option.bind_some,
      mapM_findWordIndex_wordAt hproper (entropyIndexes_lt entropy)]
  have hcopied : FixedBytes.copyFrom recoveryEntropySize (packedEntropy entropy) = entropy :=
    FixedBytes.copyFrom_append entropy _
  have hmasked : checksumNibble entropy &&& 0xF0 = checksumNibble entropy :=
    and_highHalf fun place hplace => testBit_highHalf _ hplace
  rw [phraseToEntropy_of_indexes hindexes, packedIndexes_entropyIndexes, hcopied,
    packedEntropy_checksum, if_pos hmasked]

end Phrase

end HyperCom
