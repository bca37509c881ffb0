import HyperCom.Crypto.Sodium

/-!
# `recovery_phrase`

Sixteen random bytes as twelve words, and the master seed derived from them.
The word list is generated into the repository; it is a parameter here.

Two bits of each loop deserve a look against the source: bytes are filled from their high
bits on, and the checksum is the upper half of one byte of a hash, put behind the entropy so
that the twelfth word carries it.
-/

namespace HyperCom

def recoveryEntropySize : ℕ := 16
def recoveryWordCount : ℕ := 12
def bitsPerWord : ℕ := 11

/-- `recovery_entropy` -/
abbrev RecoveryEntropy : Type := FixedBytes recoveryEntropySize

/-- `RECOVERY_WORDLIST` -/
class RecoveryWordlist where
  words : List ByteString
  words_length : words.length = 2048

/-- `bit_at` -/
def bitAt (bits : ByteString) (index : ℕ) : ℕ :=
  ((bits.getD (index / 8) 0).toNat >>> (7 - index % 8)) &&& 1

/-- The eleven bits of a word. -/
def wordIndex (bits : ByteString) (word : ℕ) : ℕ :=
  (List.range bitsPerWord).foldl
    (fun index bit => (index <<< 1) ||| bitAt bits (word * bitsPerWord + bit)) 0

/-- Setting the eleven bits of a word. -/
def storeWordIndex (bits : ByteString) (word index : ℕ) : ByteString :=
  (List.range bitsPerWord).foldl (fun bits bit =>
    let value := (index >>> (bitsPerWord - 1 - bit)) &&& 1
    let position := word * bitsPerWord + bit
    bits.modify (position / 8) fun byte => byte ||| UInt8.ofNat (value <<< (7 - position % 8))) bits

/-- `std::isspace` -/
def isSpace (letter : UInt8) : Bool := letter == 0x20 || (letter ≥ 0x09 && letter ≤ 0x0D)

/-- `normalize_word` -/
def normalizeWord (word : ByteString) : ByteString :=
  word.map fun letter => if letter ≥ 0x41 && letter ≤ 0x5A then letter + 0x20 else letter

/-- The loops over spaces and over letters, with the letters of the word so far. -/
def wordsFrom : ByteString → ByteString → List ByteString
  | word, [] => if word.isEmpty then [] else [word]
  | word, letter :: rest =>
    if isSpace letter then
      if word.isEmpty then wordsFrom [] rest else word :: wordsFrom [] rest
    else wordsFrom (word ++ [letter]) rest

/-- `split_words` -/
def splitWords (phrase : ByteString) : Option (List ByteString) :=
  let words := (wordsFrom [] phrase).map normalizeWord
  if words.length = recoveryWordCount then some words else none

section Phrase

variable [Sodium] [RecoveryWordlist]

/-- `checksum_nibble` -/
def checksumNibble (entropy : RecoveryEntropy) : UInt8 :=
  (Sodium.hashSha256 entropy.1).1.getD 0 0 &&& 0xF0

omit [Sodium] in
/-- `find_word_index`: `lower_bound` finds the first word that is not less. -/
def findWordIndex (word : ByteString) : Option ℕ :=
  let found := RecoveryWordlist.words.findIdx fun entry => !entry.lex word (· < ·)
  if RecoveryWordlist.words[found]? = some word then some found else none

/-- `entropy_to_phrase` -/
def entropyToPhrase (entropy : RecoveryEntropy) : ByteString :=
  let bits := entropy.1 ++ [checksumNibble entropy]
  (ascii " ").intercalate ((List.range recoveryWordCount).map fun word =>
    RecoveryWordlist.words.getD (wordIndex bits word) [])

/-- `phrase_to_entropy` -/
def phraseToEntropy (phrase : ByteString) : Option RecoveryEntropy :=
  match (splitWords phrase).bind (List.mapM findWordIndex) with
  | none => none
  | some indexes =>
    let bits := indexes.zipIdx.foldl (fun bits index => storeWordIndex bits index.2 index.1)
      (List.replicate (recoveryEntropySize + 1) 0)
    let candidate := FixedBytes.copyFrom recoveryEntropySize bits
    if bits.getD recoveryEntropySize 0 &&& 0xF0 = checksumNibble candidate then some candidate
    else none

/-- `phrase_to_entropy`, with what stood in its output before. -/
def phraseToEntropyInto (phrase : ByteString) (out : RecoveryEntropy) : Bool × RecoveryEntropy :=
  match (splitWords phrase).bind (List.mapM findWordIndex) with
  | none => (false, out)
  | some indexes =>
    let bits := indexes.zipIdx.foldl (fun bits index => storeWordIndex bits index.2 index.1)
      (List.replicate (recoveryEntropySize + 1) 0)
    let candidate := FixedBytes.copyFrom recoveryEntropySize bits
    let valid := bits.getD recoveryEntropySize 0 &&& 0xF0 == checksumNibble candidate
    (valid, if valid then candidate else out)

omit [RecoveryWordlist] in
/-- `derive_master_seed` -/
def deriveMasterSeed (entropy : RecoveryEntropy) : Option (FixedBytes 32) :=
  (extractPseudoRandomKey (ascii "hypercom-recovery-v1") entropy.1).map fun pseudoRandomKey =>
    expandKeyBlock pseudoRandomKey (ascii "hypercom-master-seed") 1

end Phrase

end HyperCom
