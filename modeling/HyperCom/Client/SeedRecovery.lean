import HyperCom.Client.SecretFiles
import HyperCom.Crypto.PhraseRoundTrip

/-!
# Recovering the master seed

`restore_seed` reads the phrase that `create_seed` returned and seals the seed
it derives from it, so the only thing that can stop it is the sealing to disk.

The seed itself is never shown. What the user writes down is the phrase, and what the disk
has is the sealed seed, so the two ways to the same seed have to agree
(`Crypto.PhraseRoundTrip`).
-/

namespace HyperCom

variable [Sodium]

section Seeds

variable [RecoveryWordlist]

/-- What `create_seed` hands out goes back to one entropy. -/
theorem createSeed_ok {path passphrase : ByteString} {entropy : RecoveryEntropy}
    {world : SealedWriting StreamOutcome} {files files' : Files} {seed : FixedBytes 32}
    {phrase : ByteString}
    (h : createSeed path passphrase entropy world files = (.ok (seed, phrase), files')) :
    deriveMasterSeed entropy = some seed ∧ phrase = entropyToPhrase entropy := by
  rcases hderived : deriveMasterSeed entropy with _ | derived
  · simp [createSeed, hderived] at h
  rcases hsealed : sealToDisk path passphrase derived world files with ⟨_ | _, files''⟩
  · simp [createSeed, hderived, hsealed] at h
  · simp only [createSeed, hderived, hsealed, Prod.mk.injEq, Except.ok.injEq] at h
    obtain ⟨⟨rfl, rfl⟩, rfl⟩ := h
    exact ⟨rfl, rfl⟩

/-- With an accepted phrase, `restore_seed` is the sealing of the derived seed. -/
theorem restoreSeed_of_accepted {phrase : ByteString} {entropy : RecoveryEntropy}
    {seed : FixedBytes 32} (haccepted : phraseToEntropy phrase = some entropy)
    (hseed : deriveMasterSeed entropy = some seed) (path passphrase : ByteString)
    (world : SealedWriting StreamOutcome) (files : Files) :
    restoreSeed path passphrase phrase world files =
      ((sealToDisk path passphrase seed world files).1.map fun _ => seed,
        (sealToDisk path passphrase seed world files).2) := by
  rcases hsealed : sealToDisk path passphrase seed world files with ⟨_ | _, files'⟩ <;>
    simp only [restoreSeed, haccepted, hseed, hsealed, Except.map]

end Seeds

/-- Sealing a new seed under a passphrase. -/
theorem sealToDisk_ok {path passphrase : ByteString} {seed : FixedBytes 32}
    {world : SealedWriting StreamOutcome} {files : Files} (hnew : files path = none)
    (hpassphrase : passphrase ≠ [])
    (hsealed : (sealBlob passphrase seed.1 world.salt world.nonce).isSome = true)
    (hopened : world.outcome.opened = true) (hrestricted : world.outcome.restricted = true) :
    (sealToDisk path passphrase seed world files).1 = .ok () := by
  obtain ⟨sealed, hsealed⟩ := Option.isSome_iff_exists.mp hsealed
  simp [sealToDisk, hasStoredFile, hnew, hpassphrase, hsealed, writeSealedFileThrough, hopened,
    hrestricted]

/-- The word list the program is built with. -/
instance builtWordlist : RecoveryWordlist := generatedWordlist

/-- The recovery phrase, with the word list the program is built with. The
phrase of an entropy gives it back; an accepted text is its result's phrase, but
for case and blanks, and these decide nothing; a rejected text leaves the output
alone. What `create_seed` returns, `restore_seed` turns into the same seed, on
any disk and under any passphrase, unless the sealing to disk fails. -/
theorem recovery_phrase_recovers :
    (∀ entropy out, phraseToEntropyInto (entropyToPhrase entropy) out = (true, entropy)) ∧
    (∀ text out entropy, phraseToEntropyInto text out = (true, entropy) →
      ∃ words, Words.Spaced isSpace words text ∧
        entropyToPhrase entropy = (ascii " ").intercalate (words.map normalizeWord)) ∧
    (∀ text text' words words', Words.Spaced isSpace words text →
      Words.Spaced isSpace words' text' → words.map normalizeWord = words'.map normalizeWord →
      ∀ out, phraseToEntropyInto text out = phraseToEntropyInto text' out) ∧
    (∀ text out, (phraseToEntropyInto text out).1 = false →
      (phraseToEntropyInto text out).2 = out) ∧
    (∀ path passphrase entropy world files seed phrase files',
      createSeed path passphrase entropy world files = (.ok (seed, phrase), files') →
      ∀ (path' passphrase' : ByteString) (world' : SealedWriting StreamOutcome) (disk : Files),
        restoreSeed path' passphrase' phrase world' disk =
          ((sealToDisk path' passphrase' seed world' disk).1.map fun _ => seed,
            (sealToDisk path' passphrase' seed world' disk).2) ∧
        (disk path' = none → passphrase' ≠ [] →
          (sealBlob passphrase' seed.1 world'.salt world'.nonce).isSome = true →
          world'.outcome.opened = true → world'.outcome.restricted = true →
          (restoreSeed path' passphrase' phrase world' disk).1 = .ok seed)) := by
  have hback : ∀ entropy, phraseToEntropy (entropyToPhrase entropy) = some entropy :=
    phraseToEntropy_entropyToPhrase generatedWordlist_proper
  refine ⟨?_, ?_, ?_, ?_, ?_⟩
  · intro entropy out
    rw [phraseToEntropyInto_eq, hback entropy]
    rfl
  · intro text out entropy h
    rcases haccepted : phraseToEntropy text with _ | accepted
    · simp [phraseToEntropyInto_eq, haccepted] at h
    · obtain rfl : accepted = entropy := by simpa [phraseToEntropyInto_eq, haccepted] using h
      exact entropyToPhrase_of_accepted haccepted
  · intro text text' words words' h h' hsame out
    rw [phraseToEntropyInto_eq, phraseToEntropyInto_eq, phraseToEntropy_congr h h' hsame]
  · intro text out h
    rw [phraseToEntropyInto_eq, Option.isSome_eq_false_iff, Option.isNone_iff_eq_none] at h
    rw [phraseToEntropyInto_eq, h, Option.getD_none]
  · intro path passphrase entropy world files seed phrase files' hcreated path' passphrase' world' disk
    obtain ⟨hseed, rfl⟩ := createSeed_ok hcreated
    have hrestored := restoreSeed_of_accepted (hback entropy) hseed path' passphrase' world' disk
    refine ⟨hrestored, fun hnew hpassphrase hsealed hopened hrestricted => ?_⟩
    rw [hrestored, sealToDisk_ok hnew hpassphrase hsealed hopened hrestricted]
    rfl

end HyperCom
