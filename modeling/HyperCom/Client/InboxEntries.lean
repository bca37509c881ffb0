import HyperCom.Client.Sender
import Mathlib.Data.List.Perm.Subperm

/-!
# How often a message is shown

`refresh_inbox` appends an entry for every envelope it is given and compares
nothing with what is shown already. An envelope comes again when it could not be
opened, when its acknowledgement got lost, or when the server wants it to. So each
message is shown once exactly as long as the server serves each ciphertext once.

An entry is compared by what it shows. The condition is about the server, since the client
has nothing of its own that could make the difference: no list of ids it has seen, and no
check of the counter in the header.
-/

namespace HyperCom

open Interaction

/-- The envelopes of the list a refresh was given. -/
def servedEnvelopes (trace : ClientTrace) : List DmEnvelopeRecord :=
  (fetchedList trace).elim [] DmListResponse.envelopes

variable [Sodium]

/-- A run of the graphical client of an identity, from an empty inbox: every refresh
against any server, and whatever else leaves the inbox alone. The list is all the
envelopes that were served in it. -/
inductive Refreshed (identity : IdentityKeypair) : List DmEnvelopeRecord → UiState → Prop where
  | start {state : UiState} (empty : state.inbox = []) : Refreshed identity [] state
  | refresh {served : List DmEnvelopeRecord} {context context' : CliContext}
      {state state' : UiState} {trace : ClientTrace} (before : Refreshed identity served state)
      (own : context.identity = identity)
      (performed : (refreshInbox context state).Performs trace (context', state')) :
      Refreshed identity (served ++ servedEnvelopes trace) state'
  | other {served : List DmEnvelopeRecord} {state state' : UiState}
      (before : Refreshed identity served state) (untouched : state'.inbox = state.inbox) :
      Refreshed identity served state'

/-- No two entries are for one ciphertext: they can be taken to be the entries of
served envelopes with a ciphertext each. -/
def ShownOnce (identity : IdentityKeypair) (served : List DmEnvelopeRecord)
    (inbox : List DecryptedMessage) : Prop :=
  ∃ shown : List DmEnvelopeRecord, inbox = shown.map (decryptEnvelope identity) ∧
    (∀ envelope ∈ shown, envelope ∈ served) ∧ (shown.map DmEnvelopeRecord.ciphertext).Nodup

variable {identity : IdentityKeypair} {served : List DmEnvelopeRecord} {state : UiState}

/-- A refresh adds the entries of what it was given. -/
theorem refreshInbox_served {context context' : CliContext} {state' : UiState}
    {trace : ClientTrace} (h : (refreshInbox context state).Performs trace (context', state')) :
    state'.inbox =
      state.inbox ++ (servedEnvelopes trace).map (decryptEnvelope context.identity) := by
  rw [performs_refreshInbox_entries h, servedEnvelopes]
  rcases fetchedList trace with _ | response <;> rfl

/-- Over a whole run the inbox holds an entry for each envelope served, in order. -/
theorem Refreshed.inbox_eq (h : Refreshed identity served state) :
    state.inbox = served.map (decryptEnvelope identity) := by
  induction h with
  | start empty => exact empty
  | refresh before own performed ih => rw [refreshInbox_served performed, ih, own, List.map_append]
  | other before untouched ih => rw [untouched, ih]

/-- If each ciphertext has one entry at most, each was served once: there are as
many entries as envelopes. -/
theorem ShownOnce.served_once (hrun : Refreshed identity served state)
    (h : ShownOnce identity served state.inbox) :
    (served.map DmEnvelopeRecord.ciphertext).Nodup := by
  obtain ⟨shown, hshown, hserved, hnodup⟩ := h
  have hlength : (served.map DmEnvelopeRecord.ciphertext).length =
      (shown.map DmEnvelopeRecord.ciphertext).length := by
    have hentries := congrArg List.length (hrun.inbox_eq.symm.trans hshown)
    simpa only [List.length_map] using hentries
  have hsubset : shown.map DmEnvelopeRecord.ciphertext ⊆ served.map DmEnvelopeRecord.ciphertext :=
    List.map_subset _ hserved
  exact ((hnodup.subperm hsubset).perm_of_length_le hlength.le).nodup_iff.mp hnodup

/-- In every state of every run, each ciphertext has one entry at most exactly if
none was served twice. -/
theorem shown_once_iff (h : Refreshed identity served state) :
    ShownOnce identity served state.inbox ↔ (served.map DmEnvelopeRecord.ciphertext).Nodup :=
  ⟨ShownOnce.served_once h, fun hnodup => ⟨served, h.inbox_eq, fun _ => id, hnodup⟩⟩

/-! ## A message that comes twice -/

omit [Sodium]

/-- A refresh of the identity of fives, against a server that lists a message and
accepts the acknowledgement. -/
def refreshListed (state : UiState) :
    (CliContext × UiState) × List (Exchange ClientAnswer) × List (MessageType × ByteString) :=
  let _ := transparentSodium
  (refreshInbox { identity := repeatedIdentity 5 } state).run (scripted none)
    [(.dmListResponse, (listedUnder 1).writeTo), (.statusOk, StatusOkResponse.writeTo {})]

theorem refreshListed_performs (state : UiState) :
    letI := transparentSodium
    (refreshInbox { identity := repeatedIdentity 5 } state).Performs (refreshListed state).2.1
      ((refreshListed state).1.1, (refreshListed state).1.2) := by
  rw [Prod.mk.eta, refreshListed]
  exact Dialogue.run_performs ..

/-- Such a refresh in a run. -/
theorem refreshed_refreshListed {served : List DmEnvelopeRecord} {state : UiState} :
    letI := transparentSodium
    Refreshed (repeatedIdentity 5) served state → Refreshed (repeatedIdentity 5)
      (served ++ servedEnvelopes (refreshListed state).2.1) (refreshListed state).1.2 := by
  let _ := transparentSodium
  exact fun before => .refresh before rfl (refreshListed_performs state)

/-- After one refresh it is shown once. -/
theorem shown_once_iff_first :
    letI := transparentSodium
    ShownOnce (repeatedIdentity 5) ([] ++ servedEnvelopes (refreshListed {}).2.1)
      (refreshListed {}).1.2.inbox := by
  let _ := transparentSodium
  have hrun : Refreshed (repeatedIdentity 5) ([] ++ servedEnvelopes (refreshListed {}).2.1)
      (refreshListed {}).1.2 := refreshed_refreshListed (.start rfl)
  refine (shown_once_iff hrun).mpr ?_
  decide +kernel

/-- The server lists it again after it was acknowledged: it is shown twice. -/
theorem replayed_message_shown_twice :
    letI := transparentSodium
    let first := refreshListed {}
    let second := refreshListed first.1.2
    let served := ([] ++ servedEnvelopes first.2.1) ++ servedEnvelopes second.2.1
    Refreshed (repeatedIdentity 5) served second.1.2 ∧
    (second.1.2.inbox.map fun entry => (entry.text, entry.readable)) =
      [(ascii "salut", true), (ascii "salut", true)] ∧
    ¬ ShownOnce (repeatedIdentity 5) served second.1.2.inbox := by
  let _ := transparentSodium
  have hstart : Refreshed (repeatedIdentity 5) [] {} := .start rfl
  have hrun := refreshed_refreshListed (refreshed_refreshListed hstart)
  refine ⟨hrun, by decide +kernel, fun hshown => ?_⟩
  exact absurd (hshown.served_once hrun) (by decide +kernel)

end HyperCom
