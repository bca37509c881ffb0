import HyperCom.Lib.SparseList
import HyperCom.Server.AdminReports
import HyperCom.Server.Listings
import HyperCom.Server.RecordReplies
import HyperCom.Server.TransactionDiscipline

/-!
# The top 8, set and read back

A top 8 is stored as a row for each slot that is not empty, ascending, with the account
the key was resolved to (`Tables.HoldsSlots`). Accounts keep their keys, so the rows keep
their meaning until the user's next successful set, and `list_slots` makes the requested
slots of them again, unless a step of its loop fails (`top8_get_iff`).

Setting is a transaction of one deletion and an insertion for each occupied slot, so the
rows are the old ones or the new ones. Getting joins the rows with the accounts and their
profiles. Between the two any requests and commands may come, which is why the theorem is
about runs.
-/

namespace HyperCom

open BinaryCodec RowStore SparseList

/-! ## Stored slots -/

/-- The slots that are not empty, with their numbers. -/
def Top8Slots.occupied (slots : Top8Slots) : List (WirePublicKey × ℕ) :=
  SparseList.occupied isEmptySlot slots.1

/-- An empty slot is all zeros. -/
theorem isEmptySlot_eq {key : WirePublicKey} (h : isEmptySlot key = true) :
    key = FixedBytes.zero _ := by
  refine Subtype.ext (List.eq_replicate_iff.mpr ⟨key.2, fun byte hbyte => ?_⟩)
  exact eq_of_beq (List.all_eq_true.mp h byte hbyte)

/-- The rows of a user's top 8. -/
def Tables.top8Of (tables : Tables) (userId : ℤ) : List Top8Row :=
  tables.top8.filter fun row => row.userId = userId

/-- The account of an id has a key. -/
def Tables.HasKey (tables : Tables) (id : ℤ) (key : WirePublicKey) : Prop :=
  Settled UserRow.id (fun user => user.pubkey = key) id tables.users

/-- The top 8 of a user is the given one. -/
structure Tables.HoldsSlots (tables : Tables) (userId : ℤ) (slots : Top8Slots) : Prop where
  usersInOrder : tables.UsersInOrder
  rows : List.Forall₂ (fun slot row => row.slot = slot.2 ∧ tables.HasKey row.friendId slot.1)
    slots.occupied (tables.top8Of userId)

section Keys

variable {before after : Tables} {id : ℤ} {key : WirePublicKey}

/-- An account keeps its key. -/
theorem Tables.HasKey.step (h : before.HasKey id key) (inOrder : before.UsersInOrder)
    (hwrite : RowWrite before after) : after.HasKey id key := by
  cases hwrite.account with
  | kept users =>
    rw [Tables.HasKey, users]
    exact h
  | created written =>
    obtain ⟨hid, rfl⟩ := insertUserRow_some written
    obtain ⟨hnext, -⟩ := nextRowid_eq_some hid
    obtain ⟨user, huser, rfl⟩ := h.1
    have hgiven := inOrder.given_out user huser
    refine Settled.append h ?_
    simp only
    omega
  | banned written =>
    obtain ⟨-, rfl⟩ := Prod.mk.inj (Option.some.inj written)
    exact Settled.update h (fun _ => rfl) fun _ hkey => hkey

/-- A row of the accounts has the key of its id. -/
theorem Tables.UsersInOrder.hasKey {tables : Tables} (h : tables.UsersInOrder) {user : UserRow}
    (huser : user ∈ tables.users) : tables.HasKey user.id user.pubkey :=
  ⟨⟨user, huser, rfl⟩, fun _ hother hid => congrArg UserRow.pubkey (Numbered.eq_of_key h hother huser hid)⟩

/-- The account of a key, found by its id. -/
theorem Tables.HasKey.user {tables : Tables} (h : tables.HasKey id key) :
    ∃ user ∈ tables.users, tables.userOf id = some user ∧ user.pubkey = key := by
  obtain ⟨⟨user, huser, hid⟩, hall⟩ := h
  obtain ⟨found, hfound⟩ := Option.isSome_iff_exists.mp
    (Tables.userOf_isSome (Tables.hasUser_iff.mpr ⟨user, huser, hid⟩))
  have hmem := List.mem_of_find?_eq_some hfound
  have hsame := of_decide_eq_true (List.find?_some (p := fun user : UserRow => user.id = id) hfound)
  exact ⟨found, hmem, hfound, hall found hmem hsame⟩

/-- No statement changes whom a row stands for. -/
theorem Tables.UsersInOrder.writes (h : before.UsersInOrder) (hwrites : Writes before after) :
    after.UsersInOrder ∧ ∀ id key, before.HasKey id key → after.HasKey id key := by
  induction hwrites with
  | refl => exact ⟨h, fun _ _ hkey => hkey⟩
  | tail _ hwrite ih =>
    obtain ⟨inOrder, hkeys⟩ := ih
    exact ⟨inOrder.step hwrite, fun id key hkey => (hkeys id key hkey).step inOrder hwrite⟩

/-- While the rows of a user stay, so does what they stand for. -/
theorem Tables.HoldsSlots.writes {userId : ℤ} {slots : Top8Slots} (h : before.HoldsSlots userId slots)
    (hwrites : Writes before after) (hrows : after.top8Of userId = before.top8Of userId) :
    after.HoldsSlots userId slots := by
  obtain ⟨inOrder, hkeys⟩ := h.usersInOrder.writes hwrites
  refine ⟨inOrder, ?_⟩
  rw [hrows]
  exact h.rows.imp fun _ _ hrow => ⟨hrow.1, hkeys _ _ hrow.2⟩

end Keys

/-! ## Reading the slots -/

/-- A friend, as `list_slots` shows it. -/
def top8Record (tables : Tables) (userId : ℤ) (friend : UserRow) : FriendRecord :=
  friendRecord tables friend (((tables.friends.find? fun other =>
    other.userId = userId && other.friendId = friend.id).map FriendRow.status).getD .accepted)

/-- The rows of the query of `list_slots`. -/
def selectTop8 (tables : Tables) (userId : ℤ) : List (ℕ × FriendRecord) :=
  ((tables.top8Of userId).mergeSort fun first second => first.slot ≤ second.slot).filterMap fun row =>
    (tables.userOf row.friendId).map fun friend => (row.slot, top8Record tables row.userId friend)

/-- What the loop of `list_slots` makes of the rows it gets. -/
def collectSlots (rows : List (ℕ × FriendRecord)) : Top8Response :=
  (rows.filter fun row => row.1 < top8SlotCount).foldl
    (fun response row =>
      { slots := response.slots.set row.1 row.2.pubkey
        details := response.details ++ [row.2] })
    { slots := Top8Slots.empty, details := [] }

/-- The list is the query and the loop over its rows. -/
theorem listSlots_eq (database : DatabaseHandle) (userId : ℤ) :
    listSlots database userId =
      (database.query .listTop8 (selectTop8 database.tables userId)).map collectSlots := rfl

/-- A row shows a slot. -/
def ShowsSlot (tables : Tables) (userId : ℤ) (slot : WirePublicKey × ℕ) (row : ℕ × FriendRecord) :
    Prop :=
  row.1 = slot.2 ∧
    ∃ user ∈ tables.users, user.pubkey = slot.1 ∧ row.2 = top8Record tables userId user

/-- A response is the given top 8: its slots, and for each that is not empty the record
of an account with the key, in the order of the slots. -/
structure Top8Response.Shows (response : Top8Response) (tables : Tables) (userId : ℤ)
    (slots : Top8Slots) : Prop where
  requested : response.slots = slots
  described : List.Forall₂ (fun (slot : WirePublicKey × ℕ) record =>
    ∃ user ∈ tables.users, user.pubkey = slot.1 ∧ record = top8Record tables userId user)
    slots.occupied response.details

section Reading

variable {tables : Tables} {userId : ℤ} {slots : Top8Slots}

/-- What is related pairwise is filtered alike. -/
theorem forall₂_filterMap {α β γ : Type} {R : α → β → Prop} {S : α → γ → Prop} {f : β → Option γ}
    {as : List α} {bs : List β} (h : List.Forall₂ R as bs)
    (hf : ∀ a b, b ∈ bs → R a b → ∃ c, f b = some c ∧ S a c) : List.Forall₂ S as (bs.filterMap f) := by
  induction h with
  | nil => exact .nil
  | @cons a b as bs hab _ ih =>
    obtain ⟨c, hc, hac⟩ := hf a b List.mem_cons_self hab
    rw [List.filterMap_cons_some hc]
    exact .cons hac (ih fun a b hb => hf a b (List.mem_cons_of_mem _ hb))

theorem exists_of_forall₂ {α β : Type} {R : α → β → Prop} {as : List α} {bs : List β}
    (h : List.Forall₂ R as bs) {a : α} (ha : a ∈ as) : ∃ b ∈ bs, R a b := by
  induction h with
  | nil => cases ha
  | cons hab _ ih =>
    rcases List.mem_cons.mp ha with rfl | ha
    · exact ⟨_, List.mem_cons_self, hab⟩
    · obtain ⟨b, hb, hr⟩ := ih ha
      exact ⟨b, List.mem_cons_of_mem _ hb, hr⟩

theorem map_eq_of_forall₂ {α β γ : Type} {R : α → β → Prop} {f : α → γ} {g : β → γ} {as : List α}
    {bs : List β} (h : List.Forall₂ R as bs) (hf : ∀ a b, R a b → f a = g b) :
    as.map f = bs.map g := by
  rw [← List.forall₂_eq_eq_eq, List.forall₂_map_left_iff, List.forall₂_map_right_iff]
  exact h.imp hf

/-- The rows are stored in the order of the slots. -/
theorem Tables.HoldsSlots.sorted (h : tables.HoldsSlots userId slots) :
    (tables.top8Of userId).Pairwise fun first second => decide (first.slot ≤ second.slot) = true := by
  have hslots : slots.occupied.map Prod.snd = (tables.top8Of userId).map Top8Row.slot :=
    map_eq_of_forall₂ h.rows fun _ _ hrow => hrow.1.symm
  have hascending : (slots.occupied.map Prod.snd).Pairwise (· < ·) :=
    List.pairwise_map.mpr (occupied_ascending slots.1)
  rw [hslots, List.pairwise_map] at hascending
  exact hascending.imp fun hlt => decide_eq_true hlt.le

/-- The query has a row for each slot that is not empty. -/
theorem Tables.HoldsSlots.select (h : tables.HoldsSlots userId slots) :
    List.Forall₂ (ShowsSlot tables userId) slots.occupied (selectTop8 tables userId) := by
  rw [selectTop8, List.mergeSort_of_pairwise h.sorted]
  refine forall₂_filterMap h.rows fun slot row hrow ⟨hslot, hkey⟩ => ?_
  obtain ⟨user, huser, hfound, hpubkey⟩ := hkey.user
  have huserId := of_decide_eq_true (List.mem_filter.mp hrow).2
  exact ⟨_, congrArg (Option.map _) hfound, hslot, user, huser, hpubkey, by rw [huserId]⟩

/-- The loop writes the keys into the slots. -/
theorem collectSlots_slots (rows : List (ℕ × FriendRecord)) (response : Top8Response) :
    (rows.foldl (fun response row =>
      { slots := response.slots.set row.1 row.2.pubkey
        details := response.details ++ [row.2] }) response).slots.1 =
      fill response.slots.1 (rows.map fun row => (row.2.pubkey, row.1)) := by
  induction rows generalizing response with
  | nil => rfl
  | cons row rows ih =>
    rw [List.foldl_cons, ih]
    rfl

/-- Of all rows the loop makes the top 8. -/
theorem collectSlots_shows {rows : List (ℕ × FriendRecord)}
    (h : List.Forall₂ (ShowsSlot tables userId) slots.occupied rows) :
    (collectSlots rows).Shows tables userId slots := by
  have hnumbers : slots.occupied.map Prod.snd = rows.map Prod.fst :=
    map_eq_of_forall₂ h fun _ _ hrow => hrow.1.symm
  have hkept : (rows.filter fun row => row.1 < top8SlotCount) = rows := by
    refine List.filter_eq_self.mpr fun row hrow => ?_
    have hnumber : row.1 ∈ slots.occupied.map Prod.snd := hnumbers ▸ List.mem_map_of_mem hrow
    obtain ⟨slot, hslot, hsame⟩ := List.mem_map.mp hnumber
    have hlt := position_lt hslot
    rw [slots.2, hsame] at hlt
    exact decide_eq_true hlt
  have hkeys : rows.map (fun row => (row.2.pubkey, row.1)) = slots.occupied := by
    have hshown := map_eq_of_forall₂ (f := fun slot => slot) (g := fun row => (row.2.pubkey, row.1)) h
      fun slot row ⟨hnumber, user, _, hkey, hrecord⟩ => by
        rw [hrecord, hnumber]
        exact Prod.ext hkey.symm rfl
    rw [← hshown, List.map_id']
  refine ⟨Subtype.ext ?_, ?_⟩
  · rw [collectSlots, hkept, collectSlots_slots, hkeys]
    have hfill : fill (List.replicate slots.1.length (FixedBytes.zero _)) slots.occupied = slots.1 :=
      fill_occupied (fun _ => isEmptySlot_eq) slots.1
    rw [slots.2] at hfill
    exact hfill
  · rw [collectSlots, hkept, collectSlots_details, List.nil_append, List.forall₂_map_right_iff]
    exact h.imp fun _ _ hrow => hrow.2

/-- Every step that should deliver a row of the query does so. -/
def DatabaseHandle.DeliversSlots (database : DatabaseHandle) (slots : Top8Slots) : Prop :=
  database.faults .listTop8 0 = false →
    ∀ step < slots.occupied.length, database.faults .listTop8 (step + 1) = false

/-- Whatever `list_slots` returns is the given top 8. -/
def DatabaseHandle.AnswersSlots (database : DatabaseHandle) (userId : ℤ) (slots : Top8Slots) : Prop :=
  ∀ response, listSlots database userId = some response →
    response.Shows database.tables userId slots

/-- A loop that sees as many rows as there are has had no failing step. -/
theorem stepRows_length {α : Type} {fails : ℕ → Bool} {first : ℕ} {rows : List α}
    (h : (DatabaseHandle.stepRows fails first rows).length = rows.length) :
    ∀ step < rows.length, fails (first + step) = false := by
  induction rows generalizing first with
  | nil => exact fun _ hstep => absurd hstep (Nat.not_lt_zero _)
  | cons row rows ih =>
    rw [DatabaseHandle.stepRows] at h
    split at h
    · cases h
    next hfirst =>
    rintro (_ | step) hstep
    · simpa using hfirst
    · have hnext := ih (Nat.succ.inj h) step (Nat.lt_of_succ_lt_succ hstep)
      rwa [Nat.add_right_comm, ← Nat.add_assoc] at *

/-- Where the slots are held they are shown, exactly if no row is lost. -/
theorem Tables.HoldsSlots.answersSlots_iff {database : DatabaseHandle}
    (h : database.tables.HoldsSlots userId slots) :
    database.AnswersSlots userId slots ↔ database.DeliversSlots slots := by
  have hlength := h.select.length_eq
  rw [DatabaseHandle.AnswersSlots, listSlots_eq, DatabaseHandle.query, DatabaseHandle.DeliversSlots]
  cases database.faults .listTop8 0 with
  | true => simp
  | false =>
    simp only [Bool.false_eq_true, if_false, Option.map_some, Option.some.injEq, forall_eq',
      true_implies, hlength]
    constructor
    · intro hshows step hstep
      have hshown := hshows.described.length_eq
      generalize hseen : DatabaseHandle.stepRows _ 0 _ = seen at hshown
      have hfront : seen <+: selectTop8 database.tables userId := hseen ▸ DatabaseHandle.stepRows_initial ..
      have hall : seen.length = (selectTop8 database.tables userId).length := by
        rw [collectSlots, collectSlots_details, List.nil_append, List.length_map] at hshown
        have hfilter := List.length_filter_le (fun row => decide (row.1 < top8SlotCount)) seen
        have hle := hfront.length_le
        omega
      have hdelivered := stepRows_length (hseen ▸ hall) step hstep
      rw [Nat.zero_add] at hdelivered
      exact hdelivered
    · intro hdelivers
      rw [Listing.stepRows_whole (by simpa using hdelivers)]
      exact collectSlots_shows h.select

end Reading

/-! ## Storing the slots -/

/-- The row of an entry. -/
def Top8Entry.row (userId : ℤ) (entry : Top8Entry) : Top8Row :=
  { userId, slot := entry.slot, friendId := entry.friendId }

section Storing

variable {database database' : DatabaseHandle} {userId : ℤ}

/-- The accounts are those of the keys, slot for slot. -/
theorem resolveTop8Entries_some {index : ℕ} {keys : List WirePublicKey} {entries : List Top8Entry}
    (h : resolveTop8Entries database index keys = some entries) :
    List.Forall₂ (fun (slot : WirePublicKey × ℕ) entry => entry.slot = slot.2 ∧
        ∃ user ∈ database.tables.users, user.id = entry.friendId ∧ user.pubkey = slot.1)
      ((keys.zipIdx index).filter fun slot => !isEmptySlot slot.1) entries := by
  induction keys generalizing index entries with
  | nil =>
    obtain rfl := Option.some.inj h
    exact .nil
  | cons key keys ih =>
    rw [resolveTop8Entries] at h
    rw [List.zipIdx_cons]
    split at h
    next hempty =>
      rw [List.filter_cons_of_neg (by simp [hempty])]
      exact ih h
    next hempty =>
      split at h
      · cases h
      next target hfound =>
      obtain ⟨rest, hrest, rfl⟩ := Option.map_eq_some_iff.mp h
      obtain ⟨hknown, hkey⟩ := findUserByPubkey_some hfound
      rw [List.filter_cons_of_pos (by simpa using hempty)]
      exact .cons ⟨rfl, target, hknown, rfl, hkey⟩ (ih hrest)

/-- A write that succeeds has had its effect. -/
theorem DatabaseHandle.write_some {α : Type} {statement : SqlStatement} {step : ℕ}
    {effect : Tables → Option (α × Tables)} {value : α}
    (h : database.write statement step effect = (some value, database')) :
    effect database.tables = some (value, database'.tables) := by
  obtain ⟨hnone, -⟩ | ⟨written, tables, heffect, hsame, rfl⟩ := DatabaseHandle.write_cases h
  · cases hnone
  · obtain rfl := Option.some.inj hsame
    exact heffect

/-- The insertion loop has inserted the rows of its entries, one behind the other. -/
theorem insertTop8Rows_true {step : ℕ} {entries : List Top8Entry}
    (h : insertTop8Rows userId step entries database = (true, database')) :
    database'.tables = { database.tables with
      top8 := database.tables.top8 ++ entries.map (Top8Entry.row userId) } := by
  induction entries generalizing step database with
  | nil =>
    obtain ⟨-, rfl⟩ := Prod.mk.inj h
    simp
  | cons entry entries ih =>
    rw [insertTop8Rows] at h
    split at h
    · cases h
    next hwrite =>
    obtain ⟨-, -, hinserted⟩ := insertTop8Row_some (DatabaseHandle.write_some hwrite)
    rw [ih h, hinserted]
    simp [Top8Entry.row]

/-- A transaction whose statements all went through leaves the new rows and nobody else's
changed. -/
theorem replaceSlotsBody_true {entries : List Top8Entry}
    (h : replaceSlotsBody userId entries database = (true, database')) :
    database'.tables = { database.tables with
      top8 := deleteWhere (fun row => row.userId = userId) database.tables.top8 ++
        entries.map (Top8Entry.row userId) } := by
  rw [replaceSlotsBody] at h
  split at h
  · cases h
  next hwrite =>
  have hdeleted := DatabaseHandle.write_some hwrite
  obtain ⟨-, hdeleted⟩ := Prod.mk.inj (Option.some.inj hdeleted)
  rw [insertTop8Rows_true h, ← hdeleted]

/-- A transaction that succeeds leaves what its body has made of the tables. -/
theorem DatabaseHandle.inTransaction_true {body : DatabaseHandle → Bool × DatabaseHandle}
    (h : database.inTransaction body = (true, database')) :
    ∃ left, body { database with transaction := some database.tables } = (true, left) ∧
      database'.tables = left.tables := by
  unfold inTransaction at h
  rcases hbegin : database.beginImmediate with ⟨started, opened⟩
  rw [hbegin] at h
  unfold beginImmediate at hbegin
  split at hbegin
  · obtain ⟨rfl, rfl⟩ := Prod.mk.inj hbegin
    cases h
  · obtain ⟨rfl, rfl⟩ := Prod.mk.inj hbegin
    rcases hrun : body { database with transaction := some database.tables } with ⟨ok, left⟩
    simp only [hrun] at h
    cases ok with
    | true =>
      refine ⟨left, rfl, ?_⟩
      simp only [commit] at h
      split at h
      · cases h
      · obtain ⟨-, rfl⟩ := Prod.mk.inj h
        rfl
    | false => cases h

/-- A transaction that fails and can be rolled back leaves the tables as they were. -/
theorem DatabaseHandle.inTransaction_false {body : DatabaseHandle → Bool × DatabaseHandle}
    (hplain : Plain body) (hsettles : database.transaction = none → database.Settles body)
    (h : database.inTransaction body = (false, database')) :
    database'.tables = database.tables := by
  cases hopen : database.transaction with
  | some saved =>
    have hrefused : database.beginImmediate = (false, database) := by simp [beginImmediate, hopen]
    rw [inTransaction, hrefused] at h
    exact congrArg DatabaseHandle.tables (Prod.mk.inj h).2.symm
  | none =>
    have hblock := inTransaction_block hplain database
    rw [h] at hblock
    have hclosed : database'.transaction = none := by
      simpa [h] using (inTransaction_closed_iff hplain hopen).mpr (hsettles hopen)
    have hcommitted : (database.connection.block database.blockFaults
        (database.bodyEffect body)).2.committed = database.connection.committed :=
      Transactions.Connection.block_failed hopen (congrArg Prod.fst hblock).symm
    rw [← congrArg Prod.snd hblock] at hcommitted
    simpa [Transactions.Connection.committed, connection, hclosed, hopen] using hcommitted

/-- The rows of a set, where none of the user's were left. -/
theorem top8Of_replaced (top8 : List Top8Row) (entries : List Top8Entry) :
    ((deleteWhere (fun row => row.userId = userId) top8 ++ entries.map (Top8Entry.row userId)).filter
      fun row => row.userId = userId) = entries.map (Top8Entry.row userId) := by
  rw [List.filter_append, deleteWhere, List.filter_filter]
  simp [Top8Entry.row]

/-- A set that succeeds holds what was asked for. -/
theorem replaceSlots_holds {slots : Top8Slots} {entries : List Top8Entry}
    (inOrder : database.tables.UsersInOrder)
    (hresolved : resolveTop8Entries database 0 slots.1 = some entries)
    (h : replaceSlots database userId entries = (true, database')) :
    database'.tables.HoldsSlots userId slots := by
  rw [replaceSlots_eq] at h
  obtain ⟨left, hbody, hleft⟩ := DatabaseHandle.inTransaction_true h
  rw [hleft, replaceSlotsBody_true hbody]
  refine ⟨inOrder, ?_⟩
  rw [Tables.top8Of, top8Of_replaced, List.forall₂_map_right_iff]
  refine (resolveTop8Entries_some hresolved).imp fun slot entry ⟨hslot, user, huser, hid, hkey⟩ => ?_
  have hhas := inOrder.hasKey huser
  rw [hid, hkey] at hhas
  exact ⟨hslot, hhas⟩

/-- A key that nobody has rejects the whole list. -/
theorem resolveTop8Entries_unknown {slots : Top8Slots} {slot : WirePublicKey × ℕ}
    (hslot : slot ∈ slots.occupied) (hunknown : ∀ user ∈ database.tables.users, user.pubkey ≠ slot.1) :
    resolveTop8Entries database 0 slots.1 = none := by
  rcases hresolved : resolveTop8Entries database 0 slots.1 with _ | entries
  · rfl
  · have hkeys := resolveTop8Entries_some hresolved
    obtain ⟨entry, -, -, user, huser, -, hkey⟩ := exists_of_forall₂ hkeys hslot
    exact absurd hkey (hunknown user huser)

end Storing

/-! ## The requests of the top 8 -/

section Sets

variable [Sodium]

/-- A `top8_set_request` of a registered session, and the slots it asks for. -/
structure RequestsTop8 (context : HandlerContext) (reader : ByteReader) (slots : Top8Slots) : Prop where
  registered : context.connection.session.isRegistered = true
  decoded : (Top8SetRequest.readFrom reader).1 = some { slots }

/-- It is answered with `status_ok`: every key was resolved and the slots replaced. -/
structure SetsTop8 (context : HandlerContext) (reader : ByteReader) (slots : Top8Slots) : Prop
    extends RequestsTop8 context reader slots where
  stored : ∃ entries, resolveTop8Entries context.database 0 slots.1 = some entries ∧
    (replaceSlots context.database context.connection.session.userId entries).1 = true

/-- The COMMIT or the ROLLBACK the request gets to issue does not fail. -/
def Top8Settles (context : HandlerContext) (slots : Top8Slots) : Prop :=
  ∀ entries, resolveTop8Entries context.database 0 slots.1 = some entries →
    context.database.transaction = none →
      context.database.Settles (replaceSlotsBody context.connection.session.userId entries)

variable {context : HandlerContext} {reader : ByteReader} {slots : Top8Slots}

/-- A set that succeeds. -/
theorem SetsTop8.handled (h : SetsTop8 context reader slots)
    (inOrder : context.database.tables.UsersInOrder) :
    ∃ database : DatabaseHandle,
      routeMessage context .top8SetRequest reader = sendStatusOk { context with database } 0 ∧
      database.tables.HoldsSlots context.connection.session.userId slots := by
  obtain ⟨entries, hresolved, hreplaced⟩ := h.stored
  rcases hreplace : replaceSlots context.database context.connection.session.userId entries
    with ⟨done, database⟩
  rw [hreplace] at hreplaced
  obtain rfl : done = true := hreplaced
  refine ⟨database, ?_, replaceSlots_holds inOrder hresolved hreplace⟩
  rw [routeMessage, handleTop8SetRequest, guardedRequest_decoded h.registered h.decoded]
  simp only [hresolved, hreplace]

/-- One that does not is answered with an error, and leaves the tables as they were. -/
theorem RequestsTop8.refused (h : RequestsTop8 context reader slots)
    (hfails : ¬ SetsTop8 context reader slots) (hsettles : Top8Settles context slots) :
    ∃ (database : DatabaseHandle) (code : ErrorCode),
      routeMessage context .top8SetRequest reader = sendStatusError { context with database } code ∧
      database.tables = context.database.tables := by
  rw [routeMessage, handleTop8SetRequest, guardedRequest_decoded h.registered h.decoded]
  rcases hresolved : resolveTop8Entries context.database 0 slots.1 with _ | entries
  · exact ⟨context.database, .notFound, rfl, rfl⟩
  rcases hreplace : replaceSlots context.database context.connection.session.userId entries
    with ⟨_ | _, database⟩
  · refine ⟨database, .internalError, ?_, ?_⟩
    · simp only [hreplace]
    · rw [replaceSlots_eq] at hreplace
      exact DatabaseHandle.inTransaction_false (replaceSlotsBody_plain _ _)
        (hsettles entries hresolved) hreplace
  · exact absurd ⟨h, entries, hresolved, by rw [hreplace]⟩ hfails

omit [Sodium] in
/-- A key that nobody has makes the request fail. -/
theorem not_setsTop8_of_unknown {slot : WirePublicKey × ℕ} (hslot : slot ∈ slots.occupied)
    (hunknown : ∀ user ∈ context.database.tables.users, user.pubkey ≠ slot.1) :
    ¬ SetsTop8 context reader slots := by
  rintro ⟨-, entries, hresolved, -⟩
  rw [resolveTop8Entries_unknown hslot hunknown] at hresolved
  cases hresolved

end Sets

/-! ## Until the next set -/

section Runs

variable [Sodium]

/-- A request on any connection or a command of the administration that is no successful
set of the user. A set that fails can be rolled back. -/
inductive QuietStep (userId : ℤ) : Tables → Tables → Prop where
  | served (context : HandlerContext) (type : MessageType) (reader : ByteReader)
      (quiet : type = .top8SetRequest → context.connection.session.userId = userId →
        ∀ slots, RequestsTop8 context reader slots →
          ¬ SetsTop8 context reader slots ∧ Top8Settles context slots) :
      QuietStep userId context.database.tables (routeMessage context type reader).2.database.tables
  | motdSet (database : DatabaseHandle) (body : ByteString) (now : UInt64) :
      QuietStep userId database.tables (setMotd database body now).2.tables
  | motdCleared (database : DatabaseHandle) :
      QuietStep userId database.tables (clearActiveMotd database).2.tables
  | ban (database : DatabaseHandle) (pubkey : WirePublicKey) (banned : Bool) :
      QuietStep userId database.tables (banAccount database pubkey banned).2.tables
  | reports (database : DatabaseHandle) (command : AdminCommand) (now : UInt64) :
      QuietStep userId database.tables (runReportsCommand database command now).2.tables

variable {userId : ℤ} {before after : Tables}

omit [Sodium] in
/-- The rows of a user are some of the rows that are not another's. -/
theorem top8Of_of_filter {other : ℤ} (hother : other ≠ userId)
    (h : (after.top8.filter fun row => row.userId ≠ other) =
      before.top8.filter fun row => row.userId ≠ other) :
    after.top8Of userId = before.top8Of userId := by
  have hsome : ∀ rows : List Top8Row, (rows.filter fun row => row.userId = userId) =
      (rows.filter fun row => row.userId ≠ other).filter fun row => row.userId = userId := by
    intro rows
    rw [List.filter_filter]
    refine List.filter_congr fun row _ => ?_
    by_cases hrow : row.userId = userId
    · simp [hrow, hother.symm]
    · simp [hrow]
  rw [Tables.top8Of, Tables.top8Of, hsome after.top8, hsome before.top8, h]

omit [Sodium] in
/-- Other statements leave the top 8 alone. -/
theorem OtherWrites.top8Of (h : OtherWrites before after) :
    after.top8Of userId = before.top8Of userId := by
  rw [Tables.top8Of, Tables.top8Of, h.top8]

/-- A quiet step is a step of the server. -/
theorem QuietStep.serverStep (h : QuietStep userId before after) : ServerStep before after := by
  cases h with
  | served context type reader => exact .served context type reader
  | motdSet database body now => exact .motdSet database body now
  | motdCleared database => exact .motdCleared database
  | ban database pubkey banned => exact .ban database pubkey banned
  | reports database command now => exact .reports database command now

/-- A set of somebody else, or one of the user that does not succeed. -/
theorem top8Of_quietSet {context : HandlerContext} {reader : ByteReader}
    (quiet : context.connection.session.userId = userId →
      ∀ slots, RequestsTop8 context reader slots →
        ¬ SetsTop8 context reader slots ∧ Top8Settles context slots) :
    (routeMessage context .top8SetRequest reader).2.database.tables.top8Of userId =
      context.database.tables.top8Of userId := by
  by_cases huser : context.connection.session.userId = userId
  · cases hregistered : context.connection.session.isRegistered with
    | false =>
      rw [routeMessage, handleTop8SetRequest, guardedRequest_refused hregistered, sendStatusError,
        (sendMessage_frame ..).1]
    | true =>
      rcases hdecoded : (Top8SetRequest.readFrom reader).1 with _ | ⟨⟨slots⟩⟩
      · rw [routeMessage, handleTop8SetRequest, guardedRequest_undecoded hregistered hdecoded]
      · have hrequests : RequestsTop8 context reader slots := ⟨hregistered, hdecoded⟩
        obtain ⟨hfails, hsettles⟩ := quiet huser slots hrequests
        obtain ⟨database, code, hanswer, hsame⟩ := hrequests.refused hfails hsettles
        rw [hanswer, sendStatusError, (sendMessage_frame ..).1, hsame]
  · refine top8Of_of_filter huser ?_
    refine guardedRequest_effect (R := fun before after => (after.top8.filter _) =
      before.top8.filter _) (fun _ => rfl) fun request _ => ?_
    -- the rows of others are not touched by a set
    have hothers : ∀ {entries : List Top8Entry} {done : Bool} {database : DatabaseHandle},
        replaceSlots context.database context.connection.session.userId entries = (done, database) →
        OwnEffect context.connection.session.userId context.connection.session.announcedPubkey
          context.database.tables database.tables := replaceSlots_own
    split
    · rfl
    split
    next h => exact (hothers h).top8
    next h => exact (hothers h).top8

/-- The rows of the user stay. -/
theorem QuietStep.top8Of (h : QuietStep userId before after) :
    after.top8Of userId = before.top8Of userId := by
  cases h with
  | served context type reader quiet =>
    rcases eq_or_ne type .top8SetRequest with rfl | htype
    · exact top8Of_quietSet (quiet rfl)
    · exact (routeMessage_others htype).top8Of
  | motdSet database body now => exact (setMotd_writes database body now).top8Of
  | motdCleared database => exact (clearActiveMotd_writes rfl).top8Of
  | ban database pubkey banned =>
    rw [banAccount_database]
    split
    · rfl
    · exact (setBanned_writes rfl).top8Of
  | reports database command now => exact (runReportsCommand_writes database command now).top8Of

/-- In every run until the user's next set the slots are held. -/
theorem Tables.HoldsSlots.run {slots : Top8Slots} (h : before.HoldsSlots userId slots)
    (run : Relation.ReflTransGen (QuietStep userId) before after) : after.HoldsSlots userId slots := by
  induction run with
  | refl => exact h
  | tail _ step ih => exact ih.writes step.serverStep.writes step.top8Of

/-- A `top8_get_request` for the user, whose account is found. -/
structure GetsTop8 (userId : ℤ) (context : HandlerContext) (reader : ByteReader) : Prop where
  registered : context.connection.session.isRegistered = true
  requested : ∃ request, (Top8GetRequest.readFrom reader).1 = some request ∧
    ∃ target, findUserByPubkey context.database request.targetPubkey = some target ∧
      target.id = userId

/-- It is answered with what `list_slots` returns. -/
theorem GetsTop8.handled {context : HandlerContext} {reader : ByteReader}
    (h : GetsTop8 userId context reader) :
    routeMessage context .top8GetRequest reader =
      match listSlots context.database userId with
      | none => sendStatusError context .internalError
      | some response => sendMessage context .top8Response response.writeTo := by
  obtain ⟨request, hdecoded, target, hfound, rfl⟩ := h.requested
  rw [routeMessage, handleTop8GetRequest, guardedRequest_decoded h.registered hdecoded]
  generalize findUserByPubkey context.database request.targetPubkey = found at hfound ⊢
  subst hfound
  rfl

/-- For every set that is answered with `status_ok` over a reachable database and every run
up to the user's next successful one, in which the failing sets of the user can be rolled
back: every get of the user is answered with what `list_slots` returns, a response its
reader accepts, and that is always the requested top 8 exactly if no step that should
deliver a slot fails. A set with an unknown key fails, and whatever set fails and can be
rolled back is answered with an error and leaves the tables as they were. -/
theorem top8_get_iff (context : HandlerContext) (reader : ByteReader) (slots : Top8Slots)
    (later : Tables) (reached : ReachableTables context.database.tables)
    (sets : SetsTop8 context reader slots)
    (run : Relation.ReflTransGen (QuietStep context.connection.session.userId)
      (routeMessage context .top8SetRequest reader).2.database.tables later) :
    (∀ (get : HandlerContext) (getReader : ByteReader), get.database.tables = later →
      GetsTop8 context.connection.session.userId get getReader →
        (get.database.AnswersSlots context.connection.session.userId slots ↔
          get.database.DeliversSlots slots) ∧
        (routeMessage get .top8GetRequest getReader =
          match listSlots get.database context.connection.session.userId with
          | none => sendStatusError get .internalError
          | some response => sendMessage get .top8Response response.writeTo) ∧
        ∀ response, listSlots get.database context.connection.session.userId = some response →
          (Top8Response.readFrom (ByteReader.start response.writeTo)).1 = some response) ∧
    ∀ (set : HandlerContext) (setReader : ByteReader) (asked : Top8Slots),
      RequestsTop8 set setReader asked →
        ((∃ slot ∈ asked.occupied, ∀ user ∈ set.database.tables.users, user.pubkey ≠ slot.1) →
          ¬ SetsTop8 set setReader asked) ∧
        (¬ SetsTop8 set setReader asked → Top8Settles set asked →
          ∃ (database : DatabaseHandle) (code : ErrorCode),
            routeMessage set .top8SetRequest setReader =
              sendStatusError { set with database } code ∧
            database.tables = set.database.tables) := by
  obtain ⟨database, hanswer, hholds⟩ := sets.handled reached.usersInOrder
  have hset : (routeMessage context .top8SetRequest reader).2.database.tables = database.tables := by
    rw [hanswer, sendStatusOk, (sendMessage_frame ..).1]
  have htexts : later.TextsInRange := by
    have hwrites : Writes context.database.tables later := by
      refine Writes.trans (routeMessage_writes context .top8SetRequest reader) ?_
      clear hset
      induction run with
      | refl => exact .refl _
      | tail _ step ih => exact ih.trans step.serverStep.writes
    exact reached.textsInRange.writes hwrites
  rw [hset] at run
  have hlater := hholds.run run
  refine ⟨?_, fun set setReader asked hasked => ⟨?_, hasked.refused⟩⟩
  · rintro get getReader rfl gets
    exact ⟨hlater.answersSlots_iff, gets.handled, fun response hlisted =>
      Top8Response.exact.readFrom_start (listSlots_inRange htexts hlisted)⟩
  · rintro ⟨slot, hslot, hunknown⟩
    exact not_setsTop8_of_unknown hslot hunknown

end Runs

/-! ## A top 8 shown in part -/

/-- One key in two slots. -/
def doubledSlots : Top8Slots :=
  ⟨[repeatedKey 1, FixedBytes.zero _, repeatedKey 1, FixedBytes.zero _, FixedBytes.zero _,
    FixedBytes.zero _, FixedBytes.zero _, FixedBytes.zero _], rfl⟩

/-- The tables once the account of `openedAccount` has set them. -/
def doubledTop8 : Tables :=
  { openedAccount with
    top8 := [{ userId := 1, slot := 0, friendId := 1 }, { userId := 1, slot := 2, friendId := 1 }] }

/-- The request that sets them. -/
def setDoubledSlots : ByteReader :=
  ByteReader.start (Top8SetRequest.writeTo { slots := doubledSlots })

section Doubled

variable [Sodium]

/-- The request is confirmed, -/
theorem doubledSlots_set :
    SetsTop8 (accountContext openedAccount 1 (repeatedKey 1)) setDoubledSlots doubledSlots where
  registered := rfl
  decoded := Top8SetRequest.exact.readFrom_start trivial
  stored := ⟨[{ slot := 0, friendId := 1 }, { slot := 2, friendId := 1 }], rfl, rfl⟩

/-- and these are the rows. -/
theorem doubledTop8_set : (routeMessage (accountContext openedAccount 1 (repeatedKey 1))
    .top8SetRequest setDoubledSlots).2.database.tables = doubledTop8 := by
  rw [routeMessage, handleTop8SetRequest, guardedRequest_decoded doubledSlots_set.registered
    doubledSlots_set.decoded]
  rfl

/-- Bob registers next, and his top 8 is alice. -/
def sharedTop8 : Tables :=
  { joinedPost with
    forums := [], forumsSequence := 0, posts := [], postsSequence := 0
    top8 := doubledTop8.top8 ++ [{ userId := 2, slot := 0, friendId := 1 }] }

/-- Two requests of bob, which are nothing to the account. -/
theorem sharedTop8_run : Relation.ReflTransGen (QuietStep 1) doubledTop8 sharedTop8 := by
  let newcomer := accountContext doubledTop8 0 (repeatedKey 2)
  let registration := ByteReader.start (RegisterRequest.writeTo { handle := ascii "bob" })
  have hregister : ∃ database user, database.tables = { sharedTop8 with top8 := doubledTop8.top8 } ∧
      handleRegisterRequest newcomer registration =
        sendAcceptedSession { newcomer with database } user :=
    ⟨_, _, rfl, rfl⟩
  obtain ⟨database, user, htables, hregister⟩ := hregister
  have hjoined : QuietStep 1 doubledTop8 { sharedTop8 with top8 := doubledTop8.top8 } := by
    have hserved : QuietStep 1 newcomer.database.tables _ :=
      .served newcomer .registerRequest registration (absurd · (by decide))
    rwa [routeMessage, hregister, sendAcceptedSession_database, htables] at hserved
  have hset : QuietStep 1 { sharedTop8 with top8 := doubledTop8.top8 } sharedTop8 := by
    let bob := accountContext { sharedTop8 with top8 := doubledTop8.top8 } 2 (repeatedKey 2)
    let request : Top8SetRequest := { slots := Top8Slots.empty.set 0 (repeatedKey 1) }
    have hother : (2 : ℤ) ≠ 1 := by decide
    have hserved : QuietStep 1 bob.database.tables _ :=
      .served bob .top8SetRequest (ByteReader.start request.writeTo) fun _ hsame => absurd hsame hother
    rwa [routeMessage, handleTop8SetRequest, guardedRequest_decoded rfl
      (Top8SetRequest.exact.readFrom_start trivial)] at hserved
  exact .tail (.single hjoined) hset

end Doubled

/-- The account sets its key in two slots. Bob registers and sets a top 8 of his own, the
account is banned, and its slots are read back without a failing call. -/
theorem top8_get_iff_doubled :
    letI := transparentSodium
    let banned := (banAccount { tables := sharedTop8 } (repeatedKey 1) true).2.tables
    let database : DatabaseHandle := { tables := banned }
    database.AnswersSlots 1 doubledSlots := by
  let := transparentSodium
  intro banned database
  have hreached : ReachableTables (accountContext openedAccount 1 (repeatedKey 1)).database.tables :=
    openedAccount_reachable
  have hbanned : QuietStep 1 sharedTop8 banned := .ban { tables := sharedTop8 } _ _
  have run : Relation.ReflTransGen (QuietStep 1) (routeMessage
      (accountContext openedAccount 1 (repeatedKey 1)) .top8SetRequest
        setDoubledSlots).2.database.tables banned := by
    rw [doubledTop8_set]
    exact sharedTop8_run.tail hbanned
  have hgets : GetsTop8 1 (accountContext banned 1 (repeatedKey 1))
      (ByteReader.start (Top8GetRequest.writeTo { targetPubkey := repeatedKey 1 })) :=
    ⟨rfl, _, Top8GetRequest.exact.readFrom_start trivial, _, rfl, rfl⟩
  have hget := (top8_get_iff (accountContext openedAccount 1 (repeatedKey 1)) _ doubledSlots _ hreached
    doubledSlots_set run).1 _ _ rfl hgets
  exact hget.1.mpr fun _ _ _ => rfl

/-- The account has set its key in two slots. If the second step of the query fails, only
the first of them is shown; and a later set that empties the slots and is refused its
COMMIT fails, and they are empty nevertheless. -/
theorem top8_not_kept :
    letI := transparentSodium
    let database : DatabaseHandle :=
      { tables := doubledTop8, faults := fun statement step => statement = .listTop8 && step == 2 }
    let refused := replaceSlots { tables := doubledTop8, faults := busyCommit } 1 []
    (SetsTop8 (accountContext openedAccount 1 (repeatedKey 1)) setDoubledSlots doubledSlots ∧
        (routeMessage (accountContext openedAccount 1 (repeatedKey 1)) .top8SetRequest
          setDoubledSlots).2.database.tables = doubledTop8) ∧
      ((listSlots database 1).map Top8Response.slots =
          some (Top8Slots.empty.set 0 (repeatedKey 1)) ∧
        ¬ database.AnswersSlots 1 doubledSlots) ∧
      refused.1 = false ∧ refused.2.tables.top8 = [] := by
  intro database refused
  have hrows : selectTop8 doubledTop8 1 =
      [(0, top8Record doubledTop8 1
          { id := 1, pubkey := repeatedKey 1, handle := ascii "alice", banned := false }),
        (2, top8Record doubledTop8 1
          { id := 1, pubkey := repeatedKey 1, handle := ascii "alice", banned := false })] := by
    rw [selectTop8, List.mergeSort_of_pairwise (by decide)]
    rfl
  have hlisted : listSlots database 1 = some (collectSlots [(0, top8Record doubledTop8 1
      { id := 1, pubkey := repeatedKey 1, handle := ascii "alice", banned := false })]) := by
    rw [listSlots_eq, show database.tables = doubledTop8 from rfl, hrows]
    rfl
  refine ⟨⟨@doubledSlots_set transparentSodium, @doubledTop8_set transparentSodium⟩, ⟨?_, fun hanswers => ?_⟩, rfl, rfl⟩
  · rw [hlisted]
    decide +kernel
  · have hslots := (hanswers _ hlisted).requested
    exact absurd hslots (by decide +kernel)

end HyperCom
