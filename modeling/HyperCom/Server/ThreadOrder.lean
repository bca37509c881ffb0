import HyperCom.Lib.Forest
import HyperCom.Protocol.DecimalText
import HyperCom.Server.GrownThread
import HyperCom.Server.Listings
import HyperCom.Server.StoredRows

/-!
# The order of a thread

`SELECT_THREAD` gathers the comments of a post level after level and sorts them by
a path of zero-padded ids. The comments of a post are a forest, since a parent is
older than its replies (`Tables.CommentsInOrder`), and as long as ids have ten
digits the order of the paths is the preorder of that forest (`selectThread_eq`).
`thread_in_preorder` says what `list_thread` makes of it.

The path of a comment is that of its parent with its own id behind it, so paths compare as
lists of ids do, as long as all ids have the same number of digits. The depth limit and the
limit on the number of comments then cut the preorder off, and the flag says that they did.
-/

namespace HyperCom

open RowStore

/-! ## Padded ids -/

/-- The last `width` decimal digits of a number. -/
def lastDigits : ℕ → ℕ → ByteString
  | 0, _ => []
  | width + 1, n => lastDigits width (n / 10) ++ [UInt8.ofNat (0x30 + n % 10)]

/-- A padded number is as long as its width, -/
theorem lastDigits_length (width n : ℕ) : (lastDigits width n).length = width := by
  induction width generalizing n with
  | zero => rfl
  | succ width ih => rw [lastDigits, List.length_append, ih, List.length_singleton]

/-- and zero is all zeros. -/
theorem lastDigits_zero (width : ℕ) : lastDigits width 0 = List.replicate width 0x30 := by
  induction width with
  | zero => rfl
  | succ width ih =>
    rw [lastDigits, Nat.zero_div, ih, List.replicate_succ']
    rfl

/-- Digits of one width are ordered as the numbers are. -/
theorem lastDigits_lt {width first second : ℕ} (hlt : first < second) (hsecond : second < 10 ^ width) :
    lastDigits width first < lastDigits width second := by
  induction width generalizing first second with
  | zero => omega
  | succ width ih =>
    rw [lastDigits, lastDigits]
    rcases Nat.lt_or_ge (first / 10) (second / 10) with hhigh | hhigh
    · have hfits : second / 10 < 10 ^ width := by
        rw [Nat.pow_succ] at hsecond
        omega
      refine Forest.append_lt_append ?_ (ih hhigh hfits) _ _
      rw [lastDigits_length, lastDigits_length]
    · have hsame : first / 10 = second / 10 := by omega
      have hlow : first % 10 < second % 10 := by omega
      rw [hsame]
      refine List.append_left_lt (List.Lex.rel ?_)
      rw [UInt8.lt_iff_toNat_lt, UInt8.toNat_ofNat', UInt8.toNat_ofNat']
      omega

/-- Padding with zeros gives the last digits of a number that has no more. -/
theorem padded_eq {width n : ℕ} (hwidth : 0 < width) (hfits : n < 10 ^ width) :
    List.replicate (width - (ascii (toString n)).length) 0x30 ++ ascii (toString n) =
      lastDigits width n := by
  induction width generalizing n with
  | zero => omega
  | succ width ih =>
    rcases Nat.lt_or_ge n 10 with hsmall | hlarge
    · have hzero : n / 10 = 0 := by omega
      have hdigit : n % 10 = n := by omega
      rw [ascii_toString_of_lt hsmall, lastDigits, hzero, hdigit, lastDigits_zero,
        List.length_singleton, Nat.add_sub_cancel]
    · have hpos : 0 < width := by
        rcases Nat.eq_zero_or_pos width with rfl | hpos
        · omega
        · exact hpos
      have hhigh : n / 10 < 10 ^ width := by
        rw [Nat.pow_succ] at hfits
        omega
      rw [ascii_toString_of_le hlarge, lastDigits, ← ih hpos hhigh, List.length_append,
        List.length_singleton, Nat.add_sub_add_right, List.append_assoc]

/-- `printf("%010lld")`, for ids of ten digits. -/
theorem paddedId_eq {id : ℤ} (hfits : id < 10 ^ 10) : paddedId id = lastDigits 10 id.toNat :=
  padded_eq (by decide) (by omega)

theorem paddedId_length {id : ℤ} (hfits : id < 10 ^ 10) : (paddedId id).length = 10 := by
  rw [paddedId_eq hfits, lastDigits_length]

/-- So texts of ids compare as the ids do. -/
theorem paddedId_lt {first second : ℤ} (hlow : 0 ≤ first) (hlt : first < second)
    (hfits : second < 10 ^ 10) : paddedId first < paddedId second := by
  rw [paddedId_eq (hlt.trans hfits), paddedId_eq hfits]
  exact lastDigits_lt (by omega) (by omega)

/-! ## The forest of a post -/

/-- The replies to a comment, in the order of their ids, one level deeper. -/
def Tables.repliesTo (tables : Tables) (node : CommentRow × ℕ) : List (CommentRow × ℕ) :=
  (tables.comments.filter fun comment => comment.parentCommentId = some node.1.id).map
    fun comment => (comment, node.2 + 1)

/-- The comments of a post without a parent, in the order of their ids. -/
def Tables.threadRoots (tables : Tables) (postId : ℤ) : List (CommentRow × ℕ) :=
  (tables.comments.filter fun comment =>
    comment.postId = postId && comment.parentCommentId.isNone).map fun comment => (comment, 0)

/-- The preorder of the forest, restricted to `MAX_COMMENT_DEPTH`: the comments with
their depths. -/
def Tables.traversal (tables : Tables) (postId : ℤ) : List (CommentRow × ℕ) :=
  (tables.threadRoots postId).flatMap (Forest.preorder tables.repliesTo maxCommentDepth)

/-- How many replies a comment is away from its root. -/
inductive Tables.DistanceToRoot (tables : Tables) : CommentRow → ℕ → Prop where
  | root {comment : CommentRow} (known : comment ∈ tables.comments)
      (direct : comment.parentCommentId = none) : DistanceToRoot tables comment 0
  | reply {comment parent : CommentRow} {distance : ℕ} (known : comment ∈ tables.comments)
      (answers : comment.parentCommentId = some parent.id)
      (above : DistanceToRoot tables parent distance) :
      DistanceToRoot tables comment (distance + 1)

section Forest

variable {tables : Tables} {postId : ℤ}

/-- Whoever is at a distance from a root is a comment. -/
theorem Tables.DistanceToRoot.known {comment : CommentRow} {distance : ℕ}
    (h : tables.DistanceToRoot comment distance) : comment ∈ tables.comments := by
  cases h with
  | root known => exact known
  | reply known => exact known

/-- The replies to a comment and the roots of a post, as the statement joins them. -/
theorem Tables.mem_repliesTo {node reply : CommentRow × ℕ} :
    reply ∈ tables.repliesTo node ↔ reply.1 ∈ tables.comments ∧
      reply.1.parentCommentId = some node.1.id ∧ reply.2 = node.2 + 1 := by
  rw [Tables.repliesTo, List.mem_map]
  constructor
  · rintro ⟨comment, hmem, rfl⟩
    obtain ⟨hknown, hparent⟩ := List.mem_filter.mp hmem
    exact ⟨hknown, of_decide_eq_true hparent, rfl⟩
  · rintro ⟨hknown, hparent, hdepth⟩
    exact ⟨reply.1, List.mem_filter.mpr ⟨hknown, decide_eq_true hparent⟩, by rw [← hdepth]⟩

theorem Tables.mem_threadRoots {node : CommentRow × ℕ} :
    node ∈ tables.threadRoots postId ↔ node.1 ∈ tables.comments ∧ node.1.postId = postId ∧
      node.1.parentCommentId = none ∧ node.2 = 0 := by
  rw [Tables.threadRoots, List.mem_map]
  constructor
  · rintro ⟨comment, hmem, rfl⟩
    obtain ⟨hknown, hroot⟩ := List.mem_filter.mp hmem
    obtain ⟨hpost, hparent⟩ := Bool.and_eq_true_iff.mp hroot
    exact ⟨hknown, of_decide_eq_true hpost, Option.isNone_iff_eq_none.mp hparent, rfl⟩
  · rintro ⟨hknown, hpost, hparent, hdepth⟩
    refine ⟨node.1, List.mem_filter.mpr ⟨hknown, ?_⟩, by rw [← hdepth]⟩
    rw [decide_eq_true hpost, hparent]
    rfl

/-- The same id is the same comment. -/
theorem Tables.CommentsInOrder.eq_of_id (h : tables.CommentsInOrder) {first second : CommentRow}
    (hfirst : first ∈ tables.comments) (hsecond : second ∈ tables.comments)
    (hid : first.id = second.id) : first = second :=
  eq_of_key h.ascending hfirst hsecond hid

/-- No comment is there twice. -/
theorem Tables.CommentsInOrder.nodup (h : tables.CommentsInOrder) : tables.comments.Nodup :=
  h.ascending.imp fun {first second} hlt (heq : first = second) => by
    rw [heq] at hlt
    exact lt_irrefl _ hlt

/-- What is so many replies below a root has that distance, under the same post. -/
theorem Tables.distance_of_below (h : tables.CommentsInOrder) {distance : ℕ}
    {root node : CommentRow × ℕ} (hroot : root ∈ tables.threadRoots postId)
    (hbelow : Forest.Below tables.repliesTo distance root node) :
    node.2 = distance ∧ tables.DistanceToRoot node.1 distance ∧ node.1.postId = postId := by
  obtain ⟨hknown, hpost, hdirect, hdepth⟩ := Tables.mem_threadRoots.mp hroot
  induction distance generalizing node with
  | zero =>
    cases hbelow with
    | self => exact ⟨hdepth, .root hknown hdirect, hpost⟩
  | succ distance ih =>
    obtain ⟨parent, hparent, hreply⟩ := hbelow.last
    obtain ⟨hdepth', hdistance, hpost'⟩ := ih hparent
    obtain ⟨hknown', hanswers, hlevel⟩ := Tables.mem_repliesTo.mp hreply
    refine ⟨by rw [hlevel, hdepth'], .reply hknown' hanswers hdistance, ?_⟩
    -- the parent the row names is the comment above it
    obtain ⟨older, holder, holderId, holderPost, -⟩ := h.parent node.1 hknown' _ hanswers
    rw [← holderPost, h.eq_of_id holder hdistance.known holderId, hpost']

/-- What has a distance to its root is that far below it. -/
theorem Tables.below_of_distance (h : tables.CommentsInOrder) {comment : CommentRow} {distance : ℕ}
    (hdistance : tables.DistanceToRoot comment distance) :
    ∃ root ∈ tables.threadRoots comment.postId,
      Forest.Below tables.repliesTo distance root (comment, distance) := by
  induction hdistance with
  | root known direct =>
    exact ⟨_, Tables.mem_threadRoots.mpr ⟨known, rfl, direct, rfl⟩, .self _⟩
  | @reply comment parent distance known answers above ih =>
    obtain ⟨root, hroot, hbelow⟩ := ih
    obtain ⟨older, holder, holderId, holderPost, -⟩ := h.parent comment known _ answers
    rw [← holderPost, h.eq_of_id holder above.known holderId]
    exact ⟨root, hroot, hbelow.snoc (Tables.mem_repliesTo.mpr ⟨known, answers, rfl⟩)⟩

/-- The traversal has the comments of the post that are not deeper than the cap,
each with its depth. -/
theorem Tables.mem_traversal (h : tables.CommentsInOrder) {node : CommentRow × ℕ} :
    node ∈ tables.traversal postId ↔ node.1.postId = postId ∧
      tables.DistanceToRoot node.1 node.2 ∧ node.2 ≤ maxCommentDepth := by
  rw [Tables.traversal, List.mem_flatMap]
  constructor
  · rintro ⟨root, hroot, hmem⟩
    obtain ⟨distance, hle, hbelow⟩ := Forest.mem_preorder.mp hmem
    obtain ⟨hdepth, hdistance, hpost⟩ := Tables.distance_of_below h hroot hbelow
    rw [hdepth]
    exact ⟨hpost, hdistance, hle⟩
  · rintro ⟨hpost, hdistance, hle⟩
    obtain ⟨root, hroot, hbelow⟩ := Tables.below_of_distance h hdistance
    exact ⟨root, hpost ▸ hroot, Forest.mem_preorder.mpr ⟨_, hle, hbelow⟩⟩

/-- A comment has one distance. -/
theorem Tables.DistanceToRoot.unique (h : tables.CommentsInOrder) {comment : CommentRow}
    {distance distance' : ℕ} (hdistance : tables.DistanceToRoot comment distance)
    (hdistance' : tables.DistanceToRoot comment distance') : distance = distance' := by
  induction hdistance generalizing distance' with
  | root _ direct =>
    cases hdistance' with
    | root => rfl
    | reply _ answers _ =>
      rw [direct] at answers
      cases answers
  | reply _ answers above ih =>
    cases hdistance' with
    | root _ direct =>
      rw [direct] at answers
      cases answers
    | reply _ answers' above' =>
      rw [answers] at answers'
      obtain rfl := h.eq_of_id above.known above'.known (Option.some.inj answers')
      rw [ih above']

/-- A reply has one parent, and its depth says the layer. -/
theorem Tables.CommentsInOrder.layered (h : tables.CommentsInOrder) :
    Forest.Layered tables.repliesTo Prod.snd fun node => node.1 ∈ tables.comments where
  closed := fun _ hreply => (Tables.mem_repliesTo.mp hreply).1
  deeper := fun hreply => (Tables.mem_repliesTo.mp hreply).2.2
  once := by
    intro row _
    exact (h.nodup.filter _).map fun _ _ heq => (Prod.mk.inj heq).1
  one_row := by
    intro row row' reply hrow hrow' hreply hreply'
    obtain ⟨-, hanswers, hdepth⟩ := Tables.mem_repliesTo.mp hreply
    obtain ⟨-, hanswers', hdepth'⟩ := Tables.mem_repliesTo.mp hreply'
    rw [hanswers] at hanswers'
    rw [hdepth] at hdepth'
    exact Prod.ext (h.eq_of_id hrow hrow' (Option.some.inj hanswers')) (Nat.succ.inj hdepth')

/-- No comment comes twice. -/
theorem Tables.CommentsInOrder.traversal_nodup (h : tables.CommentsInOrder) (postId : ℤ) :
    ((tables.traversal postId).map fun node => node.1.id).Nodup := by
  have hroots : ∀ root ∈ tables.threadRoots postId, root.1 ∈ tables.comments ∧ root.2 = 0 :=
    fun root hroot => ⟨(Tables.mem_threadRoots.mp hroot).1, (Tables.mem_threadRoots.mp hroot).2.2.2⟩
  have hnodup : (tables.traversal postId).Nodup := by
    refine h.layered.flatMap_nodup (fun root hroot => (hroots root hroot).1) ?_
      (fun first hfirst second hsecond => (hroots first hfirst).2.trans (hroots second hsecond).2.symm)
      fun root hroot => h.layered.preorder_nodup maxCommentDepth (hroots root hroot).1
    exact (h.nodup.filter _).map fun _ _ heq => (Prod.mk.inj heq).1
  refine hnodup.map_on fun first hfirst second hsecond hid => ?_
  have hdistance := ((Tables.mem_traversal h).mp hfirst).2.1
  have hdistance' := ((Tables.mem_traversal h).mp hsecond).2.1
  have hcomment : first.1 = second.1 := h.eq_of_id hdistance.known hdistance'.known hid
  rw [hcomment] at hdistance
  exact Prod.ext hcomment (hdistance.unique h hdistance')

end Forest

/-! ## The rows of the query -/

/-- The replies to one row. -/
def ThreadRow.replies (comments : List CommentRow) (row : ThreadRow) : List ThreadRow :=
  (comments.filter fun comment => comment.parentCommentId = some row.comment.id).map
    fun comment =>
      { comment, depth := row.depth + 1
        path := row.path ++ ascii "/" ++ paddedId comment.id }

/-- A row without its path. -/
def ThreadRow.node (row : ThreadRow) : CommentRow × ℕ := (row.comment, row.depth)

/-- The roots the query starts from. -/
def Tables.threadStart (tables : Tables) (postId : ℤ) : List ThreadRow :=
  (tables.comments.filter fun comment =>
    comment.postId = postId && comment.parentCommentId.isNone).map fun comment =>
      { comment, depth := 0, path := paddedId comment.id }

/-- The recursive query gathers levels of a forest. -/
theorem threadLevels_eq (comments : List CommentRow) (remaining : ℕ) (level : List ThreadRow) :
    threadLevels comments remaining level =
      Forest.levels (ThreadRow.replies comments) remaining level := by
  induction remaining generalizing level with
  | zero => rfl
  | succ remaining ih =>
    rw [threadLevels, Forest.levels, ih]
    rfl

/-- `memcmp`, with the shorter text first, is the order of the lists of bytes. -/
theorem binaryLE_iff {first second : ByteString} : binaryLE first second = true ↔ first ≤ second := by
  rw [binaryLE, Bool.not_eq_true', List.lex_eq_false_iff_ge]

section Sorted

variable {tables : Tables} {postId : ℤ}

/-- Ids of ten digits. -/
def Tables.SmallCommentIds (tables : Tables) : Prop := ∀ comment ∈ tables.comments, comment.id < 10 ^ 10

/-- In the order of their ids, rows are in the order of what is padded. -/
theorem Tables.CommentsInOrder.path_lt (h : tables.CommentsInOrder)
    (small : tables.SmallCommentIds) (selected : CommentRow → Bool) (before : ByteString) :
    (tables.comments.filter selected).Pairwise fun first second =>
      before ++ paddedId first.id < before ++ paddedId second.id := by
  refine (h.ascending.filter _).imp_of_mem fun {first second} hfirst hsecond hlt => ?_
  have hgiven := h.given_out first (List.mem_of_mem_filter hfirst)
  exact List.append_left_lt
    (paddedId_lt hgiven.1.le hlt (small second (List.mem_of_mem_filter hsecond)))

/-- Replies have the path of their parent, a slash and ten digits. -/
theorem Tables.CommentsInOrder.spelled (h : tables.CommentsInOrder)
    (small : tables.SmallCommentIds) :
    Forest.Spelled (ThreadRow.replies tables.comments) ThreadRow.path 11 fun _ => True where
  width_pos := by decide
  closed := fun _ _ => trivial
  continued := by
    intro row reply _ hreply
    obtain ⟨comment, hmem, rfl⟩ := List.mem_map.mp hreply
    refine ⟨ascii "/" ++ paddedId comment.id, ?_, List.append_assoc ..⟩
    rw [List.length_append, paddedId_length (small comment (List.mem_of_mem_filter hmem))]
    rfl
  ascending := by
    intro row _
    exact List.pairwise_map.mpr (h.path_lt small _ _)

/-- The rows in preorder. -/
def Tables.threadRows (tables : Tables) (postId : ℤ) : List ThreadRow :=
  (tables.threadStart postId).flatMap
    (Forest.preorder (ThreadRow.replies tables.comments) maxCommentDepth)

/-- In preorder the paths ascend. -/
theorem Tables.CommentsInOrder.threadRows_ascending (h : tables.CommentsInOrder)
    (small : tables.SmallCommentIds) :
    (tables.threadRows postId).Pairwise fun first second => first.path < second.path := by
  have hspelled := h.spelled small
  refine hspelled.flatMap_ascending (fun _ _ => trivial) ?_ ?_
    fun _ _ => hspelled.preorder_ascending maxCommentDepth trivial
  · have hlength : ∀ row ∈ tables.threadStart postId, row.path.length = 10 := by
      intro row hrow
      obtain ⟨comment, hmem, rfl⟩ := List.mem_map.mp hrow
      exact paddedId_length (small comment (List.mem_of_mem_filter hmem))
    exact fun first hfirst second hsecond => (hlength first hfirst).trans (hlength second hsecond).symm
  · have hroots := h.path_lt small
      (fun comment => comment.postId = postId && comment.parentCommentId.isNone) []
    simp only [List.nil_append] at hroots
    exact List.pairwise_map.mpr hroots

/-- The levels and the preorder have the same rows. -/
theorem Tables.threadLevels_perm :
    (threadLevels tables.comments maxCommentDepth (tables.threadStart postId)).Perm
      (tables.threadRows postId) := by
  rw [threadLevels_eq]
  exact Forest.levels_perm ..

/-- Sorted by their paths, the rows of the query are in preorder. -/
theorem Tables.CommentsInOrder.sorted_eq (h : tables.CommentsInOrder)
    (small : tables.SmallCommentIds) :
    (threadLevels tables.comments maxCommentDepth (tables.threadStart postId)).mergeSort
        (fun first second => binaryLE first.path second.path) = tables.threadRows postId := by
  have hascending : (tables.threadRows postId).Pairwise fun first second =>
      first.path < second.path := h.threadRows_ascending small
  have hperm : (threadLevels tables.comments maxCommentDepth (tables.threadStart postId)).Perm
      (tables.threadRows postId) := Tables.threadLevels_perm
  have hsorted : ((threadLevels tables.comments maxCommentDepth (tables.threadStart postId)).mergeSort
      fun first second => binaryLE first.path second.path).Pairwise fun first second =>
        binaryLE first.path second.path = true := by
    refine List.pairwise_mergeSort (fun first second third hle hle' => ?_) (fun first second => ?_) _
    · exact binaryLE_iff.mpr (List.le_trans (binaryLE_iff.mp hle) (binaryLE_iff.mp hle'))
    · rw [Bool.or_eq_true, binaryLE_iff, binaryLE_iff]
      exact List.le_total ..
  refine List.Perm.eq_of_pairwise ?_ hsorted
    (hascending.imp fun hlt => binaryLE_iff.mpr (List.le_of_lt hlt))
    ((List.mergeSort_perm ..).trans hperm)
  -- rows with the same path are the same row
  intro first second hfirst hsecond hle hle'
  have hpath : first.path = second.path :=
    List.le_antisymm (binaryLE_iff.mp hle) (binaryLE_iff.mp hle')
  exact eq_of_key hascending (hperm.mem_iff.mp (List.mem_mergeSort.mp hfirst)) hsecond hpath

/-- Without their paths they are the traversal. -/
theorem Tables.threadRows_node : (tables.threadRows postId).map ThreadRow.node =
    tables.traversal postId := by
  have hreplies : ∀ row : ThreadRow, tables.repliesTo row.node =
      (row.replies tables.comments).map ThreadRow.node := by
    intro row
    rw [Tables.repliesTo, ThreadRow.replies, List.map_map]
    rfl
  have hroots : (tables.threadStart postId).map ThreadRow.node = tables.threadRoots postId := by
    rw [Tables.threadStart, List.map_map]
    rfl
  rw [Tables.threadRows, List.map_flatMap, Tables.traversal, ← hroots, List.flatMap_map]
  exact List.flatMap_congr fun row _ => Forest.map_preorder hreplies maxCommentDepth row

/-- The record of a comment of the traversal. -/
def Tables.recordOf (tables : Tables) (node : CommentRow × ℕ) : Option CommentRecord :=
  commentRecord tables node.1 node.2

/-- `SELECT_THREAD` without its limit is the traversal. -/
theorem selectThread_eq (h : tables.CommentsInOrder) (small : tables.SmallCommentIds) :
    selectThread tables postId = (tables.traversal postId).filterMap tables.recordOf := by
  rw [selectThread]
  change (List.mergeSort (threadLevels tables.comments maxCommentDepth (tables.threadStart postId))
    _).filterMap _ = _
  rw [h.sorted_eq small, ← Tables.threadRows_node, List.filterMap_map]
  rfl

/-! ### Each comment behind its parent -/

/-- One step of the recursive statement. -/
theorem ThreadRow.mem_replies {comments : List CommentRow} {row reply : ThreadRow} :
    reply ∈ row.replies comments ↔ reply.comment ∈ comments ∧
      reply.comment.parentCommentId = some row.comment.id ∧
      reply = { comment := reply.comment, depth := row.depth + 1
                path := row.path ++ ascii "/" ++ paddedId reply.comment.id } := by
  rw [ThreadRow.replies, List.mem_map]
  constructor
  · rintro ⟨comment, hmem, rfl⟩
    obtain ⟨hknown, hparent⟩ := List.mem_filter.mp hmem
    exact ⟨hknown, of_decide_eq_true hparent, rfl⟩
  · rintro ⟨hknown, hparent, hreply⟩
    exact ⟨reply.comment, List.mem_filter.mpr ⟨hknown, decide_eq_true hparent⟩, hreply.symm⟩

/-- Its first level. -/
theorem Tables.mem_threadStart {row : ThreadRow} :
    row ∈ tables.threadStart postId → row.comment ∈ tables.comments ∧
      row.comment.parentCommentId = none ∧
      row = { comment := row.comment, depth := 0, path := paddedId row.comment.id } := by
  rw [Tables.threadStart, List.mem_map]
  rintro ⟨comment, hmem, rfl⟩
  obtain ⟨hknown, hroot⟩ := List.mem_filter.mp hmem
  exact ⟨hknown, Option.isNone_iff_eq_none.mp (Bool.and_eq_true_iff.mp hroot).2, rfl⟩

/-- A row of the thread is a root or answers another row of the thread. -/
theorem Tables.threadRows_cases {row : ThreadRow} (h : row ∈ tables.threadRows postId) :
    row ∈ tables.threadStart postId ∨
      ∃ parent ∈ tables.threadRows postId, row ∈ parent.replies tables.comments := by
  obtain ⟨root, hroot, hmem⟩ := List.mem_flatMap.mp h
  obtain ⟨distance, hle, hbelow⟩ := Forest.mem_preorder.mp hmem
  cases distance with
  | zero =>
    cases hbelow with
    | self => exact .inl hroot
  | succ distance =>
    obtain ⟨parent, hparent, hreply⟩ := hbelow.last
    refine .inr ⟨parent, List.mem_flatMap.mpr ⟨root, hroot, ?_⟩, hreply⟩
    exact Forest.mem_preorder.mpr ⟨distance, (Nat.le_succ _).trans hle, hparent⟩

/-- A parent comes before its replies. -/
theorem Tables.CommentsInOrder.parent_first (h : tables.CommentsInOrder)
    (small : tables.SmallCommentIds) {earlier later : List (CommentRow × ℕ)} {node : CommentRow × ℕ}
    (htraversal : tables.traversal postId = earlier ++ node :: later) {parentId : ℤ}
    (hparent : node.1.parentCommentId = some parentId) : ∃ parent ∈ earlier, parent.1.id = parentId := by
  have hascending : (tables.threadRows postId).Pairwise fun first second =>
      first.path < second.path := h.threadRows_ascending small
  rw [← Tables.threadRows_node] at htraversal
  obtain ⟨front, rest, hrows, rfl, hrest⟩ := List.map_eq_append_iff.mp htraversal
  obtain ⟨row, rest, rfl, rfl, -⟩ := List.map_eq_cons_iff.mp hrest
  have hmem : row ∈ tables.threadRows postId := by
    rw [hrows]
    exact List.mem_append_right _ List.mem_cons_self
  rcases Tables.threadRows_cases hmem with hroot | ⟨above, habove, hreply⟩
  · rw [ThreadRow.node, (Tables.mem_threadStart hroot).2.1] at hparent
    cases hparent
  · have hlt := (h.spelled small).lt_of_reply trivial hreply
    rw [hrows] at hascending habove
    refine ⟨above.node, List.mem_map_of_mem (Forest.mem_front_of_lt hascending habove hlt), ?_⟩
    rw [ThreadRow.node, (ThreadRow.mem_replies.mp hreply).2.1] at hparent
    exact Option.some.inj hparent

end Sorted

/-! ## `list_thread` -/

section Listed

variable {tables : Tables} {postId : ℤ} {database : DatabaseHandle}

/-- Every comment of the traversal has a record, since its author has an account. -/
theorem Tables.CommentsInOrder.recordOf_isSome (h : tables.CommentsInOrder) {node : CommentRow × ℕ}
    (hnode : node ∈ tables.traversal postId) : (tables.recordOf node).isSome = true := by
  have hknown := ((Tables.mem_traversal h).mp hnode).2.1.known
  rw [Tables.recordOf, commentRecord, Option.isSome_map]
  exact Tables.userOf_isSome (h.author node.1 hknown)

/-- No row is lost in the `JOIN`. -/
theorem map_some_filterMap {α β : Type} {f : α → Option β} {rows : List α}
    (h : ∀ row ∈ rows, (f row).isSome = true) : (rows.filterMap f).map some = rows.map f := by
  induction rows with
  | nil => rfl
  | cons row rows ih =>
    obtain ⟨value, hvalue⟩ := Option.isSome_iff_exists.mp (h row List.mem_cons_self)
    rw [List.filterMap_cons_some hvalue, List.map_cons, List.map_cons, hvalue,
      ih fun other hother => h other (List.mem_cons_of_mem _ hother)]

/-- The records of the thread, one for each comment of the traversal. -/
theorem map_some_selectThread (h : tables.CommentsInOrder) (small : tables.SmallCommentIds) :
    (selectThread tables postId).map some = (tables.traversal postId).map tables.recordOf := by
  rw [selectThread_eq h small]
  exact map_some_filterMap fun node hnode => h.recordOf_isSome hnode

/-- Whatever the ids are, the thread has the records of the traversal in some order. -/
theorem selectThread_perm : (selectThread tables postId).Perm
    ((tables.traversal postId).filterMap tables.recordOf) := by
  have hperm : ((threadLevels tables.comments maxCommentDepth (tables.threadStart postId)).mergeSort
      fun first second => binaryLE first.path second.path).Perm (tables.threadRows postId) :=
    (List.mergeSort_perm ..).trans Tables.threadLevels_perm
  rw [← Tables.threadRows_node, List.filterMap_map]
  exact hperm.filterMap _

/-- A row for each comment that the traversal visits. -/
theorem selectThread_length (h : tables.CommentsInOrder) :
    (selectThread tables postId).length = (tables.traversal postId).length := by
  have hrecords : ((tables.traversal postId).filterMap tables.recordOf).map some =
      (tables.traversal postId).map tables.recordOf :=
    map_some_filterMap fun node hnode => h.recordOf_isSome hnode
  have hlength := congrArg List.length hrecords
  rw [List.length_map, List.length_map] at hlength
  rw [selectThread_perm.length_eq, hlength]

/-- The steps that deliver the first rows of the query do not fail. -/
def DatabaseHandle.Delivers (database : DatabaseHandle) (statement : SqlStatement) (rows : ℕ) :
    Prop :=
  ∀ step < rows, database.faults statement (step + 1) = false

/-- The rows seen are those before the first step that fails. -/
theorem stepRows_eq_take {α : Type} (fails : ℕ → Bool) (first : ℕ) (rows : List α) :
    ∃ seen ≤ rows.length, DatabaseHandle.stepRows fails first rows = rows.take seen ∧
      (∀ step < seen, fails (first + step) = false) ∧
      (seen < rows.length → fails (first + seen) = true) := by
  induction rows generalizing first with
  | nil => exact ⟨0, le_rfl, rfl, fun _ h => absurd h (Nat.not_lt_zero _), fun h => absurd h (lt_irrefl _)⟩
  | cons row rows ih =>
    rw [DatabaseHandle.stepRows]
    rcases hfirst : fails first with _ | _
    · obtain ⟨seen, hle, hrows, hbefore, hafter⟩ := ih (first + 1)
      refine ⟨seen + 1, Nat.succ_le_succ hle, ?_, fun step hstep => ?_, fun hlt => ?_⟩
      · rw [if_neg Bool.false_ne_true, hrows, List.take_succ_cons]
      · cases step with
        | zero => exact hfirst
        | succ step =>
          have hnext := hbefore step (Nat.lt_of_succ_lt_succ hstep)
          rwa [Nat.add_right_comm, Nat.add_assoc] at hnext
      · have hnext := hafter (Nat.lt_of_succ_lt_succ hlt)
        rwa [Nat.add_right_comm, Nat.add_assoc] at hnext
    · refine ⟨0, Nat.zero_le _, ?_, fun _ h => absurd h (Nat.not_lt_zero _), fun _ => hfirst⟩
      rw [if_pos rfl, List.take_zero]

/-- Prepared and bound, `list_thread` answers. -/
theorem listThread_isSome {limit : ℕ} (prepared : database.faults .listThread 0 = false) :
    (listThread database postId limit).isSome = true := by
  rw [listThread, Option.isSome_map, DatabaseHandle.query, prepared]
  rfl

/-- How many rows `list_thread` sees before a step fails or it stops, and what it
returns then. -/
theorem listThread_some {limit : ℕ} {comments : List CommentRecord} {truncated : Bool}
    (answered : listThread database postId limit = some (comments, truncated)) :
    ∃ seen ≤ min (limit + 1) (selectThread database.tables postId).length,
      comments = (selectThread database.tables postId).take (min limit seen) ∧
      truncated = decide (limit < seen) ∧ database.Delivers .listThread seen ∧
      (seen < min (limit + 1) (selectThread database.tables postId).length →
        database.faults .listThread (seen + 1) = true) := by
  obtain ⟨rows, hquery, hanswer⟩ := Option.map_eq_some_iff.mp answered
  obtain ⟨rfl, rfl⟩ := Prod.mk.inj hanswer
  rw [DatabaseHandle.query] at hquery
  split at hquery
  · cases hquery
  obtain ⟨seen, hle, hrows, hbefore, hafter⟩ := stepRows_eq_take
    (fun step => database.faults .listThread (step + 1)) 0
    ((selectThread database.tables postId).take (limit + 1))
  rw [List.length_take] at hle hafter
  rw [hrows, List.take_take] at hquery
  obtain rfl := Option.some.inj hquery
  refine ⟨seen, hle, ?_, ?_, ?_, ?_⟩
  · have hcut : min limit (min seen (limit + 1)) = min limit seen := by omega
    rw [List.take_take, hcut]
  · rw [List.length_take]
    refine decide_eq_decide.mpr ?_
    omega
  · intro step hstep
    have hworks := hbefore step hstep
    rwa [Nat.zero_add] at hworks
  · intro hlt
    have hfails := hafter hlt
    rwa [Nat.zero_add] at hfails

/-- The comments of the posts are forests, and siblings are in the order of their ids. -/
structure Tables.CommentForest (tables : Tables) : Prop where
  parent : ∀ comment ∈ tables.comments, tables.HasParent comment
  roots : ∀ postId, (tables.threadRoots postId).Pairwise fun first second => first.1.id < second.1.id
  replies : ∀ node, (tables.repliesTo node).Pairwise fun first second => first.1.id < second.1.id

/-- Parents are older, so following them ends at a root. -/
theorem Tables.CommentsInOrder.commentForest (h : tables.CommentsInOrder) :
    tables.CommentForest where
  parent := h.parent
  roots := fun _ => List.pairwise_map.mpr (h.ascending.filter _)
  replies := fun _ => List.pairwise_map.mpr (h.ascending.filter _)

/-- What the records of a thread tell: of each comment its distance to its root, no
comment twice, and a parent before its replies. -/
structure Tables.Tells (tables : Tables) (nodes : List (CommentRow × ℕ))
    (comments : List CommentRecord) : Prop where
  records : comments.map some = nodes.map tables.recordOf
  distance : ∀ node ∈ nodes, tables.DistanceToRoot node.1 node.2
  depth : comments.map (fun record => record.depth.toNat) = nodes.map Prod.snd
  once : (comments.map CommentRecord.id).Nodup
  parent_first : ∀ earlier record later, comments = earlier ++ record :: later →
    record.parentCommentId ≠ 0 → ∃ parent ∈ earlier, parent.id = record.parentCommentId

/-- A field of the records is that of the rows. -/
theorem map_of_records {α : Type} {nodes : List (CommentRow × ℕ)} {comments : List CommentRecord}
    (hrecords : comments.map some = nodes.map tables.recordOf) {f : CommentRecord → α}
    {g : CommentRow × ℕ → α}
    (hfield : ∀ node ∈ nodes, ∀ record, tables.recordOf node = some record → f record = g node) :
    comments.map f = nodes.map g := by
  induction nodes generalizing comments with
  | nil =>
    rw [List.map_nil, List.map_eq_nil_iff] at hrecords
    rw [hrecords]
    rfl
  | cons node nodes ih =>
    obtain ⟨record, rest, rfl, hrecord, hrest⟩ := List.map_eq_cons_iff.mp hrecords
    rw [List.map_cons, List.map_cons, hfield node List.mem_cons_self record hrecord.symm,
      ih hrest fun other hother => hfield other (List.mem_cons_of_mem _ hother)]

/-- The ids that travel tell the comments apart. -/
theorem castUInt64_eq {first second : ℤ} (hfirst : 0 ≤ first ∧ first ≤ maxRowid)
    (hsecond : 0 ≤ second ∧ second ≤ maxRowid) (h : castUInt64 first = castUInt64 second) :
    first = second := by
  rw [maxRowid] at hfirst hsecond
  have hback := congrArg castInt64 h
  rwa [castInt64_castUInt64 (by omega) (by omega), castInt64_castUInt64 (by omega) (by omega)]
    at hback

/-- The record of a node has its ids and its depth. -/
theorem Tables.recordOf_some {node : CommentRow × ℕ} {record : CommentRecord}
    (h : tables.recordOf node = some record) : record.id = castUInt64 node.1.id ∧
      record.parentCommentId = castUInt64 (node.1.parentCommentId.getD 0) ∧
      record.depth = UInt16.ofNat node.2 := by
  obtain ⟨author, -, rfl⟩ := Option.map_eq_some_iff.mp h
  exact ⟨rfl, rfl, rfl⟩

/-- The first comments of the traversal, as records. -/
theorem Tables.CommentsInOrder.tells (h : tables.CommentsInOrder) (small : tables.SmallCommentIds)
    {nodes : List (CommentRow × ℕ)} (hfront : nodes <+: tables.traversal postId)
    {comments : List CommentRecord}
    (hrecords : comments.map some = nodes.map tables.recordOf) : tables.Tells nodes comments := by
  have hnode : ∀ node ∈ nodes, tables.DistanceToRoot node.1 node.2 ∧ node.2 ≤ maxCommentDepth :=
    fun node hmem => ((Tables.mem_traversal h).mp (hfront.subset hmem)).2
  have hgiven : ∀ node ∈ nodes, 0 ≤ node.1.id ∧ node.1.id ≤ maxRowid := fun node hmem =>
    have hgiven := h.given_out node.1 (hnode node hmem).1.known
    ⟨hgiven.1.le, hgiven.2.2⟩
  have hids : comments.map CommentRecord.id = nodes.map fun node => castUInt64 node.1.id :=
    map_of_records hrecords fun node _ record hrecord => (Tables.recordOf_some hrecord).1
  refine ⟨hrecords, fun node hmem => (hnode node hmem).1, ?_, ?_, ?_⟩
  · refine map_of_records hrecords fun node hmem record hrecord => ?_
    have hdepth := (hnode node hmem).2
    rw [maxCommentDepth] at hdepth
    rw [(Tables.recordOf_some hrecord).2.2]
    exact Nat.mod_eq_of_lt (by omega)
  · have hnodup : (nodes.map fun node => node.1.id).Nodup :=
      (h.traversal_nodup postId).sublist (hfront.sublist.map _)
    rw [hids]
    refine List.pairwise_map.mpr ((List.pairwise_map.mp hnodup).imp_of_mem ?_)
    intro first second hfirst hsecond hne heq
    exact hne (castUInt64_eq (hgiven first hfirst) (hgiven second hsecond) heq)
  · rintro earlier record later rfl hparent
    rw [List.map_append, List.map_cons] at hrecords
    obtain ⟨front, rest, rfl, hbefore, hrest⟩ := List.map_eq_append_iff.mp hrecords.symm
    obtain ⟨node, rest, rfl, hrecord, -⟩ := List.map_eq_cons_iff.mp hrest
    rw [(Tables.recordOf_some hrecord).2.1] at hparent ⊢
    rcases hdirect : node.1.parentCommentId with _ | parentId
    · rw [hdirect] at hparent
      exact absurd rfl hparent
    · obtain ⟨behind, htraversal⟩ := hfront
      rw [List.append_assoc, List.cons_append] at htraversal
      obtain ⟨above, habove, rfl⟩ := h.parent_first small htraversal.symm hdirect
      -- the parent's record stands where the parent stands
      have hmem : tables.recordOf above ∈ earlier.map some := hbefore ▸ List.mem_map_of_mem habove
      obtain ⟨parent, hparent, heq⟩ := List.mem_map.mp hmem
      exact ⟨parent, hparent, (Tables.recordOf_some heq.symm).1⟩

/-- `list_thread` gives the preorder of the forest, from its start to the limit. Where a call
fails the end may be missing, but not from an answer that says it is truncated. -/
theorem thread_in_preorder [Sodium] (reached : ReachableTables database.tables)
    (small : database.tables.SmallCommentIds) (postId : ℤ) (limit : ℕ) :
    database.tables.CommentForest ∧
    (∀ comments truncated, listThread database postId limit = some (comments, truncated) →
      ∃ nodes, nodes <+: (database.tables.traversal postId).take limit ∧
        database.tables.Tells nodes comments ∧
        (truncated = true → limit < (database.tables.traversal postId).length ∧
          nodes = (database.tables.traversal postId).take limit)) ∧
    ((∀ call, database.faults .listThread call = false) →
      ∃ comments truncated, listThread database postId limit = some (comments, truncated) ∧
        database.tables.Tells ((database.tables.traversal postId).take limit) comments ∧
        (truncated = true ↔ limit < (database.tables.traversal postId).length)) := by
  have hordered : database.tables.CommentsInOrder := reached.commentsInOrder
  have hlength : (selectThread database.tables postId).length =
      (database.tables.traversal postId).length := selectThread_length hordered
  -- what stands before any cut of the thread, as records
  have hcut : ∀ count, ((selectThread database.tables postId).take count).map some =
      ((database.tables.traversal postId).take count).map database.tables.recordOf := by
    intro count
    rw [List.map_take, List.map_take, map_some_selectThread hordered small]
  refine ⟨hordered.commentForest, fun comments truncated answered => ?_, fun works => ?_⟩
  · obtain ⟨seen, hle, rfl, rfl, -, -⟩ := listThread_some answered
    refine ⟨_, List.take_prefix_take_left (Nat.min_le_left limit seen),
      hordered.tells small (List.take_prefix ..) (hcut _), fun truncated => ?_⟩
    have hmore : limit < seen := of_decide_eq_true truncated
    refine ⟨by omega, ?_⟩
    rw [Nat.min_eq_left hmore.le]
  · have hanswers : (listThread database postId limit).isSome = true := listThread_isSome (works 0)
    obtain ⟨⟨comments, truncated⟩, answered⟩ := Option.isSome_iff_exists.mp hanswers
    obtain ⟨seen, hle, rfl, rfl, -, hstopped⟩ := listThread_some answered
    -- no step fails, so the loop sees what it asked for
    have hseen : seen = min (limit + 1) (selectThread database.tables postId).length := by
      rcases Nat.lt_or_eq_of_le hle with hlt | heq
      · rw [works] at hstopped
        exact absurd (hstopped hlt) Bool.false_ne_true
      · exact heq
    have htake : (database.tables.traversal postId).take (min limit seen) =
        (database.tables.traversal postId).take limit := by
      rw [List.take_eq_take_iff]
      omega
    have htells := hordered.tells small (List.take_prefix ..) (hcut (min limit seen))
    rw [htake] at htells
    refine ⟨_, _, answered, htells, ?_⟩
    rw [decide_eq_true_iff]
    omega

end Listed

/-- A reply between two roots, and a limit of two. -/
theorem thread_in_preorder_three :
    letI := transparentSodium
    let tables := grownThread (fun index => index % 2) (ascii "hi") 3
    tables.CommentForest ∧
      ∃ comments truncated, listThread { tables } 1 2 = some (comments, truncated) ∧
        tables.Tells ((tables.traversal 1).take 2) comments ∧ truncated = true := by
  intro tables
  let _ := transparentSodium
  have hreached : ReachableTables tables := grownThread_reachable (List.cons_ne_nil _ _)
    (by decide) (fun index => Nat.mod_le index 2) (by decide)
  have hsmall : tables.SmallCommentIds := by
    change ∀ comment ∈ tables.comments, comment.id < 10 ^ 10
    decide
  let database : DatabaseHandle := { tables }
  obtain ⟨hforest, -, hlisted⟩ :=
    thread_in_preorder (show ReachableTables database.tables from hreached) hsmall 1 2
  obtain ⟨comments, truncated, answered, htells, htruncated⟩ := hlisted fun _ => rfl
  exact ⟨hforest, comments, truncated, answered, htells, htruncated.mpr (by decide)⟩

end HyperCom
