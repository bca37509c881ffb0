import Mathlib.Data.List.Basic
import Mathlib.Data.List.TakeWhile
import Mathlib.Logic.Function.Iterate
import Mathlib.Order.Basic
import Mathlib.Order.Monotone.Basic
import Mathlib.Data.Nat.Find

/-!
# Emptying a list page by page

A reader is shown the first `size` entries of a list again and again. After each
showing the entries it is `done` with are taken away, and the others stay where
they are. A page that does not fit into a showing is not shown, and waits for one
that it fits into.

`shown_iff` says which entries get shown: those with fewer than `size` entries
ahead of them that the reader is never done with, if the pages on the way fit
into showings that follow each other.
-/

namespace Paging

variable {α : Type*} [DecidableEq α] {size : ℕ} {done : α → Bool} {l : List α} {x : α} {n : ℕ}

/-- The list once the reader is done with what it can of the first page. -/
def clearPage (size : ℕ) (done : α → Bool) (l : List α) : List α :=
  (l.take size).filter (fun x => !done x) ++ l.drop size

/-- The list after a showing, or after a page that did not fit. -/
def showPage (size : ℕ) (done : α → Bool) (fits : List α → Prop) [DecidablePred fits]
    (l : List α) : List α :=
  if fits (l.take size) then clearPage size done l else l

omit [DecidableEq α] in
/-- Nothing is added. -/
theorem showPage_sublist {fits : List α → Prop} [DecidablePred fits] : (showPage size done fits l).Sublist l := by
  rw [showPage]
  split
  · have hcleared := (List.filter_sublist (p := fun x => !done x) (l := l.take size)).append_right
      (l.drop size)
    rwa [List.take_append_drop] at hcleared
  · exact List.Sublist.refl _

/-- What stands before an entry. -/
def ahead (x : α) (l : List α) : List α := l.takeWhile fun y => y ≠ x

/-- The entries before `x` that the reader is never done with. -/
def stuckAhead (done : α → Bool) (x : α) (l : List α) : ℕ := (ahead x l).countP fun y => !done y

/-! ## One page -/

theorem ahead_eq_append (h : x ∈ l) : ∃ behind, l = ahead x l ++ x :: behind := by
  induction l with
  | nil => cases h
  | cons y l ih =>
    by_cases hy : y = x
    · exact ⟨l, by simp [ahead, hy]⟩
    · obtain ⟨behind, hl⟩ := ih ((List.mem_cons.mp h).resolve_left (Ne.symm hy))
      refine ⟨behind, ?_⟩
      rw [ahead, List.takeWhile_cons_of_pos (by simpa using hy), List.cons_append]
      exact congrArg (y :: ·) hl

theorem not_mem_ahead : x ∉ ahead x l := by
  intro h
  simpa using List.mem_takeWhile_imp h

/-- The entries before `x` do not depend on what comes after. -/
theorem ahead_append {front behind : List α} (h : x ∉ front) :
    ahead x (front ++ x :: behind) = front := by
  rw [ahead, List.takeWhile_append_of_pos, List.takeWhile_cons_of_neg, List.append_nil]
  · simp
  · intro y hy
    have hne : y ≠ x := by
      rintro rfl
      exact h hy
    simpa using hne

/-- An entry is on the first page exactly when fewer than `size` are before it. -/
theorem mem_take_iff (h : x ∈ l) : x ∈ l.take size ↔ (ahead x l).length < size := by
  obtain ⟨behind, hl⟩ := ahead_eq_append h
  constructor
  · intro hmem
    by_contra hfar
    rw [hl, List.take_append_of_le_length (not_lt.mp hfar)] at hmem
    exact not_mem_ahead (List.mem_of_mem_take hmem)
  · intro hnear
    rw [hl, List.take_append, List.take_of_length_le hnear.le]
    refine List.mem_append_right _ ?_
    obtain ⟨k, hk⟩ := Nat.exists_eq_succ_of_ne_zero (Nat.sub_ne_zero_of_lt hnear)
    rw [hk, List.take_succ_cons]
    exact List.mem_cons_self ..

/-- A page that `x` is not on ends before `x`. -/
theorem page_ahead (hmem : x ∈ l) (hfar : x ∉ l.take size) :
    size ≤ (ahead x l).length ∧ l.take size = (ahead x l).take size := by
  obtain ⟨behind, hl⟩ := ahead_eq_append hmem
  have hlong : size ≤ (ahead x l).length := by
    rwa [mem_take_iff hmem, not_lt] at hfar
  refine ⟨hlong, ?_⟩
  conv_lhs => rw [hl]
  exact List.take_append_of_le_length hlong

/-- Clearing a page that `x` is not on keeps `x`, and all that is stuck before
it. -/
theorem clearPage_keeps (done : α → Bool) (hmem : x ∈ l) (hfar : x ∉ l.take size) :
    x ∈ clearPage size done l ∧ stuckAhead done x (clearPage size done l) = stuckAhead done x l := by
  obtain ⟨behind, hl⟩ := ahead_eq_append hmem
  obtain ⟨hlong, htake⟩ := page_ahead hmem hfar
  have hdrop : l.drop size = (ahead x l).drop size ++ x :: behind := by
    conv_lhs => rw [hl]
    exact List.drop_append_of_le_length hlong
  have hcleared : clearPage size done l =
      (((ahead x l).take size).filter (fun y => !done y) ++ (ahead x l).drop size) ++
        x :: behind := by
    rw [clearPage, htake, hdrop, List.append_assoc]
  have hnot : x ∉ ((ahead x l).take size).filter (fun y => !done y) ++ (ahead x l).drop size := by
    intro h
    rcases List.mem_append.mp h with h | h
    · exact not_mem_ahead (List.mem_of_mem_take (List.mem_filter.mp h).1)
    · exact not_mem_ahead (List.mem_of_mem_drop h)
  refine ⟨by simp [hcleared], ?_⟩
  rw [stuckAhead, hcleared, ahead_append hnot, stuckAhead]
  conv_rhs => rw [← List.take_append_drop size (ahead x l)]
  rw [List.countP_append, List.countP_append, List.countP_filter]
  simp

/-- If few entries are stuck before `x`, clearing a page that `x` is not on takes
some away. -/
theorem clearPage_length_lt (done : α → Bool) (hmem : x ∈ l) (hfar : x ∉ l.take size)
    (hfew : stuckAhead done x l < size) : (clearPage size done l).length < l.length := by
  obtain ⟨behind, hl⟩ := ahead_eq_append hmem
  obtain ⟨hlong, htake⟩ := page_ahead hmem hfar
  have hstuck : ((l.take size).filter fun y => !done y).length < size := by
    rw [← List.countP_eq_length_filter, htake]
    exact lt_of_le_of_lt ((List.take_sublist ..).countP_le) hfew
  have hsize : size ≤ l.length := by
    rw [hl, List.length_append]
    omega
  rw [clearPage, List.length_append, List.length_drop]
  omega

/-! ## Page after page -/

/-- The list after `n` showings, if every page fits. -/
def cleared (size : ℕ) (done : α → Bool) (l : List α) (n : ℕ) : List α :=
  (clearPage size done)^[n] l

omit [DecidableEq α] in
theorem cleared_succ : cleared size done l (n + 1) = clearPage size done (cleared size done l n) :=
  Function.iterate_succ_apply' ..

/-- As long as `x` was not shown, it is there with all that is stuck before it. -/
theorem cleared_keeps (hmem : x ∈ l) (hfar : ∀ m < n, x ∉ (cleared size done l m).take size) :
    x ∈ cleared size done l n ∧
      stuckAhead done x (cleared size done l n) = stuckAhead done x l := by
  induction n with
  | zero => exact ⟨hmem, rfl⟩
  | succ n ih =>
    obtain ⟨hthere, hstuck⟩ := ih fun m hm => hfar m (Nat.lt_succ_of_lt hm)
    have hnext := clearPage_keeps done hthere (hfar n (Nat.lt_succ_self n))
    rw [cleared_succ, hnext.2, hstuck]
    exact ⟨hnext.1, rfl⟩

/-- Pages that never show `x` get shorter, so one of them does. -/
theorem exists_page (hmem : x ∈ l) (hfew : stuckAhead done x l < size) :
    ∃ n, x ∈ (cleared size done l n).take size := by
  by_contra hnever
  have hfar : ∀ n, x ∉ (cleared size done l n).take size := fun n hpage => hnever ⟨n, hpage⟩
  have hshrinks : ∀ n, (cleared size done l n).length + n ≤ l.length := by
    intro n
    induction n with
    | zero => exact le_rfl
    | succ n ih =>
      obtain ⟨hthere, hstuck⟩ := cleared_keeps hmem fun m (_ : m < n) => hfar m
      have hless := clearPage_length_lt done hthere (hfar n) (by rw [hstuck]; exact hfew)
      rw [cleared_succ]
      omega
  have := hshrinks (l.length + 1)
  omega

/-- An entry on one of the pages has fewer than `size` entries before it that are
there to stay. -/
theorem few_of_page (hmem : x ∈ l) (hpage : ∃ n, x ∈ (cleared size done l n).take size) :
    stuckAhead done x l < size := by
  obtain ⟨hthere, hstuck⟩ := cleared_keeps hmem fun m hm => Nat.find_min hpage hm
  rw [← hstuck]
  exact lt_of_le_of_lt List.countP_le_length ((mem_take_iff hthere).mp (Nat.find_spec hpage))

/-! ## Showing after showing -/

section Showings

variable {fits : ℕ → List α → Prop} [∀ n, DecidablePred (fits n)] {lists : ℕ → List α}

omit [DecidableEq α] in
/-- While the page fits into none of the showings, nothing changes. -/
theorem lists_waiting (hlists : ∀ n, lists (n + 1) = showPage size done (fits n) (lists n))
    {m : ℕ} (hle : m ≤ n) (hlarge : ∀ k, m ≤ k → k < n → ¬ fits k ((lists m).take size)) :
    lists n = lists m := by
  induction n, hle using Nat.le_induction with
  | base => rfl
  | succ n hle ih =>
    have hsame := ih fun k hk hkn => hlarge k hk (Nat.lt_succ_of_lt hkn)
    rw [hlists, hsame, showPage, if_neg (hlarge n hle (Nat.lt_succ_self n))]

omit [DecidableEq α] in
/-- A page that fits into a later showing is still there when one comes that it
fits into. -/
theorem next_showing (hlists : ∀ n, lists (n + 1) = showPage size done (fits n) (lists n))
    {m r : ℕ} (hle : m ≤ r) (hfits : fits r ((lists m).take size)) :
    ∃ k, m ≤ k ∧ k ≤ r ∧ lists k = lists m ∧ fits k ((lists m).take size) := by
  have hexists : ∃ k, m ≤ k ∧ fits k ((lists m).take size) := ⟨r, hle, hfits⟩
  obtain ⟨hmk, hfit⟩ := Nat.find_spec hexists
  refine ⟨Nat.find hexists, hmk, Nat.find_min' hexists ⟨hle, hfits⟩, ?_, hfit⟩
  exact lists_waiting hlists hmk fun k hk hlt hearlier =>
    Nat.find_min hexists hlt ⟨hk, hearlier⟩

/-- The first `count` showings of a sequence, then one after the other from `n`
on. -/
def continued (showings : ℕ → ℕ) (count n k : ℕ) : ℕ :=
  if k < count then showings k else n + (k - count)

theorem continued_strictMono {showings : ℕ → ℕ} {count : ℕ} (hmono : StrictMono showings)
    (hbefore : ∀ k < count, showings k < n) : StrictMono (continued showings count n) := by
  intro i j hij
  rw [continued, continued]
  split
  · next hi =>
    split
    · exact hmono hij
    · exact (hbefore i hi).trans_le (Nat.le_add_right ..)
  · rw [if_neg (by omega)]
    omega

omit [DecidableEq α] in
/-- The list is always one of the cleared ones, and the pages before it fitted
into showings that followed each other. -/
theorem lists_eq_cleared (hlists : ∀ n, lists (n + 1) = showPage size done (fits n) (lists n))
    (n : ℕ) :
    ∃ (count : ℕ) (showings : ℕ → ℕ), StrictMono showings ∧
      lists n = cleared size done (lists 0) count ∧
      (∀ k < count, showings k < n ∧
        fits (showings k) ((cleared size done (lists 0) k).take size)) := by
  induction n with
  | zero => exact ⟨0, id, strictMono_id, rfl, fun k hk => absurd hk (Nat.not_lt_zero k)⟩
  | succ n ih =>
    obtain ⟨count, showings, hmono, hlist, hbefore⟩ := ih
    by_cases hfit : fits n ((lists n).take size)
    · -- the page of this showing is the next one
      refine ⟨count + 1, continued showings count n,
        continued_strictMono hmono fun k hk => (hbefore k hk).1, ?_, ?_⟩
      · rw [hlists, showPage, if_pos hfit, hlist, cleared_succ]
      · intro k hk
        rcases Nat.lt_succ_iff_lt_or_eq.mp hk with hlt | rfl
        · rw [continued, if_pos hlt]
          exact ⟨Nat.lt_succ_of_lt (hbefore k hlt).1, (hbefore k hlt).2⟩
        · rw [continued, if_neg (lt_irrefl k), Nat.sub_self, Nat.add_zero, ← hlist]
          exact ⟨Nat.lt_succ_self n, hfit⟩
    · refine ⟨count, showings, hmono, ?_, fun k hk => ⟨Nat.lt_succ_of_lt (hbefore k hk).1,
        (hbefore k hk).2⟩⟩
      rw [hlists, showPage, if_neg hfit, hlist]

omit [DecidableEq α] in
/-- If the pages fit into showings that follow each other, they come in time for
them. -/
theorem lists_reach (hlists : ∀ n, lists (n + 1) = showPage size done (fits n) (lists n))
    {showings : ℕ → ℕ} (hmono : StrictMono showings) {count : ℕ}
    (hfits : ∀ k ≤ count, fits (showings k) ((cleared size done (lists 0) k).take size)) :
    ∃ n ≤ showings count, lists n = cleared size done (lists 0) count ∧
      fits n ((cleared size done (lists 0) count).take size) := by
  -- a page that has come waits for its showing, or for an earlier one
  have harrive : ∀ {k m : ℕ}, k ≤ count → m ≤ showings k →
      lists m = cleared size done (lists 0) k →
      ∃ n ≤ showings k, lists n = cleared size done (lists 0) k ∧
        fits n ((cleared size done (lists 0) k).take size) := by
    intro k m hk hm hlist
    obtain ⟨n, -, hn, hsame, hfit⟩ := next_showing hlists hm (hlist ▸ hfits k hk)
    exact ⟨n, hn, hsame.trans hlist, hlist ▸ hfit⟩
  induction count with
  | zero => exact harrive le_rfl (Nat.zero_le _) rfl
  | succ count ih =>
    obtain ⟨n, hn, hlist, hfit⟩ := ih (fun k hk => hfits k (Nat.le_succ_of_le hk))
      fun hk => harrive (Nat.le_succ_of_le hk)
    have hnext : n + 1 ≤ showings (count + 1) := hn.trans_lt (hmono (Nat.lt_succ_self count))
    refine harrive le_rfl hnext ?_
    rw [hlists, showPage, hlist, if_pos hfit, cleared_succ]

/-- An entry is shown sooner or later if and only if fewer than `size` entries
before it are there to stay, and the pages up to its own fit into showings that
follow each other. -/
theorem shown_iff (lists : ℕ → List α)
    (hlists : ∀ n, lists (n + 1) = showPage size done (fits n) (lists n)) (hmem : x ∈ lists 0) :
    (∃ n, fits n ((lists n).take size) ∧ x ∈ (lists n).take size) ↔
      stuckAhead done x (lists 0) < size ∧
      ∃ showings : ℕ → ℕ, StrictMono showings ∧
        ∀ k, (∀ m < k, x ∉ (cleared size done (lists 0) m).take size) →
          fits (showings k) ((cleared size done (lists 0) k).take size) := by
  constructor
  · rintro ⟨n, hfit, hpage⟩
    obtain ⟨count, showings, hmono, hlist, hbefore⟩ := lists_eq_cleared hlists n
    rw [hlist] at hfit hpage
    refine ⟨few_of_page hmem ⟨count, hpage⟩, continued showings count n,
      continued_strictMono hmono fun k hk => (hbefore k hk).1, fun k hk => ?_⟩
    rcases lt_trichotomy k count with hlt | rfl | hgt
    · rw [continued, if_pos hlt]
      exact (hbefore k hlt).2
    · rwa [continued, if_neg (lt_irrefl k), Nat.sub_self, Nat.add_zero]
    · exact absurd hpage (hk count hgt)
  · rintro ⟨hfew, showings, hmono, hfits⟩
    have hexists := exists_page hmem hfew
    -- up to the first page that has `x` all pages have their showings
    obtain ⟨n, -, hlist, hfit⟩ := lists_reach hlists hmono
      fun k (hk : k ≤ Nat.find hexists) => hfits k fun m hm => Nat.find_min hexists (hm.trans_le hk)
    refine ⟨n, ?_, ?_⟩
    · rwa [hlist]
    · rw [hlist]
      exact Nat.find_spec hexists

end Showings

end Paging
