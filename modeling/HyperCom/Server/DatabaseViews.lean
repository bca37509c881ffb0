import HyperCom.Lib.Observation
import HyperCom.Server.Database

/-!
# Databases that look the same

An observer sees `view tables`, of the tables and of what a rollback would restore;
the log is nothing a statement reads. A statement that is overt, the script
statements and a transaction around such statements return the same and leave what
looks the same.

This is `Lib.Observation` for a database handle. The statements that a handler runs are
given the same faults on both sides, so they fail together; a failed statement may undo the
open transaction, which is why the snapshot has to look the same as well as the tables.
Everything else of a handle is the same: the faults, what they undo, and whether a
transaction is open.

`SameView` and `SameOutcome` are what the confidentiality of mail (`Confidentiality`) and of
identities (`AdminSight`) have in common.
-/

namespace HyperCom

open Observation

variable {View α : Type} {view : Tables → View}

/-- Two databases with one view, in which the same calls fail. -/
structure SameView (view : Tables → View) (first second : DatabaseHandle) : Prop where
  tables : view first.tables = view second.tables
  /-- what a rollback would restore, if a transaction is open -/
  transaction : first.transaction.map view = second.transaction.map view
  /-- the same calls fail -/
  faults : first.faults = second.faults

/-- Two functions of a repository return the same and leave what looks the same. -/
def SameOutcome (view : Tables → View) (first second : α × DatabaseHandle) : Prop :=
  first.1 = second.1 ∧ SameView view first.2 second.2

namespace SameView

variable {first second : DatabaseHandle}

theorem refl (database : DatabaseHandle) : SameView view database database := ⟨rfl, rfl, rfl⟩

theorem symm (h : SameView view first second) : SameView view second first :=
  ⟨h.tables.symm, h.transaction.symm, h.faults.symm⟩

theorem trans {third : DatabaseHandle} (h : SameView view first second)
    (h' : SameView view second third) : SameView view first third :=
  ⟨h.tables.trans h'.tables, h.transaction.trans h'.transaction, h.faults.trans h'.faults⟩

/-- A transaction is open on both or on neither. -/
theorem isOpen (h : SameView view first second) :
    first.transaction.isSome = second.transaction.isSome := by
  have hopen := congrArg Option.isSome h.transaction
  rwa [Option.isSome_map, Option.isSome_map] at hopen

/-! ## Statements -/

/-- Two rows that answer a query are the same if the lists they stand in are. -/
theorem query (h : SameView view first second) (statement : SqlStatement) {rows rows' : List α}
    (hrows : rows = rows') : first.query statement rows = second.query statement rows' := by
  rw [DatabaseHandle.query, DatabaseHandle.query, h.faults, hrows]

/-- The first row, if the call does not fail. -/
theorem queryFirst (h : SameView view first second) (statement : SqlStatement)
    {rows rows' : List α} (hrows : rows = rows') :
    first.queryFirst statement rows = second.queryFirst statement rows' := by
  rw [DatabaseHandle.queryFirst, DatabaseHandle.queryFirst, h.query statement hrows]

/-- A statement whose results look alike leaves what looks alike, also when it fails and
takes the transaction with it. -/
theorem write {effect effect' : Tables → Option (α × Tables)}
    (h : SameView view first second)
    (heffect : seen view (effect first.tables) = seen view (effect' second.tables))
    (statement : SqlStatement) (step : ℕ) :
    SameOutcome view (first.write statement step effect) (second.write statement step effect') := by
  rw [DatabaseHandle.write, DatabaseHandle.write, h.faults]
  split
  · exact ⟨rfl, h⟩
  rcases hfirst : effect first.tables with _ | ⟨result, tables⟩
  · rw [hfirst] at heffect
    rw [seen_eq_none_iff.mp heffect.symm]
    exact ⟨rfl, h⟩
  · rw [hfirst] at heffect
    obtain ⟨tables', hsecond, htables⟩ := seen_eq_some heffect
    rw [hsecond]
    exact ⟨rfl, htables, h.transaction, rfl⟩

/-- In particular one that computes its result from what is seen. -/
theorem write_overt {effect : Tables → Option (α × Tables)} (h : SameView view first second)
    (heffect : Overt view effect) (statement : SqlStatement) (step : ℕ) :
    SameOutcome view (first.write statement step effect) (second.write statement step effect) :=
  h.write (heffect h.tables) statement step

/-- The log is emptied, which nobody sees. -/
theorem walCheckpoint (h : SameView view first second) :
    SameView view first.walCheckpoint second.walCheckpoint := by
  rw [DatabaseHandle.walCheckpoint, DatabaseHandle.walCheckpoint, h.faults]
  split
  · exact h
  · exact ⟨h.tables, h.transaction, rfl⟩

/-- The snapshot that a transaction begins with looks as the tables do. -/
theorem beginImmediate (h : SameView view first second) :
    SameOutcome view first.beginImmediate second.beginImmediate := by
  rw [DatabaseHandle.beginImmediate, DatabaseHandle.beginImmediate, h.faults, h.isOpen]
  split
  · exact ⟨rfl, h⟩
  · exact ⟨rfl, h.tables, congrArg some h.tables, rfl⟩

/-- What an undone transaction goes back to looks the same. -/
theorem undone (h : SameView view first second) : SameView view first.undone second.undone := by
  have htransaction := h.transaction
  have hrestored : view (first.transaction.getD first.tables) =
      view (second.transaction.getD second.tables) := by
    generalize first.transaction = snapshot at htransaction ⊢
    generalize second.transaction = snapshot' at htransaction ⊢
    rcases snapshot with _ | snapshot <;> rcases snapshot' with _ | snapshot'
    · exact h.tables
    · cases htransaction
    · cases htransaction
    · exact Option.some.inj htransaction
  exact ⟨hrestored, rfl, h.faults⟩

/-- After a call that failed, and undid the transaction or did not. -/
theorem afterFailure (h : SameView view first second) :
    SameView view first.afterFailure second.afterFailure := by
  rw [DatabaseHandle.afterFailure, DatabaseHandle.afterFailure, h.faults]
  split
  · exact h.undone
  · exact h

/-- Committing drops the snapshot, unless it fails. -/
theorem commit (h : SameView view first second) :
    SameOutcome view first.commit second.commit := by
  rw [DatabaseHandle.commit, DatabaseHandle.commit, h.faults]
  split
  · exact ⟨rfl, h.afterFailure⟩
  · exact ⟨rfl, h.tables, rfl, rfl⟩

/-- Rolling back restores it. -/
theorem rollback (h : SameView view first second) :
    SameOutcome view first.rollback second.rollback := by
  have hclosed : first.transaction.isNone = second.transaction.isNone := by
    rw [← Option.not_isSome, ← Option.not_isSome, h.isOpen]
  rw [DatabaseHandle.rollback, DatabaseHandle.rollback, h.faults, hclosed]
  split
  · exact ⟨rfl, h⟩
  · exact ⟨rfl, h.undone⟩

/-! ## Transactions -/

/-- `BEGIN`, the statements, and `COMMIT` or `ROLLBACK` as they went. -/
theorem inTransaction {body body' : DatabaseHandle → Bool × DatabaseHandle}
    (h : SameView view first second)
    (hbody : ∀ {first second : DatabaseHandle}, SameView view first second →
      SameOutcome view (body first) (body' second)) :
    SameOutcome view (first.inTransaction body) (second.inTransaction body') := by
  obtain ⟨hstarted, hopened⟩ := h.beginImmediate
  rw [DatabaseHandle.inTransaction, DatabaseHandle.inTransaction]
  generalize first.beginImmediate = began at hstarted hopened ⊢
  generalize second.beginImmediate = began' at hstarted hopened ⊢
  obtain ⟨started, opened⟩ := began
  obtain ⟨started', opened'⟩ := began'
  obtain rfl : started = started' := hstarted
  cases started with
  | false => exact ⟨rfl, hopened⟩
  | true =>
    obtain ⟨hdone, hleft⟩ := hbody hopened
    dsimp only
    generalize body opened = ran at hdone hleft ⊢
    generalize body' opened' = ran' at hdone hleft ⊢
    obtain ⟨done, left⟩ := ran
    obtain ⟨done', left'⟩ := ran'
    obtain rfl : done = done' := hdone
    cases done with
    | true => exact hleft.commit
    | false => exact ⟨rfl, hleft.afterFailure.rollback.2⟩

end SameView

/-! ## Results that are only looked at -/

/-- A goal about two such outcomes, for one result and two databases that look the same. -/
@[elab_as_elim]
theorem SameOutcome.elim {motive : α × DatabaseHandle → α × DatabaseHandle → Prop}
    {first second : α × DatabaseHandle} (h : SameOutcome view first second)
    (same : ∀ (result : α) {left left' : DatabaseHandle}, SameView view left left' →
      motive (result, left) (result, left')) : motive first second := by
  obtain ⟨result, left⟩ := first
  obtain ⟨result', left'⟩ := second
  obtain rfl : result = result' := h.1
  exact same result h.2

/-- Handlers ask whether a statement succeeded. -/
theorem SameOutcome.isSome {first second : Option α × DatabaseHandle}
    (h : SameOutcome view first second) :
    SameOutcome view (first.1.isSome, first.2) (second.1.isSome, second.2) :=
  ⟨congrArg Option.isSome h.1, h.2⟩

/-- Or whether it changed a row. -/
theorem SameOutcome.any {first second : Option ℕ × DatabaseHandle}
    (h : SameOutcome view first second) :
    SameOutcome view (first.1.any (0 < ·), first.2) (second.1.any (0 < ·), second.2) :=
  ⟨congrArg (Option.any (0 < ·)) h.1, h.2⟩

end HyperCom
