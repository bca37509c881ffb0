import Mathlib.Data.Option.Basic

/-!
# Transactions over a store

A connection to a store holds the contents it sees and, while a transaction is
open, the contents a rollback would restore. `block` is the usual shape of a
transaction: begin, a body that succeeds or fails, then commit or roll back.

Any of the three calls may fail, and so may a call of the body. What a failure
does to the transaction is up to the store. Some failures leave it open. Others,
such as a full disk or an input error, make the store undo it by itself; the
rollback that follows then finds no transaction, and fails without any harm.

`committed` is what another connection would find after this one is lost.
-/

namespace Transactions

/-- A connection, and what a rollback would restore. -/
structure Connection (σ : Type*) where
  contents : σ
  saved : Option σ := none

/-- Which calls of a block fail, and whether the store answers the failure of a
call inside the transaction by undoing it. -/
structure BlockFaults where
  begins : Bool := false
  commits : Bool := false
  rollbacks : Bool := false
  undoes : Bool := false

namespace Connection

variable {σ : Type*}

/-- A transaction cannot be begun inside another one. -/
def begin (fails : Bool) (connection : Connection σ) : Bool × Connection σ :=
  if fails || connection.saved.isSome then (false, connection)
  else (true, { connection with saved := some connection.contents })

/-- An open transaction is undone. -/
def undone (connection : Connection σ) : Connection σ :=
  { contents := connection.saved.getD connection.contents }

/-- A call has failed: an open transaction is still open, or the store has undone
it. -/
def afterFailure (undoes : Bool) (connection : Connection σ) : Connection σ :=
  if undoes then connection.undone else connection

/-- A commit that fails ends the transaction only if the store undoes it. -/
def commit (fails undoes : Bool) (connection : Connection σ) : Bool × Connection σ :=
  if fails then (false, connection.afterFailure undoes)
  else (true, { connection with saved := none })

/-- A rollback fails if there is no transaction; one that fails otherwise leaves it
open. -/
def rollback (fails : Bool) (connection : Connection σ) : Bool × Connection σ :=
  if fails || connection.saved.isNone then (false, connection) else (true, connection.undone)

/-- All of the body or nothing of it. -/
def block (faults : BlockFaults) (body : σ → Bool × σ) (connection : Connection σ) :
    Bool × Connection σ :=
  match connection.begin faults.begins with
  | (false, connection) => (false, connection)
  | (true, connection) =>
    match body connection.contents with
    | (true, contents) => { connection with contents }.commit faults.commits faults.undoes
    | (false, contents) =>
      -- where the store has undone the transaction, this rollback finds none
      (false, (({ connection with contents }.afterFailure faults.undoes).rollback
        faults.rollbacks).2)

/-- What is left when the connection is lost: an open transaction is undone. -/
def committed (connection : Connection σ) : σ := connection.saved.getD connection.contents

@[simp] theorem committed_closed (contents : σ) :
    ({ contents } : Connection σ).committed = contents := rfl

theorem committed_eq {connection : Connection σ} (h : connection.saved = none) :
    connection.committed = connection.contents := by
  simp [committed, h]

/-- A failure leaves what is committed as it was. -/
@[simp] theorem committed_afterFailure (undoes : Bool) (connection : Connection σ) :
    (connection.afterFailure undoes).committed = connection.committed := by
  cases undoes <;> rfl

/-- Nothing is undone where no transaction is open. -/
theorem afterFailure_closed {connection : Connection σ} (h : connection.saved = none)
    (undoes : Bool) : connection.afterFailure undoes = connection := by
  obtain ⟨contents, saved⟩ := connection
  obtain rfl : saved = none := h
  cases undoes <;> rfl

/-- Without an open transaction, and if its call does not fail, one can be
begun. -/
theorem begin_ready {connection : Connection σ} (h : connection.saved = none) :
    (connection.begin false).1 = true := by
  simp [begin, h]

/-- Everything a block can do, once it was begun: commit, fail and be undone, or
fail and leave its transaction open. -/
inductive BlockOutcome (contents : σ) : Bool × σ → Bool × Connection σ → Prop where
  | committed (left : σ) : BlockOutcome contents (true, left) (true, { contents := left })
  | undone (ran : Bool × σ) : BlockOutcome contents ran (false, { contents })
  | unfinished (ran : Bool × σ) :
      BlockOutcome contents ran (false, { contents := ran.2, saved := some contents })

variable {faults : BlockFaults} {body : σ → Bool × σ} {connection : Connection σ}

theorem block_refused (h : (connection.begin faults.begins).1 = false) :
    connection.block faults body = (false, connection) := by
  rcases hbegin : connection.begin faults.begins with ⟨begun, opened⟩
  rw [hbegin] at h
  obtain rfl : begun = false := h
  simp only [begin] at hbegin
  split at hbegin
  · obtain ⟨-, rfl⟩ := Prod.mk.inj hbegin
    simp [block, begin, *]
  · cases hbegin

/-- A block that is begun. -/
theorem block_begun (body : σ → Bool × σ) (hbegins : faults.begins = false)
    (hclosed : connection.saved = none) :
    BlockOutcome connection.contents (body connection.contents)
      (connection.block faults body) := by
  rcases hbody : body connection.contents with ⟨_ | _, left⟩
  · cases hundoes : faults.undoes with
    | true => simpa [block, begin, rollback, afterFailure, undone, hbegins, hclosed, hbody, hundoes]
        using .undone _
    | false =>
      cases hrollbacks : faults.rollbacks with
      | false => simpa [block, begin, rollback, afterFailure, undone, hbegins, hclosed, hbody,
          hundoes, hrollbacks] using .undone _
      | true => simpa [block, begin, rollback, afterFailure, hbegins, hclosed, hbody, hundoes,
          hrollbacks] using .unfinished (false, left)
  · cases hcommits : faults.commits with
    | false => simpa [block, begin, commit, hbegins, hclosed, hbody, hcommits] using .committed left
    | true =>
      cases hundoes : faults.undoes with
      | true => simpa [block, begin, commit, afterFailure, undone, hbegins, hclosed, hbody, hcommits,
          hundoes] using .undone _
      | false => simpa [block, begin, commit, afterFailure, hbegins, hclosed, hbody, hcommits,
          hundoes] using .unfinished (true, left)

/-- The commit the block gets to issue does not fail unless the store then undoes the
transaction; nor does the rollback fail that finds the transaction still open. -/
def Settles (faults : BlockFaults) (body : σ → Bool × σ) (contents : σ) : Prop :=
  faults.begins = false → faults.undoes = false →
    if (body contents).1 then faults.commits = false else faults.rollbacks = false

/-- A block leaves no transaction open exactly when it settles. -/
theorem block_closed_iff (hclosed : connection.saved = none) :
    (connection.block faults body).2.saved = none ↔ Settles faults body connection.contents := by
  rcases hbegins : faults.begins with _ | _
  · rcases hbody : body connection.contents with ⟨_ | _, left⟩
    · cases hundoes : faults.undoes <;> cases hrollbacks : faults.rollbacks <;>
        simp [block, begin, rollback, afterFailure, undone, hbegins, hclosed, hbody, Settles,
          hundoes, hrollbacks]
    · cases hundoes : faults.undoes <;> cases hcommits : faults.commits <;>
        simp [block, begin, commit, afterFailure, undone, hbegins, hclosed, hbody, Settles,
          hundoes, hcommits]
  · rw [block_refused (by simp [begin, hbegins])]
    simp [hclosed, Settles, hbegins]

/-- A block that reports failure leaves what is committed as it was. -/
theorem block_failed (hclosed : connection.saved = none)
    (h : (connection.block faults body).1 = false) :
    (connection.block faults body).2.committed = connection.committed := by
  rcases hbegins : faults.begins with _ | _
  · have houtcome := block_begun body hbegins hclosed
    rw [committed_eq hclosed]
    generalize connection.block faults body = out at houtcome h ⊢
    generalize body connection.contents = ran at houtcome
    cases houtcome with
    | committed left => cases h
    | undone ran => rfl
    | unfinished ran => rfl
  · rw [block_refused (by simp [begin, hbegins])]

/-- One that reports success has committed what its body left. -/
theorem block_succeeded (hclosed : connection.saved = none)
    (h : (connection.block faults body).1 = true) :
    (body connection.contents).1 = true ∧
      (connection.block faults body).2 = { contents := (body connection.contents).2 } := by
  rcases hbegins : faults.begins with _ | _
  · have houtcome := block_begun body hbegins hclosed
    generalize connection.block faults body = out at houtcome h ⊢
    generalize body connection.contents = ran at houtcome ⊢
    cases houtcome with
    | committed left => exact ⟨rfl, rfl⟩
    | undone ran => cases h
    | unfinished ran => cases h
  · rw [block_refused (by simp [begin, hbegins])] at h
    cases h

end Connection

end Transactions
