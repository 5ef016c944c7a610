/-!
# Computations that stop

A computation without a result has failed or crashed.  A failure is a value like any other and can be
dealt with, for instance by a default.  A crash cannot: the program ends on the spot, and nothing that
was under way comes to an end.
-/

namespace PageContext

/-- Why a computation has no result. -/
inductive Stop (ε : Type) where
  | failure (cause : ε)
  | crash
deriving DecidableEq, Repr, Inhabited

namespace Stop

variable {ε δ : Type} {outside : ε → δ} {stop : Stop ε}

/-- The failure seen from outside; a crash stays a crash. -/
def map (outside : ε → δ) : Stop ε → Stop δ
  | failure cause => failure (outside cause)
  | crash => crash

theorem map_eq_failure_iff {cause : δ} :
    stop.map outside = failure cause ↔ ∃ inner, stop = failure inner ∧ outside inner = cause := by
  cases stop <;> simp [map]

end Stop

end PageContext
