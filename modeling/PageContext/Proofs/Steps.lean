/-!
# Runs of steps

A system takes steps, each of which leaves notes.  A run is any number of steps, with the notes of
all of them in the order in which they were left.
-/

namespace PageContext

variable {State Note : Type} {Step Other : State → List Note → State → Prop}

/-- Any number of steps. -/
inductive Steps (Step : State → List Note → State → Prop) :
    State → List Note → State → Prop where
  | done (state : State) : Steps Step state [] state
  | step {first second third : State} {notes more : List Note} (step : Step first notes second)
      (rest : Steps Step second more third) : Steps Step first (notes ++ more) third

namespace Steps

theorem trans {first second third : State} {notes more : List Note}
    (run : Steps Step first notes second) (rest : Steps Step second more third) :
    Steps Step first (notes ++ more) third := by
  induction run with
  | done state => exact rest
  | step step _ hypothesis =>
      rw [List.append_assoc]
      exact .step step (hypothesis rest)

/-- A run whose steps are also steps of another kind is a run of that kind. -/
theorem mono {first last : State} {notes : List Note} (run : Steps Step first notes last)
    (isOther : ∀ {first notes second}, Step first notes second → Other first notes second) :
    Steps Other first notes last := by
  induction run with
  | done state => exact .done state
  | step step _ hypothesis => exact .step (isOther step) hypothesis

/-- What holds at first and is kept by every step holds after a run. -/
theorem invariant {first last : State} {notes : List Note} (run : Steps Step first notes last)
    (property : State → Prop)
    (kept : ∀ {first notes second}, Step first notes second → property first → property second)
    (atFirst : property first) : property last := by
  induction run with
  | done state => exact atFirst
  | step step _ hypothesis => exact hypothesis (kept step atFirst)

end Steps

end PageContext
