import PageContext.Proofs.Template.Filling
import PageContext.Template.Resolution

/-!
# What resolving comes to

A template that can be classified is resolved unless the transforms of one of its directives crash.
A directive that does not crash comes to a result or to the cause for which it falls back.
-/

namespace PageContext

/-- The value of a directive with an outcome: its result, its default, or null. -/
def DirectiveNode.valueOf (node : DirectiveNode) : Except QueryError Json → Json
  | .ok value => value
  | .error _ => node.default.getD .null

namespace Resolver

variable {resolver : Resolver} {node : DirectiveNode} {value : Json} {template : Template}

/-! ## Outcomes of directives -/

theorem crashes_iff : resolver.crashes node = true ↔ resolver.outcome node = .error .crash := by
  rw [crashes]
  cases resolver.outcome node with
  | ok value => simp
  | error stop => cases stop <;> simp

theorem crashes_eq_false_iff :
    resolver.crashes node = false ↔ resolver.outcome node ≠ .error .crash := by
  rw [ne_eq, ← crashes_iff, Bool.not_eq_true]

/-- Nothing but transforms can crash. -/
theorem crashes_of_no_process (query : Json) (default : Option Json) :
    resolver.crashes ⟨query, [], default⟩ = false := by
  rw [crashes_eq_false_iff, outcome, outcomeOf]
  cases resolver.fetched ⟨query, [], default⟩ <;>
    simp [Transform.runChain, bind, Except.bind]

/-- A directive that does not crash has a result or fails. -/
theorem exists_outcome (survives : resolver.crashes node = false) :
    ∃ outcome : Except QueryError Json, resolver.outcome node = outcome.mapError .failure := by
  rw [crashes_eq_false_iff] at survives
  cases comes : resolver.outcome node with
  | ok value => exact ⟨.ok value, rfl⟩
  | error stop =>
      cases stop with
      | failure cause => exact ⟨.error cause, rfl⟩
      | crash => exact absurd comes survives

theorem value_eq_valueOf {outcome : Except QueryError Json}
    (comes : resolver.outcome node = outcome.mapError .failure) :
    resolver.value node = node.valueOf outcome := by
  rw [value, comes]
  cases outcome <;> rfl

theorem mapError_failure_injective {first second : Except QueryError Json}
    (same : first.mapError Stop.failure = second.mapError Stop.failure) : first = second := by
  cases first <;> cases second <;> simp_all

/-! ## Results of resolving -/

theorem resolve_of_classify (classified : Template.classify value = .ok template)
    (survives : ∀ node ∈ template.directives, resolver.crashes node = false) :
    resolver.resolve value = .ok {
      template := template
      value := template.fill resolver.value
      fallbacks := template.directives.filterMap resolver.fallback? } := by
  have noneCrashes : template.directives.any resolver.crashes = false := by
    simpa using survives
  simp [resolve, classified, noneCrashes, bind, Except.bind, pure, Except.pure]

theorem resolve_eq_crash (classified : Template.classify value = .ok template)
    (crashes : ∃ node ∈ template.directives, resolver.crashes node = true) :
    resolver.resolve value = .error .crash := by
  have someCrashes : template.directives.any resolver.crashes = true := by
    simpa using crashes
  simp [resolve, classified, someCrashes, bind, Except.bind, throw, throwThe, MonadExceptOf.throw]

theorem resolve_eq_crash_iff (classified : Template.classify value = .ok template) :
    resolver.resolve value = .error .crash ↔
      ∃ node ∈ template.directives, resolver.crashes node = true := by
  by_cases crashes : ∃ node ∈ template.directives, resolver.crashes node = true
  · exact iff_of_true (resolve_eq_crash classified crashes) crashes
  · refine iff_of_false ?_ crashes
    rw [resolve_of_classify classified (by simpa using crashes)]
    simp

theorem resolve_eq_failure_iff {cause : TemplateError} :
    resolver.resolve value = .error (.failure cause) ↔ Template.classify value = .error cause := by
  cases classified : Template.classify value with
  | error other => simp [resolve, classified, bind, Except.bind]
  | ok template =>
      by_cases crashes : ∃ node ∈ template.directives, resolver.crashes node = true
      · simp [resolve_eq_crash classified crashes]
      · simp [resolve_of_classify classified (by simpa using crashes)]

end Resolver

end PageContext
