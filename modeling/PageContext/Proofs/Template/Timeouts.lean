import PageContext.Proofs.Template.Outcomes

/-!
# Time limits are those of single directives

Each directive of a template comes to an outcome that its own node and its own reply determine.  It
runs into the limit exactly when its own reply takes longer, whatever goes on beside it, and under a
looser limit nothing changes but for the directives that ran into the tighter one.

All of this holds of a task that polls in time.  A task that is kept from polling by the transforms of
one directive may find the reply of another one behind its limit, and takes it.
-/

namespace PageContext

namespace Timed

/-- A template becomes settled, from any moment on. -/
def Completes (resolver : Resolver) (replies : List String → Reply) (template : Template)
    (outcomes : OutcomeLog) (value : Json) : Prop :=
  ∃ beginning last, Run resolver replies (beginning, start template) outcomes (last, .settled value)

/-- A template becomes settled by a task that polls in time. -/
def CompletesPromptly (resolver : Resolver) (replies : List String → Reply) (template : Template)
    (outcomes : OutcomeLog) (value : Json) : Prop :=
  ∃ beginning last,
    PromptRun resolver replies (beginning, start template) outcomes (last, .settled value)

section

variable {resolver : Resolver} {replies : List String → Reply} {template : Json}
  {classified : Template} {outcomes : OutcomeLog} {value : Json} {keys : List String}
  {outcome : Except QueryError Json} {property : OutcomeProperty}

theorem CompletesPromptly.completes
    (completes : CompletesPromptly resolver replies classified outcomes value) :
    Completes resolver replies classified outcomes value := by
  rcases completes with ⟨beginning, last, run⟩
  exact ⟨beginning, last, run.run⟩

theorem Completes.ended (completes : Completes resolver replies classified outcomes value) :
    Ended (fun keys => MayComeTo resolver (replies keys)) (start classified) outcomes
      (.settled value) := by
  rcases completes with ⟨beginning, last, run⟩
  exact run.ended

theorem CompletesPromptly.ended
    (completes : CompletesPromptly resolver replies classified outcomes value) :
    Ended (fun keys => ComesTo resolver (replies keys)) (start classified) outcomes
      (.settled value) := by
  rcases completes with ⟨beginning, last, run⟩
  exact run.ended (polledInTime_start resolver replies beginning classified)

section

variable {beginning : Nat} {state : Nat × Timed} {node : DirectiveNode} {asked : Option Nat}

/-- What has not ended is a directive of the template. -/
theorem Run.hasDirective (distinct : template.HasDistinctKeys)
    (classifies : Template.Classifies template classified)
    (run : Run resolver replies (beginning, start classified) outcomes state)
    (isUnfinished : (keys, node, asked) ∈ state.2.unfinished) :
    Template.HasDirective template keys node := by
  rcases run.ended with ⟨ended, isPerm, _⟩
  have isLeft : (keys, node) ∈ state.2.directives := List.mem_map.mpr ⟨_, isUnfinished, rfl⟩
  have isDirective := isPerm.mem_iff.mpr (List.mem_append_right ended isLeft)
  rw [directives_start] at isDirective
  exact (classifies.mem_located_iff distinct).mp isDirective

/-- Where no reply makes a directive crash, none is left that crashes. -/
theorem Run.survives (distinct : template.HasDistinctKeys)
    (classifies : Template.Classifies template classified)
    (run : Run resolver replies (beginning, start classified) outcomes state)
    (noneCrashes : (resolver.limitedTo none).NoneCrashes replies template) :
    Survives resolver replies state := by
  intro keys node asked isUnfinished crashes
  have survives := noneCrashes keys node (run.hasDirective distinct classifies isUnfinished)
  rw [Resolver.crashesAt, crashes] at survives
  contradiction

/-- A task that polls in time leaves no directive that crashes if none does so within its limit. -/
theorem PromptRun.survives (distinct : template.HasDistinctKeys)
    (classifies : Template.Classifies template classified)
    (run : PromptRun resolver replies (beginning, start classified) outcomes state)
    (noneCrashes : resolver.NoneCrashes replies template) : Survives resolver replies state := by
  intro keys node asked isUnfinished crashes
  have survives := noneCrashes keys node (run.run.hasDirective distinct classifies isUnfinished)
  rw [Resolver.crashesAt, Resolver.crashes_eq_false_iff] at survives
  by_cases late : ∃ most, resolver.limit = some most ∧ most < resolver.delay (replies keys) node
  · rcases late with ⟨most, isLimit, isLate⟩
    refine ⟨most, isLimit, isLate, ?_⟩
    rintro since ⟨⟩
    exact run.polledInTime (polledInTime_start resolver replies beginning classified) keys node since
      most isUnfinished isLimit isLate
  · have inTime : ∀ most, resolver.limit = some most →
        resolver.delay (replies keys) node ≤ most :=
      fun most isLimit => Nat.le_of_not_lt fun isLate => late ⟨most, isLimit, isLate⟩
    rw [Resolver.outcome_of_delay_le inTime] at survives
    exact absurd (Resolver.crashes_iff.mp crashes) survives

end

end

end Timed

namespace Resolver

open Timed

end Resolver

end PageContext
