import PageContext.Proofs.Template.Polling

/-!
# Outcomes of directives

Each directive of a template ends once, and its value stands at its keys when the template is settled.
Whatever the task does in between, a directive runs into its limit only if its own reply takes longer,
and comes otherwise to what it comes to without a limit.  If the task polls in time, nothing is left
to chance: the node and its reply determine the outcome.
-/

namespace PageContext

/-! ## What a directive comes to -/

section

/-- What a directive may come to: it runs into its limit, which its reply exceeds, or it comes to what
its reply makes of it without a limit. -/
inductive MayComeTo (resolver : Resolver) (reply : Reply) (node : DirectiveNode) :
    Except QueryError Json → Prop where
  | limit {most : Nat} (isLimit : resolver.limit = some most)
      (isLate : most < resolver.delay reply node) :
      MayComeTo resolver reply node (.error (.timedOut most))
  | reply {outcome : Except QueryError Json}
      (comes : ((resolver.limitedTo none).answeredBy reply).outcome node =
        outcome.mapError .failure) :
      MayComeTo resolver reply node outcome

/-- What a directive comes to that takes its reply or notices its limit, whichever is first. -/
def ComesTo (resolver : Resolver) (reply : Reply) (node : DirectiveNode)
    (outcome : Except QueryError Json) : Prop :=
  (resolver.answeredBy reply).outcome node = outcome.mapError .failure

variable {resolver : Resolver} {now : Nat} {reply : Reply} {node : DirectiveNode} {since most : Nat}
  {outcome other : Except QueryError Json}

theorem Ends.mayComeTo (ends : Ends resolver now reply node since outcome) :
    MayComeTo resolver reply node outcome := by
  cases ends with
  | arrives isThere comes => exact .reply comes
  | expires isLimit isOver isMissing => exact .limit isLimit (by omega)

/-- A late call that is polled in time runs into its limit. -/
theorem Ends.comesTo (ends : Ends resolver now reply node since outcome)
    (inTime : ∀ most, resolver.limit = some most → most < resolver.delay reply node →
      now < since + resolver.delay reply node) :
    ComesTo resolver reply node outcome := by
  cases ends with
  | arrives isThere comes =>
      rw [ComesTo, Resolver.outcome_of_delay_le, comes]
      intro most isLimit
      have notLate := mt (inTime most isLimit)
      omega
  | expires isLimit isOver isMissing =>
      exact Resolver.outcome_eq_timedOut_iff.mpr ⟨isLimit, by omega⟩

theorem ComesTo.unique (comes : ComesTo resolver reply node outcome)
    (otherComes : ComesTo resolver reply node other) : outcome = other :=
  Resolver.mapError_failure_injective (comes.symm.trans otherComes)

end

namespace Timed

variable {resolver : Resolver} {replies : List String → Reply} {now : Nat} {timed next : Timed}
  {outcomes : OutcomeLog}

/-! ## Directives that end -/

/-- The directives that have not ended, with their keys. -/
def directives (timed : Timed) : List (List String × DirectiveNode) :=
  timed.unfinished.map fun found => (found.1, found.2.1)

/-- What the outcomes of directives are like. -/
abbrev OutcomeProperty := List String → DirectiveNode → Except QueryError Json → Prop

/-- Between two states some directives have ended, each with an outcome of its own. -/
def Ended (property : OutcomeProperty) (first : Timed) (outcomes : OutcomeLog) (last : Timed) : Prop :=
  ∃ ended, first.directives.Perm (ended ++ last.directives) ∧
    List.Forall₂ (fun found outcome => found.1 = outcome.1 ∧ property found.1 found.2 outcome.2)
      ended outcomes

theorem Ended.trans {property : OutcomeProperty} {first second last : Timed} {more : OutcomeLog}
    (ended : Ended property first outcomes second) (rest : Ended property second more last) :
    Ended property first (outcomes ++ more) last := by
  rcases ended with ⟨firstEnded, isPerm, areOutcomes⟩
  rcases rest with ⟨laterEnded, isLaterPerm, areLaterOutcomes⟩
  refine ⟨firstEnded ++ laterEnded, ?_, List.rel_append areOutcomes areLaterOutcomes⟩
  rw [List.append_assoc]
  exact isPerm.trans (isLaterPerm.append_left firstEnded)

/-- A directive that ends in a step does so at its own moment and by its own reply. -/
theorem Step.ended {property : OutcomeProperty}
    (step : Step resolver now replies timed outcomes next)
    (each : ∀ keys node since outcome, (keys, node, some since) ∈ timed.unfinished →
      Ends resolver now (replies keys) node since outcome → property keys node outcome) :
    Ended property timed outcomes next := by
  have changes := step.changes
  rw [Ended, directives, directives]
  generalize next.unfinished = second at changes
  generalize timed.unfinished = first at changes each
  cases changes with
  | begins before after keys node => exact ⟨[], by simp, .nil⟩
  | @ends before after keys node since outcome ends =>
      refine ⟨[(keys, node)], ?_, .cons ⟨rfl, each keys node since outcome (by simp) ends⟩ .nil⟩
      simp only [List.map_append, List.map_cons, List.singleton_append]
      exact List.perm_middle
  | stays => exact ⟨[], by simp, .nil⟩

theorem Run.ended {first last : Nat × Timed} (run : Run resolver replies first outcomes last) :
    Ended (fun keys => MayComeTo resolver (replies keys)) first.2 outcomes last.2 := by
  induction run with
  | done state => exact ⟨[], by simp, .nil⟩
  | step step _ hypothesis =>
      refine Ended.trans ?_ hypothesis
      cases step with
      | move spent step => exact step.ended fun _ _ _ _ _ ends => ends.mayComeTo
      | pass now timed => exact ⟨[], by simp, .nil⟩

theorem PromptRun.ended {first last : Nat × Timed}
    (run : PromptRun resolver replies first outcomes last)
    (atFirst : PolledInTime resolver replies first) :
    Ended (fun keys => ComesTo resolver (replies keys)) first.2 outcomes last.2 := by
  induction run with
  | done state => exact ⟨[], by simp, .nil⟩
  | step step _ hypothesis =>
      rcases step with ⟨step, inTime⟩
      refine Ended.trans ?_ (hypothesis inTime)
      cases step with
      | move spent step =>
          refine step.ended fun keys node since outcome isUnfinished ends => ends.comesTo ?_
          exact fun most => atFirst keys node since most isUnfinished
      | pass now timed => exact ⟨[], by simp, .nil⟩

theorem directives_start (template : Template) : (start template).directives = template.located := by
  rw [directives, unfinished_start, List.map_map]
  exact List.map_id _

mutual

/-- What becomes of a template once each directive that has not ended has its value. -/
def eventual (value : List String → DirectiveNode → Json) : Timed → Json
  | .waiting node => value [] node
  | .asked node _ => value [] node
  | .joining entries => .object (eventualEntries value entries)
  | .settled data => data

def eventualEntries (value : List String → DirectiveNode → Json) :
    List (String × Timed) → List (String × Json)
  | [] => []
  | (key, timed) :: rest =>
      (key, eventual (fun keys => value (key :: keys)) timed) :: eventualEntries value rest

end

theorem eventualEntries_eq_map (value : List String → DirectiveNode → Json)
    (entries : List (String × Timed)) :
    eventualEntries value entries =
      entries.map fun entry =>
        (entry.1, eventual (fun keys => value (entry.1 :: keys)) entry.2) := by
  induction entries with
  | nil => rfl
  | cons entry rest hypothesis => simp [eventualEntries, hypothesis]

theorem eventual_start (value : List String → DirectiveNode → Json) (template : Template) :
    (start template).eventual value = template.fillAt value := by
  induction template using Template.byNodes generalizing value with
  | container entries hypothesis =>
      simp only [start, eventual, Template.fillAt, startEntries_eq_map, eventualEntries_eq_map,
        Template.fillEntriesAt_eq_map, List.map_map, Json.object.injEq]
      apply List.map_congr_left
      intro entry member
      simp [hypothesis entry member]
  | _ => rfl

/-- The values of directives whose outcomes are given by their keys. -/
def valueOf (comes : List String → Except QueryError Json) (keys : List String)
    (node : DirectiveNode) : Json :=
  node.valueOf (comes keys)

/-- A step does not change the eventual value if the outcomes that it records are the given ones. -/
theorem Step.eventual_eq {comes : List String → Except QueryError Json}
    (step : Step resolver now replies timed outcomes next)
    (agrees : ∀ ended ∈ outcomes, comes ended.1 = ended.2) :
    next.eventual (valueOf comes) = timed.eventual (valueOf comes) := by
  induction step generalizing comes with
  | begin replies node => rfl
  | finish ends =>
      have isOutcome : comes [] = _ := agrees _ (List.mem_singleton_self _)
      simp [eventual, valueOf, isOutcome]
  | join replies values => simp [eventual, eventualEntries_eq_map, Function.comp_def]
  | @inside replies child next outcomes before key after _ hypothesis =>
      have shifted : (fun keys => valueOf comes (key :: keys)) =
          valueOf fun keys => comes (key :: keys) := rfl
      have below := @hypothesis (fun keys => comes (key :: keys)) <| by
        intro ended member
        exact agrees (key :: ended.1, ended.2) (List.mem_map_of_mem member)
      simp [eventual, eventualEntries_eq_map, shifted, below]

theorem Run.eventual_eq {comes : List String → Except QueryError Json} {first last : Nat × Timed}
    (run : Run resolver replies first outcomes last)
    (agrees : ∀ ended ∈ outcomes, comes ended.1 = ended.2) :
    last.2.eventual (valueOf comes) = first.2.eventual (valueOf comes) := by
  induction run with
  | done state => rfl
  | step step _ hypothesis =>
      rw [hypothesis fun ended member => agrees ended (List.mem_append_right _ member)]
      cases step with
      | move spent step =>
          exact step.eventual_eq fun ended member => agrees ended (List.mem_append_left _ member)
      | pass now timed => rfl

end Timed

end PageContext
