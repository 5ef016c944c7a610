import Mathlib.Algebra.Order.BigOperators.Group.List
import Mathlib.Algebra.Order.Group.Nat
import PageContext.Proofs.Steps
import PageContext.Proofs.Template.Delays

/-!
# Resolving against a clock

All directives of a template are under way at the same time, and each call has a time limit of its
own, which begins with the call.  One task polls them all: while one node goes on, for instance
through its transforms, the clock goes on as well and nothing else is polled.  A directive that is
polled takes its reply if this has arrived, however late it is, and only otherwise notices that its
limit is over.

So a call that takes longer than its limit runs into it as long as it is polled between its limit and
its reply.  `PolledInTime` states this as an assumption.  It is all that is asked of the schedule, and
it can always be met.
-/

namespace PageContext

/-- How far the nodes of a template have come by a moment. -/
inductive Timed where
  /-- A directive that has not begun. -/
  | waiting (node : DirectiveNode)
  /-- A directive that has asked for its value and waits for it since a moment. -/
  | asked (node : DirectiveNode) (since : Nat)
  | joining (entries : List (String × Timed))
  | settled (value : Json)

/-- The outcomes of directives with their keys. -/
abbrev OutcomeLog := List (List String × Except QueryError Json)

def OutcomeLog.under (key : String) (outcomes : OutcomeLog) : OutcomeLog :=
  outcomes.map fun ended => (key :: ended.1, ended.2)

/-- How a directive ends that is polled at a moment.  Its reply is looked at before its limit, and its
transforms are run at once. -/
inductive Ends (resolver : Resolver) (now : Nat) (reply : Reply) (node : DirectiveNode) (since : Nat) :
    Except QueryError Json → Prop where
  | arrives {outcome : Except QueryError Json}
      (isThere : since + resolver.delay reply node ≤ now)
      (comes : ((resolver.limitedTo none).answeredBy reply).outcome node =
        outcome.mapError .failure) :
      Ends resolver now reply node since outcome
  | expires {most : Nat} (isLimit : resolver.limit = some most) (isOver : since + most ≤ now)
      (isMissing : now < since + resolver.delay reply node) :
      Ends resolver now reply node since (.error (.timedOut most))

namespace Timed

/-- What holds of a node whenever it holds of everything that it joins holds of every template. -/
theorem byNodes {motive : Timed → Prop} (waiting : ∀ node, motive (.waiting node))
    (asked : ∀ node since, motive (.asked node since))
    (joining : ∀ entries, (∀ entry ∈ entries, motive entry.2) → motive (.joining entries))
    (settled : ∀ value, motive (.settled value)) : ∀ timed, motive timed
  | .waiting node => waiting node
  | .asked node since => asked node since
  | .joining entries =>
      joining entries fun entry _ => byNodes waiting asked joining settled entry.2
  | .settled value => settled value
termination_by timed => sizeOf timed
decreasing_by
  rename_i member
  have smaller := List.sizeOf_lt_of_mem member
  rcases entry with ⟨key, timed⟩
  simp at smaller ⊢
  omega

mutual

/-- A template before anything has happened. -/
def start : Template → Timed
  | .directive node => .waiting node
  | .literal data => .settled data
  | .container entries => .joining (startEntries entries)
  | .sequence items => .settled (.array items)
  | .scalar data => .settled data

def startEntries : List (String × Template) → List (String × Timed)
  | [] => []
  | (key, template) :: rest => (key, start template) :: startEntries rest

end

theorem startEntries_eq_map (entries : List (String × Template)) :
    startEntries entries = entries.map fun entry => (entry.1, start entry.2) := by
  induction entries with
  | nil => rfl
  | cons entry rest hypothesis => simp [startEntries, hypothesis]

/-- One node goes on at a moment.  The replies belong to the keys of the directives, and the outcome
of a directive that ends is recorded. -/
inductive Step (resolver : Resolver) (now : Nat) :
    (List String → Reply) → Timed → OutcomeLog → Timed → Prop where
  | begin (replies : List String → Reply) (node : DirectiveNode) :
      Step resolver now replies (.waiting node) [] (.asked node now)
  | finish {replies : List String → Reply} {node : DirectiveNode} {since : Nat}
      {outcome : Except QueryError Json} (ends : Ends resolver now (replies []) node since outcome) :
      Step resolver now replies (.asked node since) [([], outcome)] (.settled (node.valueOf outcome))
  | join (replies : List String → Reply) (values : List (String × Json)) :
      Step resolver now replies (.joining (values.map fun entry => (entry.1, .settled entry.2))) []
        (.settled (.object values))
  | inside {replies : List String → Reply} {child next : Timed} {outcomes : OutcomeLog}
      (before : List (String × Timed)) (key : String) (after : List (String × Timed))
      (step : Step resolver now (fun keys => replies (key :: keys)) child outcomes next) :
      Step resolver now replies (.joining (before ++ (key, child) :: after)) (outcomes.under key)
        (.joining (before ++ (key, next) :: after))

/-- A node goes on, which may take the task any time, or the task waits for a moment. -/
inductive ClockStep (resolver : Resolver) (replies : List String → Reply) :
    Nat × Timed → OutcomeLog → Nat × Timed → Prop where
  | move {now : Nat} {first second : Timed} {outcomes : OutcomeLog} (spent : Nat)
      (step : Step resolver now replies first outcomes second) :
      ClockStep resolver replies (now, first) outcomes (now + spent, second)
  | pass (now : Nat) (timed : Timed) :
      ClockStep resolver replies (now, timed) [] (now + 1, timed)

/-- Any number of steps of the task. -/
abbrev Run (resolver : Resolver) (replies : List String → Reply) :
    Nat × Timed → OutcomeLog → Nat × Timed → Prop :=
  Steps (ClockStep resolver replies)

/-! ## What a step does to the directives -/

/-- A directive that has not ended, by its keys, with the moment at which it has asked. -/
abbrev Unfinished := List String × DirectiveNode × Option Nat

mutual

/-- The directives that have not ended, in document order. -/
def unfinished : Timed → List Unfinished
  | .waiting node => [([], node, none)]
  | .asked node since => [([], node, some since)]
  | .joining entries => unfinishedInEntries entries
  | .settled _ => []

def unfinishedInEntries : List (String × Timed) → List Unfinished
  | [] => []
  | (key, timed) :: rest =>
      (unfinished timed).map (fun found => (key :: found.1, found.2)) ++ unfinishedInEntries rest

end

variable {resolver : Resolver} {replies : List String → Reply} {now : Nat} {timed next : Timed}
  {outcomes : OutcomeLog}

theorem unfinishedInEntries_eq_flatMap (entries : List (String × Timed)) :
    unfinishedInEntries entries =
      entries.flatMap fun entry =>
        entry.2.unfinished.map fun found => (entry.1 :: found.1, found.2) := by
  induction entries with
  | nil => rfl
  | cons entry rest hypothesis => simp [unfinishedInEntries, hypothesis]

theorem mem_unfinished_joining {entries : List (String × Timed)} {found : Unfinished} :
    found ∈ (joining entries).unfinished ↔
      ∃ entry ∈ entries, ∃ inner ∈ entry.2.unfinished, found = (entry.1 :: inner.1, inner.2) := by
  simp only [unfinished, unfinishedInEntries_eq_flatMap, List.mem_flatMap, List.mem_map, eq_comm]

theorem unfinished_start (template : Template) :
    (start template).unfinished =
      template.located.map fun found => (found.1, found.2, none) := by
  induction template using Template.byNodes with
  | container entries hypothesis =>
      simp only [start, unfinished, startEntries_eq_map, unfinishedInEntries_eq_flatMap,
        Template.located, Template.locatedInEntries_eq_flatMap, List.flatMap_map, List.map_flatMap,
        List.map_map]
      apply List.flatMap_congr
      intro entry member
      simp [hypothesis entry member]
  | _ => rfl

/-- What one step does to the directives that have not ended: one of them asks, one of them ends, or
they stay as they are. -/
inductive Changes (resolver : Resolver) (now : Nat) (replies : List String → Reply) :
    List Unfinished → OutcomeLog → List Unfinished → Prop where
  | begins (before after : List Unfinished) (keys : List String) (node : DirectiveNode) :
      Changes resolver now replies (before ++ (keys, node, none) :: after) []
        (before ++ (keys, node, some now) :: after)
  | ends (before after : List Unfinished) {keys : List String} {node : DirectiveNode} {since : Nat}
      {outcome : Except QueryError Json}
      (ends : Ends resolver now (replies keys) node since outcome) :
      Changes resolver now replies (before ++ (keys, node, some since) :: after) [(keys, outcome)]
        (before ++ after)
  | stays (directives : List Unfinished) : Changes resolver now replies directives [] directives

theorem Changes.inside {first second : List Unfinished} {key : String}
    (changes : Changes resolver now (fun keys => replies (key :: keys)) first outcomes second)
    (before after : List Unfinished) :
    Changes resolver now replies
      (before ++ (first.map (fun found => (key :: found.1, found.2)) ++ after))
      (outcomes.under key)
      (before ++ (second.map (fun found => (key :: found.1, found.2)) ++ after)) := by
  cases changes with
  | begins front back keys node =>
      simpa [OutcomeLog.under] using Changes.begins
        (before ++ front.map fun found => (key :: found.1, found.2))
        (back.map (fun found => (key :: found.1, found.2)) ++ after) (key :: keys) node
  | @ends front back keys node since outcome ends =>
      let outerFront := before ++ front.map fun found => (key :: found.1, found.2)
      let outerBack := back.map (fun found => (key :: found.1, found.2)) ++ after
      have changes : Changes resolver now replies
          (outerFront ++ (key :: keys, node, some since) :: outerBack) [(key :: keys, outcome)]
          (outerFront ++ outerBack) := .ends outerFront outerBack ends
      simpa [OutcomeLog.under, outerFront, outerBack] using changes
  | stays => exact .stays _

theorem Step.changes (step : Step resolver now replies timed outcomes next) :
    Changes resolver now replies timed.unfinished outcomes next.unfinished := by
  induction step with
  | begin replies node => exact .begins [] [] [] node
  | finish ends => exact .ends [] [] ends
  | join replies values =>
      have noneLeft :
          (joining (values.map fun entry => (entry.1, .settled entry.2))).unfinished = [] := by
        simp [unfinished, unfinishedInEntries_eq_flatMap, List.flatMap_map]
      rw [noneLeft]
      exact .stays []
  | @inside replies child next outcomes before key after _ hypothesis =>
      simp only [unfinished, unfinishedInEntries_eq_flatMap, List.flatMap_append,
        List.flatMap_cons]
      exact hypothesis.inside _ _

/-! ## Polling in time -/

/-- A call that takes longer than its limit is not left alone until its reply: it has ended, or its
reply has not arrived. -/
def PolledInTime (resolver : Resolver) (replies : List String → Reply) (state : Nat × Timed) : Prop :=
  ∀ keys node since most, (keys, node, some since) ∈ state.2.unfinished →
    resolver.limit = some most → most < resolver.delay (replies keys) node →
    state.1 < since + resolver.delay (replies keys) node

/-- Any number of steps of a task that polls in time. -/
abbrev PromptRun (resolver : Resolver) (replies : List String → Reply) :
    Nat × Timed → OutcomeLog → Nat × Timed → Prop :=
  Steps fun first outcomes second =>
    ClockStep resolver replies first outcomes second ∧ PolledInTime resolver replies second

theorem PromptRun.run {first last : Nat × Timed}
    (run : PromptRun resolver replies first outcomes last) :
    Run resolver replies first outcomes last :=
  Steps.mono run fun step => step.1

theorem polledInTime_start (resolver : Resolver) (replies : List String → Reply) (now : Nat)
    (template : Template) : PolledInTime resolver replies (now, start template) := by
  intro keys node since most isUnfinished
  rw [unfinished_start] at isUnfinished
  simp at isUnfinished

theorem PromptRun.polledInTime {first last : Nat × Timed}
    (run : PromptRun resolver replies first outcomes last)
    (atFirst : PolledInTime resolver replies first) : PolledInTime resolver replies last :=
  Steps.invariant run (PolledInTime resolver replies) (fun step _ => step.2) atFirst

/-- A step that takes no time leaves nothing unnoticed. -/
theorem Step.polledInTime (step : Step resolver now replies timed outcomes next)
    (inTime : PolledInTime resolver replies (now, timed)) :
    PolledInTime resolver replies (now, next) := by
  intro keys node since most isUnfinished isLimit isLate
  have earlier := fun isOld => inTime keys node since most isOld isLimit isLate
  have changes := step.changes
  dsimp only at isUnfinished earlier ⊢
  generalize next.unfinished = second at changes isUnfinished
  generalize timed.unfinished = first at changes earlier
  cases changes with
  | begins before after otherKeys other =>
      simp only [List.mem_append, List.mem_cons, Prod.mk.injEq, Option.some.injEq] at isUnfinished
      rcases isUnfinished with inBefore | ⟨rfl, rfl, rfl⟩ | inAfter
      · exact earlier (List.mem_append_left _ inBefore)
      · omega
      · exact earlier (List.mem_append_right _ (List.mem_cons_of_mem _ inAfter))
  | ends before after ends =>
      rcases List.mem_append.mp isUnfinished with inBefore | inAfter
      · exact earlier (List.mem_append_left _ inBefore)
      · exact earlier (List.mem_append_right _ (List.mem_cons_of_mem _ inAfter))
  | stays => exact earlier isUnfinished

end Timed

end PageContext
