import Mathlib.Algebra.GroupWithZero.Nat
import PageContext.Proofs.Steps
import PageContext.Proofs.Template.Filling
import PageContext.Template.Resolution

/-!
# Resolving in any order

All directives of a template are under way at the same time.  The progress of a template is the tree
of its nodes, each as far as it has come.  A directive begins, which makes its call to the store if
it has one, and later it completes, with a value that the reply to this call determines.  A directive
that crashes on its reply does not complete.  A container is joined when everything in it is settled.
Any node that is able to go on may do so next, wherever it stands in the tree.

The steps are described by four quantities.  The eventual value never changes; the calls that are
left are those still to be made; of the directives that are left one settles at a time; the number of
steps that are left goes down with each step.
-/

namespace PageContext

/-- How far the nodes of a template have come. -/
inductive Progress where
  /-- A directive that has not begun. -/
  | waiting (node : DirectiveNode)
  /-- A directive whose reply has not arrived. -/
  | begun (node : DirectiveNode)
  | joining (entries : List (String × Progress))
  | settled (value : Json)

/-- Calls to the store with the keys of the directives that made them. -/
abbrev CallLog := List (List String × StoreCall)

def CallLog.under (key : String) (calls : CallLog) : CallLog :=
  calls.map fun made => (key :: made.1, made.2)

/-- A resolver to whose calls the store gives a certain reply. -/
def Resolver.answeredBy (resolver : Resolver) (reply : Reply) : Resolver :=
  { resolver with backend := fun _ => reply }

/-- The values of directives that get their replies by their keys. -/
def Resolver.valueAt (resolver : Resolver) (replies : List String → Reply) (keys : List String)
    (node : DirectiveNode) : Json :=
  (resolver.answeredBy (replies keys)).value node

/-- Whether directives that get their replies by their keys crash on them. -/
def Resolver.crashesAt (resolver : Resolver) (replies : List String → Reply) (keys : List String)
    (node : DirectiveNode) : Bool :=
  (resolver.answeredBy (replies keys)).crashes node

def Resolver.callLog (resolver : Resolver) (node : DirectiveNode) : CallLog :=
  (resolver.call? node).toList.map fun call => ([], call)

namespace Progress

/-- What holds of a node whenever it holds of everything that it joins holds of every progress. -/
theorem byNodes {motive : Progress → Prop} (waiting : ∀ node, motive (.waiting node))
    (begun : ∀ node, motive (.begun node))
    (joining : ∀ entries, (∀ entry ∈ entries, motive entry.2) → motive (.joining entries))
    (settled : ∀ value, motive (.settled value)) : ∀ progress, motive progress
  | .waiting node => waiting node
  | .begun node => begun node
  | .joining entries =>
      joining entries fun entry _ => byNodes waiting begun joining settled entry.2
  | .settled value => settled value
termination_by progress => sizeOf progress
decreasing_by
  rename_i member
  have smaller := List.sizeOf_lt_of_mem member
  rcases entry with ⟨key, progress⟩
  simp at smaller ⊢
  omega

mutual

/-- The progress of a template before anything has happened. -/
def start : Template → Progress
  | .directive node => .waiting node
  | .literal data => .settled data
  | .container entries => .joining (startEntries entries)
  | .sequence items => .settled (.array items)
  | .scalar data => .settled data

def startEntries : List (String × Template) → List (String × Progress)
  | [] => []
  | (key, template) :: rest => (key, start template) :: startEntries rest

end

/-- One node goes on.  The replies belong to the keys of the directives, and the calls that the step
makes are recorded. -/
inductive Step (resolver : Resolver) :
    (List String → Reply) → Progress → CallLog → Progress → Prop where
  | begin (replies : List String → Reply) (node : DirectiveNode) :
      Step resolver replies (.waiting node) (resolver.callLog node) (.begun node)
  | complete {replies : List String → Reply} {node : DirectiveNode}
      (survives : resolver.crashesAt replies [] node = false) :
      Step resolver replies (.begun node) [] (.settled (resolver.valueAt replies [] node))
  | join (replies : List String → Reply) (values : List (String × Json)) :
      Step resolver replies (.joining (values.map fun entry => (entry.1, .settled entry.2))) []
        (.settled (.object values))
  | inside {replies : List String → Reply} {child next : Progress} {calls : CallLog}
      (before : List (String × Progress)) (key : String) (after : List (String × Progress))
      (step : Step resolver (fun keys => replies (key :: keys)) child calls next) :
      Step resolver replies (.joining (before ++ (key, child) :: after)) (calls.under key)
        (.joining (before ++ (key, next) :: after))

/-- Any number of steps, with the calls in the order in which they were made. -/
abbrev Run (resolver : Resolver) (replies : List String → Reply) :
    Progress → CallLog → Progress → Prop :=
  Steps (Step resolver replies)

variable {resolver : Resolver} {replies : List String → Reply} {progress next : Progress}
  {calls : CallLog}

/-! ## The eventual value -/

mutual

/-- What becomes of a template once each directive that is not settled has its value. -/
def eventual (value : List String → DirectiveNode → Json) : Progress → Json
  | .waiting node => value [] node
  | .begun node => value [] node
  | .joining entries => .object (eventualEntries value entries)
  | .settled data => data

def eventualEntries (value : List String → DirectiveNode → Json) :
    List (String × Progress) → List (String × Json)
  | [] => []
  | (key, progress) :: rest =>
      (key, eventual (fun keys => value (key :: keys)) progress) :: eventualEntries value rest

end

theorem eventualEntries_eq_map (value : List String → DirectiveNode → Json)
    (entries : List (String × Progress)) :
    eventualEntries value entries =
      entries.map fun entry =>
        (entry.1, eventual (fun keys => value (entry.1 :: keys)) entry.2) := by
  induction entries with
  | nil => rfl
  | cons entry rest hypothesis => simp [eventualEntries, hypothesis]

theorem startEntries_eq_map (entries : List (String × Template)) :
    startEntries entries = entries.map fun entry => (entry.1, start entry.2) := by
  induction entries with
  | nil => rfl
  | cons entry rest hypothesis => simp [startEntries, hypothesis]

theorem eventual_start (value : List String → DirectiveNode → Json) (template : Template) :
    (start template).eventual value = template.fillAt value := by
  induction template using Template.byNodes generalizing value with
  | container entries hypothesis =>
      simp only [start, eventual, Template.fillAt, startEntries_eq_map, eventualEntries_eq_map,
        Template.fillEntriesAt_eq_map, List.map_map, Json.object.injEq]
      apply List.map_congr_left
      intro entry member
      simp [hypothesis entry member]
  | _ => rfl

/-- No step changes the eventual value. -/
theorem Step.eventual_eq
    (step : Step resolver replies progress calls next) :
    next.eventual (resolver.valueAt replies) = progress.eventual (resolver.valueAt replies) := by
  induction step with
  | begin replies node => rfl
  | complete survives => rfl
  | join replies values => simp [eventual, eventualEntries_eq_map, Function.comp_def]
  | @inside replies child next calls before key after _ hypothesis =>
      have shifted : (fun keys => resolver.valueAt replies (key :: keys)) =
          resolver.valueAt fun keys => replies (key :: keys) := rfl
      simp [eventual, eventualEntries_eq_map, shifted, hypothesis]

theorem Run.eventual_eq
    (run : Run resolver replies progress calls next) :
    next.eventual (resolver.valueAt replies) = progress.eventual (resolver.valueAt replies) := by
  induction run with
  | done progress => rfl
  | step step _ hypothesis => rw [hypothesis, step.eventual_eq]

/-! ## The calls that are left -/

mutual

/-- The calls that are still to be made, in document order. -/
def callsLeft (resolver : Resolver) : Progress → CallLog
  | .waiting node => resolver.callLog node
  | .begun _ => []
  | .joining entries => callsLeftInEntries resolver entries
  | .settled _ => []

def callsLeftInEntries (resolver : Resolver) : List (String × Progress) → CallLog
  | [] => []
  | (key, progress) :: rest =>
      (callsLeft resolver progress).under key ++ callsLeftInEntries resolver rest

end

theorem callsLeftInEntries_eq_flatMap (resolver : Resolver)
    (entries : List (String × Progress)) :
    callsLeftInEntries resolver entries =
      entries.flatMap fun entry => (entry.2.callsLeft resolver).under entry.1 := by
  induction entries with
  | nil => rfl
  | cons entry rest hypothesis => simp [callsLeftInEntries, hypothesis]

theorem callsLeft_start (resolver : Resolver) (template : Template) :
    (start template).callsLeft resolver = template.collect resolver.call? := by
  induction template using Template.byNodes with
  | directive node =>
      cases called : resolver.call? node <;>
        simp [start, callsLeft, Resolver.callLog, Template.collect, Template.located, called]
  | container entries hypothesis =>
      simp only [start, callsLeft, startEntries_eq_map, callsLeftInEntries_eq_flatMap,
        Template.collect, Template.located, Template.locatedInEntries_eq_flatMap,
        List.filterMap_flatMap, List.flatMap_map]
      apply List.flatMap_congr
      intro entry member
      rw [hypothesis entry member, CallLog.under, Template.collect, List.filterMap_map,
        List.map_filterMap]
      simp [Function.comp_def]
  | _ => rfl

/-- What goes first in one of three lists may go first in all of them. -/
theorem perm_append_of_perm {α : Type} {moved first second : List α} (before after : List α)
    (isPerm : first.Perm (moved ++ second)) :
    (before ++ (first ++ after)).Perm (moved ++ (before ++ (second ++ after))) := by
  refine ((isPerm.append_right after).append_left before).trans ?_
  rw [List.append_assoc]
  exact List.perm_append_comm_assoc _ _ _

/-- The calls of a step are no longer left after it. -/
theorem Step.callsLeft_perm
    (step : Step resolver replies progress calls next) :
    (progress.callsLeft resolver).Perm (calls ++ next.callsLeft resolver) := by
  induction step with
  | begin replies node => simp [callsLeft]
  | complete survives => simp [callsLeft]
  | join replies values =>
      simp only [callsLeft, callsLeftInEntries_eq_flatMap, List.flatMap_map]
      simp [CallLog.under]
  | @inside replies child next calls before key after _ hypothesis =>
      have inChild : ((child.callsLeft resolver).under key).Perm
          (calls.under key ++ (next.callsLeft resolver).under key) := by
        simpa [CallLog.under] using hypothesis.map fun made => (key :: made.1, made.2)
      simp only [callsLeft, callsLeftInEntries_eq_flatMap, List.flatMap_append,
        List.flatMap_cons]
      exact perm_append_of_perm _ _ inChild

theorem Run.callsLeft_perm
    (run : Run resolver replies progress calls next) :
    (progress.callsLeft resolver).Perm (calls ++ next.callsLeft resolver) := by
  induction run with
  | done progress => simp
  | step step _ hypothesis =>
      rw [List.append_assoc]
      exact step.callsLeft_perm.trans (hypothesis.append_left _)

/-! ## The directives that are left -/

mutual

/-- The directives that are not settled, with their keys. -/
def directivesLeft : Progress → List (List String × DirectiveNode)
  | .waiting node => [([], node)]
  | .begun node => [([], node)]
  | .joining entries => directivesLeftInEntries entries
  | .settled _ => []

def directivesLeftInEntries : List (String × Progress) → List (List String × DirectiveNode)
  | [] => []
  | (key, progress) :: rest =>
      (directivesLeft progress).map (fun found => (key :: found.1, found.2)) ++
        directivesLeftInEntries rest

end

theorem directivesLeftInEntries_eq_flatMap (entries : List (String × Progress)) :
    directivesLeftInEntries entries =
      entries.flatMap fun entry =>
        entry.2.directivesLeft.map fun found => (entry.1 :: found.1, found.2) := by
  induction entries with
  | nil => rfl
  | cons entry rest hypothesis => simp [directivesLeftInEntries, hypothesis]

theorem directivesLeft_start (template : Template) :
    (start template).directivesLeft = template.located := by
  induction template using Template.byNodes with
  | container entries hypothesis =>
      simp only [start, directivesLeft, startEntries_eq_map, directivesLeftInEntries_eq_flatMap,
        Template.located, Template.locatedInEntries_eq_flatMap, List.flatMap_map]
      apply List.flatMap_congr
      intro entry member
      rw [hypothesis entry member]
  | _ => rfl

/-- No directive that is left crashes on its reply. -/
def Survives (resolver : Resolver) (replies : List String → Reply) (progress : Progress) : Prop :=
  ∀ found ∈ progress.directivesLeft, resolver.crashesAt replies found.1 found.2 = false

theorem survives_joining_iff {entries : List (String × Progress)} :
    Survives resolver replies (.joining entries) ↔
      ∀ entry ∈ entries, Survives resolver (fun keys => replies (entry.1 :: keys)) entry.2 := by
  simp only [Survives, directivesLeft, directivesLeftInEntries_eq_flatMap, List.mem_flatMap,
    List.mem_map, Prod.forall]
  constructor
  · intro survives key child member keys node isLeft
    exact survives (key :: keys) node ⟨(key, child), member, (keys, node), isLeft, rfl⟩
  · rintro survives _ _ ⟨⟨key, child⟩, member, ⟨keys, node⟩, isLeft, ⟨⟩⟩
    exact survives key child member keys node isLeft

/-- No directive crashes after a step if none did before, since the one that settles did not. -/
theorem Step.survives_iff (step : Step resolver replies progress calls next) :
    Survives resolver replies progress ↔ Survives resolver replies next := by
  induction step with
  | begin replies node => exact Iff.rfl
  | @complete replies node survives => simp [Survives, directivesLeft, survives]
  | join replies values =>
      rw [survives_joining_iff, List.forall_mem_map]
      simp [Survives, directivesLeft]
  | inside before key after _ hypothesis =>
      simp only [survives_joining_iff, List.forall_mem_append, List.forall_mem_cons, hypothesis]

theorem Run.survives_iff (run : Run resolver replies progress calls next) :
    Survives resolver replies progress ↔ Survives resolver replies next := by
  induction run with
  | done progress => exact Iff.rfl
  | step step _ hypothesis => exact step.survives_iff.trans hypothesis

/-! ## The steps that are left -/

mutual

/-- The number of steps until a template is settled. -/
def stepsLeft : Progress → Nat
  | .waiting _ => 2
  | .begun _ => 1
  | .joining entries => stepsLeftInEntries entries + 1
  | .settled _ => 0

def stepsLeftInEntries : List (String × Progress) → Nat
  | [] => 0
  | (_, progress) :: rest => stepsLeft progress + stepsLeftInEntries rest

end

theorem stepsLeftInEntries_eq_sum (entries : List (String × Progress)) :
    stepsLeftInEntries entries = (entries.map fun entry => entry.2.stepsLeft).sum := by
  induction entries with
  | nil => rfl
  | cons entry rest hypothesis => simp [stepsLeftInEntries, hypothesis]

/-- Each step brings a template closer to its end. -/
theorem Step.stepsLeft_eq
    (step : Step resolver replies progress calls next) :
    progress.stepsLeft = next.stepsLeft + 1 := by
  induction step with
  | begin replies node => rfl
  | complete survives => rfl
  | join replies values => simp [stepsLeft, stepsLeftInEntries_eq_sum, Function.comp_def]
  | inside before key after _ hypothesis =>
      simp only [stepsLeft, stepsLeftInEntries_eq_sum, List.map_append, List.map_cons,
        List.sum_append, List.sum_cons, hypothesis]
      omega

/-- A template that is not settled can always go on, unless a directive crashes. -/
theorem settled_or_step (survives : Survives resolver replies progress) :
    (∃ value, progress = .settled value) ∨
      ∃ calls next, Step resolver replies progress calls next := by
  induction progress using byNodes generalizing replies with
  | waiting node => exact .inr ⟨_, _, .begin replies node⟩
  | begun node => exact .inr ⟨_, _, .complete (survives ([], node) (by simp [directivesLeft]))⟩
  | settled value => exact .inl ⟨value, rfl⟩
  | joining entries hypothesis =>
      right
      by_cases allSettled : ∀ entry ∈ entries, ∃ value, entry.2 = .settled value
      · rcases Entries.exists_map_of_forall allSettled with ⟨values, rfl⟩
        exact ⟨_, _, .join replies values⟩
      · push Not at allSettled
        rcases allSettled with ⟨⟨key, child⟩, member, unsettled⟩
        have survivesInside := survives_joining_iff.mp survives _ member
        rcases List.append_of_mem member with ⟨before, after, rfl⟩
        rcases hypothesis _ member survivesInside with ⟨value, settled⟩ | ⟨calls, next, step⟩
        · exact absurd settled (unsettled value)
        · exact ⟨_, _, .inside before key after step⟩

/-- Every run can be continued until the template is settled, unless a directive crashes. -/
theorem exists_run_settled (survives : Survives resolver replies progress) :
    ∃ calls value, Run resolver replies progress calls (.settled value) := by
  -- Each step leaves one step less, so the induction is on their number.
  induction left : progress.stepsLeft generalizing progress with
  | zero =>
      rcases settled_or_step survives with ⟨value, rfl⟩ | ⟨calls, next, step⟩
      · exact ⟨[], value, .done _⟩
      · have fewer := step.stepsLeft_eq
        omega
  | succ steps hypothesis =>
      rcases settled_or_step survives with ⟨value, rfl⟩ | ⟨calls, next, step⟩
      · exact ⟨[], value, .done _⟩
      · have fewer := step.stepsLeft_eq
        rcases hypothesis (step.survives_iff.mp survives) (by omega) with ⟨more, value, run⟩
        exact ⟨calls ++ more, value, .step step run⟩

/-! ## Runs to the end -/

/-- A template that is settled is filled with the values that the replies give its directives. -/
theorem Run.settled_eq_fillAt {template : Template} {value : Json}
    (run : Run resolver replies (start template) calls (.settled value)) :
    value = template.fillAt (resolver.valueAt replies) := by
  have same := run.eventual_eq
  rw [eventual_start] at same
  exact same

/-- A template can only be settled if no directive crashes. -/
theorem Run.settled_survives {template : Template} {value : Json}
    (run : Run resolver replies (start template) calls (.settled value)) :
    Survives resolver replies (start template) :=
  run.survives_iff.mpr (by simp [Survives, directivesLeft])

theorem Run.exists_settled {template : Template}
    (run : Run resolver replies (start template) calls progress)
    (survives : Survives resolver replies (start template)) :
    ∃ more, Run resolver replies progress more
      (.settled (template.fillAt (resolver.valueAt replies))) := by
  rcases exists_run_settled (run.survives_iff.mp survives) with ⟨more, value, rest⟩
  have isRun : Run resolver replies (start template) (calls ++ more) (.settled value) :=
    run.trans rest
  rw [← isRun.settled_eq_fillAt]
  exact ⟨more, rest⟩

/-- By the time a template is settled, the calls of all its directives have been made. -/
theorem Run.settled_calls_perm {template : Template} {value : Json}
    (run : Run resolver replies (start template) calls (.settled value)) :
    calls.Perm (template.collect resolver.call?) := by
  have left := run.callsLeft_perm
  rw [callsLeft_start] at left
  simpa [callsLeft] using left.symm

end Progress

end PageContext
