import PageContext.Proofs.Template.Clock

/-!
# Polling to the end

Every run can be continued until the template is settled, unless a directive crashes before that.  The
schedule that shows it spends no time on anything and waits only when nothing is due; it also polls in
time.  In it nobody waits longer than for the own reply or the own limit.
-/

namespace PageContext.Timed

variable {resolver : Resolver} {replies : List String → Reply} {now : Nat} {timed next : Timed}
  {outcomes : OutcomeLog}

/-- Nothing that is waited for is due at a moment. -/
def Idle (resolver : Resolver) (replies : List String → Reply) (state : Nat × Timed) : Prop :=
  ∀ keys node since, (keys, node, some since) ∈ state.2.unfinished →
    state.1 < since + resolver.patience (replies keys) node

/-- A node goes on in no time, or the task waits because nothing is due. -/
inductive EagerStep (resolver : Resolver) (replies : List String → Reply) :
    Nat × Timed → OutcomeLog → Nat × Timed → Prop where
  | move {now : Nat} {first second : Timed} {outcomes : OutcomeLog}
      (step : Step resolver now replies first outcomes second) :
      EagerStep resolver replies (now, first) outcomes (now, second)
  | pass {now : Nat} {timed : Timed} (idle : Idle resolver replies (now, timed)) :
      EagerStep resolver replies (now, timed) [] (now + 1, timed)

theorem EagerStep.polledInTime {first second : Nat × Timed}
    (step : EagerStep resolver replies first outcomes second)
    (inTime : PolledInTime resolver replies first) : PolledInTime resolver replies second := by
  cases step with
  | move step => exact step.polledInTime inTime
  | pass idle =>
      intro keys node since most isUnfinished isLimit isLate
      have early := idle keys node since isUnfinished
      simp only [Resolver.patience, isLimit] at early ⊢
      omega

/-! ## Directives that do not crash -/

/-- A directive that would crash on its reply runs into its limit before that. -/
def Survives (resolver : Resolver) (replies : List String → Reply) (state : Nat × Timed) : Prop :=
  ∀ keys node asked, (keys, node, asked) ∈ state.2.unfinished →
    ((resolver.limitedTo none).answeredBy (replies keys)).crashes node = true →
    ∃ most, resolver.limit = some most ∧ most < resolver.delay (replies keys) node ∧
      ∀ since ∈ asked, state.1 < since + resolver.delay (replies keys) node

theorem survives_joining_iff {entries : List (String × Timed)} :
    Survives resolver replies (now, .joining entries) ↔
      ∀ entry ∈ entries,
        Survives resolver (fun keys => replies (entry.1 :: keys)) (now, entry.2) := by
  simp only [Survives, mem_unfinished_joining]
  constructor
  · intro survives entry member keys node asked isUnfinished
    exact survives (entry.1 :: keys) node asked ⟨entry, member, _, isUnfinished, rfl⟩
  · rintro survives _ node asked ⟨entry, member, ⟨keys, _, _⟩, isUnfinished, ⟨⟩⟩
    exact survives entry member keys node asked isUnfinished

theorem Step.survives (step : Step resolver now replies timed outcomes next)
    (survives : Survives resolver replies (now, timed)) :
    Survives resolver replies (now, next) := by
  intro keys node asked isUnfinished crashes
  have earlier := fun asked isOld => survives keys node asked isOld crashes
  have changes := step.changes
  dsimp only at isUnfinished earlier ⊢
  generalize next.unfinished = second at changes isUnfinished
  generalize timed.unfinished = first at changes earlier
  cases changes with
  | begins before after otherKeys other =>
      simp only [List.mem_append, List.mem_cons, Prod.mk.injEq] at isUnfinished
      rcases isUnfinished with inBefore | ⟨rfl, rfl, rfl⟩ | inAfter
      · exact earlier asked (List.mem_append_left _ inBefore)
      · rcases earlier none (by simp) with ⟨most, isLimit, isLate, _⟩
        refine ⟨most, isLimit, isLate, ?_⟩
        rintro _ ⟨⟩
        omega
      · exact earlier asked (List.mem_append_right _ (List.mem_cons_of_mem _ inAfter))
  | ends before after ends =>
      rcases List.mem_append.mp isUnfinished with inBefore | inAfter
      · exact earlier asked (List.mem_append_left _ inBefore)
      · exact earlier asked (List.mem_append_right _ (List.mem_cons_of_mem _ inAfter))
  | stays => exact earlier asked isUnfinished

theorem EagerStep.survives {first second : Nat × Timed}
    (step : EagerStep resolver replies first outcomes second)
    (survives : Survives resolver replies first) : Survives resolver replies second := by
  cases step with
  | move step => exact step.survives survives
  | pass idle =>
      intro keys node asked isUnfinished crashes
      rcases survives keys node asked isUnfinished crashes with ⟨most, isLimit, isLate, _⟩
      refine ⟨most, isLimit, isLate, ?_⟩
      rintro since ⟨⟩
      have early := idle keys node since isUnfinished
      simp only [Resolver.patience, isLimit] at early ⊢
      omega

/-! ## The way that is left -/

mutual

/-- The steps until a template is settled and the moments for which it has to wait on the way. -/
def wayLeft (resolver : Resolver) (now : Nat) (replies : List String → Reply) : Timed → Nat
  | .waiting node => resolver.patience (replies []) node + 2
  | .asked node since => since + resolver.patience (replies []) node - now + 1
  | .joining entries => wayLeftInEntries resolver now replies entries + 1
  | .settled _ => 0

def wayLeftInEntries (resolver : Resolver) (now : Nat) (replies : List String → Reply) :
    List (String × Timed) → Nat
  | [] => 0
  | (key, timed) :: rest =>
      wayLeft resolver now (fun keys => replies (key :: keys)) timed +
        wayLeftInEntries resolver now replies rest

end

end PageContext.Timed
