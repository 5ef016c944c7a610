import PageContext.Proofs.Template.Schedules

/-!
# Replies that take their time

Only a call to the store takes time, and only the delay of its own reply decides whether a directive
runs into its limit.  Under a limit that the reply keeps, a directive comes to what it comes to
without any limit.
-/

namespace PageContext

theorem Reply.within_eq_timedOut_iff {reply : Reply} {limit : Option Nat} {most : Nat} :
    reply.within limit = .error (.timedOut most) ↔ limit = some most ∧ most < reply.delay := by
  have noStore : reply.result.mapError QueryError.store ≠ .error (.timedOut most) := by
    intro failed
    rcases Except.mapError_eq_error_iff.mp failed with ⟨_, _, impossible⟩
    cases impossible
  cases limit with
  | none => simpa [within] using noStore
  | some milliseconds =>
      by_cases late : milliseconds < reply.delay
      · simp only [within, if_pos late, Except.error.injEq, QueryError.timedOut.injEq,
          Option.some.injEq]
        constructor
        · rintro rfl
          exact ⟨rfl, late⟩
        · exact And.left
      · simp only [within, if_neg late, noStore, Option.some.injEq, false_iff]
        rintro ⟨rfl, isLate⟩
        exact late isLate

namespace Resolver

/-- The milliseconds until the reply to a directive; without a call there is nothing to wait for. -/
def delay (resolver : Resolver) (reply : Reply) (node : DirectiveNode) : Nat :=
  if (resolver.call? node).isSome then reply.delay else 0

/-- The milliseconds that a directive waits: until its reply, or its limit if this comes first. -/
def patience (resolver : Resolver) (reply : Reply) (node : DirectiveNode) : Nat :=
  match resolver.limit with
  | none => resolver.delay reply node
  | some most => min most (resolver.delay reply node)

def limitedTo (resolver : Resolver) (limit : Option Nat) : Resolver :=
  { resolver with limit := limit }

variable {resolver : Resolver} {reply : Reply} {node : DirectiveNode} {most : Nat}

theorem lt_delay_iff :
    most < resolver.delay reply node ↔
      (∃ call, resolver.call? node = some call) ∧ most < reply.delay := by
  rw [← Option.isSome_iff_exists, delay]
  split <;> simp_all

theorem fetched_of_call {call : StoreCall} (called : resolver.call? node = some call) :
    (resolver.answeredBy reply).fetched node =
      (reply.within resolver.limit).map Envelope.unwrap := by
  have isRoute : (resolver.answeredBy reply).route node = .ok (.call call) :=
    call?_eq_some_iff.mp called
  rw [fetched, isRoute]
  rfl

/-- Without a call, the store and the limit play no part. -/
theorem fetched_of_no_call (noCall : resolver.call? node = none) :
    (resolver.answeredBy reply).fetched node =
      ((resolver.limitedTo none).answeredBy reply).fetched node := by
  have sameRoute (other : Resolver) (reply : Reply) :
      (other.answeredBy reply).route node = other.route node := rfl
  have unlimitedRoute : (resolver.limitedTo none).route node = resolver.route node := rfl
  rw [fetched, fetched, sameRoute, sameRoute, unlimitedRoute]
  cases routed : resolver.route node with
  | error cause => rfl
  | ok route =>
      cases route with
      | timeline range => rfl
      | call call => simp [call?_eq_some_iff.mpr routed] at noCall

theorem route_ne_timedOut : resolver.route node ≠ .error (.timedOut most) := by
  intro failed
  rcases Except.bind_eq_error_iff.mp failed with noRequest | ⟨request, _, noRoute⟩
  · rw [request] at noRequest
    split at noRequest
    · next text _ =>
      cases parsed : Query.parse? text <;>
        simp [Request.ofDirective, Query.parse, parsed, Except.map] at noRequest
    · simp at noRequest
  · have leads := noRoute ▸ Request.leadsTo_route resolver.frame request
    cases leads

theorem fetched_of_no_call_ne_timedOut (noCall : resolver.call? node = none) :
    (resolver.answeredBy reply).fetched node ≠ .error (.timedOut most) := by
  have sameRoute : (resolver.answeredBy reply).route node = resolver.route node := rfl
  rw [fetched, sameRoute]
  intro failed
  rcases Except.bind_eq_error_iff.mp failed with noRoute | ⟨route, routed, notFollowed⟩
  · exact route_ne_timedOut noRoute
  · cases route with
    | timeline range => cases notFollowed
    | call call => simp [call?_eq_some_iff.mpr routed] at noCall

/-- A reply that keeps the limit is taken as it would be without one. -/
theorem fetched_of_delay_le
    (inTime : ∀ most, resolver.limit = some most → resolver.delay reply node ≤ most) :
    (resolver.answeredBy reply).fetched node =
      ((resolver.limitedTo none).answeredBy reply).fetched node := by
  cases called : resolver.call? node with
  | none => exact fetched_of_no_call called
  | some call =>
      have unlimitedCalled : (resolver.limitedTo none).call? node = some call := called
      have isDelay : resolver.delay reply node = reply.delay := by simp [delay, called]
      rw [fetched_of_call called, fetched_of_call unlimitedCalled]
      cases isLimit : resolver.limit with
      | none => rfl
      | some most =>
          have notLate : ¬most < reply.delay := Nat.not_lt.mpr (isDelay ▸ inTime most isLimit)
          simp only [Reply.within, if_neg notLate, limitedTo]

theorem fetched_eq_timedOut_iff :
    (resolver.answeredBy reply).fetched node = .error (.timedOut most) ↔
      resolver.limit = some most ∧ most < resolver.delay reply node := by
  rw [lt_delay_iff]
  cases called : resolver.call? node with
  | none => simp [fetched_of_no_call_ne_timedOut called]
  | some call =>
      rw [fetched_of_call called, ← Except.cause?_eq_some_iff, Except.cause?_map,
        Except.cause?_eq_some_iff, Reply.within_eq_timedOut_iff]
      simp

theorem outcomeOf_eq_timedOut_iff {fetched : Except QueryError Json} :
    resolver.outcomeOf node fetched = .error (.failure (.timedOut most)) ↔
      fetched = .error (.timedOut most) := by
  rw [outcomeOf, Except.bind_eq_error_iff]
  constructor
  · rintro (failed | ⟨value, _, notTransformed⟩)
    · simpa [Except.mapError_eq_error_iff] using failed
    · rcases Except.mapError_eq_error_iff.mp notTransformed with ⟨stop, _, same⟩
      cases stop <;> cases same
  · rintro rfl
    exact .inl rfl

/-- A directive runs into its limit exactly when the reply to its own call takes longer. -/
theorem outcome_eq_timedOut_iff :
    (resolver.answeredBy reply).outcome node = .error (.failure (.timedOut most)) ↔
      resolver.limit = some most ∧ most < resolver.delay reply node := by
  rw [outcome, outcomeOf_eq_timedOut_iff, fetched_eq_timedOut_iff]

/-- A reply that keeps the limit leads to what it leads to without one. -/
theorem outcome_of_delay_le
    (inTime : ∀ most, resolver.limit = some most → resolver.delay reply node ≤ most) :
    (resolver.answeredBy reply).outcome node =
      ((resolver.limitedTo none).answeredBy reply).outcome node :=
  congrArg (resolver.outcomeOf node) (fetched_of_delay_le inTime)

end Resolver

end PageContext
