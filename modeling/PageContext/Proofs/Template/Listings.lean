import PageContext.Proofs.Params.Limits
import PageContext.Proofs.Query.RoundTrip
import PageContext.Proofs.Store.Listings
import PageContext.Proofs.Template.Pointwise
import PageContext.Proofs.Template.Schedules

/-!
# Limits of resolved listings

A directive lists records of a store, and its line as well as its caller may set a limit.  However
many stages the list passes through, the limits do nothing but cut it off: what is resolved is the
beginning of the list that is resolved without any limit.
-/

namespace PageContext

/-- A run of digits for a number that every reader of limits can see. -/
structure Text.IsLimit (text : String) (limit : Nat) : Prop where
  isNumber : Text.digits? text.toList = some limit
  fits : limit < Params.signedBound

/-- The actions that list records. -/
inductive IsListing : String → StoreMethod → Prop where
  | list : IsListing "list" .list
  | featured : IsListing "featured" .featured
  | highlight : IsListing "highlight" .highlighted

/-- The directive of a listing without a limit. -/
def listing (action target : String) : String :=
  "\x7bcms\x7d/" ++ action ++ "/" ++ target

/-- The text of the limit that a caller sets, if any. -/
def callerLimit (caller : Option Params) : Option String :=
  caller.bind (Params.value? "limit")

/-! ## Limits as parameters -/

theorem Text.IsLimit.unsigned? {text : String} {limit : Nat} (isLimit : Text.IsLimit text limit) :
    Text.unsigned? 64 text = some limit :=
  Text.unsigned?_eq_some_iff.mpr
    ⟨isLimit.fits.trans Params.signedBound_lt, _, isLimit.isNumber, .inl rfl⟩

namespace Params

theorem storeLimit?_of_callerLimit {caller : Option Params} {text : String} {limit : Nat}
    (isCallers : callerLimit caller = some text) (isLimit : Text.IsLimit text limit) :
    ∃ params, caller = some params ∧ params.storeLimit? = .ok (some limit) := by
  rcases Option.bind_eq_some_iff.mp isCallers with ⟨params, isCaller, isText⟩
  exact ⟨params, isCaller, storeLimit?_eq_some_iff.mpr ⟨text, isText, isLimit.unsigned?⟩⟩

theorem numericLimit?_of_callerLimit_eq_none {caller : Option Params}
    (noLimit : callerLimit caller = none) : caller.bind numericLimit? = none := by
  cases caller with
  | none => rfl
  | some params =>
      have noText : params.value? "limit" = none := noLimit
      simp [numericLimit?, noText]

theorem storeLimit?_of_callerLimit_eq_none {caller : Option Params}
    (noLimit : callerLimit caller = none) : (caller.getD []).storeLimit? = .ok none := by
  cases caller with
  | none => rfl
  | some params =>
      have noText : params.value? "limit" = none := noLimit
      simp [storeLimit?, noText]

theorem distinctKeys_limit (text : String) :
    Entries.DistinctKeys ([("limit", some text)] : Params) :=
  List.nodup_singleton "limit"

theorem storeLimit?_limit {text : String} {limit : Nat} (isLimit : Text.IsLimit text limit) :
    storeLimit? [("limit", some text)] = .ok (some limit) :=
  storeLimit?_eq_some_iff.mpr ⟨text, rfl, isLimit.unsigned?⟩

/-- The line with a limit sets this parameter and nothing else. -/
theorem ofText_limit {text : String} {limit : Nat} (isLimit : Text.IsLimit text limit) :
    ofText ("limit=" ++ text) = [("limit", some text)] := by
  have isDigit := (Text.digits?_eq_some_iff.mp isLimit.isNumber).2.1
  have plain : ∀ param ∈ ([("limit", some text)] : Params), IsPlain param := by
    simp only [List.mem_singleton, forall_eq]
    refine ⟨show Text.IsTrimmed "limit" by decide, show _ ∧ _ ∧ _ by simp, ?_, ?_⟩
    · rintro _ ⟨⟩
      exact (Text.trim_eq_self_iff text).mp (Text.trim_of_unsigned? isLimit.unsigned?)
    · rintro _ ⟨⟩
      constructor <;> intro divider <;> exact absurd (isDigit _ divider) (by decide)
  have isRead := ofText_line (distinctKeys_limit text) plain (by simp)
  simpa [line, Query.paramText] using isRead

end Params

/-! ## Directives that are resolved -/

namespace Resolver

/-- What a template resolves to that is nothing but a directive. -/
def Gives (resolver : Resolver) (directive : String) (value : Json) : Prop :=
  ∃ resolution, resolver.resolve (.object [("_query", .string directive)]) = .ok resolution ∧
    resolution.value = value

theorem gives_iff {resolver : Resolver} {directive : String} {value : Json} :
    resolver.Gives directive value ↔ resolver.value ⟨.string directive, [], none⟩ = value := by
  have classified : Template.classify (.object [("_query", .string directive)]) =
      .ok (.directive ⟨.string directive, [], none⟩) := rfl
  have survives : ∀ node ∈ (Template.directive ⟨.string directive, [], none⟩).directives,
      resolver.crashes node = false := by
    simp [Template.directives, crashes_of_no_process]
  have resolved := resolve_of_classify classified survives
  constructor
  · rintro ⟨resolution, isResolution, rfl⟩
    rw [resolved, Except.ok.injEq] at isResolution
    rw [← isResolution]
    rfl
  · intro isValue
    exact ⟨_, resolved, isValue⟩

/-- Without transforms and without a default, a directive is the opened answer or null. -/
theorem value_text (resolver : Resolver) (directive : String) :
    resolver.value ⟨.string directive, [], none⟩ =
      match executeDirective resolver.frame resolver.backend resolver.limit resolver.caller
        directive with
      | .ok answer => Envelope.unwrap answer
      | .error _ => .null := by
  rw [value, outcome_eq, fetched_text]
  cases executeDirective resolver.frame resolver.backend resolver.limit resolver.caller
    directive <;> rfl

theorem exists_answer_of_gives_array {resolver : Resolver} {directive : String}
    {items : List Json} (gives : resolver.Gives directive (.array items)) :
    ∃ answer, executeDirective resolver.frame resolver.backend resolver.limit resolver.caller
      directive = .ok answer := by
  rw [gives_iff, value_text] at gives
  split at gives
  · next answer execution => exact ⟨answer, execution⟩
  · contradiction

end Resolver

theorem Route.follow_store (frame : TimeFrame) (store : MemoryStore) (seed : Nat)
    (limit : Option Nat) (call : StoreCall) :
    Route.follow frame (store.backend seed) limit (.call call) =
      (store.answer seed call).mapError .store := by
  cases limit <;> simp [Route.follow, MemoryStore.backend]

theorem exists_query_of_executeDirective {frame : TimeFrame} {backend : Backend}
    {timeout : Option Nat} {caller : Option Params} {directive : String} {answer : Json}
    (execution : executeDirective frame backend timeout caller directive = .ok answer) :
    ∃ query, Query.parse directive = .ok query := by
  simp only [executeDirective, Except.bind_eq_ok_iff, Request.ofDirective,
    Except.map_eq_ok_iff] at execution
  rcases execution with ⟨_, ⟨query, parsed, _⟩, _⟩
  exact ⟨query, parsed⟩

section

variable {store : MemoryStore} (frame : TimeFrame) (seed : Nat) (timeout : Option Nat)
  {caller : Option Params} {action target : String} {method : StoreMethod}

theorem IsListing.storeMethod? (isListing : IsListing action method) :
    Request.storeMethod? action = some method := by
  cases isListing <;> rfl

theorem IsListing.isWord (isListing : IsListing action method) : Text.IsWord action := by
  cases isListing <;> decide

/-- A listing makes the call of its action with the parameters of both sides. -/
theorem executeDirective_listing {directive : String} {params : Params}
    (isListing : IsListing action method)
    (parsed : Query.parse directive = .ok ⟨"cms", action, some target, params⟩) :
    executeDirective frame (store.backend seed) timeout caller directive =
      (store.answer seed ⟨method, target, Params.merge caller params⟩).mapError .store := by
  have routed : (Request.ofQuery caller ⟨"cms", action, some target, params⟩).route frame =
      .ok (.call ⟨method, target, Params.merge caller params⟩) :=
    Request.route_eq_call_iff.mpr ⟨rfl, method, target, isListing.storeMethod?, rfl, rfl⟩
  rw [executeDirective, Request.ofDirective, parsed]
  simp only [Except.map, bind, Except.bind, routed]
  exact Route.follow_store frame store seed timeout _

/-- A listing resolves to the beginning of its list up to the limit of the merged parameters. -/
theorem gives_listing {directive : String} {params : Params} {records : List Json}
    {limit : Option Nat} (isListing : IsListing action method)
    (parsed : Query.parse directive = .ok ⟨"cms", action, some target, params⟩)
    (lists : store.Lists target method records)
    (isLimit : (Params.merge caller params).storeLimit? = .ok limit) :
    Resolver.Gives ⟨frame, store.backend seed, timeout, caller⟩ directive
      (.array (limit.elim (records.map Envelope.payload) (records.map Envelope.payload).take)) := by
  rw [Resolver.gives_iff, Resolver.value_text]
  simp only [executeDirective_listing frame seed timeout isListing parsed, lists.answer_eq,
    MemoryStore.limited_eq isLimit, Except.map, Except.mapError_ok, Envelope.unwrap_items]
  cases limit with
  | none => rfl
  | some limit => exact congrArg Json.array List.map_take

theorem exists_lists_of_answer {params : Params} {answer : Json}
    (isListing : IsListing action method)
    (answered : store.answer seed ⟨method, target, params⟩ = .ok answer) :
    ∃ records, store.Lists target method records := by
  cases isListing with
  | list => exact ⟨_, .list⟩
  | featured => exact ⟨_, .featured⟩
  | highlight =>
      cases isList : store.highlighted? target with
      | some records => exact ⟨records, .highlighted isList⟩
      | none => simp [MemoryStore.answer, isList] at answered

theorem listing_eq_text (action target : String) :
    listing action target = DirectiveForm.text ⟨"cms", action, some target, none⟩ := by
  rw [← String.toList_inj, DirectiveForm.text_toList]
  simp [listing, DirectiveForm.targetCharacters, DirectiveForm.lineCharacters]

theorem parse_listing (wellFormed : DirectiveForm.WellFormed ⟨"cms", action, some target, none⟩) :
    Query.parse (listing action target) = .ok ⟨"cms", action, some target, []⟩ := by
  rw [Query.parse_eq_ok_iff, listing_eq_text]
  exact Query.parse?_text wellFormed

theorem parse_listing_limit
    (wellFormed : DirectiveForm.WellFormed ⟨"cms", action, some target, none⟩) {text : String}
    {limit : Nat} (isLimit : Text.IsLimit text limit) :
    Query.parse (listing action target ++ "?limit=" ++ text) =
      .ok ⟨"cms", action, some target, [("limit", some text)]⟩ := by
  have isText : listing action target ++ "?limit=" ++ text =
      DirectiveForm.text ⟨"cms", action, some target, some ("limit=" ++ text)⟩ := by
    rw [← String.toList_inj, DirectiveForm.text_toList]
    simp [listing, DirectiveForm.targetCharacters, DirectiveForm.lineCharacters]
  have lined : DirectiveForm.WellFormed ⟨"cms", action, some target, some ("limit=" ++ text)⟩ := by
    refine { wellFormed with line_single := ?_ }
    rintro _ ⟨⟩
    have isDigit := (Text.digits?_eq_some_iff.mp isLimit.isNumber).2.1
    simp only [String.toList_append, List.mem_append, not_or]
    exact ⟨by decide, fun lineFeed => absurd (isDigit _ lineFeed) (by decide)⟩
  rw [Query.parse_eq_ok_iff, isText, Query.parse?_text lined]
  simp [DirectiveForm.query, Params.ofText_limit isLimit]

/-- A listing that resolves to a list has a target of the grammar, and the list holds what stands
for the records that the store lists. -/
theorem exists_lists_of_gives {full : List Json} (isListing : IsListing action method)
    (noQuestionMark : '?' ∉ target.toList) (noLimit : callerLimit caller = none)
    (unlimited : Resolver.Gives ⟨frame, store.backend seed, timeout, caller⟩
      (listing action target) (.array full)) :
    DirectiveForm.WellFormed ⟨"cms", action, some target, none⟩ ∧
      ∃ records, store.Lists target method records ∧ full = records.map Envelope.payload := by
  rcases Resolver.exists_answer_of_gives_array unlimited with ⟨answer, execution⟩
  rcases exists_query_of_executeDirective execution with ⟨query, isRead⟩
  rw [Query.parse_eq_ok_iff, listing_eq_text] at isRead
  have moduleIsWord : Text.IsWord "cms" := by decide
  have wellFormed :=
    DirectiveForm.wellFormed_of_parse? moduleIsWord isListing.isWord noQuestionMark isRead
  have parsed := parse_listing wellFormed
  rw [executeDirective_listing frame seed timeout isListing parsed] at execution
  have answered : ∃ answer, store.answer seed ⟨method, target, Params.merge caller []⟩ =
      .ok answer := by
    cases given : store.answer seed ⟨method, target, Params.merge caller []⟩ with
    | ok answer => exact ⟨answer, rfl⟩
    | error cause => simp [given] at execution
  rcases exists_lists_of_answer seed isListing answered.choose_spec with ⟨records, lists⟩
  have isLimit : (Params.merge caller []).storeLimit? = .ok none := by
    rw [Params.merge_nil]
    exact Params.storeLimit?_of_callerLimit_eq_none noLimit
  have gives := gives_listing frame seed timeout isListing parsed lists isLimit
  rw [Resolver.gives_iff] at gives unlimited
  rw [unlimited, Json.array.injEq] at gives
  exact ⟨wellFormed, records, lists, gives⟩

end

/-- The limits of a caller and of a directive cut a resolved listing off and do nothing else.  Where
a listing resolves to a list without any limit, it resolves with both limits to the beginning of
this list up to the smaller one, and with one of them to the beginning up to this one; the list
holds the payload of each record that has one, and every other record as it is.

A target is any text without a question mark, behind which the parameters would start. -/
theorem listing_limits_tighten (store : MemoryStore) (frame : TimeFrame) (seed : Nat)
    (timeout : Option Nat) {action target : String} {method : StoreMethod}
    {caller : Option Params} {full : List Json} (isListing : IsListing action method)
    (noQuestionMark : '?' ∉ target.toList) (noLimit : callerLimit caller = none)
    (unlimited : Resolver.Gives ⟨frame, store.backend seed, timeout, caller⟩
      (listing action target) (.array full)) :
    (∀ other requestedText requested ceilingText ceiling,
      callerLimit other = some requestedText → Text.IsLimit requestedText requested →
      Text.IsLimit ceilingText ceiling →
      Resolver.Gives ⟨frame, store.backend seed, timeout, other⟩
        (listing action target ++ "?limit=" ++ ceilingText)
        (.array (full.take (min (min ceiling requested) full.length)))) ∧
    (∀ other ceilingText ceiling, callerLimit other = none → Text.IsLimit ceilingText ceiling →
      Resolver.Gives ⟨frame, store.backend seed, timeout, other⟩
        (listing action target ++ "?limit=" ++ ceilingText) (.array (full.take ceiling))) ∧
    (∀ other requestedText requested, callerLimit other = some requestedText →
      Text.IsLimit requestedText requested →
      Resolver.Gives ⟨frame, store.backend seed, timeout, other⟩ (listing action target)
        (.array (full.take requested))) ∧
    ∃ records, store.Lists target method records ∧
      (∀ record ∈ records, record ∈ store.records.map Prod.snd) ∧
      List.Forall₂ Envelope.IsPayload records full := by
  rcases exists_lists_of_gives frame seed timeout isListing noQuestionMark noLimit unlimited with
    ⟨wellFormed, records, lists, rfl⟩
  refine ⟨?_, ?_, ?_, records, lists, fun record => lists.mem_records,
    Envelope.forall₂_isPayload records⟩
  · intro other requestedText requested ceilingText ceiling isCallers isRequested isCeiling
    rcases Params.storeLimit?_of_callerLimit isCallers isRequested with ⟨params, rfl, isLimit⟩
    have request := Params.request_of_storeLimit? rfl isLimit
    rw [if_pos isRequested.fits] at request
    have merged := Params.storeLimit?_merge_of_request (Params.storeLimit?_limit isCeiling)
      isCeiling.fits request
    -- The caller asks for no negative number, so the store accepts the smaller one.
    rw [if_neg (by omega), Int.toNat_natCast, Nat.min_comm] at merged
    have gives := gives_listing frame seed timeout isListing
      (parse_listing_limit wellFormed isCeiling) lists merged
    rw [← List.take_eq_take_min]
    exact gives
  · intro other ceilingText ceiling noneAsked isCeiling
    have merged := Params.storeLimit?_merge_of_no_request (Params.distinctKeys_limit ceilingText)
      (Params.storeLimit?_limit isCeiling)
      (.inl (Params.numericLimit?_of_callerLimit_eq_none noneAsked))
    exact gives_listing frame seed timeout isListing (parse_listing_limit wellFormed isCeiling)
      lists merged
  · intro other requestedText requested isCallers isRequested
    rcases Params.storeLimit?_of_callerLimit isCallers isRequested with ⟨params, rfl, isLimit⟩
    have merged : (Params.merge (some params) []).storeLimit? = .ok (some requested) := by
      rw [Params.merge_nil, Option.getD_some, isLimit]
    exact gives_listing frame seed timeout isListing (parse_listing wellFormed) lists merged

/-- The conclusion for a list record with two references, one of them to a record with a payload. -/
theorem listing_limits_tighten_highlight :
    let plain : Json := .object [("id", .string "b")]
    let store : MemoryStore := ⟨[
      ("top", .object [("items", .array [.string "a", .string "b"])]),
      ("a", .object [("id", .string "a"), ("Data", .string "payload")]), ("b", plain)]⟩
    let resolver (caller : Option Params) : Resolver := ⟨⟨0, ⟨0, 0⟩⟩, store.backend 0, none, caller⟩
    IsListing "highlight" .highlighted ∧ '?' ∉ "top".toList ∧ callerLimit none = none ∧
      (resolver none).Gives (listing "highlight" "top") (.array [.string "payload", plain]) ∧
      callerLimit (some [("limit", some "5")]) = some "5" ∧ Text.IsLimit "5" 5 ∧
      Text.IsLimit "1" 1 ∧
      (resolver (some [("limit", some "5")])).Gives
        (listing "highlight" "top" ++ "?limit=" ++ "1") (.array [.string "payload"]) := by
  intro plain store resolver
  have noQuestionMark : '?' ∉ "top".toList := by decide
  have unlimited : (resolver none).Gives (listing "highlight" "top")
      (.array [.string "payload", plain]) :=
    Resolver.gives_iff.mpr rfl
  have isCallers : callerLimit (some [("limit", some "5")]) = some "5" := rfl
  have isRequested : Text.IsLimit "5" 5 := ⟨rfl, by decide⟩
  have isCeiling : Text.IsLimit "1" 1 := ⟨rfl, by decide⟩
  have tightens := listing_limits_tighten store ⟨0, ⟨0, 0⟩⟩ 0 none .highlight noQuestionMark rfl
    unlimited
  exact ⟨.highlight, noQuestionMark, rfl, unlimited, isCallers, isRequested, isCeiling,
    tightens.1 _ "5" 5 "1" 1 isCallers isRequested isCeiling⟩

end PageContext
