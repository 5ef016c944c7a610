import PageContext.Proofs.Number.Whole
import PageContext.Proofs.Sorting
import PageContext.Proofs.Store.Listings

/-!
# Answers as views of the records

All answers of a store are views of one map from ids to records.  The list of a type holds the
records of this type and no others, ordered by their times; the featured ones are picked out of it;
a list record stands for the records that single look-ups find for its items.  A limit cuts off what
is left after everything else.

Times are compared as floating-point numbers.  Below the bound where whole numbers are exact, they
are compared as they are; beyond it, two times that are rounded to one number count as equal.
-/

namespace PageContext

/-- The value of a number, without rounding, as a multiple of the smallest floating-point number. -/
def Number.exact : Number → Int
  | .integer value => value * Binary64.unit
  | .float value => value.scaled

theorem Number.scaled_toBinary64_integer {value : Int}
    (small : value.natAbs < Binary64.exactBound) :
    (Number.integer value).toBinary64.scaled = (Number.integer value).exact :=
  Binary64.scaled_ofInt small

namespace MemoryStore

/-- What a record holds under a name: its own field, or else that of its payload. -/
inductive Holds (record : Json) (name : String) : Json → Prop where
  | own {value : Json} (isField : record.field? name = some value) : Holds record name value
  | inPayload {value data : Json} (noField : record.field? name = none)
      (hasData : record.field? "Data" = some data) (isField : data.field? name = some value) :
      Holds record name value

/-- The type of a record. -/
def HasType (type : String) (record : Json) : Prop :=
  Holds record "type" (.string type)

/-- Whether a record is marked as featured by a value that counts as true. -/
def IsFeatured (record : Json) : Prop :=
  ∃ flag, Holds record "featured" flag ∧ flag.isTruthy = true

/-- The time by which a record is listed, as a multiple of the smallest floating-point number; a
record without a number for it has the time zero. -/
inductive HasTime (record : Json) : Int → Prop where
  | number {value : Number} (holds : Holds record "TS" (.number value)) :
      HasTime record value.toBinary64.scaled
  | noNumber (noNumber : ∀ value, ¬Holds record "TS" (.number value)) : HasTime record 0

/-- The same records in the order of their times, the newest first; records of one time keep their
order. -/
structure IsNewestFirst (records sorted : List Json) : Prop where
  perm : sorted.Perm records
  descending : sorted.Pairwise fun earlier later => time later ≤ time earlier
  stable : ∀ moment, sorted.filter (time · = moment) = records.filter (time · = moment)

/-- An item that is the id of a record, as `get` finds it. -/
def RefersTo (store : MemoryStore) (item record : Json) : Prop :=
  ∃ id, item = .string id ∧
    ∀ seed params, store.answer seed ⟨.get, id, params⟩ = .ok (Envelope.item record)

/-- The records to which items refer, one after the other; other items are passed over. -/
inductive Selects (store : MemoryStore) : List Json → List Json → Prop where
  | nil : Selects store [] []
  | found {item record : Json} {items records : List Json} (refers : store.RefersTo item record)
      (rest : Selects store items records) : Selects store (item :: items) (record :: records)
  | passed {item : Json} {items records : List Json}
      (noRecord : ∀ record, ¬store.RefersTo item record) (rest : Selects store items records) :
      Selects store (item :: items) records

/-! ## Fields of records -/

theorem field?_eq_some_iff {record value : Json} {name : String} :
    field? name record = some value ↔ Holds record name value := by
  rw [field?]
  constructor
  · intro isFound
    cases isField : record.field? name with
    | some own =>
        rw [isField, Option.some_or] at isFound
        exact .own (isFound ▸ isField)
    | none =>
        rw [isField, Option.none_or] at isFound
        rcases Option.bind_eq_some_iff.mp isFound with ⟨data, hasData, inData⟩
        exact .inPayload isField hasData inData
  · intro holds
    cases holds with
    | own isField => rw [isField, Option.some_or]
    | inPayload noField hasData isField =>
        rw [noField, Option.none_or, hasData, Option.bind_some, isField]

theorem isOfType_iff {type : String} {record : Json} :
    isOfType type record = true ↔ HasType type record := by
  rw [isOfType, beq_iff_eq, Option.bind_eq_some_iff, HasType, ← field?_eq_some_iff]
  constructor
  · rintro ⟨value, isField, isText⟩
    cases value with
    | string text =>
        cases isText
        exact isField
    | _ => simp [Json.text?] at isText
  · intro isField
    exact ⟨_, isField, rfl⟩

theorem isTruthy?_field?_iff {record : Json} :
    Json.isTruthy? (field? "featured" record) = true ↔ IsFeatured record := by
  simp only [IsFeatured, ← field?_eq_some_iff]
  cases field? "featured" record <;> simp [Json.isTruthy?]

instance (type : String) : DecidablePred (HasType type) :=
  fun _ => decidable_of_iff _ isOfType_iff

instance : DecidablePred IsFeatured :=
  fun _ => decidable_of_iff _ isTruthy?_field?_iff

theorem hasTime_iff {record : Json} {moment : Int} :
    HasTime record moment ↔ time record = moment := by
  constructor
  · intro hasTime
    cases hasTime with
    | number holds => rw [time, field?_eq_some_iff.mpr holds]
    | noNumber noNumber =>
        rw [time]
        split
        · next value isField => exact absurd (field?_eq_some_iff.mp isField) (noNumber value)
        · rfl
  · rintro rfl
    rw [time]
    split
    · next value isField => exact .number (field?_eq_some_iff.mp isField)
    · next noField =>
      refine .noNumber fun value holds => ?_
      exact noField value (field?_eq_some_iff.mpr holds)

/-! ## The order of a list -/

/-- Sorting keeps the order of the records of one time: they are in order to begin with. -/
theorem isNewestFirst_mergeSort (records : List Json) :
    IsNewestFirst records (records.mergeSort fun left right => time right ≤ time left) := by
  have transitive : ∀ first second third : Json, decide (time second ≤ time first) = true →
      decide (time third ≤ time second) = true → decide (time third ≤ time first) = true := by
    simp only [decide_eq_true_iff]
    intro first second third
    omega
  have total : ∀ first second : Json,
      (decide (time second ≤ time first) || decide (time first ≤ time second)) = true := by
    simp only [Bool.or_eq_true, decide_eq_true_iff]
    intro first second
    omega
  refine ⟨List.mergeSort_perm _ _, ?_, ?_⟩
  · simpa using List.pairwise_mergeSort transitive total records
  · intro moment
    refine filter_mergeSort transitive total ?_ records
    intro earlier later isEarlier isLater
    simp only [decide_eq_true_iff] at isEarlier isLater ⊢
    omega

theorem isNewestFirst_ofType (store : MemoryStore) (type : String) :
    IsNewestFirst ((store.records.map Prod.snd).filter (HasType type ·)) (store.ofType type) := by
  have sameTest : isOfType type = fun record => decide (HasType type record) := by
    funext record
    rw [Bool.eq_iff_iff, isOfType_iff, decide_eq_true_iff]
  rw [ofType, sameTest]
  exact isNewestFirst_mergeSort _

/-- Records that are in the order of their times already are listed as they stand in the store. -/
theorem ofType_eq_of_descending {store : MemoryStore} {type : String} {records : List Json}
    (isType : (store.records.map Prod.snd).filter (isOfType type) = records)
    (descending : records.Pairwise fun earlier later => time later ≤ time earlier) :
    store.ofType type = records := by
  rw [ofType, isType]
  exact List.mergeSort_of_pairwise (by simpa using descending)

theorem featured_eq_filter (store : MemoryStore) (type : String) :
    store.featured type = (store.ofType type).filter (IsFeatured ·) := by
  rw [featured]
  congr 1
  funext record
  rw [Bool.eq_iff_iff, isTruthy?_field?_iff, decide_eq_true_iff]

/-! ## Single records and list records -/

theorem answer_get_eq_ok_iff {store : MemoryStore} {seed : Nat} {id : String} {params : Params}
    {record : Json} :
    store.answer seed ⟨.get, id, params⟩ = .ok (Envelope.item record) ↔
      Entries.get? id store.records = some record := by
  simp only [answer]
  cases Entries.get? id store.records <;> simp [Envelope.item]

theorem refersTo_iff {store : MemoryStore} {item record : Json} :
    store.RefersTo item record ↔
      (item.text?.bind fun id => Entries.get? id store.records) = some record := by
  simp only [RefersTo, answer_get_eq_ok_iff]
  cases item <;> simp [Json.text?]

theorem selects_filterMap (store : MemoryStore) (items : List Json) :
    store.Selects items ((items.filterMap Json.text?).filterMap fun id =>
      Entries.get? id store.records) := by
  rw [List.filterMap_filterMap]
  induction items with
  | nil => exact .nil
  | cons item items hypothesis =>
      cases found : item.text?.bind fun id => Entries.get? id store.records with
      | none =>
          simp only [List.filterMap_cons, found]
          refine .passed (fun record refers => ?_) hypothesis
          simp [refersTo_iff.mp refers] at found
      | some record =>
          simp only [List.filterMap_cons, found]
          exact .found (refersTo_iff.mpr found) hypothesis

theorem highlighted?_eq {store : MemoryStore} {id : String} {list : Json} {items : List Json}
    (isList : Entries.get? id store.records = some list)
    (hasItems : Holds list "items" (.array items)) :
    store.highlighted? id = some ((items.filterMap Json.text?).filterMap fun id =>
      Entries.get? id store.records) := by
  simp [highlighted?, isList, field?_eq_some_iff.mpr hasItems, Json.items?]

theorem highlighted?_eq_none_iff {store : MemoryStore} {id : String} :
    store.highlighted? id = none ↔
      ¬∃ list items, Entries.get? id store.records = some list ∧
        Holds list "items" (.array items) := by
  constructor
  · rintro noList ⟨list, items, isList, hasItems⟩
    simp [highlighted?_eq isList hasItems] at noList
  · intro noItems
    by_contra isSome
    rcases Option.ne_none_iff_exists'.mp isSome with ⟨records, isRecords⟩
    simp only [highlighted?, Option.bind_eq_bind, Option.bind_eq_some_iff] at isRecords
    rcases isRecords with ⟨list, isList, value, isField, items, isItems, _⟩
    cases value with
    | array =>
        cases isItems
        exact noItems ⟨list, items, isList, field?_eq_some_iff.mp isField⟩
    | _ => simp [Json.items?] at isItems

theorem limited_ne_listNotFound (params : Params) (records : List Json) (id : String) :
    limited params records ≠ .error (.listNotFound id) := by
  simp only [limited, Params.storeLimit?]
  cases params.value? "limit" with
  | none => simp [bind, Except.bind, pure, Except.pure]
  | some text =>
      cases isLimit : Text.unsigned? 64 text <;>
        simp [isLimit, bind, Except.bind, pure, Except.pure]

theorem answer_highlighted_eq_error_iff {store : MemoryStore} {seed : Nat} {target id : String}
    {params : Params} :
    store.answer seed ⟨.highlighted, target, params⟩ = .error (.listNotFound id) ↔
      id = target ∧ store.highlighted? target = none := by
  cases isList : store.highlighted? target with
  | none => simp [answer, isList, throw, throwThe, MonadExceptOf.throw, eq_comm]
  | some records =>
      rw [(Lists.highlighted isList).answer_eq seed params]
      simp only [reduceCtorEq, and_false, iff_false]
      intro failed
      cases given : limited params records with
      | ok limited => simp [given, Except.map] at failed
      | error failure =>
          rw [given] at failed
          cases failed
          exact limited_ne_listNotFound params records id given

/-! ## Answers -/

theorem Lists.answer_eq_ok {store : MemoryStore} {target : String} {method : StoreMethod}
    {records : List Json} (lists : store.Lists target method records) (seed : Nat)
    {params : Params} {limit : Option Nat} (isLimit : params.storeLimit? = .ok limit) :
    store.answer seed ⟨method, target, params⟩ =
      .ok (Envelope.items (limit.elim records records.take)) := by
  rw [lists.answer_eq, limited_eq isLimit]
  rfl

/-- The answers of a store are views of its records.  A list holds the records of a type, each once,
the newest first by their times as floating-point numbers, and records of one time in the order of
the store; below the bound where whole numbers are exact, these are the numbers in the records.  The
featured records are picked out of this list.  A list record stands for what single look-ups find
for its items, and it is not found exactly when there is no such record or it has no array of items.
A limit takes the beginning of what each of them gives. -/
theorem answers_view_records (store : MemoryStore) (target : String) (seed : Nat) :
    (∀ params record, store.answer seed ⟨.get, target, params⟩ = .ok (Envelope.item record) ↔
      Entries.get? target store.records = some record) ∧
    (∃ listed,
      IsNewestFirst ((store.records.map Prod.snd).filter (HasType target ·)) listed ∧
      ∀ params limit, params.storeLimit? = .ok limit →
        store.answer seed ⟨.list, target, params⟩ =
          .ok (Envelope.items (limit.elim listed listed.take)) ∧
        store.answer seed ⟨.featured, target, params⟩ =
          .ok (Envelope.items (limit.elim (listed.filter (IsFeatured ·))
            (listed.filter (IsFeatured ·)).take))) ∧
    (∀ record moment, time record = moment ↔ HasTime record moment) ∧
    (∀ value : Int, value.natAbs < Binary64.exactBound →
      (Number.integer value).toBinary64.scaled = (Number.integer value).exact) ∧
    (∀ list items, Entries.get? target store.records = some list →
      Holds list "items" (.array items) →
      ∃ records, store.Selects items records ∧
        ∀ params limit, params.storeLimit? = .ok limit →
          store.answer seed ⟨.highlighted, target, params⟩ =
            .ok (Envelope.items (limit.elim records records.take))) ∧
    ∀ params id, store.answer seed ⟨.highlighted, target, params⟩ = .error (.listNotFound id) ↔
      id = target ∧ ¬∃ list items, Entries.get? target store.records = some list ∧
        Holds list "items" (.array items) := by
  refine ⟨fun params record => answer_get_eq_ok_iff, ?_, fun record moment => hasTime_iff.symm,
    fun value small => Number.scaled_toBinary64_integer small, ?_, ?_⟩
  · refine ⟨store.ofType target, isNewestFirst_ofType store target, ?_⟩
    intro params limit isLimit
    rw [← featured_eq_filter]
    exact ⟨Lists.list.answer_eq_ok seed isLimit, Lists.featured.answer_eq_ok seed isLimit⟩
  · intro list items isList hasItems
    refine ⟨_, selects_filterMap store items, ?_⟩
    intro params limit isLimit
    exact (Lists.highlighted (highlighted?_eq isList hasItems)).answer_eq_ok seed isLimit
  · intro params id
    rw [answer_highlighted_eq_error_iff, highlighted?_eq_none_iff]

/-- The conclusion for records with times in their payloads and a list record that names one of them
twice, besides an unknown id and a number. -/
theorem answers_view_records_repeated_item :
    let older : Json := .object [("type", .string "news"), ("Data", .object [("TS", .int 1)])]
    let newer : Json := .object [("type", .string "news"), ("Data", .object [("TS", .int 2)])]
    let items : List Json := [.string "b", .string "c", .int 1, .string "a", .string "b"]
    let store : MemoryStore :=
      ⟨[("a", older), ("b", newer), ("top", .object [("items", .array items)])]⟩
    let params : Params := [("limit", some "2")]
    (∃ listed, IsNewestFirst [older, newer] listed ∧
      store.answer 0 ⟨.list, "news", params⟩ = .ok (Envelope.items (listed.take 2))) ∧
    time newer = (Number.integer 2).exact ∧
    ∃ records, store.Selects items records ∧
      store.answer 0 ⟨.highlighted, "top", params⟩ = .ok (Envelope.items (records.take 2)) := by
  intro older newer items store params
  have isLimit : params.storeLimit? = .ok (some 2) := rfl
  rcases answers_view_records store "news" 0 with ⟨_, ⟨listed, newest, lists⟩, times, exact, _⟩
  rcases answers_view_records store "top" 0 with ⟨_, _, _, _, highlights, _⟩
  rcases highlights _ items rfl (.own rfl) with ⟨records, selects, answers⟩
  refine ⟨⟨listed, newest, (lists params (some 2) isLimit).1⟩, ?_, records, selects,
    answers params (some 2) isLimit⟩
  rw [← exact 2 (by decide)]
  exact (times newer _).mpr (.number (.inPayload rfl rfl rfl))

/-- Beyond the bound the times in the records need not descend: two that are rounded to one number
stay in the order of the store. -/
theorem not_forall_listed_descending :
    ¬∀ (store : MemoryStore) (type : String) (seed : Nat) (params : Params) (records : List Json),
      store.answer seed ⟨.list, type, params⟩ = .ok (Envelope.items records) →
        records.Pairwise fun earlier later => ∀ first second,
          Holds earlier "TS" (.number first) → Holds later "TS" (.number second) →
            second.exact ≤ first.exact := by
  intro descending
  let record (moment : Int) : Json := .object [("type", .string "news"), ("TS", .int moment)]
  let smaller := record Binary64.exactBound
  let larger := record (Binary64.exactBound + 1)
  let store : MemoryStore := ⟨[("a", smaller), ("b", larger)]⟩
  have rounded : Binary64.ofInt (Binary64.exactBound + 1) = Binary64.ofInt Binary64.exactBound := by
    decide +kernel
  have sameTime : time larger = time smaller := congrArg Binary64.scaled rounded
  have listed : store.ofType "news" = [smaller, larger] :=
    ofType_eq_of_descending rfl (List.pairwise_pair.mpr sameTime.le)
  have noLimit : Params.storeLimit? [] = .ok none := rfl
  have isAnswer : store.answer 0 ⟨.list, "news", []⟩ = .ok (Envelope.items [smaller, larger]) := by
    rw [Lists.list.answer_eq_ok 0 noLimit, listed]
    rfl
  have order := List.rel_of_pairwise_cons (descending store "news" 0 [] _ isAnswer)
    (List.mem_singleton_self larger) (.integer Binary64.exactBound)
    (.integer (Binary64.exactBound + 1)) (.own rfl) (.own rfl)
  have positive := Binary64.unit_pos
  simp only [Number.exact, Int.add_mul] at order
  omega

end MemoryStore

end PageContext
