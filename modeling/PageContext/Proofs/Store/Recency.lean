import PageContext.Proofs.Calendar.Instants
import PageContext.Proofs.Store.Views

/-!
# The most recent first

A list of a type is ordered by times as floating-point numbers; dates are read from the same times
in a time frame.  The two readings agree on numbers: a time that is an instant at all is so close to
the beginning of 1970 that its milliseconds are not rounded, so a list never goes forward in time.
They differ on texts.  A written moment is an instant, but in a list it stands at the beginning of
1970, wherever the instant lies.
-/

namespace PageContext

namespace Instant

/-- The milliseconds of an instant are few enough to be a floating-point number. -/
theorem natAbs_lt_exactBound {milliseconds : Int} {instant : Instant}
    (isInstant : ofMilliseconds? milliseconds = some instant) :
    milliseconds.natAbs < Binary64.exactBound := by
  rcases ofMilliseconds?_eq_some_iff.mp isInstant with ⟨⟨notBefore, notAfter⟩, _⟩
  rw [leastSeconds] at notBefore
  rw [greatestSeconds] at notAfter
  rw [Binary64.exactBound_eq]
  omega

end Instant

/-- Below the bound where whole numbers are exact, a number has the same whole part after it has
been rounded. -/
theorem Number.truncate_toBinary64 (number : Number)
    (small : number.toSigned.natAbs < Binary64.exactBound) :
    number.toBinary64.truncate 64 = number.toSigned := by
  cases number with
  | float value => rfl
  | integer value =>
      by_cases fits : value < Nat.pow 2 63
      · rw [toSigned, if_pos fits] at small ⊢
        have bound := Binary64.exactBound_eq
        have signed : Nat.pow 2 (64 - 1) = 9223372036854775808 := rfl
        rw [toBinary64, Binary64.truncate, Binary64.scaled_ofInt small,
          Int.mul_tdiv_cancel _ Binary64.unit_pos.ne', signed]
        omega
      · rw [toSigned, if_neg fits, toBinary64]

namespace MemoryStore

/-- The instant of a record, as dates are read from it: its time in milliseconds or a written
moment. -/
def HasInstant (frame : TimeFrame) (record : Json) (instant : Instant) : Prop :=
  ∃ value, Holds record "TS" value ∧ frame.instant? value = some instant

/-- The instant at which a record stands in a list: that of a number, and the beginning of 1970 if
its time is a text, anything else or missing. -/
inductive ListedAt (frame : TimeFrame) (record : Json) : Instant → Prop where
  | number {value : Number} {instant : Instant} (holds : Holds record "TS" (.number value))
      (isInstant : frame.instant? (.number value) = some instant) : ListedAt frame record instant
  | noNumber (noNumber : ∀ value, ¬Holds record "TS" (.number value)) : ListedAt frame record ⟨0, 0⟩

theorem Holds.unique {record first second : Json} {name : String} (holds : Holds record name first)
    (holdsOther : Holds record name second) : first = second := by
  have same := (field?_eq_some_iff.mpr holds).symm.trans (field?_eq_some_iff.mpr holdsOther)
  exact Option.some.inj same

theorem HasInstant.listedAt {frame : TimeFrame} {record : Json} {instant : Instant} {value : Number}
    (hasInstant : HasInstant frame record instant) (holds : Holds record "TS" (.number value)) :
    ListedAt frame record instant := by
  rcases hasInstant with ⟨read, holdsRead, isInstant⟩
  cases holds.unique holdsRead
  exact .number holds isInstant

/-- The instant of a record in a list is read off the number by which it is sorted. -/
theorem ListedAt.exists_number {frame : TimeFrame} {record : Json} {instant : Instant}
    (listed : ListedAt frame record instant) :
    ∃ number : Binary64, time record = number.scaled ∧
      Instant.ofMilliseconds? (number.truncate 64) = some instant := by
  cases listed with
  | @number value _ holds isInstant =>
      refine ⟨value.toBinary64, hasTime_iff.mp (.number holds), ?_⟩
      rw [Number.truncate_toBinary64 value (Instant.natAbs_lt_exactBound isInstant)]
      exact isInstant
  | noNumber noNumber =>
      have truncated : (Binary64.zero false).truncate 64 = 0 :=
        Number.truncate_toBinary64 (.integer 0) (by decide)
      refine ⟨.zero false, (hasTime_iff.mp (.noNumber noNumber)).trans ?_, ?_⟩
      · simp [Binary64.zero, Binary64.scaled]
      · rw [truncated]
        rfl

/-- Records that are sorted by their numbers are sorted by their instants. -/
theorem ListedAt.le_of_time_le {frame : TimeFrame} {earlier later : Json} {first second : Instant}
    (order : time later ≤ time earlier) (isFirst : ListedAt frame earlier first)
    (isSecond : ListedAt frame later second) : second ≤ first := by
  rcases isFirst.exists_number with ⟨larger, isLarger, firstInstant⟩
  rcases isSecond.exists_number with ⟨smaller, isSmaller, secondInstant⟩
  rw [isLarger, isSmaller] at order
  exact Instant.ofMilliseconds?_mono (Binary64.truncate_mono 64 order) secondInstant firstInstant

theorem hasType_of_mem_ofType {store : MemoryStore} {type : String} {record : Json}
    (member : record ∈ store.ofType type) : HasType type record := by
  have inStore := (isNewestFirst_ofType store type).perm.mem_iff.mp member
  simpa only [decide_eq_true_iff] using (List.mem_filter.mp inStore).2

/-- The instant that is read from a record of a type is the one at which it stands in the list, if
all records of the type have numbers for their times. -/
theorem HasInstant.listedAt_of_mem_ofType {store : MemoryStore} {type : String} {frame : TimeFrame}
    {record : Json} {instant : Instant}
    (numbers : ∀ record ∈ store.records.map Prod.snd, HasType type record →
      ∃ value, Holds record "TS" (.number value))
    (member : record ∈ store.ofType type) (hasInstant : HasInstant frame record instant) :
    ListedAt frame record instant := by
  rcases numbers record (mem_records_of_mem_ofType member) (hasType_of_mem_ofType member) with
    ⟨value, holds⟩
  exact hasInstant.listedAt holds

/-- In every time frame the answer to a list call goes back in time: no record stands after one with
an earlier instant, where a record without a number for its time stands at the beginning of 1970.
If all records of the type have numbers for their times, these instants are those that are read
from the records everywhere else. -/
theorem lists_most_recent_first (store : MemoryStore) (type : String) (frame : TimeFrame)
    (seed : Nat) {params : Params} {limit : Option Nat} (isLimit : params.storeLimit? = .ok limit) :
    ∃ records, store.answer seed ⟨.list, type, params⟩ = .ok (Envelope.items records) ∧
      (records.Pairwise fun earlier later => ∀ first second,
        ListedAt frame earlier first → ListedAt frame later second → second ≤ first) ∧
      ((∀ record ∈ store.records.map Prod.snd, HasType type record →
          ∃ value, Holds record "TS" (.number value)) →
        records.Pairwise fun earlier later => ∀ first second,
          HasInstant frame earlier first → HasInstant frame later second → second ≤ first) := by
  have kept : (limit.elim (store.ofType type) (store.ofType type).take).Sublist
      (store.ofType type) := by
    cases limit with
    | none => exact List.Sublist.refl _
    | some limit => exact List.take_sublist limit _
  have listed : (limit.elim (store.ofType type) (store.ofType type).take).Pairwise
      fun earlier later => ∀ first second,
        ListedAt frame earlier first → ListedAt frame later second → second ≤ first := by
    refine ((isNewestFirst_ofType store type).descending.sublist kept).imp ?_
    intro earlier later order first second isFirst isSecond
    exact isFirst.le_of_time_le order isSecond
  refine ⟨_, Lists.list.answer_eq_ok seed isLimit, listed, ?_⟩
  intro numbers
  refine listed.imp_of_mem ?_
  intro earlier later isEarlier isLater order first second hasFirst hasSecond
  apply order
  · exact hasFirst.listedAt_of_mem_ofType numbers (kept.subset isEarlier)
  · exact hasSecond.listedAt_of_mem_ofType numbers (kept.subset isLater)

/-- The conclusion for records with a time of their own and one in the payload. -/
theorem lists_most_recent_first_payload_time :
    let older : Json := .object [("type", .string "news"), ("TS", .int 1546646400000)]
    let newer : Json := .object [("type", .string "news"),
      ("Data", .object [("TS", .int 1596283200000)])]
    let store : MemoryStore := ⟨[("a", older), ("b", newer)]⟩
    let params : Params := [("limit", some "5")]
    let frame : TimeFrame := ⟨0, ⟨0, 0⟩⟩
    params.storeLimit? = .ok (some 5) ∧
      ∃ records, store.answer 0 ⟨.list, "news", params⟩ = .ok (Envelope.items records) ∧
        records.Pairwise fun earlier later => ∀ first second,
          HasInstant frame earlier first → HasInstant frame later second → second ≤ first := by
  intro older newer store params frame
  have isLimit : params.storeLimit? = .ok (some 5) := rfl
  rcases lists_most_recent_first store "news" frame 0 isLimit with ⟨records, answers, _, order⟩
  refine ⟨isLimit, records, answers, order ?_⟩
  intro record member _
  rcases List.mem_pair.mp member with rfl | rfl
  · exact ⟨_, .own rfl⟩
  · exact ⟨_, .inPayload rfl rfl rfl⟩

/-- Written moments do not go back in time: they all stand at the beginning of 1970 and stay in the
order of the store. -/
theorem not_forall_lists_most_recent_first :
    ¬∀ (store : MemoryStore) (type : String) (frame : TimeFrame) (seed : Nat) (params : Params)
      (records : List Json),
      (∀ record ∈ store.records.map Prod.snd, HasType type record →
        ∃ instant, HasInstant frame record instant) →
      store.answer seed ⟨.list, type, params⟩ = .ok (Envelope.items records) →
        records.Pairwise fun earlier later => ∀ first second,
          HasInstant frame earlier first → HasInstant frame later second → second ≤ first := by
  intro descending
  let record (moment : String) : Json := .object [("type", .string "news"), ("TS", .string moment)]
  let older := record "2019-01-05"
  let newer := record "2020-08-01T12:00:00Z"
  let store : MemoryStore := ⟨[("a", older), ("b", newer)]⟩
  let frame : TimeFrame := ⟨0, ⟨0, 0⟩⟩
  have isOlder : HasInstant frame older ⟨1546646400, 0⟩ := ⟨_, .own rfl, by decide⟩
  have isNewer : HasInstant frame newer ⟨1596283200, 0⟩ := ⟨_, .own rfl, by decide⟩
  have accepted : ∀ record ∈ store.records.map Prod.snd, HasType "news" record →
      ∃ instant, HasInstant frame record instant := by
    intro record member _
    rcases List.mem_pair.mp member with rfl | rfl
    · exact ⟨_, isOlder⟩
    · exact ⟨_, isNewer⟩
  have sameTime : time newer = time older := rfl
  have listed : store.ofType "news" = [older, newer] :=
    ofType_eq_of_descending rfl (List.pairwise_pair.mpr sameTime.le)
  have noLimit : Params.storeLimit? [] = .ok none := rfl
  have isAnswer : store.answer 0 ⟨.list, "news", []⟩ = .ok (Envelope.items [older, newer]) := by
    rw [Lists.list.answer_eq_ok 0 noLimit, listed]
    rfl
  have order := List.rel_of_pairwise_cons (descending store "news" frame 0 [] _ accepted isAnswer)
    (List.mem_singleton_self newer) _ _ isOlder isNewer
  rcases Instant.le_iff.mp order with less | ⟨same, _⟩
  · contradiction
  · contradiction

end MemoryStore

end PageContext
