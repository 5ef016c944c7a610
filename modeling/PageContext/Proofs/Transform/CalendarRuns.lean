import PageContext.Proofs.Calendar.Months
import PageContext.Proofs.Transform.LabelRuns

/-!
# Reading a calendar

A calendar leaves out the year, the month or the day of an event where the event before has the same
one.  Nothing is lost by this: where the events came without these fields, the last year, month and
day written up to an event are its own, each on its own account.
-/

namespace PageContext.Transform

/-- The parts of a date that a calendar writes only where they change. -/
inductive DatePart where
  | year
  | month
  | day
deriving DecidableEq, Repr

namespace DatePart

/-- The field in which a part is written. -/
def field : DatePart → String
  | year => "year"
  | month => "month"
  | day => "day"

/-- The text of a part of the local date of an instant. -/
def text (part : DatePart) (frame : TimeFrame) (instant : Instant) : String :=
  match part with
  | year => toString (frame.localDate instant).year
  | month => Date.monthName (frame.localDate instant).month
  | day => Text.padded 2 (frame.localDate instant).day

/-- The text of a part among the parts in which a calendar lists an instant. -/
def among (part : DatePart) (parts : CalendarParts) : String :=
  match part with
  | year => parts.year
  | month => parts.month
  | day => parts.day

theorem among_calendarParts (part : DatePart) (frame : TimeFrame) (instant : Instant) :
    part.among (frame.calendarParts instant) = part.text frame instant := by
  cases part <;> rfl

theorem length_text_day (frame : TimeFrame) (instant : Instant) :
    (day.text frame instant).length = 2 := by
  have inTable : ∀ day < 32, (Text.padded 2 day).length = 2 := by decide
  have inMonth := (frame.exists_localDate instant).day.2
  have monthEnd := Date.monthLength_le (frame.localDate instant).year
    (frame.localDate instant).month
  exact inTable _ (by omega)

end DatePart

/-! ## Events -/

/-- The instant of an event: of an object with a moment under `date`, or under `TS` if it has no
`date`. -/
def eventAt? (frame : TimeFrame) (event : Json) : Option Instant :=
  ((event.field? "date").or (event.field? "TS")).bind frame.instant?

/-- The instant of the last event. -/
def lastEvent? (frame : TimeFrame) (events : List Json) : Option Instant :=
  (events.filterMap (eventAt? frame)).getLast?

/-- The last value that is written under a part of the date. -/
def lastWritten? (part : DatePart) (records : List Json) : Option Json :=
  (records.filterMap (·.field? part.field)).getLast?

/-! ## Written parts -/

theorem get?_writeChanged_self (key text : String) (previous : Option String)
    (entries : List (String × Json)) :
    Entries.get? key (writeChanged key text previous entries) =
      if previous = some text then Entries.get? key entries else some (.string text) := by
  unfold writeChanged
  split
  · rfl
  · exact Entries.get?_insert_self _ _ _

theorem get?_writeChanged_of_ne {key other : String} (different : other ≠ key) (text : String)
    (previous : Option String) (entries : List (String × Json)) :
    Entries.get? other (writeChanged key text previous entries) = Entries.get? other entries := by
  unfold writeChanged
  split
  · rfl
  · exact Entries.get?_insert_of_ne different _ _

/-- Each part is compared with that part of the event before, and written on its own account. -/
theorem get?_writeParts (part : DatePart) (parts : CalendarParts)
    (previous : Option CalendarParts) (entries : List (String × Json)) :
    Entries.get? part.field (writeParts parts previous entries) =
      if previous.map part.among = some (part.among parts) then Entries.get? part.field entries
      else some (.string (part.among parts)) := by
  have notTime : part.field ≠ "time" := by cases part <;> decide
  rw [writeParts, writeText, Entries.get?_insert_of_ne notTime]
  cases part with
  | year =>
      rw [DatePart.field, get?_writeChanged_of_ne (by decide), get?_writeChanged_of_ne (by decide),
        get?_writeChanged_self]
      rfl
  | month =>
      rw [DatePart.field, get?_writeChanged_of_ne (by decide), get?_writeChanged_self,
        get?_writeChanged_of_ne (by decide)]
      rfl
  | day =>
      rw [DatePart.field, get?_writeChanged_self, get?_writeChanged_of_ne (by decide),
        get?_writeChanged_of_ne (by decide)]
      rfl

/-! ## One event -/

section

variable {frame : TimeFrame} {earlier : Option Instant} {event result : Json}
  {events results : List Json}

/-- What becomes of an element behind an event, if there is one: an event is listed by the parts of
its date, any other element stays as it is. -/
inductive Lists (frame : TimeFrame) (earlier : Option Instant) : Json → Json → Prop where
  | undated {event : Json} (noDate : eventAt? frame event = none) : Lists frame earlier event event
  | dated {entries : List (String × Json)} {instant : Instant}
      (isDate : eventAt? frame (.object entries) = some instant) :
      Lists frame earlier (.object entries)
        (.object (writeParts (frame.calendarParts instant) (earlier.map frame.calendarParts) entries))

theorem Lists.written (lists : Lists frame earlier event result) :
    Written calendarFields event result := by
  cases lists with
  | undated => exact .same _
  | dated => exact .record (writes_writeParts _ _ _)

theorem Lists.eq_of_undated (lists : Lists frame earlier event result)
    (noDate : eventAt? frame event = none) : result = event := by
  cases lists with
  | undated => rfl
  | dated isDate => simp [isDate] at noDate

theorem Lists.time (lists : Lists frame earlier event result) {instant : Instant}
    (isDate : eventAt? frame event = some instant) :
    result.field? "time" = some (.string (frame.localTime instant).clockText) := by
  cases lists with
  | undated noDate => simp [noDate] at isDate
  | dated isInstant =>
      obtain rfl := Option.some.inj (isInstant.symm.trans isDate)
      exact Entries.get?_insert_self _ _ _

/-- A part that the event before has too is not written; any other one is. -/
theorem Lists.part (lists : Lists frame earlier event result) {instant : Instant}
    (isDate : eventAt? frame event = some instant) {part : DatePart}
    (fresh : event.field? part.field = none) :
    result.field? part.field =
      if earlier.map (part.text frame) = some (part.text frame instant) then none
      else some (.string (part.text frame instant)) := by
  cases lists with
  | undated noDate => simp [noDate] at isDate
  | @dated entries _ isInstant =>
      obtain rfl := Option.some.inj (isInstant.symm.trans isDate)
      have noField : Entries.get? part.field entries = none := fresh
      have sameParts : (earlier.map frame.calendarParts).map part.among =
          earlier.map (part.text frame) := by
        rw [Option.map_map]
        exact Option.map_congr fun other _ => part.among_calendarParts frame other
      rw [Json.field?, get?_writeParts, sameParts, part.among_calendarParts, noField]

/-- Behind an event what is known of a part is what its own instant says. -/
theorem Lists.known (lists : Lists frame earlier event result) {part : DatePart}
    (fresh : event.field? part.field = none) :
    (result.field? part.field).or (earlier.map fun instant => .string (part.text frame instant)) =
      ((eventAt? frame event).or earlier).map fun instant => .string (part.text frame instant) := by
  cases isDate : eventAt? frame event with
  | none => rw [lists.eq_of_undated isDate, fresh, Option.none_or, Option.none_or]
  | some instant =>
      rw [lists.part isDate fresh]
      split
      · next same =>
        rcases Option.map_eq_some_iff.mp same with ⟨other, rfl, sameText⟩
        simp [sameText]
      · rfl

/-! ## All events -/

theorem exists_decompose_cons (frame : TimeFrame) (earlier : Option Instant) (event : Json) :
    ∃ result, Lists frame earlier event result ∧ ∀ rest,
      decompose frame (earlier.map frame.calendarParts) (event :: rest) =
        result :: decompose frame
          (((eventAt? frame event).or earlier).map frame.calendarParts) rest := by
  cases event with
  | object entries =>
      cases isDate : eventAt? frame (.object entries) with
      | none =>
          have noInstant : eventInstant? frame entries = none := isDate
          exact ⟨.object entries, .undated isDate, fun rest => by simp [decompose, noInstant]⟩
      | some instant =>
          have isInstant : eventInstant? frame entries = some instant := isDate
          exact ⟨_, .dated isDate, fun rest => by simp [decompose, isInstant]⟩
  | _ => exact ⟨_, .undated rfl, fun _ => rfl⟩

/-- Each element is listed behind the nearest event before it, or behind an earlier one if there is
none. -/
theorem lists_of_decompose (earlier : Option Instant) {index : Nat}
    (isEvent : events[index]? = some event)
    (isResult : (decompose frame (earlier.map frame.calendarParts) events)[index]? = some result) :
    Lists frame ((lastEvent? frame (events.take index)).or earlier) event result := by
  induction events generalizing earlier index with
  | nil => simp at isEvent
  | cons first rest hypothesis =>
      rcases exists_decompose_cons frame earlier first with ⟨listed, lists, isListed⟩
      rw [isListed] at isResult
      cases index with
      | zero =>
          simp only [List.getElem?_cons_zero, Option.some.injEq] at isEvent isResult
          rw [← isEvent, ← isResult]
          exact lists
      | succ index =>
          simp only [List.getElem?_cons_succ] at isEvent isResult
          rw [List.take_succ_cons, lastEvent?, getLast?_filterMap_cons, Option.or_assoc]
          exact hypothesis _ isEvent isResult

theorem take_decompose (frame : TimeFrame) (earlier : Option Instant) (events : List Json)
    (count : Nat) :
    (decompose frame (earlier.map frame.calendarParts) events).take count =
      decompose frame (earlier.map frame.calendarParts) (events.take count) := by
  induction events generalizing earlier count with
  | nil => rw [List.take_nil, decompose, List.take_nil]
  | cons event rest hypothesis =>
      rcases exists_decompose_cons frame earlier event with ⟨result, _, isListed⟩
      cases count with
      | zero => rfl
      | succ count => rw [isListed, List.take_succ_cons, List.take_succ_cons, isListed, hypothesis]

/-- Reading the last value of a part gives what the last event says, or an earlier one if there is
none. -/
theorem lastWritten?_decompose (frame : TimeFrame) (earlier : Option Instant) (part : DatePart)
    (fresh : ∀ event ∈ events, event.field? part.field = none) :
    (lastWritten? part (decompose frame (earlier.map frame.calendarParts) events)).or
        (earlier.map fun instant => .string (part.text frame instant)) =
      ((lastEvent? frame events).or earlier).map
        fun instant => .string (part.text frame instant) := by
  induction events generalizing earlier with
  | nil => rfl
  | cons event rest hypothesis =>
      rcases exists_decompose_cons frame earlier event with ⟨result, lists, isListed⟩
      rw [isListed, lastWritten?, lastEvent?, getLast?_filterMap_cons, getLast?_filterMap_cons,
        Option.or_assoc, Option.or_assoc, lists.known (fresh event List.mem_cons_self)]
      exact hypothesis _ fun other member => fresh other (List.mem_cons_of_mem _ member)

end

/-! ## Decoding -/

/-- An event in a calendar: the last year, month and day that are written up to it are those of its
instant, and so is its time.  It repeats nothing of the event before, and other fields are
unchanged. -/
structure ListedAt (frame : TimeFrame) (earlier : Option Instant) (upToHere : List Json)
    (instant : Instant) (event result : Json) : Prop where
  last : ∀ part : DatePart, lastWritten? part upToHere = some (.string (part.text frame instant))
  twoDigits : (DatePart.day.text frame instant).length = 2
  time : result.field? "time" = some (.string (frame.localTime instant).clockText)
  repeats : ∀ part : DatePart, result.field? part.field = none ↔
    earlier.map (part.text frame) = some (part.text frame instant)
  others : Written calendarFields event result

theorem lastEvent?_take_succ {frame : TimeFrame} {events : List Json} {index : Nat} {event : Json}
    (isEvent : events[index]? = some event) {instant : Instant}
    (isDate : eventAt? frame event = some instant) :
    lastEvent? frame (events.take (index + 1)) = some instant := by
  rw [lastEvent?, List.take_add_one, isEvent, List.filterMap_append]
  simp [isDate]

/-- A calendar can be read back by filling forward. -/
theorem calendar_fills_forward (frame : TimeFrame) {events : List Json}
    (fresh : ∀ event ∈ events, ∀ part : DatePart, event.field? part.field = none) :
    ∃ results, apply frame (.array events) .calendarEvents = .ok (.array results) ∧
      results.length = events.length ∧
      ∀ (index : Nat) (event result : Json), events[index]? = some event →
        results[index]? = some result →
        (eventAt? frame event = none → result = event) ∧
        ∀ instant, eventAt? frame event = some instant →
          ListedAt frame (lastEvent? frame (events.take index)) (results.take (index + 1)) instant
            event result := by
  refine ⟨decompose frame none events, rfl, (written_decompose frame none events).length_eq.symm, ?_⟩
  intro index event result isEvent isResult
  have isNew := fresh event (List.mem_of_getElem? isEvent)
  have lists : Lists frame (lastEvent? frame (events.take index)) event result := by
    simpa using lists_of_decompose none isEvent isResult
  refine ⟨lists.eq_of_undated, fun instant isDate => ?_⟩
  constructor
  case last =>
    intro part
    have stillFresh : ∀ other ∈ events.take (index + 1), other.field? part.field = none :=
      fun other member => fresh other (List.mem_of_mem_take member) part
    have known := lastWritten?_decompose frame none part stillFresh
    rw [lastEvent?_take_succ isEvent isDate] at known
    have taken := take_decompose frame none events (index + 1)
    rw [← taken] at known
    simpa using known
  case twoDigits => exact DatePart.length_text_day frame instant
  case time => exact lists.time isDate
  case repeats =>
    intro part
    rw [lists.part isDate (isNew part)]
    simp
  case others => exact lists.written

/-- The first of January 1970, a value that is no event, and the first of February. -/
def newMonth : List Json :=
  [.object [("TS", .int 0)], .string "note", .object [("date", .int 2678400000)]]

theorem calendar_fills_forward_newMonth :
    (∀ event ∈ newMonth, ∀ part : DatePart, event.field? part.field = none) ∧
      ∃ results, apply ⟨0, ⟨0, 0⟩⟩ (.array newMonth) .calendarEvents = .ok (.array results) ∧
        lastWritten? .year results = some (.string "1970") ∧
        lastWritten? .month results = some (.string "February") ∧
        lastWritten? .day results = some (.string "01") ∧
        (results[1]? = some (.string "note")) ∧
        ∃ last, results[2]? = some last ∧ last.field? "year" = none := by
  have fresh : ∀ event ∈ newMonth, ∀ part : DatePart, event.field? part.field = none := by
    intro event member part
    simp only [newMonth, List.mem_cons, List.not_mem_nil, or_false] at member
    rcases member with rfl | rfl | rfl <;> cases part <;> rfl
  refine ⟨fresh, ?_⟩
  rcases calendar_fills_forward ⟨0, ⟨0, 0⟩⟩ fresh with ⟨results, isResult, length, each⟩
  have three : results.length = 3 := length
  have second : results[1]? = some results[1] := List.getElem?_eq_getElem (by omega)
  have third : results[2]? = some results[2] := List.getElem?_eq_getElem (by omega)
  have note := (each 1 _ _ rfl second).1 rfl
  have listed := (each 2 _ _ rfl third).2 ⟨2678400, 0⟩ rfl
  rw [List.take_of_length_le (Nat.le_of_eq three)] at listed
  exact ⟨results, isResult, listed.last .year, listed.last .month, listed.last .day,
    second.trans (congrArg some note), _, third, (listed.repeats .year).mpr rfl⟩

end PageContext.Transform
