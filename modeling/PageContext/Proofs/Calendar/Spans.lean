import Mathlib.Order.MinMax
import PageContext.Proofs.Calendar.Days
import PageContext.Proofs.Text.Decimal

/-!
# Spans of time in words

The words for a span of time climb a scale of eleven stages, from a few seconds to years, and a
longer span never stands lower on the scale than a shorter one.  Units that are counted are at least
two, so that the plural fits, except in one place: the stage of a single day ends half an hour before
there are one and a half days, and until then the nearest number of days is still one.
-/

namespace PageContext

/-- A phrase of the scale: a single unit, or at least two of one. -/
inductive IsPhrase : String → Prop where
  | single {text : String} (isSingle : text ∈
      ["a few seconds", "a minute", "an hour", "a day", "a month", "a year"]) : IsPhrase text
  | several {count : Nat} {unit : String} (isPlural : 2 ≤ count)
      (isUnit : unit ∈ ["minutes", "hours", "days", "months", "years"]) :
      IsPhrase (toString count ++ " " ++ unit)

namespace Span

/-! ## Order on the scale -/

/-- The place on the scale, from a few seconds up to years. -/
def stage : Span → Nat
  | .fewSeconds => 0
  | .oneMinute => 1
  | .minutes _ => 2
  | .oneHour => 3
  | .hours _ => 4
  | .oneDay => 5
  | .days _ => 6
  | .oneMonth => 7
  | .months _ => 8
  | .oneYear => 9
  | .years _ => 10

/-- How many units there are. -/
def count : Span → Nat
  | .minutes count | .hours count | .days count | .months count | .years count => count
  | .fewSeconds | .oneMinute | .oneHour | .oneDay | .oneMonth | .oneYear => 1

/-- Spans are ordered by their stages, and at one stage by their counts. -/
instance : LE Span where
  le shorter longer := shorter.stage < longer.stage ∨
    shorter.stage = longer.stage ∧ shorter.count ≤ longer.count

/-- The seconds with which the stages begin, the first one aside. -/
def thresholds : List Nat :=
  [45, 90, 2670, 5400, 77400, 127800, 2203200, 3844800, 27604800, 47304000]

/-- How many thresholds are passed, one after the other. -/
def passed (seconds : Nat) : List Nat → Nat
  | [] => 0
  | threshold :: rest => if seconds < threshold then 0 else passed seconds rest + 1

/-- The span of a stage with a count, which counts only where units are counted. -/
def ofStage (count : Nat) : Nat → Span
  | 0 => .fewSeconds
  | 1 => .oneMinute
  | 2 => .minutes count
  | 3 => .oneHour
  | 4 => .hours count
  | 5 => .oneDay
  | 6 => .days count
  | 7 => .oneMonth
  | 8 => .months count
  | 9 => .oneYear
  | _ => .years count

/-- The count of a stage among those of minutes, hours, days, months and years. -/
def countAt (minutes hours days months years : Nat) : Nat → Nat
  | 2 => minutes
  | 4 => hours
  | 6 => days
  | 8 => months
  | 10 => years
  | _ => 1

/-- How many units of a stage a number of seconds is. -/
def unitsAt (seconds : Nat) : Nat → Nat :=
  countAt (nearest seconds 60) (nearest seconds 3600) (nearest seconds 86400)
    (max 2 (nearest (100 * nearest seconds 86400) 3044))
    (max 2 (nearest (4 * nearest seconds 86400) 1461))

/-- A number of seconds in the words of a stage. -/
def atStage (seconds stage : Nat) : Span :=
  ofStage (unitsAt seconds stage) stage

theorem passed_mono {shorter longer : Nat} (order : shorter ≤ longer) (thresholds : List Nat) :
    passed shorter thresholds ≤ passed longer thresholds := by
  induction thresholds with
  | nil => exact Nat.le_refl _
  | cons threshold rest hypothesis =>
      simp only [passed]
      split <;> split <;> omega

theorem passed_le_length (seconds : Nat) (thresholds : List Nat) :
    passed seconds thresholds ≤ thresholds.length := by
  induction thresholds with
  | nil => exact Nat.le_refl _
  | cons threshold rest hypothesis =>
      rw [passed, List.length_cons]
      split <;> omega

theorem nearest_mono {fewer more : Nat} (order : fewer ≤ more) (unit : Nat) :
    nearest fewer unit ≤ nearest more unit :=
  Nat.div_le_div_right (Nat.add_le_add_right order _)

/-- The stage of a number of seconds is the number of thresholds that it has passed. -/
theorem ofSeconds_eq_atStage (seconds : Nat) :
    ofSeconds seconds = atStage seconds (passed seconds thresholds) := by
  have minutes : nearest seconds 60 < 45 ↔ seconds < 2670 := by
    rw [nearest]
    omega
  have hours (bound : Nat) :
      nearest seconds 3600 < bound ↔ seconds < 3600 * bound - 1800 := by
    rw [nearest]
    omega
  have days (bound : Nat) :
      nearest seconds 86400 < bound ↔ seconds < 86400 * bound - 43200 := by
    rw [nearest]
    omega
  simp only [ofSeconds, minutes, hours, days, thresholds, passed, apply_ite (· + 1),
    apply_ite (atStage seconds), Nat.reduceAdd, Nat.reduceMul, Nat.reduceSub]
  simp only [atStage, unitsAt, ofStage, countAt]

theorem stage_ofStage (count stage : Nat) : (ofStage count stage).stage = min stage 10 := by
  unfold ofStage
  split <;> simp only [imp_false, Span.stage] at * <;> omega

theorem count_ofStage_mono {fewer more : Nat} (order : fewer ≤ more) (stage : Nat) :
    (ofStage fewer stage).count ≤ (ofStage more stage).count := by
  unfold ofStage
  split <;> first | exact order | exact Nat.le_refl 1

theorem unitsAt_mono {shorter longer : Nat} (order : shorter ≤ longer) (stage : Nat) :
    unitsAt shorter stage ≤ unitsAt longer stage := by
  have days := nearest_mono order 86400
  have months := nearest_mono (Nat.mul_le_mul_left 100 days) 3044
  have years := nearest_mono (Nat.mul_le_mul_left 4 days) 1461
  unfold unitsAt countAt
  split
  · exact nearest_mono order 60
  · exact nearest_mono order 3600
  · exact days
  · exact max_le_max_left 2 months
  · exact max_le_max_left 2 years
  · exact Nat.le_refl 1

/-- A longer span does not stand lower on the scale. -/
theorem ofSeconds_mono {shorter longer : Nat} (order : shorter ≤ longer) :
    ofSeconds shorter ≤ ofSeconds longer := by
  have stages := passed_mono order thresholds
  rw [ofSeconds_eq_atStage, ofSeconds_eq_atStage]
  rcases Nat.lt_or_eq_of_le stages with less | same
  · left
    have bound := passed_le_length longer thresholds
    have isLength : thresholds.length = 10 := rfl
    rw [atStage, atStage, stage_ofStage, stage_ofStage]
    omega
  · right
    rw [atStage, atStage, stage_ofStage, stage_ofStage, same]
    exact ⟨rfl, count_ofStage_mono (unitsAt_mono order _) _⟩

/-! ## Plurals -/

/-- What is counted is at least two. -/
def IsPlural : Span → Prop
  | .minutes count | .hours count | .days count | .months count | .years count => 2 ≤ count
  | .fewSeconds | .oneMinute | .oneHour | .oneDay | .oneMonth | .oneYear => True

/-- What stands in front of the unit. -/
def amount : Span → String
  | .fewSeconds | .oneMinute | .oneDay | .oneMonth | .oneYear => "a"
  | .oneHour => "an"
  | .minutes count | .hours count | .days count | .months count | .years count => toString count

def unitName : Span → String
  | .fewSeconds => "few seconds"
  | .oneMinute => "minute"
  | .minutes _ => "minutes"
  | .oneHour => "hour"
  | .hours _ => "hours"
  | .oneDay => "day"
  | .days _ => "days"
  | .oneMonth => "month"
  | .months _ => "months"
  | .oneYear => "year"
  | .years _ => "years"

theorem text_eq (span : Span) : span.text = span.amount ++ " " ++ span.unitName := by
  cases span with
  | minutes count | hours count | days count | months count | years count =>
      simp [text, amount, unitName, String.append_assoc]
  | _ => rfl

theorem blank_notMem_amount (span : Span) : ' ' ∉ span.amount.toList := by
  cases span with
  | minutes count | hours count | days count | months count | years count =>
      intro member
      have isNumber := Text.digits?_eq_some_iff.mp (Text.digits?_toString count)
      have isDigit := isNumber.2.1 ' ' member
      contradiction
  | _ => decide

/-- The words tell all spans apart. -/
theorem text_injective : Function.Injective text := by
  intro first second same
  have parts (span : Span) : Text.cut ' ' span.text = some (span.amount, span.unitName) := by
    apply Text.cut_eq_some_iff.mpr
    refine ⟨span.blank_notMem_amount, ?_⟩
    simp [text_eq]
  have sameParts := parts first
  rw [same, parts, Option.some.injEq, Prod.mk.injEq] at sameParts
  rcases sameParts with ⟨sameAmount, sameUnit⟩
  cases first <;> cases second <;>
    simp_all only [unitName, amount, String.reduceEq, Span.minutes.injEq, Span.hours.injEq,
      Span.days.injEq, Span.months.injEq, Span.years.injEq]
  all_goals exact Nat.repr_injective sameAmount.symm

theorem isPhrase_iff {text : String} :
    IsPhrase text ↔ ∃ span : Span, span.IsPlural ∧ span.text = text := by
  constructor
  · rintro (isSingle | ⟨isPlural, isUnit⟩)
    · simp only [List.mem_cons, List.not_mem_nil, or_false] at isSingle
      rcases isSingle with rfl | rfl | rfl | rfl | rfl | rfl
      exacts [⟨.fewSeconds, trivial, rfl⟩, ⟨.oneMinute, trivial, rfl⟩, ⟨.oneHour, trivial, rfl⟩,
        ⟨.oneDay, trivial, rfl⟩, ⟨.oneMonth, trivial, rfl⟩, ⟨.oneYear, trivial, rfl⟩]
    · next count unit =>
      simp only [List.mem_cons, List.not_mem_nil, or_false] at isUnit
      rcases isUnit with rfl | rfl | rfl | rfl | rfl
      exacts [⟨.minutes count, isPlural, text_eq _⟩, ⟨.hours count, isPlural, text_eq _⟩,
        ⟨.days count, isPlural, text_eq _⟩, ⟨.months count, isPlural, text_eq _⟩,
        ⟨.years count, isPlural, text_eq _⟩]
  · rintro ⟨span, isPlural, rfl⟩
    rw [text_eq]
    cases span with
    | minutes count | hours count | days count | months count | years count =>
        exact .several isPlural (by simp [unitName])
    | _ => exact .single (by decide)

theorem isPhrase_text_iff (span : Span) : IsPhrase span.text ↔ span.IsPlural := by
  rw [isPhrase_iff]
  constructor
  · rintro ⟨other, isPlural, same⟩
    rwa [← text_injective same]
  · intro isPlural
    exact ⟨span, isPlural, rfl⟩

theorem isPlural_ofSeconds_iff (seconds : Nat) :
    (ofSeconds seconds).IsPlural ↔ ¬(127800 ≤ seconds ∧ seconds < 129600) := by
  simp only [ofSeconds, apply_ite IsPlural]
  simp only [IsPlural, nearest, Nat.le_max_left, ite_prop_iff_and, implies_true, true_and,
    and_true]
  omega

/-- In the half hour before there are one and a half days, one day is counted. -/
theorem ofSeconds_of_oneDay {seconds : Nat} (notBefore : 127800 ≤ seconds)
    (before : seconds < 129600) : ofSeconds seconds = .days 1 := by
  have stage : passed seconds thresholds = 6 := by
    simp only [thresholds, passed]
    repeat rw [if_neg (by omega)]
    rw [if_pos (by omega)]
  have one : nearest seconds 86400 = 1 := by
    rw [nearest]
    omega
  rw [ofSeconds_eq_atStage, stage, atStage, unitsAt, countAt, one, ofStage]

/-! ## Main results -/

/-- The words for a number of seconds are a phrase of the scale, a single unit or a plural, except in
the half hour before there are one and a half days, where they are `1 days`.  They are the words of
no other span, and more seconds never have words that stand lower on the scale. -/
theorem plural_words_iff (seconds : Nat) :
    (IsPhrase (ofSeconds seconds).text ↔ ¬(127800 ≤ seconds ∧ seconds < 129600)) ∧
    (127800 ≤ seconds → seconds < 129600 → (ofSeconds seconds).text = "1 days") ∧
    (∀ span : Span, span.text = (ofSeconds seconds).text → span = ofSeconds seconds) ∧
    ∀ more, seconds ≤ more → ofSeconds seconds ≤ ofSeconds more := by
  refine ⟨?_, ?_, ?_, ?_⟩
  · rw [isPhrase_text_iff, isPlural_ofSeconds_iff]
  · intro notBefore before
    rw [ofSeconds_of_oneDay notBefore before]
    rfl
  · intro span same
    exact text_injective same
  · intro more order
    exact ofSeconds_mono order

/-- The conclusion for the end of the half hour and the second behind it. -/
theorem plural_words_iff_half_hour :
    127800 ≤ 129599 ∧ 129599 < 129600 ∧ (ofSeconds 129599).text = "1 days" ∧
      ofSeconds 129599 ≤ ofSeconds 129600 := by
  rcases plural_words_iff 129599 with ⟨_, isOneDay, _, ordered⟩
  exact ⟨by decide, by decide, isOneDay (by decide) (by decide), ordered 129600 (by decide)⟩

/-- One day may be counted as if it were several. -/
theorem not_forall_isPhrase : ¬∀ seconds, IsPhrase (ofSeconds seconds).text := by
  intro phrases
  have isPlural := (isPhrase_text_iff _).mp (phrases 127800)
  rw [ofSeconds_of_oneDay (by decide) (by decide)] at isPlural
  exact absurd (show 2 ≤ 1 from isPlural) (by decide)

end Span

end PageContext
