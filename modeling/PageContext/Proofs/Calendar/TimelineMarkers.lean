import PageContext.Proofs.Calendar.Stretches
import PageContext.Proofs.Transform.HeadingPlaces
import PageContext.Proofs.Transform.Runs

/-!
# The markers of a timeline

A timeline can be laid out round by round: a round adds the marker of a year or a month, and the
rounds end with the last year or month.  The months of a timeline of months fall into blocks, one for
each year, and the marker of the year stands in front of its block.
-/

namespace PageContext

namespace YearMonth

theorem isMonth_ofIndex (index : Int) : (ofIndex index).IsMonth := by
  simp only [IsMonth, ofIndex]
  omega

theorem isMonth_first (year : Int) : (YearMonth.mk year 1).IsMonth :=
  ⟨Nat.le_refl 1, Nat.le_add_left 1 11⟩

theorem index_ofIndex (number : Int) : (ofIndex number).index = number := by
  simp only [index, ofIndex]
  omega

end YearMonth

namespace TimeFrame

/-! ## Rounds -/

section

variable (current : YearMonth) (short : Bool)

/-- The markers that a round adds, and the year that is marked behind it. -/
def timelineRound (unit : MarkerKind) (lastYear : Option Int) (number : Int) :
    List Marker × Option Int :=
  match unit with
  | .year => ([.ofYear current number], lastYear)
  | .month =>
      let yearMonth := YearMonth.ofIndex number
      let month := monthMarker current short yearMonth
      if lastYear = some yearMonth.year then ([month], lastYear)
      else ([.ofYear current yearMonth.year, month], some yearMonth.year)

/-- A timeline that is laid out round by round, up to the round of the last number; nothing comes out
if the rounds do not suffice. -/
def layOut (unit : MarkerKind) (step last : Int) :
    (rounds : Nat) → (lastYear : Option Int) → (number : Int) → Option (List Marker)
  | 0, _, _ => none
  | rounds + 1, lastYear, number =>
      let round := timelineRound current short unit lastYear number
      if number = last then some round.1
      else (layOut unit step last rounds round.2 (number + step)).map (round.1 ++ ·)

/-- The markers of the numbers of a timeline, behind a year that is marked. -/
def markersOf (unit : MarkerKind) (lastYear : Option Int) (numbers : List Int) : List Marker :=
  match unit with
  | .year => numbers.map (Marker.ofYear current)
  | .month => monthMarkers current short lastYear (numbers.map YearMonth.ofIndex)

end

section

variable {current : YearMonth} {short : Bool}

/-- The markers of a number are those of its round. -/
theorem markersOf_cons (unit : MarkerKind) (lastYear : Option Int) (number : Int)
    (numbers : List Int) :
    markersOf current short unit lastYear (number :: numbers) =
      (timelineRound current short unit lastYear number).1 ++
        markersOf current short unit (timelineRound current short unit lastYear number).2 numbers := by
  cases unit with
  | year => rfl
  | month =>
      simp only [markersOf, timelineRound, List.map_cons, monthMarkers]
      split
      · next same => simp [same, monthMarker]
      · simp [monthMarker]

/-- As many rounds as there are numbers are needed, and these rounds give their markers. -/
theorem layOut_eq (current : YearMonth) (short : Bool) (unit : MarkerKind) (direction : Direction)
    (rounds : Nat) (lastYear : Option Int) (number : Int) (amount : Nat) :
    layOut current short unit direction.sign (number + direction.sign * amount) rounds lastYear
        number =
      if amount < rounds then
        some (markersOf current short unit lastYear
          (stretch number (number + direction.sign * amount)))
      else none := by
  -- A round leads one step nearer to the last number, which stays what it is.
  induction rounds generalizing lastYear number amount with
  | zero => rfl
  | succ rounds hypothesis =>
      simp only [layOut]
      cases amount with
      | zero =>
          have alone : stretch number (number + direction.sign * (0 : Nat)) = [number] := by
            simp [stretch]
          have isLast : number = number + direction.sign * (0 : Nat) := by simp
          rw [alone, if_pos isLast, if_pos (Nat.succ_pos rounds), markersOf_cons]
          cases unit <;> simp [markersOf, monthMarkers]
      | succ amount =>
          have notLast : number ≠ number + direction.sign * (amount + 1 : Nat) := by
            cases direction <;> simp only [Direction.sign] <;> omega
          have sameLast : number + direction.sign * (amount + 1 : Nat) =
              number + direction.sign + direction.sign * amount := by
            rw [Int.natCast_add_one, Int.mul_add, Int.mul_one]
            omega
          rw [if_neg notLast, stretch_cons, markersOf_cons, sameLast, hypothesis]
          simp only [Nat.add_lt_add_iff_right]
          split <;> rfl

theorem layOut_towards (current : YearMonth) (short : Bool) (unit : MarkerKind) (first last : Int)
    (rounds : Nat) :
    layOut current short unit (Direction.towards first last).sign last rounds none first =
      if (last - first).natAbs < rounds then
        some (markersOf current short unit none (stretch first last))
      else none := by
  have laidOut := layOut_eq current short unit (Direction.towards first last) rounds none first
    (last - first).natAbs
  rwa [Direction.add_sign_towards] at laidOut

/-! ## Blocks -/

/-- The marker of a year with the markers of months of it. -/
def yearBlock (current : YearMonth) (short : Bool) (block : Int × List YearMonth) : List Marker :=
  .ofYear current block.1 :: block.2.map (monthMarker current short)

/-- A month with its year. -/
def withYear (month : YearMonth) : Int × YearMonth :=
  (month.year, month)

/-- The blocks of consecutive months of a year. -/
def yearBlocks (months : List YearMonth) : List (Int × List YearMonth) :=
  (Transform.runsAfter none (months.map withYear)).2

/-- The months of the year that is marked come first, and then one block after the other. -/
theorem monthMarkers_eq (lastYear : Option Int) (months : List YearMonth) :
    monthMarkers current short lastYear months =
      (Transform.runsAfter lastYear (months.map withYear)).1.map (monthMarker current short) ++
        (Transform.runsAfter lastYear (months.map withYear)).2.flatMap (yearBlock current short) := by
  induction months generalizing lastYear with
  | nil => rfl
  | cons month rest hypothesis =>
      rw [monthMarkers, hypothesis (some month.year), List.map_cons, withYear, Transform.runsAfter]
      split <;> simp [yearBlock, monthMarker]

theorem monthMarkers_none (months : List YearMonth) :
    monthMarkers current short none months =
      (yearBlocks months).flatMap (yearBlock current short) := by
  rw [monthMarkers_eq, Transform.runsAfter_none_leading, List.map_nil, List.nil_append, yearBlocks]

theorem flatMap_yearBlocks (months : List YearMonth) :
    (yearBlocks months).flatMap Prod.snd = months := by
  have joined := Transform.runsAfter_joined none (months.map withYear)
  rw [Transform.runsAfter_none_leading, List.nil_append, List.map_map] at joined
  have unchanged : Prod.snd ∘ withYear = id := rfl
  rwa [unchanged, List.map_id] at joined

theorem yearBlocks_inside {months : List YearMonth} {block : Int × List YearMonth}
    (member : block ∈ yearBlocks months) :
    block.2 ≠ [] ∧ ∀ month ∈ block.2, month ∈ months ∧ month.year = block.1 := by
  rcases Transform.runsAfter_inside member with ⟨nonempty, inside⟩
  refine ⟨nonempty, fun month isMonth => ?_⟩
  rcases List.mem_map.mp (inside month isMonth) with ⟨_, inMonths, same⟩
  obtain ⟨sameYear, rfl⟩ := Prod.mk.inj same
  exact ⟨inMonths, sameYear⟩

theorem mem_years_yearBlocks {months : List YearMonth} {year : Int} :
    year ∈ (yearBlocks months).map Prod.fst ↔ ∃ month ∈ months, month.year = year := by
  constructor
  · intro isYear
    rcases List.mem_map.mp isYear with ⟨block, isBlock, rfl⟩
    rcases yearBlocks_inside isBlock with ⟨nonempty, inside⟩
    rcases List.exists_mem_of_ne_nil _ nonempty with ⟨month, inBlock⟩
    exact ⟨month, inside month inBlock⟩
  · rintro ⟨month, inMonths, rfl⟩
    rw [← flatMap_yearBlocks months] at inMonths
    rcases List.mem_flatMap.mp inMonths with ⟨block, isBlock, inBlock⟩
    exact List.mem_map.mpr ⟨block, isBlock, ((yearBlocks_inside isBlock).2 month inBlock).2.symm⟩

/-- Where the years of months never turn back, the blocks have them in their order, each once. -/
theorem pairwise_yearBlocks {direction : Direction} {months : List YearMonth}
    (inOrder : months.Pairwise fun month later => ¬direction.Passes later.year month.year) :
    ((yearBlocks months).map Prod.fst).Pairwise direction.Passes := by
  have years : ((months.map withYear).map Prod.fst).Pairwise
      fun year later => ¬direction.Passes later year := by
    rw [List.map_map, List.pairwise_map]
    exact inOrder
  have apart := Transform.runsAfter_apart none (months.map withYear)
  have : Trans direction.Passes direction.Passes direction.Passes := ⟨Direction.Passes.trans⟩
  refine Transform.pairwise_of_isChain_ne ?_
    (years.sublist (Transform.runsAfter_keys_sublist none (months.map withYear))) apart
  intro first second notBack differ
  cases direction <;> simp only [Direction.Passes] at * <;> omega

/-! ## Blocks of a stretch of months -/

section

variable {start finish : YearMonth} (isStart : start.IsMonth) (isFinish : finish.IsMonth)

include isStart isFinish

/-- The years of the months of a stretch do not turn back, seen from the first year to the last. -/
theorem pairwise_years_stretch :
    ((stretch start.index finish.index).map YearMonth.ofIndex).Pairwise fun month later =>
      ¬(Direction.towards start.year finish.year).Passes later.year month.year := by
  rw [List.pairwise_map]
  refine (pairwise_stretch start.index finish.index).imp_of_mem ?_
  intro number later inStretch laterInStretch passes
  -- Backwards within a year, the years do not turn back forwards either, as there is only one.
  rw [mem_stretch_iff] at inStretch laterInStretch
  rw [Direction.passes_towards_iff] at passes ⊢
  rcases isStart with ⟨startLow, startHigh⟩
  rcases isFinish with ⟨finishLow, finishHigh⟩
  simp only [YearMonth.index, YearMonth.ofIndex] at *
  omega

theorem exists_month_of_year_iff {year : Int} :
    (∃ month ∈ (stretch start.index finish.index).map YearMonth.ofIndex, month.year = year) ↔
      year ∈ stretch start.year finish.year := by
  rcases isStart with ⟨startLow, startHigh⟩
  rcases isFinish with ⟨finishLow, finishHigh⟩
  simp only [List.mem_map, mem_stretch_iff]
  constructor
  · rintro ⟨_, ⟨number, inStretch, rfl⟩, rfl⟩
    simp only [YearMonth.index, YearMonth.ofIndex] at *
    omega
  · intro between
    -- The earliest month of the year that is not before both ends.
    refine ⟨_, ⟨max (min start.index finish.index) (12 * year), ?_, rfl⟩, ?_⟩
    all_goals
      simp only [YearMonth.index, YearMonth.ofIndex] at *
      omega

theorem years_yearBlocks_stretch :
    (yearBlocks ((stretch start.index finish.index).map YearMonth.ofIndex)).map Prod.fst =
      stretch start.year finish.year := by
  refine eq_stretch (pairwise_yearBlocks (pairwise_years_stretch isStart isFinish)) fun year => ?_
  rw [mem_years_yearBlocks, exists_month_of_year_iff isStart isFinish]

end

/-- The months from one month to another in blocks, one for each year from the year of the one to
that of the other. -/
structure AreYearBlocks (start finish : YearMonth) (blocks : List (Int × List YearMonth)) :
    Prop where
  years : IsStretch start.year finish.year (blocks.map Prod.fst)
  months : IsStretch start.index finish.index ((blocks.flatMap Prod.snd).map YearMonth.index)
  inYear : ∀ block ∈ blocks, block.2 ≠ [] ∧
    ∀ month ∈ block.2, month.IsMonth ∧ month.year = block.1

theorem areYearBlocks_stretch {start finish : YearMonth} (isStart : start.IsMonth)
    (isFinish : finish.IsMonth) :
    AreYearBlocks start finish
      (yearBlocks ((stretch start.index finish.index).map YearMonth.ofIndex)) where
  years := by
    rw [years_yearBlocks_stretch isStart isFinish]
    exact isStretch_stretch start.year finish.year
  months := by
    have unchanged : YearMonth.index ∘ YearMonth.ofIndex = id := funext YearMonth.index_ofIndex
    rw [flatMap_yearBlocks, List.map_map, unchanged, List.map_id]
    exact isStretch_stretch start.index finish.index
  inYear := by
    intro block member
    rcases yearBlocks_inside member with ⟨nonempty, inside⟩
    refine ⟨nonempty, fun month inBlock => ⟨?_, (inside month inBlock).2⟩⟩
    rcases List.mem_map.mp (inside month inBlock).1 with ⟨number, _, rfl⟩
    exact YearMonth.isMonth_ofIndex number

/-! ## Current markers -/

theorem current_ofYear_iff (year : Int) :
    (Marker.ofYear current year).toJson.field? "current" = some (.bool true) ↔
      (Marker.ofYear current year).reference = MarkerKind.year.referenceOf current := by
  rw [Marker.field?_current_toJson]
  constructor
  · intro isCurrent
    exact congrArg toString (beq_iff_eq.mp isCurrent)
  · intro same
    exact beq_iff_eq.mpr (Int.repr_injective same)

theorem current_monthMarker_iff {month : YearMonth} (isMonth : month.IsMonth)
    (currentIsMonth : current.IsMonth) :
    (monthMarker current short month).toJson.field? "current" = some (.bool true) ↔
      (monthMarker current short month).reference = MarkerKind.month.referenceOf current := by
  rw [Marker.field?_current_toJson]
  constructor
  · intro isCurrent
    exact congrArg YearMonth.reference (beq_iff_eq.mp isCurrent)
  · intro same
    exact beq_iff_eq.mpr (YearMonth.reference_inj isMonth currentIsMonth same)

end

/-! ## Timelines -/

/-- The number of the local year or the local month of an instant. -/
def localNumber (frame : TimeFrame) (instant : Instant) : MarkerKind → Int
  | .year => (frame.localMonth instant).year
  | .month => (frame.localMonth instant).index

/-- The timeline from one instant to another, laid out in some rounds. -/
def timelineInRounds (frame : TimeFrame) (first last : Instant) (unit : MarkerKind) (short : Bool)
    (rounds : Nat) : Option (List Marker) :=
  let start := frame.localNumber first unit
  let finish := frame.localNumber last unit
  layOut (frame.localMonth frame.now) short unit (Direction.towards start finish).sign finish
    rounds none start

/-- What the timelines from one instant to another are like. -/
structure TimelinesBetween (frame : TimeFrame) (first last : Instant) (short : Bool) : Prop where
  /-- The rounds end with the timeline, as soon as there is one for each number. -/
  ends (unit : MarkerKind) (rounds : Nat) :
    frame.timelineInRounds first last unit short rounds =
      if (frame.localNumber last unit - frame.localNumber first unit).natAbs < rounds then
        some (frame.timeline first last unit short)
      else none
  /-- The markers of the months stand in blocks behind those of their years. -/
  months : ∃ blocks : List (Int × List YearMonth),
    AreYearBlocks (frame.localMonth first) (frame.localMonth last) blocks ∧
      frame.timeline first last .month short =
        blocks.flatMap (yearBlock (frame.localMonth frame.now) short) ∧
      (frame.timeline first last .month short).filter (fun marker => marker.kind = .month) =
        (blocks.flatMap Prod.snd).map (monthMarker (frame.localMonth frame.now) short)
  years : ∃ years : List Int,
    IsStretch (frame.localMonth first).year (frame.localMonth last).year years ∧
      frame.timeline first last .year short =
        years.map (Marker.ofYear (frame.localMonth frame.now))
  /-- The markers of the current year and the current month are those marked as current. -/
  current (unit : MarkerKind) : ∀ marker ∈ frame.timeline first last unit short,
    (marker.toJson.field? "current" = some (.bool true) ↔
      marker.reference = marker.kind.referenceOf (frame.localMonth frame.now))
  monthsReversed :
    (frame.timeline last first .month short).filter (fun marker => marker.kind = .month) =
      ((frame.timeline first last .month short).filter (fun marker => marker.kind = .month)).reverse
  yearsReversed :
    frame.timeline last first .year short = (frame.timeline first last .year short).reverse

theorem timeline_eq_markersOf (frame : TimeFrame) (first last : Instant) (unit : MarkerKind)
    (short : Bool) :
    frame.timeline first last unit short =
      markersOf (frame.localMonth frame.now) short unit none
        (stretch (frame.localNumber first unit) (frame.localNumber last unit)) := by
  cases unit <;> rfl

/-- A marker of a timeline is one of a year or of a month, and the marker of its year stands in the
timeline. -/
theorem exists_month_of_mem_timeline {frame : TimeFrame} {first last : Instant} {unit : MarkerKind}
    {short : Bool} {marker : Marker} (member : marker ∈ frame.timeline first last unit short) :
    ∃ month : YearMonth, month.IsMonth ∧
      .ofYear (frame.localMonth frame.now) month.year ∈ frame.timeline first last unit short ∧
        (marker = .ofYear (frame.localMonth frame.now) month.year ∨
          marker = monthMarker (frame.localMonth frame.now) short month) := by
  have isMember := member
  rw [timeline_eq_markersOf] at member
  cases unit with
  | year =>
      rcases List.mem_map.mp member with ⟨year, _, rfl⟩
      exact ⟨⟨year, 1⟩, YearMonth.isMonth_first year, isMember, .inl rfl⟩
  | month =>
      rw [markersOf, monthMarkers_none] at member
      rcases List.mem_flatMap.mp member with ⟨block, isBlock, inBlock⟩
      rcases yearBlocks_inside isBlock with ⟨nonempty, inside⟩
      have yearMarker : .ofYear (frame.localMonth frame.now) block.1 ∈
          frame.timeline first last .month short := by
        rw [timeline_eq_markersOf, markersOf, monthMarkers_none]
        exact List.mem_flatMap.mpr ⟨block, isBlock, List.mem_cons_self⟩
      rcases List.mem_cons.mp inBlock with rfl | isMonthMarker
      · exact ⟨⟨block.1, 1⟩, YearMonth.isMonth_first block.1, yearMarker, .inl rfl⟩
      · rcases List.mem_map.mp isMonthMarker with ⟨month, inMonths, rfl⟩
        rcases inside month inMonths with ⟨inStretch, isYear⟩
        rcases List.mem_map.mp inStretch with ⟨number, _, rfl⟩
        refine ⟨_, YearMonth.isMonth_ofIndex number, ?_, .inr rfl⟩
        rw [isYear]
        exact yearMarker

theorem mem_timeline_cases {frame : TimeFrame} {first last : Instant} {unit : MarkerKind}
    {short : Bool} {marker : Marker} (member : marker ∈ frame.timeline first last unit short) :
    (∃ year, marker = .ofYear (frame.localMonth frame.now) year) ∨
      ∃ month : YearMonth, month.IsMonth ∧
        marker = monthMarker (frame.localMonth frame.now) short month := by
  rcases exists_month_of_mem_timeline member with ⟨month, isMonth, _, isYear | isMonthMarker⟩
  · exact .inl ⟨month.year, isYear⟩
  · exact .inr ⟨month, isMonth, isMonthMarker⟩

/-- Timelines are contiguous, complete and reversible. -/
theorem timelines_between (frame : TimeFrame) (first last : Instant) (short : Bool) :
    TimelinesBetween frame first last short where
  ends := by
    intro unit rounds
    rw [timeline_eq_markersOf]
    exact layOut_towards _ short unit _ _ rounds
  months := by
    refine ⟨_, areYearBlocks_stretch (frame.isMonth_localMonth first)
      (frame.isMonth_localMonth last), ?_, ?_⟩
    · rw [timeline, monthMarkers_none]
    · rw [timeline, filter_monthMarkers, flatMap_yearBlocks]
  years := ⟨_, isStretch_stretch _ _, rfl⟩
  current := by
    intro unit marker member
    rcases mem_timeline_cases member with ⟨year, rfl⟩ | ⟨month, isMonth, rfl⟩
    · exact current_ofYear_iff year
    · exact current_monthMarker_iff isMonth (frame.isMonth_localMonth frame.now)
  monthsReversed := by
    simp only [timeline, filter_monthMarkers]
    rw [← reverse_stretch, List.map_reverse, List.map_reverse]
  yearsReversed := by
    simp only [timeline]
    rw [← reverse_stretch, List.map_reverse]

end TimeFrame

end PageContext
