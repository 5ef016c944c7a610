import Mathlib.Data.Nat.Find
import PageContext.Proofs.Transform.Provenance

/-!
# Survivors

Of the records with one key exactly one survives: the first of those with the least rank.  So no two
survivors are duplicates of each other, and to remove duplicates once more changes nothing.
-/

namespace PageContext.Transform

/-- What duplicates have in common: the text of the deduplication field, or the lack of it. -/
def dedupKey (rule : DedupRule) (record : Json) : Option String :=
  (fieldNamed? rule.dedupField record).map Json.compact

/-- The rank of a record: the first place at which its priority value is listed, or the place behind
all of them. -/
inductive HasRank (rule : DedupRule) (record : Json) : Nat → Prop where
  | listed {value listed : Json} {place : Nat}
      (isValue : fieldNamed? rule.priorityField record = some value)
      (isListed : rule.priorityValues[place]? = some listed) (same : listed.same value = true)
      (first : ∀ earlier < place, ∀ other, rule.priorityValues[earlier]? = some other →
        other.same value = false) : HasRank rule record place
  | unlisted
      (unlisted : ∀ value, fieldNamed? rule.priorityField record = some value →
        ∀ listed ∈ rule.priorityValues, listed.same value = false) :
      HasRank rule record rule.priorityValues.length

/-- The record at a place is the first of the best among its duplicates. -/
structure IsFirstBest (rule : DedupRule) (records : List Json) (place : Nat) (record : Json) :
    Prop where
  here : records[place]? = some record
  best : ∀ other ∈ records, dedupKey rule other = dedupKey rule record →
    rank rule record ≤ rank rule other
  first : ∀ earlier < place, ∀ other, records[earlier]? = some other →
    dedupKey rule other = dedupKey rule record → rank rule other ≠ rank rule record

/-- The records that are kept: in their order, one of each key, the first of the best. -/
structure KeepsBest (rule : DedupRule) (records kept : List Json) : Prop where
  sublist : kept.Sublist records
  places : ∃ places : List Nat, places.Pairwise (· < ·) ∧
    places.map (records[·]?) = kept.map some ∧
    ∀ place, place ∈ places ↔ ∃ record, IsFirstBest rule records place record
  distinct : (kept.map (dedupKey rule)).Nodup
  complete : ∀ record ∈ records, dedupKey rule record ∈ kept.map (dedupKey rule)

/-! ## Ranks -/

theorem hasRank_rank (rule : DedupRule) (record : Json) :
    HasRank rule record (rank rule record) := by
  unfold rank
  split
  · next value isValue =>
    have atMost : (rule.priorityValues.findIdx fun listed => listed.same value) ≤
        rule.priorityValues.length := List.findIdx_le_length
    rcases Nat.lt_or_eq_of_le atMost with isListed | noneListed
    · have same := List.findIdx_getElem (w := isListed)
      apply HasRank.listed isValue (List.getElem?_eq_getElem isListed) same
      intro earlier before other isOther
      rcases List.getElem?_eq_some_iff.mp isOther with ⟨_, rfl⟩
      simpa using List.not_of_lt_findIdx before
    · rw [noneListed]
      apply HasRank.unlisted
      intro other isOther listed member
      obtain rfl : value = other := Option.some.inj (isValue.symm.trans isOther)
      exact List.findIdx_eq_length.mp noneListed listed member
  · next noValue =>
    apply HasRank.unlisted
    intro value isValue
    rw [noValue] at isValue
    contradiction

/-! ## Survivors -/

/-- Whether a record gives way to one of those before it or behind it. -/
theorem givesWay_iff (rule : DedupRule) (front later : List Json) (current : Json) :
    ((front.reverse.map (candidate rule)).any (yieldsToEarlier (candidate rule current)) ||
        (later.map (candidate rule)).any (yieldsToLater (candidate rule current))) = false ↔
      (∀ other ∈ front, dedupKey rule other = dedupKey rule current →
        rank rule current < rank rule other) ∧
      ∀ other ∈ later, dedupKey rule other = dedupKey rule current →
        rank rule current ≤ rank rule other := by
  simp only [Bool.or_eq_false_iff, List.any_eq_false, List.mem_map, List.mem_reverse,
    forall_exists_index, and_imp, forall_apply_eq_imp_iff₂, yieldsToEarlier, yieldsToLater,
    candidate, Bool.and_eq_true, beq_iff_eq, decide_eq_true_eq, not_and, Nat.not_le, Nat.not_lt,
    dedupKey]
  refine and_congr Iff.rfl ?_
  constructor
  · intro better other member same
    exact better other member same.symm
  · intro better other member same
    exact better other member same.symm

/-- A record is the first of the best if those before it are worse and those behind it no better. -/
theorem isFirstBest_append_cons_iff (rule : DedupRule) (front later : List Json)
    (current record : Json) :
    IsFirstBest rule (front ++ current :: later) front.length record ↔ record = current ∧
      (∀ other ∈ front, dedupKey rule other = dedupKey rule current →
        rank rule current < rank rule other) ∧
      ∀ other ∈ later, dedupKey rule other = dedupKey rule current →
        rank rule current ≤ rank rule other := by
  constructor
  · intro isFirstBest
    obtain rfl : current = record := by simpa using isFirstBest.here
    refine ⟨rfl, ?_, ?_⟩
    · intro other member same
      rcases List.mem_iff_getElem.mp member with ⟨place, before, rfl⟩
      have noWorse := isFirstBest.best _ (List.mem_append_left _ member) same
      have isThere : (front ++ current :: later)[place]? = some front[place] :=
        (List.getElem?_append_left before).trans (List.getElem?_eq_getElem before)
      have differs := isFirstBest.first place before _ isThere same
      omega
    · intro other member same
      exact isFirstBest.best other (by simp [member]) same
  · rintro ⟨rfl, better, noWorse⟩
    refine ⟨by simp, ?_, ?_⟩
    · intro other member same
      rcases List.mem_append.mp member with inFront | inRest
      · exact Nat.le_of_lt (better other inFront same)
      · rcases List.mem_cons.mp inRest with rfl | inLater
        · exact Nat.le_refl _
        · exact noWorse other inLater same
    · intro earlier before other isOther same
      rw [List.getElem?_append_left before] at isOther
      have worse := better other (List.mem_of_getElem? isOther) same
      omega

/-- The survivors of the records behind `front` stand at the places of the first best records. -/
theorem exists_places_survivors (rule : DedupRule) (front rest : List Json) :
    ∃ places : List Nat, places.Pairwise (· < ·) ∧
      places.map ((front ++ rest)[·]?) =
        ((survivors (front.reverse.map (candidate rule)) (rest.map (candidate rule))).map
          Candidate.record).map some ∧
      ∀ place, place ∈ places ↔ front.length ≤ place ∧
        ∃ record, IsFirstBest rule (front ++ rest) place record := by
  -- A record that has been passed moves to the front, so `front` has to vary.
  induction rest generalizing front with
  | nil =>
      refine ⟨[], .nil, rfl, ?_⟩
      intro place
      simp only [List.not_mem_nil, false_iff, not_and, not_exists]
      intro behind record isFirstBest
      have inside := (List.getElem?_eq_some_iff.mp isFirstBest.here).1
      simp at inside
      omega
  | cons current later hypothesis =>
      rcases hypothesis (front ++ [current]) with ⟨places, ascending, arePlaces, mem_places_iff⟩
      rw [List.append_assoc, List.singleton_append] at arePlaces mem_places_iff
      rw [List.reverse_append, List.reverse_singleton, List.singleton_append, List.map_cons]
        at arePlaces
      simp only [List.length_append, List.length_singleton] at mem_places_iff
      have isHere := isFirstBest_append_cons_iff rule front later current
      rw [← givesWay_iff] at isHere
      simp only [List.map_cons, survivors]
      split
      · next givesWay =>
        refine ⟨places, ascending, arePlaces, ?_⟩
        intro place
        rw [mem_places_iff]
        constructor
        · rintro ⟨behind, isFirstBest⟩
          exact ⟨by omega, isFirstBest⟩
        · rintro ⟨behind, record, isFirstBest⟩
          refine ⟨?_, record, isFirstBest⟩
          by_contra noLater
          obtain rfl : place = front.length := by omega
          rw [isHere, givesWay] at isFirstBest
          exact absurd isFirstBest.2 (by decide)
      · next stays =>
        rw [Bool.not_eq_true] at stays
        refine ⟨front.length :: places, ?_, ?_, ?_⟩
        · apply List.Pairwise.cons _ ascending
          intro place member
          have behind := (mem_places_iff place).mp member
          omega
        · simp only [List.map_cons, arePlaces]
          simp [candidate]
        · intro place
          rw [List.mem_cons, mem_places_iff]
          constructor
          · rintro (rfl | ⟨behind, isFirstBest⟩)
            · exact ⟨Nat.le_refl _, current, (isHere current).mpr ⟨rfl, stays⟩⟩
            · exact ⟨by omega, isFirstBest⟩
          · rintro ⟨behind, isFirstBest⟩
            rcases Nat.lt_or_eq_of_le behind with later | here
            · exact .inr ⟨later, isFirstBest⟩
            · exact .inl here.symm

theorem exists_places (rule : DedupRule) (records : List Json) :
    ∃ places : List Nat, places.Pairwise (· < ·) ∧
      places.map (records[·]?) = (withoutDuplicates rule records).map some ∧
      ∀ place, place ∈ places ↔ ∃ record, IsFirstBest rule records place record := by
  simpa [withoutDuplicates] using exists_places_survivors rule [] records

/-- Of two duplicates at most one is the first of the best. -/
theorem IsFirstBest.dedupKey_ne {rule : DedupRule} {records : List Json} {earlier later : Nat}
    {first second : Json} (isFirst : IsFirstBest rule records earlier first)
    (isSecond : IsFirstBest rule records later second) (order : earlier < later) :
    dedupKey rule first ≠ dedupKey rule second := by
  intro same
  have noWorse := isFirst.best second (List.mem_of_getElem? isSecond.here) same.symm
  have noBetter := isSecond.best first (List.mem_of_getElem? isFirst.here) same
  have differs := isSecond.first earlier order first isFirst.here same
  omega

theorem dedupKey_withoutDuplicates_nodup (rule : DedupRule) (records : List Json) :
    ((withoutDuplicates rule records).map (dedupKey rule)).Nodup := by
  rcases exists_places rule records with ⟨places, ascending, arePlaces, mem_places_iff⟩
  have atPlaces : (places.map (records[·]?)).Pairwise fun first second =>
      ∀ record ∈ first, ∀ other ∈ second, dedupKey rule record ≠ dedupKey rule other := by
    rw [List.pairwise_map]
    apply ascending.imp_of_mem
    intro earlier later isEarlier isLater order record isRecord other isOther
    rcases (mem_places_iff earlier).mp isEarlier with ⟨first, isFirst⟩
    rcases (mem_places_iff later).mp isLater with ⟨second, isSecond⟩
    obtain rfl : first = record := Option.some.inj (isFirst.here.symm.trans isRecord)
    obtain rfl : second = other := Option.some.inj (isSecond.here.symm.trans isOther)
    exact isFirst.dedupKey_ne isSecond order
  rw [arePlaces, List.pairwise_map] at atPlaces
  apply List.pairwise_map.mpr
  apply atPlaces.imp
  intro record other differ
  exact differ record rfl other rfl

/-- Among duplicates there is a first of the best. -/
theorem exists_isFirstBest (rule : DedupRule) {records : List Json} {record : Json}
    (member : record ∈ records) :
    ∃ place best, IsFirstBest rule records place best ∧
      dedupKey rule best = dedupKey rule record := by
  classical
  -- First the least rank among the duplicates, then the first place at which one has this rank.
  have someRank : ∃ least, ∃ other ∈ records, dedupKey rule other = dedupKey rule record ∧
      rank rule other = least := ⟨_, record, member, rfl, rfl⟩
  have somePlace : ∃ place : Nat, ∃ other, records[place]? = some other ∧
      dedupKey rule other = dedupKey rule record ∧ rank rule other = Nat.find someRank := by
    rcases Nat.find_spec someRank with ⟨other, isOther, same, isLeast⟩
    rcases List.mem_iff_getElem?.mp isOther with ⟨place, here⟩
    exact ⟨place, other, here, same, isLeast⟩
  rcases Nat.find_spec somePlace with ⟨best, here, same, isLeast⟩
  refine ⟨Nat.find somePlace, best, ⟨here, ?_, ?_⟩, same⟩
  · intro other isOther sameKey
    rw [isLeast]
    exact Nat.find_min' someRank ⟨other, isOther, sameKey.trans same, rfl⟩
  · intro earlier before other isOther sameKey sameRank
    apply Nat.find_min somePlace before
    exact ⟨other, isOther, sameKey.trans same, sameRank.trans isLeast⟩

theorem dedupKey_mem_withoutDuplicates (rule : DedupRule) {records : List Json} {record : Json}
    (member : record ∈ records) :
    dedupKey rule record ∈ (withoutDuplicates rule records).map (dedupKey rule) := by
  rcases exists_places rule records with ⟨places, _, arePlaces, mem_places_iff⟩
  rcases exists_isFirstBest rule member with ⟨place, best, isFirstBest, same⟩
  have atPlace : some best ∈ places.map (records[·]?) := by
    rw [← isFirstBest.here]
    exact List.mem_map_of_mem ((mem_places_iff place).mpr ⟨best, isFirstBest⟩)
  rw [arePlaces] at atPlace
  have isKept : best ∈ withoutDuplicates rule records := by simpa using atPlace
  rw [← same]
  exact List.mem_map_of_mem isKept

theorem keepsBest_withoutDuplicates (rule : DedupRule) (records : List Json) :
    KeepsBest rule records (withoutDuplicates rule records) where
  sublist := withoutDuplicates_sublist rule records
  places := exists_places rule records
  distinct := dedupKey_withoutDuplicates_nodup rule records
  complete := fun _ member => dedupKey_mem_withoutDuplicates rule member

/-- Records that are no duplicates of each other are all kept. -/
theorem KeepsBest.eq_of_nodup {rule : DedupRule} {records kept : List Json}
    (keepsBest : KeepsBest rule records kept)
    (distinct : (records.map (dedupKey rule)).Nodup) : kept = records := by
  have allKeys : records.map (dedupKey rule) ⊆ kept.map (dedupKey rule) := by
    intro key member
    rcases List.mem_map.mp member with ⟨record, isRecord, rfl⟩
    exact keepsBest.complete record isRecord
  have noFewer := (distinct.subperm allKeys).length_le
  rw [List.length_map, List.length_map] at noFewer
  exact keepsBest.sublist.eq_of_length_le noFewer

theorem withoutDuplicates_withoutDuplicates (rule : DedupRule) (records : List Json) :
    withoutDuplicates rule (withoutDuplicates rule records) = withoutDuplicates rule records := by
  apply (keepsBest_withoutDuplicates rule (withoutDuplicates rule records)).eq_of_nodup
  exact dedupKey_withoutDuplicates_nodup rule records

/-! ## Main result -/

theorem apply_removeDuplicates (frame : TimeFrame) (rule : DedupRule) (records : List Json) :
    apply frame (.array records) (.removeDuplicates rule) =
      .ok (.array (withoutDuplicates rule records)) := rfl

/-- Of the records with one key the first of those with the least rank is kept, and no other; to
remove duplicates once more changes nothing.  In an array of groups this is done to the items of each
group that has any, and nothing else changes. -/
theorem removes_duplicates (frame : TimeFrame) (rule : DedupRule) :
    (∀ record, HasRank rule record (rank rule record)) ∧
      (∀ records, ∃ kept,
        apply frame (.array records) (.removeDuplicates rule) = .ok (.array kept) ∧
          KeepsBest rule records kept ∧
          apply frame (.array kept) (.removeDuplicates rule) = .ok (.array kept)) ∧
      ∀ groups, ∃ results,
        apply frame (.array groups) (.removeDuplicatesFromGroups rule) = .ok (.array results) ∧
          List.Forall₂ (RevisesItems (KeepsBest rule)) groups results := by
  refine ⟨hasRank_rank rule, ?_, ?_⟩
  · intro records
    refine ⟨withoutDuplicates rule records, apply_removeDuplicates frame rule records,
      keepsBest_withoutDuplicates rule records, ?_⟩
    rw [apply_removeDuplicates, withoutDuplicates_withoutDuplicates]
  · intro groups
    refine ⟨groups.map (onItems (withoutDuplicates rule)), rfl, ?_⟩
    rw [List.forall₂_map_right_iff, List.forall₂_same]
    intro group _
    apply (revisesItems_onItems (withoutDuplicates rule) group).imp
    rintro items _ rfl
    exact keepsBest_withoutDuplicates rule items

end PageContext.Transform
