import Mathlib.Data.List.Chain
import PageContext.Transform.Groups

/-!
# Runs of labelled records

Labelling marks the first record of each run of records with the same label, and grouping opens a
group at each mark.  One after the other they cut a list of records into its runs, and each record
is afterwards what it was before.
-/

namespace PageContext.Transform

section

variable {κ α : Type} [DecidableEq κ]

/-- The items that continue a run which began before them, and the runs that begin among them. -/
def runsAfter : Option κ → List (κ × α) → List α × List (κ × List α)
  | _, [] => ([], [])
  | previous, (key, item) :: rest =>
      let (leading, runs) := runsAfter (some key) rest
      if previous = some key then (item :: leading, runs)
      else ([], (key, item :: leading) :: runs)

theorem runsAfter_joined (previous : Option κ) (items : List (κ × α)) :
    (runsAfter previous items).1 ++ (runsAfter previous items).2.flatMap Prod.snd =
      items.map Prod.snd := by
  induction items generalizing previous with
  | nil => rfl
  | cons head rest hypothesis =>
      rcases head with ⟨key, item⟩
      by_cases continues : previous = some key <;>
        simp [runsAfter, continues, ← hypothesis (some key)]

theorem runsAfter_leading {previous : Option κ} {items : List (κ × α)} {item : α}
    (member : item ∈ (runsAfter previous items).1) :
    ∃ key, previous = some key ∧ (key, item) ∈ items := by
  induction items generalizing previous with
  | nil => simp [runsAfter] at member
  | cons head rest hypothesis =>
      rcases head with ⟨key, first⟩
      by_cases continues : previous = some key
      · simp only [runsAfter, continues, if_true, List.mem_cons] at member
        rcases member with rfl | below
        · exact ⟨key, continues, List.mem_cons_self⟩
        · rcases hypothesis below with ⟨other, same, inRest⟩
          exact ⟨other, continues.trans same, List.mem_cons_of_mem _ inRest⟩
      · simp [runsAfter, continues] at member

theorem runsAfter_none_leading (items : List (κ × α)) : (runsAfter none items).1 = [] := by
  apply List.eq_nil_iff_forall_not_mem.mpr
  intro item member
  rcases runsAfter_leading member with ⟨key, impossible, _⟩
  contradiction

/-- Runs are not empty, and all of their items have the key of the run. -/
theorem runsAfter_inside {previous : Option κ} {items : List (κ × α)} {run : κ × List α}
    (member : run ∈ (runsAfter previous items).2) :
    run.2 ≠ [] ∧ ∀ item ∈ run.2, (run.1, item) ∈ items := by
  induction items generalizing previous with
  | nil => simp [runsAfter] at member
  | cons head rest hypothesis =>
      rcases head with ⟨key, first⟩
      have later : ∀ {other}, run ∈ (runsAfter other rest).2 →
          run.2 ≠ [] ∧ ∀ item ∈ run.2, (run.1, item) ∈ (key, first) :: rest := by
        intro other below
        rcases hypothesis below with ⟨nonempty, inside⟩
        exact ⟨nonempty, fun item isItem => List.mem_cons_of_mem _ (inside item isItem)⟩
      by_cases continues : previous = some key
      · simp only [runsAfter, continues, if_true] at member
        exact later member
      · simp only [runsAfter, continues, if_false, List.mem_cons] at member
        rcases member with rfl | below
        · refine ⟨List.cons_ne_nil _ _, ?_⟩
          intro item isItem
          rcases List.mem_cons.mp isItem with rfl | isLeading
          · exact List.mem_cons_self
          · rcases runsAfter_leading isLeading with ⟨other, same, inRest⟩
            rw [← Option.some.inj same] at inRest
            exact List.mem_cons_of_mem _ inRest
        · exact later below

theorem runsAfter_apart (previous : Option κ) (items : List (κ × α)) :
    (previous.toList ++ (runsAfter previous items).2.map Prod.fst).IsChain (· ≠ ·) := by
  induction items generalizing previous with
  | nil => cases previous <;> simp [runsAfter]
  | cons head rest hypothesis =>
      rcases head with ⟨key, first⟩
      have following := hypothesis (some key)
      by_cases continues : previous = some key
      · simpa [runsAfter, continues] using following
      · cases previous with
        | none => simpa [runsAfter] using following
        | some other =>
            have differs : other ≠ key := by simpa using continues
            simpa [runsAfter, differs] using List.IsChain.cons_cons differs following

theorem runsAfter_keys_sublist (previous : Option κ) (items : List (κ × α)) :
    ((runsAfter previous items).2.map Prod.fst).Sublist (items.map Prod.fst) := by
  induction items generalizing previous with
  | nil => simp [runsAfter]
  | cons head rest hypothesis =>
      rcases head with ⟨key, first⟩
      by_cases continues : previous = some key
      · simpa [runsAfter, continues] using (hypothesis (some key)).cons key
      · simpa [runsAfter, continues] using (hypothesis (some key)).cons_cons key

end

/-- Keys in an order that never repeat at once are in the strict order. -/
theorem pairwise_of_isChain_ne {κ : Type} {ordered strict : κ → κ → Prop}
    [Trans strict strict strict]
    (differ : ∀ first second, ordered first second → first ≠ second → strict first second)
    {keys : List κ} (inOrder : keys.Pairwise ordered) (apart : keys.IsChain (· ≠ ·)) :
    keys.Pairwise strict := by
  have neighbours := inOrder.isChain
  rw [← List.isChain_iff_pairwise]
  rw [List.isChain_iff_getElem] at neighbours apart ⊢
  intro index bound
  exact differ _ _ (neighbours index bound) (apart index bound)

/-- Keys that never ascend and never repeat at once never repeat at all. -/
theorem nodup_of_descending {keys : List Int}
    (descending : keys.Pairwise fun first second => second ≤ first)
    (apart : keys.IsChain (· ≠ ·)) : keys.Nodup := by
  have strictly : keys.Pairwise (· > ·) :=
    pairwise_of_isChain_ne (fun _ _ notAbove differ => by omega) descending apart
  exact strictly.imp fun lower => Int.ne_of_gt lower

/-! ## Labelling and grouping -/

theorem takeLabel_of_noDate {entries : List (String × Json)}
    (noDate : Entries.get? "date" entries = none) :
    takeLabel (.object entries) = (none, .object entries) := by
  simp [takeLabel, noDate]

/-- Taking a label off again restores the record. -/
theorem takeLabel_writeText {entries : List (String × Json)} {text : String}
    (noDate : Entries.get? "date" entries = none) (nonempty : text ≠ "") :
    takeLabel (.object (writeText "date" text entries)) =
      (some (.string text), .object entries) := by
  simp [takeLabel, writeText, Json.isTruthy, nonempty, Entries.swapRemove_insert noDate]

/-- A record without a date that gets the label of its key. -/
inductive Labelled {κ ε : Type} (frame : TimeFrame) (label : Instant → Except ε String)
    (text : κ → String) : κ × Json → Prop where
  | record {key : κ} {entries : List (String × Json)} {instant : Instant}
      (noDate : Entries.get? "date" entries = none)
      (isInstant : labelledInstant? frame entries = some instant)
      (isLabel : label instant = .ok (text key)) :
      Labelled frame label text (key, .object entries)

def Group.ofRun {κ : Type} (text : κ → String) (run : κ × List Json) : Group :=
  ⟨.string (text run.1), run.2⟩

/-- Labels that tell keys apart cut records into the runs of their keys. -/
theorem openGroups_labelRuns {κ ε : Type} [DecidableEq κ] {frame : TimeFrame}
    {label : Instant → Except ε String} {text : κ → String} (injective : Function.Injective text)
    (nonempty : ∀ key, text key ≠ "") (previous : Option κ) {items : List (κ × Json)}
    (each : ∀ item ∈ items, Labelled frame label text item) :
    ∃ events, labelRuns frame label (previous.map text) (items.map Prod.snd) = .ok events ∧
      openGroups events =
        ((runsAfter previous items).1, (runsAfter previous items).2.map (Group.ofRun text)) := by
  -- Behind an item its own label is the previous one, so `previous` has to vary.
  induction items generalizing previous with
  | nil => exact ⟨[], rfl, rfl⟩
  | cons item rest hypothesis =>
      cases each item List.mem_cons_self with
      | @record key entries instant noDate isInstant isLabel =>
          have restEach : ∀ other ∈ rest, Labelled frame label text other := by
            intro other member
            exact each other (List.mem_cons_of_mem _ member)
          rcases hypothesis (some key) restEach with ⟨events, labelled, opened⟩
          refine ⟨.object (writeChanged "date" (text key) (previous.map text) entries) :: events,
            ?_, ?_⟩
          · rw [Option.map_some] at labelled
            simp [labelRuns, isInstant, isLabel, labelled, bind, Except.bind, pure, Except.pure]
          · by_cases continues : previous = some key
            · simp [openGroups, opened, runsAfter, continues, writeChanged,
                takeLabel_of_noDate noDate]
            · have changes : previous.map text ≠ some (text key) := by
                intro same
                rcases Option.map_eq_some_iff.mp same with ⟨other, isOther, sameText⟩
                exact continues (by rw [isOther, injective sameText])
              simp [openGroups, opened, runsAfter, continues, writeChanged, changes,
                takeLabel_writeText noDate (nonempty key), Group.ofRun]

/-- Labelling records and grouping them by their labels gives the runs of their keys. -/
theorem groups_labelRuns {κ ε : Type} [DecidableEq κ] {frame : TimeFrame}
    {label : Instant → Except ε String} {text : κ → String} (injective : Function.Injective text)
    (nonempty : ∀ key, text key ≠ "") {items : List (κ × Json)}
    (each : ∀ item ∈ items, Labelled frame label text item) :
    ∃ events, labelRuns frame label none (items.map Prod.snd) = .ok events ∧
      groups events = (runsAfter none items).2.map (Group.ofRun text) := by
  rcases openGroups_labelRuns injective nonempty none each with ⟨events, labelled, opened⟩
  refine ⟨events, labelled, ?_⟩
  rw [groups, opened, runsAfter_none_leading]

end PageContext.Transform
