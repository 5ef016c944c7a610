/-!
# Ordered entries

Objects and parameters are maps that remember the order in which their keys arrived.  They are
lists of pairs with distinct keys.  Inserting under a new key appends a pair; inserting under an
existing key changes the value and keeps the position.  Removing a key moves the last pair into the
place that becomes free.
-/

namespace PageContext.Entries

universe u

variable {α : Type u}

def get? (key : String) : List (String × α) → Option α
  | [] => none
  | entry :: rest => if entry.1 = key then some entry.2 else get? key rest

def contains (key : String) (entries : List (String × α)) : Bool :=
  (get? key entries).isSome

/-- Sets the value under a key, in its place or at the end. -/
def insert (key : String) (value : α) : List (String × α) → List (String × α)
  | [] => [(key, value)]
  | entry :: rest =>
      if entry.1 = key then (key, value) :: rest else entry :: insert key value rest

/-- Removes a key; the last entry takes the free place. -/
def swapRemove (key : String) : List (String × α) → List (String × α)
  | [] => []
  | entry :: rest =>
      if entry.1 = key then
        match rest.getLast? with
        | none => []
        | some last => last :: rest.dropLast
      else entry :: swapRemove key rest

def insertAll (pairs entries : List (String × α)) : List (String × α) :=
  pairs.foldl (fun result pair => insert pair.1 pair.2 result) entries

/-- The map built from pairs: a repeated key keeps its first place and its last value. -/
def ofPairs (pairs : List (String × α)) : List (String × α) :=
  insertAll pairs []

def keys (entries : List (String × α)) : List String :=
  entries.map Prod.fst

/-- Entries form a map when no key occurs twice. -/
def DistinctKeys (entries : List (String × α)) : Prop :=
  (keys entries).Nodup

instance (entries : List (String × α)) : Decidable (DistinctKeys entries) :=
  inferInstanceAs (Decidable (keys entries).Nodup)

@[simp] theorem get?_nil (key : String) : get? key ([] : List (String × α)) = none := rfl

@[simp] theorem get?_insert_self (key : String) (value : α) (entries : List (String × α)) :
    get? key (insert key value entries) = some value := by
  induction entries with
  | nil => simp [insert, get?]
  | cons entry rest hypothesis =>
      by_cases same : entry.1 = key <;> simp [insert, get?, same, hypothesis]

theorem get?_insert_of_ne {key other : String} (different : other ≠ key) (value : α)
    (entries : List (String × α)) :
    get? other (insert key value entries) = get? other entries := by
  induction entries with
  | nil => simp [insert, get?, different.symm]
  | cons entry rest hypothesis =>
      by_cases same : entry.1 = key
      · simp [insert, get?, same, different.symm]
      · simp [insert, get?, same, hypothesis]

/-- Of two values that are inserted under a key the second one stays. -/
theorem insert_insert (key : String) (first second : α) (entries : List (String × α)) :
    insert key second (insert key first entries) = insert key second entries := by
  induction entries with
  | nil => simp [insert]
  | cons entry rest hypothesis =>
      by_cases same : entry.1 = key
      · simp [insert, same]
      · simp [insert, same, hypothesis]

theorem get?_eq_none_iff (key : String) (entries : List (String × α)) :
    get? key entries = none ↔ key ∉ keys entries := by
  induction entries with
  | nil => simp [keys]
  | cons entry rest hypothesis =>
      by_cases same : entry.1 = key
      · simp [get?, keys, same]
      · have swapped : ¬key = entry.1 := fun equal => same equal.symm
        simp [get?, same, hypothesis, keys, swapped]

/-- Inserting keeps the keys, or appends the new one. -/
theorem keys_insert (key : String) (value : α) (entries : List (String × α)) :
    keys (insert key value entries) =
      if key ∈ keys entries then keys entries else keys entries ++ [key] := by
  induction entries with
  | nil => simp [insert, keys]
  | cons entry rest hypothesis =>
      by_cases same : entry.1 = key
      · simp [insert, keys, same]
      · have swapped : ¬key = entry.1 := fun equal => same equal.symm
        simp only [keys] at hypothesis
        by_cases present : key ∈ rest.map Prod.fst <;>
          simp [insert, keys, same, swapped, hypothesis, present]

theorem DistinctKeys.insert {entries : List (String × α)} (distinct : DistinctKeys entries)
    (key : String) (value : α) : DistinctKeys (insert key value entries) := by
  unfold DistinctKeys at *
  rw [keys_insert]
  split
  · exact distinct
  · rename_i absent
    exact List.nodup_append.2 ⟨distinct, by simp, by
      intro left member right single equal
      simp only [List.mem_singleton] at single
      exact absent (single ▸ equal ▸ member)⟩

theorem DistinctKeys.insertAll {pairs entries : List (String × α)}
    (distinct : DistinctKeys entries) : DistinctKeys (insertAll pairs entries) := by
  induction pairs generalizing entries with
  | nil => exact distinct
  | cons pair rest hypothesis => exact hypothesis (distinct.insert pair.1 pair.2)

/-- A map built from pairs has distinct keys. -/
theorem distinctKeys_ofPairs (pairs : List (String × α)) : DistinctKeys (ofPairs pairs) :=
  DistinctKeys.insertAll List.nodup_nil

theorem mem_insert {key : String} {value : α} {entries : List (String × α)}
    {entry : String × α} (member : entry ∈ insert key value entries) :
    entry = (key, value) ∨ entry ∈ entries := by
  induction entries with
  | nil => exact .inl (List.mem_singleton.mp member)
  | cons head rest hypothesis =>
      by_cases same : head.1 = key
      · simp only [insert, same, if_true, List.mem_cons] at member
        exact member.imp_right (List.mem_cons_of_mem head)
      · simp only [insert, same, if_false, List.mem_cons] at member
        rcases member with rfl | below
        · exact .inr List.mem_cons_self
        · exact (hypothesis below).imp_right (List.mem_cons_of_mem head)

theorem mem_insertAll {pairs entries : List (String × α)} {entry : String × α}
    (member : entry ∈ insertAll pairs entries) : entry ∈ pairs ∨ entry ∈ entries := by
  induction pairs generalizing entries with
  | nil => exact .inr member
  | cons pair rest hypothesis =>
      rcases hypothesis member with inRest | inserted
      · exact .inl (List.mem_cons_of_mem pair inRest)
      · rcases mem_insert inserted with rfl | old
        · exact .inl List.mem_cons_self
        · exact .inr old

/-- A map built from pairs holds nothing but these pairs. -/
theorem mem_of_mem_ofPairs {pairs : List (String × α)} {entry : String × α}
    (member : entry ∈ ofPairs pairs) : entry ∈ pairs := by
  rcases mem_insertAll member with inPairs | inNone
  · exact inPairs
  · simp at inNone

/-- Values may be changed where they stand. -/
theorem get?_map {β : Type u} (change : String → α → β) (key : String)
    (entries : List (String × α)) :
    get? key (entries.map fun entry => (entry.1, change entry.1 entry.2)) =
      (get? key entries).map (change key) := by
  induction entries with
  | nil => rfl
  | cons entry rest hypothesis =>
      by_cases same : entry.1 = key
      · simp [get?, same]
      · simp [get?, same, hypothesis]

theorem mem_of_get? {key : String} {value : α} {entries : List (String × α)}
    (found : get? key entries = some value) : (key, value) ∈ entries := by
  induction entries with
  | nil => simp at found
  | cons entry rest hypothesis =>
      by_cases same : entry.1 = key
      · have sameValue : entry.2 = value := by simpa [get?, same] using found
        rw [← same, ← sameValue]
        exact List.mem_cons_self
      · have below : get? key rest = some value := by simpa [get?, same] using found
        exact List.mem_cons_of_mem entry (hypothesis below)

theorem get?_of_mem {entries : List (String × α)} (distinct : DistinctKeys entries)
    {key : String} {value : α} (member : (key, value) ∈ entries) :
    get? key entries = some value := by
  induction entries with
  | nil => simp at member
  | cons entry rest hypothesis =>
      have tailDistinct : DistinctKeys rest := (List.nodup_cons.mp distinct).2
      cases member with
      | head => simp [get?]
      | tail _ below =>
          have fresh : entry.1 ∉ keys rest := (List.nodup_cons.mp distinct).1
          have different : entry.1 ≠ key := by
            rintro rfl
            exact fresh (List.mem_map.mpr ⟨_, below, rfl⟩)
          simp [get?, different, hypothesis tailDistinct below]

/-- In a map, what is found under a key is the value of the one entry with this key. -/
theorem get?_eq_some_iff {entries : List (String × α)} (distinct : DistinctKeys entries)
    {key : String} {value : α} : get? key entries = some value ↔ (key, value) ∈ entries :=
  ⟨mem_of_get?, get?_of_mem distinct⟩

/-- A new key comes last, so that removing it again gives back the old entries. -/
theorem swapRemove_insert {key : String} {entries : List (String × α)}
    (absent : get? key entries = none) (value : α) :
    swapRemove key (insert key value entries) = entries := by
  induction entries with
  | nil => simp [insert, swapRemove]
  | cons entry rest hypothesis =>
      have different : entry.1 ≠ key := by
        intro same
        simp [get?, same] at absent
      have absentBelow : get? key rest = none := by
        simpa [get?, different] using absent
      simp [insert, swapRemove, different, hypothesis absentBelow]

/-- What is inserted under a new key comes last. -/
theorem insert_of_absent {key : String} {entries : List (String × α)}
    (absent : key ∉ keys entries) (value : α) :
    insert key value entries = entries ++ [(key, value)] := by
  induction entries with
  | nil => rfl
  | cons entry rest hypothesis =>
      simp only [keys, List.map_cons, List.mem_cons, not_or] at absent
      simp [insert, Ne.symm absent.1, hypothesis absent.2]

/-- Pairs with new and distinct keys are appended as they are. -/
theorem insertAll_of_distinctKeys {pairs entries : List (String × α)}
    (distinct : DistinctKeys (entries ++ pairs)) : insertAll pairs entries = entries ++ pairs := by
  induction pairs generalizing entries with
  | nil => simp [insertAll]
  | cons pair rest hypothesis =>
      have absent : pair.1 ∉ keys entries := by
        intro present
        rw [DistinctKeys, keys, List.map_append, List.nodup_append] at distinct
        exact distinct.2.2 pair.1 present pair.1 List.mem_cons_self rfl
      have appended := insert_of_absent absent pair.2
      rw [List.append_cons] at distinct
      calc insertAll (pair :: rest) entries
          = insertAll rest (insert pair.1 pair.2 entries) := rfl
        _ = insertAll rest (entries ++ [pair]) := by rw [appended]
        _ = entries ++ pair :: rest := by rw [hypothesis distinct, ← List.append_cons]

/-- Entries that form a map are the map built from them. -/
theorem ofPairs_of_distinctKeys {pairs : List (String × α)} (distinct : DistinctKeys pairs) :
    ofPairs pairs = pairs := by
  rw [← List.nil_append pairs] at distinct
  exact insertAll_of_distinctKeys distinct

/-- The entries of a map that are inserted win over those that were there. -/
theorem get?_insertAll {pairs : List (String × α)} (distinct : DistinctKeys pairs) (key : String)
    (entries : List (String × α)) :
    get? key (insertAll pairs entries) = (get? key pairs).or (get? key entries) := by
  induction pairs generalizing entries with
  | nil => rfl
  | cons pair rest hypothesis =>
      have fresh : pair.1 ∉ keys rest := (List.nodup_cons.mp distinct).1
      have below := hypothesis (List.nodup_cons.mp distinct).2 (insert pair.1 pair.2 entries)
      rw [insertAll, List.foldl_cons, ← insertAll, below]
      by_cases same : pair.1 = key
      · subst same
        simp [get?, (get?_eq_none_iff pair.1 rest).mpr fresh]
      · simp [get?, same, get?_insert_of_ne (Ne.symm same)]

theorem mem_keys_of_get? {key : String} {value : α} {entries : List (String × α)}
    (found : get? key entries = some value) : key ∈ keys entries :=
  List.mem_map_of_mem (mem_of_get? found)

theorem get?_insertAll_of_mem {pairs : List (String × α)} (distinct : DistinctKeys pairs)
    {key : String} (isKey : key ∈ keys pairs) (entries : List (String × α)) :
    get? key (insertAll pairs entries) = get? key pairs := by
  rw [get?_insertAll distinct]
  cases found : get? key pairs with
  | none => exact absurd isKey ((get?_eq_none_iff key pairs).mp found)
  | some value => rfl

theorem get?_insertAll_of_notMem {pairs : List (String × α)} (distinct : DistinctKeys pairs)
    {key : String} (noKey : key ∉ keys pairs) (entries : List (String × α)) :
    get? key (insertAll pairs entries) = get? key entries := by
  rw [get?_insertAll distinct, (get?_eq_none_iff key pairs).mpr noKey, Option.none_or]

/-- New keys come last, in the order of the entries that are inserted. -/
theorem keys_insertAll {pairs : List (String × α)} (distinct : DistinctKeys pairs)
    (entries : List (String × α)) :
    keys (insertAll pairs entries) =
      keys entries ++ (keys pairs).filter fun key => key ∉ keys entries := by
  induction pairs generalizing entries with
  | nil => simp [insertAll, keys]
  | cons pair rest hypothesis =>
      have fresh : pair.1 ∉ keys rest := (List.nodup_cons.mp distinct).1
      have below := hypothesis (List.nodup_cons.mp distinct).2 (insert pair.1 pair.2 entries)
      have sameKeys : keys (pair :: rest) = pair.1 :: keys rest := rfl
      rw [insertAll, List.foldl_cons, ← insertAll, below, keys_insert, sameKeys]
      by_cases present : pair.1 ∈ keys entries
      · simp [present]
      · -- Among the keys behind it the new one does not occur again.
        have sameRest : (keys rest).filter (fun key => key ∉ keys entries ++ [pair.1]) =
            (keys rest).filter fun key => key ∉ keys entries := by
          apply List.filter_congr
          intro key member
          have different : key ≠ pair.1 := by
            rintro rfl
            exact fresh member
          simp [different]
        rw [if_neg present, sameRest]
        simp [present]

theorem insertAll_append (pairs more entries : List (String × α)) :
    insertAll (pairs ++ more) entries = insertAll more (insertAll pairs entries) :=
  List.foldl_append

/-- A map built from pairs has their keys in the order in which they first occur. -/
theorem keys_ofPairs (pairs : List (String × α)) :
    keys (ofPairs pairs) = (keys pairs).eraseDups := by
  rw [ofPairs]
  -- The last pair is inserted last, so the induction is from the end.
  induction reversed : pairs.reverse generalizing pairs with
  | nil =>
      rw [List.reverse_eq_nil_iff.mp reversed]
      rfl
  | cons pair rest hypothesis =>
      have isSnoc : pairs = rest.reverse ++ [pair] := by
        rw [← List.reverse_reverse pairs, reversed, List.reverse_cons]
      have before := hypothesis rest.reverse (List.reverse_reverse rest)
      have inserted : insertAll pairs [] = insert pair.1 pair.2 (insertAll rest.reverse []) := by
        rw [isSnoc, insertAll_append]
        rfl
      have split : (keys pairs).eraseDups =
          (keys rest.reverse).eraseDups ++ ([pair.1].removeAll (keys rest.reverse)).eraseDups := by
        rw [isSnoc, keys, List.map_append, List.eraseDups_append]
        rfl
      rw [inserted, keys_insert, before, split]
      by_cases present : pair.1 ∈ keys rest.reverse
      · simp [List.mem_eraseDups, List.removeAll, present]
      · simp [List.mem_eraseDups, List.removeAll, present, List.eraseDups_cons]

/-- Of the pairs with a key that are inserted, the last one counts. -/
theorem get?_insertAll_eq_find? (key : String) (pairs entries : List (String × α)) :
    get? key (insertAll pairs entries) =
      ((pairs.reverse.find? (·.1 == key)).map Prod.snd).or (get? key entries) := by
  induction pairs generalizing entries with
  | nil => rfl
  | cons pair rest hypothesis =>
      have below := hypothesis (insert pair.1 pair.2 entries)
      rw [insertAll, List.foldl_cons, ← insertAll, below, List.reverse_cons, List.find?_append]
      by_cases same : pair.1 = key
      · subst same
        cases rest.reverse.find? (·.1 == pair.1) <;> simp
      · simp [same, get?_insert_of_ne (Ne.symm same)]

/-- Entries whose values are all of one form come from entries of what the form holds. -/
theorem exists_map_of_forall {β : Type u} {form : β → α} {entries : List (String × α)}
    (each : ∀ entry ∈ entries, ∃ value, entry.2 = form value) :
    ∃ values : List (String × β), entries = values.map fun entry => (entry.1, form entry.2) := by
  induction entries with
  | nil => exact ⟨[], rfl⟩
  | cons entry rest hypothesis =>
      rcases entry with ⟨key, value⟩
      rcases each _ List.mem_cons_self with ⟨inner, rfl⟩
      rcases hypothesis fun other member => each other (List.mem_cons_of_mem _ member) with
        ⟨values, rfl⟩
      exact ⟨(key, inner) :: values, rfl⟩

/-- The first of the entries with a key is the one that is found. -/
theorem get?_eq_head?_filter (key : String) (entries : List (String × α)) :
    get? key entries = ((entries.filter fun entry => entry.1 = key).head?).map Prod.snd := by
  induction entries with
  | nil => rfl
  | cons entry rest hypothesis =>
      by_cases same : entry.1 = key
      · simp [get?, same]
      · simp [get?, same, hypothesis]

/-- What is found under a key stands behind entries that do not have the key. -/
theorem exists_append_of_get? {key : String} {value : α} {entries : List (String × α)}
    (found : get? key entries = some value) :
    ∃ before after, entries = before ++ (key, value) :: after ∧ key ∉ keys before := by
  induction entries with
  | nil => simp at found
  | cons entry rest hypothesis =>
      by_cases same : entry.1 = key
      · have sameValue : entry.2 = value := by simpa [get?, same] using found
        exact ⟨[], rest, by rw [← same, ← sameValue]; rfl, by simp [keys]⟩
      · have below : get? key rest = some value := by simpa [get?, same] using found
        rcases hypothesis below with ⟨before, after, rfl, absent⟩
        refine ⟨entry :: before, after, rfl, ?_⟩
        simpa [keys, Ne.symm same] using absent

theorem get?_append (key : String) (before after : List (String × α)) :
    get? key (before ++ after) = (get? key before).or (get? key after) := by
  induction before with
  | nil => rfl
  | cons entry rest hypothesis =>
      by_cases same : entry.1 = key
      · simp [get?, same]
      · simp [get?, same, hypothesis]

theorem insert_append {key : String} {before : List (String × α)} (absent : key ∉ keys before)
    (old new : α) (after : List (String × α)) :
    insert key new (before ++ (key, old) :: after) = before ++ (key, new) :: after := by
  induction before with
  | nil => simp [insert]
  | cons entry rest hypothesis =>
      simp only [keys, List.map_cons, List.mem_cons, not_or] at absent
      simp [insert, Ne.symm absent.1, hypothesis absent.2]

/-- When a key is removed, the last of the entries behind it comes to stand before the others. -/
theorem swapRemove_append {key : String} {before : List (String × α)} (absent : key ∉ keys before)
    (value : α) (after : List (String × α)) :
    swapRemove key (before ++ (key, value) :: after) =
      before ++ (after.getLast?.toList ++ after.dropLast) := by
  induction before with
  | nil =>
      cases isLast : after.getLast? with
      | none => simp [swapRemove, List.getLast?_eq_none_iff.mp isLast]
      | some last => simp [swapRemove, isLast]
  | cons entry rest hypothesis =>
      simp only [keys, List.map_cons, List.mem_cons, not_or] at absent
      simp [swapRemove, Ne.symm absent.1, hypothesis absent.2]

/-- What is left when a key is removed, the order aside. -/
theorem cons_swapRemove_perm {key : String} {value : α} {entries : List (String × α)}
    (found : get? key entries = some value) :
    ((key, value) :: swapRemove key entries).Perm entries := by
  rcases exists_append_of_get? found with ⟨before, after, rfl, absent⟩
  have isAfter : (after.getLast?.toList ++ after.dropLast).Perm after := by
    rcases after.eq_nil_or_concat with rfl | ⟨rest, last, rfl⟩
    · exact .nil
    · simpa using (List.perm_append_singleton last rest).symm
  rw [swapRemove_append absent]
  exact ((isAfter.append_left before).cons _).trans List.perm_middle.symm

/-- The order of the entries of a map does not matter to what is found. -/
theorem get?_of_perm {entries others : List (String × α)} (distinct : DistinctKeys entries)
    (perm : entries.Perm others) (key : String) : get? key others = get? key entries := by
  have othersDistinct : DistinctKeys others := (perm.map Prod.fst).nodup_iff.mp distinct
  apply Option.ext
  intro value
  rw [get?_eq_some_iff distinct, get?_eq_some_iff othersDistinct, perm.mem_iff]

/-- Maps in which the same is found have the same entries. -/
theorem perm_of_get? {entries others : List (String × α)} (distinct : DistinctKeys entries)
    (othersDistinct : DistinctKeys others) (agree : ∀ key, get? key others = get? key entries) :
    entries.Perm others := by
  have nodup : ∀ {entries : List (String × α)}, DistinctKeys entries → entries.Nodup :=
    fun distinct => List.Pairwise.of_map _ (fun _ _ differ same => differ (congrArg _ same)) distinct
  rw [List.perm_ext_iff_of_nodup (nodup distinct) (nodup othersDistinct)]
  rintro ⟨key, value⟩
  rw [← get?_eq_some_iff distinct, ← get?_eq_some_iff othersDistinct, agree key]

/-- Maps with the same keys in the same order and the same values under them are the same. -/
theorem eq_of_get? {entries others : List (String × α)} (distinct : DistinctKeys entries)
    (sameKeys : keys others = keys entries) (sameValues : ∀ key, get? key others = get? key entries) :
    others = entries := by
  induction entries generalizing others with
  | nil => simpa [keys] using sameKeys
  | cons entry entries hypothesis =>
      cases others with
      | nil => simp [keys] at sameKeys
      | cons other others =>
          simp only [keys, List.map_cons, List.cons.injEq] at sameKeys
          have fresh : entry.1 ∉ keys entries := (List.nodup_cons.mp distinct).1
          have sameValue : other.2 = entry.2 := by
            have same := sameValues entry.1
            simpa [get?, sameKeys.1] using same
          have sameRest : others = entries := by
            refine hypothesis (List.nodup_cons.mp distinct).2 sameKeys.2 fun key => ?_
            by_cases same : entry.1 = key
            · subst same
              rw [(get?_eq_none_iff entry.1 entries).mpr fresh, get?_eq_none_iff, keys, sameKeys.2]
              exact fresh
            · simpa [get?, sameKeys.1, same] using sameValues key
          rw [sameRest, Prod.ext sameKeys.1 sameValue]

end PageContext.Entries
