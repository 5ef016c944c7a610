import PageContext.Proofs.Text.Cuts
import PageContext.Settings.Source

/-!
# Layers as writes

A layer is laid over another one by writing at the ends of lists of keys, one write after the other.
What a write does at the end of some keys depends on these keys alone: it puts a leaf there, it
leaves none there because it puts one around these keys or something below them, or it does nothing.
Writes whose keys part from those of a leaf do nothing to it.
-/

namespace PageContext

/-- A leaf at the end of a list of keys, or a table there that may be empty. -/
structure Write where
  keys : List String
  value : Option PlainSetting

namespace Write

/-- A write below a list of keys. -/
def below (keys : List String) (write : Write) : Write :=
  { write with keys := keys ++ write.keys }

/-- A write leaves no leaf at the end of keys: it puts one on the way there, or it goes on from
there. -/
def Blocks (write : Write) (keys : List String) : Prop :=
  write.keys ≠ keys ∧ (write.value.isSome ∧ write.keys <+: keys ∨ keys <+: write.keys)

instance (write : Write) (keys : List String) : Decidable (write.Blocks keys) :=
  inferInstanceAs (Decidable (_ ∧ _))

/-- What a write leaves at the end of keys, unless it does nothing there. -/
def effect? (keys : List String) (write : Write) : Option (Option PlainSetting) :=
  if write.keys = keys then write.value.map some
  else if write.Blocks keys then some none
  else none

/-- The leaf at the end of keys after some writes. -/
def after (keys : List String) (writes : List Write) (before : Option PlainSetting) :
    Option PlainSetting :=
  writes.foldl (fun leaf write => (write.effect? keys).getD leaf) before

variable {keys : List String} {key : String} {writes : List Write} {write : Write}
  {before : Option PlainSetting}

theorem after_append (first second : List Write) :
    after keys (first ++ second) before = after keys second (after keys first before) := by
  simp [after]

/-- The last write that does something decides. -/
theorem after_eq (keys : List String) (writes : List Write) (before : Option PlainSetting) :
    after keys writes before = (writes.reverse.findSome? (effect? keys)).getD before := by
  induction writes generalizing before with
  | nil => rfl
  | cons write rest hypothesis =>
      have first : after keys (write :: rest) before =
          after keys rest ((write.effect? keys).getD before) := rfl
      rw [first, hypothesis, List.reverse_cons, List.findSome?_append]
      cases (rest.reverse.findSome? (effect? keys)) with
      | some effect => rfl
      | none => cases called : write.effect? keys <;> simp [called]

/-- Below a key, a write does to keys what it does to the keys behind that one. -/
theorem effect?_below_cons (key : String) (keys : List String) (write : Write) :
    (write.below [key]).effect? (key :: keys) = write.effect? keys := by
  have sameKeys : (write.below [key]).keys = key :: keys ↔ write.keys = keys := by simp [below]
  have sameBlocks : (write.below [key]).Blocks (key :: keys) ↔ write.Blocks keys := by
    simp [Blocks, below]
  simp only [effect?, sameKeys, sameBlocks]
  rfl

theorem effect?_below_of_ne {other : String} (differ : other ≠ key) (write : Write) :
    (write.below [key]).effect? (other :: keys) = none := by
  simp [effect?, below, Blocks, List.cons_prefix_cons, differ, differ.symm]

theorem effect?_nil (present : write.keys ≠ []) : write.effect? [] = some none := by
  simp [effect?, Blocks, present]

/-- A write whose keys part from those of a leaf does nothing to it. -/
theorem effect?_eq_none_of_apart (notAround : ¬write.keys <+: keys)
    (notBelow : ¬keys <+: write.keys) : write.effect? keys = none := by
  have differ : write.keys ≠ keys := by
    rintro rfl
    exact notBelow (List.prefix_refl _)
  simp [effect?, Blocks, differ, notAround, notBelow]

theorem after_below_cons (key : String) :
    after (key :: keys) (writes.map (below [key])) before = after keys writes before := by
  simp [after, List.foldl_map, effect?_below_cons]

theorem after_below_of_ne {other : String} (differ : other ≠ key) :
    after (other :: keys) (writes.map (below [key])) before = before := by
  induction writes with
  | nil => rfl
  | cons write rest hypothesis =>
      simpa [after, effect?_below_of_ne differ] using hypothesis

/-- Writes below some keys leave no leaf at the end of these keys. -/
theorem after_nil (written : writes ≠ []) (present : ∀ write ∈ writes, write.keys ≠ []) :
    after [] writes before = none := by
  rcases List.eq_nil_or_concat writes with isEmpty | ⟨others, last, rfl⟩
  · exact absurd isEmpty written
  · have isLast := effect?_nil (present last (by simp))
    simp [after, isLast]

end Write

/-- The leaf at the end of keys that lead on from a value. -/
def SettingValue.leaf? (keys : List String) : SettingValue → Option PlainSetting
  | .table entries => Layer.leaf? keys entries
  | value => if keys = [] then value.plain? else none

namespace Layer

mutual

/-- The writes that put a value in its place. -/
def writesOfValue : SettingValue → List Write
  | .scalar value => [⟨[], some (.scalar value)⟩]
  | .list items => [⟨[], some (.list items)⟩]
  | .table [] => [⟨[], none⟩]
  | .table (entry :: entries) => writesOfEntries (entry :: entries)

/-- The writes that lay the entries of a table over another one. -/
def writesOfEntries : Layer → List Write
  | [] => []
  | (key, value) :: rest =>
      (writesOfValue value).map (Write.below [Text.lowerAscii key]) ++ writesOfEntries rest

end

/-- The writes that lay a source over a layer. -/
def writes (source : Layer) : List Write :=
  source.flatMap fun entry =>
    (writesOfValue entry.2).map (Write.below ((keysOf entry.1).map Text.lowerAscii))

open Write

/-! ## Leaves of layers -/

theorem leaf?_empty (keys : List String) : leaf? keys [] = none := by
  induction keys with
  | nil => rfl
  | cons key keys hypothesis =>
      cases keys with
      | nil => rfl
      | cons next keys => exact hypothesis

theorem leaf?_cons (key : String) (keys : List String) (layer : Layer) :
    leaf? (key :: keys) layer = (Entries.get? key layer).bind (SettingValue.leaf? keys) := by
  cases keys with
  | nil =>
      rw [leaf?]
      cases Entries.get? key layer with
      | none => rfl
      | some value => cases value <;> rfl
  | cons next keys =>
      rw [leaf?, SettingValue.tableUnder]
      cases Entries.get? key layer with
      | none => exact leaf?_empty _
      | some value =>
          cases value with
          | scalar value => exact leaf?_empty _
          | list items => exact leaf?_empty _
          | table entries => rfl

theorem leaf?_insert_self (key : String) (keys : List String) (value : SettingValue)
    (layer : Layer) :
    leaf? (key :: keys) (Entries.insert key value layer) = value.leaf? keys := by
  rw [leaf?_cons, Entries.get?_insert_self]
  rfl

theorem leaf?_insert_of_ne {key other : String} (differ : other ≠ key) (keys : List String)
    (value : SettingValue) (layer : Layer) :
    leaf? (other :: keys) (Entries.insert key value layer) = leaf? (other :: keys) layer := by
  rw [leaf?_cons, leaf?_cons, Entries.get?_insert_of_ne differ]

/-! ## Laying over by writes -/

theorem keys_ne_nil_of_mem_writesOfEntries {entries : Layer} {write : Write}
    (member : write ∈ writesOfEntries entries) : write.keys ≠ [] := by
  induction entries with
  | nil => simp [writesOfEntries] at member
  | cons entry rest hypothesis =>
      rcases entry with ⟨key, value⟩
      rw [writesOfEntries, List.mem_append] at member
      rcases member with first | others
      · rcases List.mem_map.mp first with ⟨inner, _, rfl⟩
        simp [below]
      · exact hypothesis others

theorem writesOfValue_ne_nil : ∀ value : SettingValue, writesOfValue value ≠ []
  | .scalar value => by simp [writesOfValue]
  | .list items => by simp [writesOfValue]
  | .table [] => by simp [writesOfValue]
  | .table ((key, value) :: entries) => by
      simp [writesOfValue, writesOfEntries, writesOfValue_ne_nil value]

/-- Inner writes that are carried out in the table under a key are writes below this key. -/
theorem leaf?_insert_table {key : String} {layer inner : Layer} {writes : List Write}
    (written : writes ≠ []) (present : ∀ write ∈ writes, write.keys ≠ [])
    (isInner : ∀ keys, leaf? keys inner =
      after keys writes (leaf? keys (SettingValue.tableUnder key layer))) (keys : List String) :
    leaf? keys (Entries.insert key (.table inner) layer) =
      after keys (writes.map (below [key])) (leaf? keys layer) := by
  cases keys with
  | nil =>
      have belowWritten : writes.map (below [key]) ≠ [] := by simpa using written
      have belowPresent : ∀ write ∈ writes.map (below [key]), write.keys ≠ [] := by
        simp [below]
      rw [after_nil belowWritten belowPresent]
      rfl
  | cons other keys =>
      by_cases same : other = key
      · subst same
        rw [leaf?_insert_self, after_below_cons, SettingValue.leaf?, isInner]
        cases keys with
        | nil => rw [after_nil written present, after_nil written present]
        | cons next keys => rfl
      · rw [leaf?_insert_of_ne same, after_below_of_ne same]

theorem leaf?_insert_plain (key : String) {value : SettingValue} {plain : PlainSetting}
    (isPlain : value.plain? = some plain) (layer : Layer) (keys : List String) :
    leaf? keys (Entries.insert key value layer) =
      after keys [⟨[key], some plain⟩] (leaf? keys layer) := by
  cases keys with
  | nil => rfl
  | cons other keys =>
      have isBelow : [(⟨[key], some plain⟩ : Write)] = [⟨[], some plain⟩].map (below [key]) := rfl
      by_cases same : other = key
      · subst same
        have isLeaf : value.leaf? keys = if keys = [] then some plain else none := by
          cases value with
          | scalar value => rw [SettingValue.leaf?, isPlain]; simp
          | list items => rw [SettingValue.leaf?, isPlain]; simp
          | table entries => simp [SettingValue.plain?] at isPlain
        rw [leaf?_insert_self, isBelow, after_below_cons, isLeaf]
        cases keys <;> simp [after, effect?, Blocks]
      · rw [leaf?_insert_of_ne same, isBelow, after_below_of_ne same]

/-- An empty table where nothing is changes no leaf. -/
theorem leaf?_insert_emptyTable {key : String} {layer : Layer}
    (absent : Entries.get? key layer = none) (keys : List String) :
    leaf? keys (Entries.insert key (.table []) layer) = leaf? keys layer := by
  cases keys with
  | nil => rfl
  | cons other keys =>
      by_cases same : other = key
      · subst same
        rw [leaf?_insert_self, SettingValue.leaf?, leaf?_empty, leaf?_cons, absent]
        rfl
      · rw [leaf?_insert_of_ne same]

theorem after_emptyTable (key : String) (layer : Layer) (keys : List String) :
    after keys [⟨[key], none⟩] (leaf? keys layer) = leaf? keys layer := by
  cases keys with
  | nil => rfl
  | cons other keys =>
      have isBelow : [(⟨[key], none⟩ : Write)] = [⟨[], none⟩].map (below [key]) := rfl
      by_cases same : other = key
      · subst same
        rw [isBelow, after_below_cons]
        cases keys <;> simp [after, effect?, Blocks]
      · rw [isBelow, after_below_of_ne same]

mutual

theorem leaf?_set (keys : List String) (key : String) : ∀ (value : SettingValue) (layer : Layer),
    leaf? keys (set key value layer) =
      after keys ((writesOfValue value).map (below [Text.lowerAscii key])) (leaf? keys layer)
  | .scalar value, layer => by
      have isPlain : (SettingValue.scalar value).plain? = some (.scalar value) := rfl
      rw [set, leaf?_insert_plain _ isPlain]
      rfl
  | .list items, layer => by
      have isPlain : (SettingValue.list items).plain? = some (.list items) := rfl
      rw [set, leaf?_insert_plain _ isPlain]
      rfl
  | .table [], layer => by
      have isWrite : (writesOfValue (.table [])).map (below [Text.lowerAscii key]) =
          [⟨[Text.lowerAscii key], none⟩] := rfl
      rw [set, isWrite, after_emptyTable]
      split
      · rfl
      · next absent =>
        exact leaf?_insert_emptyTable (by simpa [Entries.contains] using absent) keys
  | .table (entry :: entries), layer => by
      rw [set, writesOfValue]
      refine leaf?_insert_table ?_ (fun _ => keys_ne_nil_of_mem_writesOfEntries) ?_ keys
      · exact writesOfValue_ne_nil (.table (entry :: entries))
      · intro keys
        exact leaf?_overlay keys (entry :: entries) _

theorem leaf?_overlay (keys : List String) : ∀ source layer : Layer,
    leaf? keys (overlay source layer) = after keys (writesOfEntries source) (leaf? keys layer)
  | [], layer => by
      rw [overlay, writesOfEntries]
      rfl
  | (key, value) :: rest, layer => by
      rw [overlay, leaf?_overlay keys rest, leaf?_set keys key value, writesOfEntries, after_append]

end

theorem leaf?_setAt (value : SettingValue) (path : List String) (present : path ≠ [])
    (layer : Layer) (keys : List String) :
    leaf? keys (setAt value path layer) =
      after keys ((writesOfValue value).map (below (path.map Text.lowerAscii)))
        (leaf? keys layer) := by
  induction path generalizing keys layer with
  | nil => contradiction
  | cons key path hypothesis =>
      cases path with
      | nil => exact leaf?_set keys key value layer
      | cons next path =>
          have isBelow : (writesOfValue value).map (below ((key :: next :: path).map Text.lowerAscii)) =
              ((writesOfValue value).map (below ((next :: path).map Text.lowerAscii))).map
                (below [Text.lowerAscii key]) := by
            simp [below]
          rw [setAt, isBelow]
          refine leaf?_insert_table ?_ ?_ ?_ keys
          · simpa using writesOfValue_ne_nil value
          · simp [below]
          · intro keys
            exact hypothesis (by simp) _ keys

theorem keysOf_ne_nil (key : String) : keysOf key ≠ [] := by
  rw [keysOf]
  split
  · simpa [Text.pieces] using Text.splitAtEach_ne_nil '.' key.toList
  · simp

/-- Laying a source over a layer carries out the writes of the source. -/
theorem leaf?_overlaySource (source layer : Layer) (keys : List String) :
    leaf? keys (overlaySource source layer) = after keys source.writes (leaf? keys layer) := by
  rw [overlaySource, writes]
  induction source generalizing layer with
  | nil => rfl
  | cons entry rest hypothesis =>
      have present := keysOf_ne_nil entry.1
      rw [List.foldl_cons, hypothesis, leaf?_setAt entry.2 _ present, List.flatMap_cons,
        after_append]

/-! ## What a source does to a leaf -/

/-- What a source leaves at the end of keys, unless it does nothing there. -/
def effect? (keys : List String) (source : Layer) : Option (Option PlainSetting) :=
  source.writes.reverse.findSome? (Write.effect? keys)

/-- The leaf that a source puts at the end of keys on its own. -/
def given? (keys : List String) (source : Layer) : Option PlainSetting :=
  leaf? keys (overlaySource source [])

variable {keys : List String} {source : Layer}

theorem given?_eq (keys : List String) (source : Layer) :
    source.given? keys = (source.effect? keys).join := by
  rw [given?, leaf?_overlaySource, after_eq, leaf?_empty, effect?]
  cases source.writes.reverse.findSome? (Write.effect? keys) <;> rfl

theorem effect?_eq_some_some_iff {plain : PlainSetting} :
    source.effect? keys = some (some plain) ↔ source.given? keys = some plain := by
  rw [given?_eq, Option.join_eq_some_iff]

/-- A source drops a leaf when it gives none but writes around it or below it. -/
theorem effect?_eq_some_none_iff :
    source.effect? keys = some none ↔
      source.given? keys = none ∧ ∃ write ∈ source.writes, write.Blocks keys := by
  rw [given?_eq]
  constructor
  · intro drops
    rw [drops]
    refine ⟨rfl, ?_⟩
    rcases List.exists_of_findSome?_eq_some drops with ⟨write, member, isEffect⟩
    refine ⟨write, List.mem_reverse.mp member, ?_⟩
    rw [Write.effect?] at isEffect
    split at isEffect
    · simp at isEffect
    · split at isEffect
      · assumption
      · simp at isEffect
  · rintro ⟨notGiven, write, member, blocks⟩
    cases effect : source.effect? keys with
    | some scalar => rw [effect] at notGiven; exact congrArg some notGiven
    | none =>
        have nothing := List.findSome?_eq_none_iff.mp effect write (List.mem_reverse.mpr member)
        simp [Write.effect?, blocks, blocks.1] at nothing

/-- A source whose keys part from those of a leaf leaves it alone. -/
theorem effect?_eq_none_of_apart
    (apart : ∀ write ∈ source.writes, ¬write.keys <+: keys ∧ ¬keys <+: write.keys) :
    source.effect? keys = none := by
  rw [effect?, List.findSome?_eq_none_iff]
  intro write member
  rcases apart write (List.mem_reverse.mp member) with ⟨notAround, notBelow⟩
  exact Write.effect?_eq_none_of_apart notAround notBelow

/-- Writes that do the same or nothing leave together what one of them leaves. -/
theorem effect?_eq_of_mem_writes {write : Write} {effect : Option PlainSetting}
    (member : write ∈ source.writes) (isEffect : write.effect? keys = some effect)
    (others : ∀ other ∈ source.writes,
      other.effect? keys = some effect ∨ other.effect? keys = none) :
    source.effect? keys = some effect := by
  have isFound : (source.writes.reverse.findSome? (Write.effect? keys)).isSome := by
    rw [List.findSome?_isSome_iff]
    exact ⟨write, List.mem_reverse.mpr member, by rw [isEffect]; rfl⟩
  rcases Option.isSome_iff_exists.mp isFound with ⟨found, isFound⟩
  rcases List.exists_of_findSome?_eq_some isFound with ⟨other, isOther, otherEffect⟩
  rcases others other (List.mem_reverse.mp isOther) with same | nothing
  · rw [effect?, isFound, ← otherEffect, same]
  · simp [nothing] at otherEffect

end Layer

/-- Of layers that lie over each other, the highest one that does something to a leaf decides. -/
theorem Settings.leaf?_stack (layers : List Layer) (keys : List String) :
    Layer.leaf? keys (stack layers) = (layers.reverse.findSome? (Layer.effect? keys)).join := by
  rw [stack]
  induction layers using List.reverseRecOn with
  | nil => simp [Layer.leaf?_empty]
  | append_singleton lower upper hypothesis =>
      rw [List.foldl_append, List.foldl_cons, List.foldl_nil, Layer.leaf?_overlaySource,
        Write.after_eq, hypothesis, ← Layer.effect?, List.reverse_append]
      cases effect : upper.effect? keys <;> simp [effect]

end PageContext
