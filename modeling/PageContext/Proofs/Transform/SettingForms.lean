import Mathlib.Data.List.Pairwise
import PageContext.Proofs.Success
import PageContext.Proofs.Text.Integers
import PageContext.Transform.Settings

/-!
# Forms of settings

Every reader of settings is a form: it has a slot for each setting, and what is read under a key
changes this setting only.  The slots may be filled in any order, so the order of the keys does not
matter, nor does a key without a slot.  Values are read leniently, and several spellings of a value
are read alike.
-/

namespace PageContext.Setting

/-! ## Spellings of values -/

/-- The kinds of settings whose values may be spelled in several ways. -/
inductive Kind where
  | integer
  | boolean
  | texts
deriving DecidableEq, Repr

/-- The kind of a setting, if it is one of these. -/
def kind? (key : String) : Option Kind :=
  if key ∈ ["size", "relativeDays", "hoursOffset"] then some .integer
  else if key ∈ ["shortMonth", "showYearInMonth", "removeEmpty"] then some .boolean
  else if key ∈ ["fields", "orders", "input", "priorityValues"] then some .texts
  else none

/-- A value and another spelling of it. -/
inductive Respelled : Kind → Json → Json → Prop where
  | decimal {value : Int} {text : String} (holds : Text.HoldsInteger text value) :
      Respelled .integer (.int value) (.string text)
  | trueText {text : String} (isTrue : text = "true" ∨ text = "1") :
      Respelled .boolean (.bool true) (.string text)
  | nonzero {number : Number} (isNonzero : number.isZero = false) :
      Respelled .boolean (.bool true) (.number number)
  | otherText {text : String} (notTrue : text ≠ "true" ∧ text ≠ "1") :
      Respelled .boolean (.bool false) (.string text)
  | zero {number : Number} (isZero : number.isZero = true) :
      Respelled .boolean (.bool false) (.number number)
  | soleText (text : String) : Respelled .texts (.array [.string text]) (.string text)

section

variable {α β γ : Type}

/-- A reader that does not tell apart the spellings of a value. -/
def IsLenient (kind : Option Kind) (read : Json → β) : Prop :=
  ∀ known ∈ kind, ∀ old new, Respelled known old new → read old = read new

theorem isLenient_some {kind : Kind} {read : Json → β} :
    IsLenient (some kind) read ↔ ∀ old new, Respelled kind old new → read old = read new := by
  simp [IsLenient]

theorem isLenient_none (read : Json → β) : IsLenient none read := by
  simp [IsLenient]

theorem IsLenient.comp {kind : Option Kind} {read : Json → β} (lenient : IsLenient kind read)
    (function : β → γ) : IsLenient kind (function ∘ read) := by
  intro known isKnown old new respelled
  exact congrArg function (lenient known isKnown old new respelled)

theorem isLenient_integer : IsLenient (some .integer) integer := by
  rw [isLenient_some]
  rintro _ _ (holds | _)
  have isRead := Text.signed?_trim_eq_some_iff.mpr holds
  simp only [integer, Json.int, Number.toSigned, if_pos holds.below, isRead]

theorem isLenient_size : IsLenient (some .integer) size := by
  intro known isKnown old new respelled
  rw [size, size, isLenient_integer known isKnown old new respelled]

theorem isLenient_boolean : IsLenient (some .boolean) boolean := by
  rw [isLenient_some]
  rintro _ _ (_ | isTrue | isNonzero | notTrue | isZero | _)
  · rcases isTrue with rfl | rfl <;> rfl
  · simp [boolean, isNonzero]
  · simp [boolean, notTrue]
  · simp [boolean, isZero]

theorem isLenient_texts : IsLenient (some .texts) texts := by
  rw [isLenient_some]
  rintro _ _ (_ | text)
  rfl

theorem isLenient_orders : IsLenient (some .texts) orders := by
  intro known isKnown old new respelled
  rw [orders, orders, isLenient_texts known isKnown old new respelled]

theorem isLenient_values : IsLenient (some .texts) values := by
  rw [isLenient_some]
  rintro _ _ (_ | text)
  rfl

/-! ## Slots of forms -/

/-- What is read under one key, and how it changes the settings. -/
structure Slot (α : Type) where
  key : String
  read : Json → α → Except SettingError α
  lenient : IsLenient (kind? key) read

/-- The slot of one setting among others. -/
def Slot.part (key : String) {kind : Option Kind} (isKind : kind? key = kind)
    {value? : Json → Except SettingError β} (lenient : IsLenient kind value?) (write : β → α → α) :
    Slot α where
  key := key
  read := fun value settings => do return write (← value? value) settings
  lenient := by
    rw [isKind]
    intro known isKnown old new respelled
    simp only [lenient known isKnown old new respelled]

/-- The slot of the only setting. -/
def Slot.sole (key : String) {kind : Option Kind} (isKind : kind? key = kind)
    {value? : Json → Except SettingError α} (lenient : IsLenient kind value?) : Slot α where
  key := key
  read := fun value _ => value? value
  lenient := by
    rw [isKind]
    intro known isKnown old new respelled
    simp only [lenient known isKnown old new respelled]

/-- Slots that may be filled in either order. -/
def Slot.Commutes (slot other : Slot α) : Prop :=
  ∀ value otherValue settings,
    (slot.read value settings >>= other.read otherValue).toOption =
      (other.read otherValue settings >>= slot.read value).toOption

theorem Slot.commutes_part {key otherKey : String} {kind otherKind : Option Kind}
    {isKind : kind? key = kind} {isOtherKind : kind? otherKey = otherKind}
    {value? : Json → Except SettingError β} {otherValue? : Json → Except SettingError γ}
    {lenient : IsLenient kind value?} {otherLenient : IsLenient otherKind otherValue?}
    {write : β → α → α} {otherWrite : γ → α → α}
    (apart : ∀ found other settings,
      otherWrite other (write found settings) = write found (otherWrite other settings)) :
    (Slot.part key isKind lenient write).Commutes
      (Slot.part otherKey isOtherKind otherLenient otherWrite) := by
  intro value otherValue settings
  simp only [Slot.part]
  cases value? value <;> cases otherValue? otherValue <;> simp [pure, Except.pure, apart]

instance : Std.Symm (@Slot.Commutes α) :=
  ⟨fun _ _ commutes value otherValue settings => (commutes otherValue value settings).symm⟩

def readSlots : List (Slot α) → String → Json → α → Except SettingError α
  | [], _, _, settings => .ok settings
  | slot :: slots, key, value, settings =>
      if key = slot.key then slot.read value settings else readSlots slots key value settings

theorem readSlots_of_notMem {slots : List (Slot α)} {key : String}
    (noSlot : key ∉ slots.map Slot.key) (value : Json) (settings : α) :
    readSlots slots key value settings = .ok settings := by
  induction slots with
  | nil => rfl
  | cons slot slots hypothesis =>
      simp only [List.map_cons, List.mem_cons, not_or] at noSlot
      rw [readSlots, if_neg noSlot.1, hypothesis noSlot.2]

theorem exists_slot_of_mem {slots : List (Slot α)} {key : String}
    (isSlot : key ∈ slots.map Slot.key) :
    ∃ slot ∈ slots, slot.key = key ∧ readSlots slots key = slot.read := by
  induction slots with
  | nil => simp at isSlot
  | cons slot slots hypothesis =>
      by_cases same : key = slot.key
      · refine ⟨slot, List.mem_cons_self, same.symm, ?_⟩
        funext value settings
        rw [readSlots, if_pos same]
      · simp only [List.map_cons, List.mem_cons, same, false_or] at isSlot
        rcases hypothesis isSlot with ⟨other, isOther, isKey, isRead⟩
        refine ⟨other, List.mem_cons_of_mem slot isOther, isKey, ?_⟩
        funext value settings
        rw [readSlots, if_neg same, isRead]

/-- A reader is a form when it reads slots that may be filled in any order; none is for `action`. -/
structure Form (read : String → Json → α → Except SettingError α) where
  slots : List (Slot α)
  reads : read = readSlots slots
  commute : slots.Pairwise Slot.Commutes
  noAction : "action" ∉ slots.map Slot.key

section

variable {read : String → Json → α → Except SettingError α} (form : Form read)
include form

def Form.names : List String :=
  form.slots.map Slot.key

theorem Form.read_of_notMem {key : String} (noSlot : key ∉ form.names) (value : Json)
    (settings : α) : read key value settings = .ok settings := by
  rw [form.reads, readSlots_of_notMem noSlot]

theorem Form.exists_slot {key : String} (isSlot : key ∈ form.names) :
    ∃ slot ∈ form.slots, slot.key = key ∧ read key = slot.read := by
  rcases exists_slot_of_mem isSlot with ⟨slot, isMember, isKey, isRead⟩
  exact ⟨slot, isMember, isKey, (congrFun form.reads key).trans isRead⟩

theorem Form.read_eq_of_respelled {key : String} {kind : Kind} {old new : Json}
    (isKind : kind? key = some kind) (respelled : Respelled kind old new) :
    read key old = read key new := by
  by_cases isSlot : key ∈ form.names
  · rcases form.exists_slot isSlot with ⟨slot, _, rfl, isRead⟩
    rw [isRead, slot.lenient kind isKind old new respelled]
  · funext settings
    rw [form.read_of_notMem isSlot, form.read_of_notMem isSlot]

theorem Form.read_swap {key other : String} (differ : key ≠ other) (value otherValue : Json)
    (settings : α) :
    (read key value settings >>= read other otherValue).toOption =
      (read other otherValue settings >>= read key value).toOption := by
  by_cases isSlot : key ∈ form.names
  · by_cases isOtherSlot : other ∈ form.names
    · rcases form.exists_slot isSlot with ⟨slot, isMember, isKey, isRead⟩
      rcases form.exists_slot isOtherSlot with ⟨otherSlot, isOtherMember, isOtherKey, isOtherRead⟩
      have notSame : slot ≠ otherSlot := by
        rintro rfl
        exact differ (isKey.symm.trans isOtherKey)
      rw [isRead, isOtherRead]
      exact form.commute.forall isMember isOtherMember notSame value otherValue settings
    · simp [form.read_of_notMem isOtherSlot]
  · simp [form.read_of_notMem isSlot]

/-! ## Reading all settings -/

theorem Form.readAll_perm {entries others : List (String × Json)}
    (distinct : Entries.DistinctKeys entries) (perm : entries.Perm others) (settings : α) :
    (readAll read entries settings).toOption = (readAll read others settings).toOption := by
  -- A permutation changes neighbours, which have different keys and therefore different slots.
  induction perm generalizing settings with
  | nil => rfl
  | cons entry perm hypothesis =>
      have tailDistinct : Entries.DistinctKeys _ := (List.nodup_cons.mp distinct).2
      simp only [readAll, Except.toOption_bind, hypothesis tailDistinct]
  | swap first second rest =>
      have differ : second.1 ≠ first.1 := by
        rintro same
        simp [Entries.DistinctKeys, Entries.keys, same] at distinct
      have swapped := form.read_swap differ second.2 first.2 settings
      simp only [Except.toOption_bind] at swapped
      simp only [readAll, Except.toOption_bind, ← Option.bind_assoc, swapped]
  | trans left right leftHypothesis rightHypothesis =>
      have middleDistinct := (left.map Prod.fst).nodup_iff.mp distinct
      rw [leftHypothesis distinct, rightHypothesis middleDistinct]

theorem Form.readAll_eq_of_respelled {key : String} {kind : Kind} {old new : Json}
    (isKind : kind? key = some kind) (respelled : Respelled kind old new)
    (before after : List (String × Json)) (settings : α) :
    readAll read (before ++ (key, old) :: after) settings =
      readAll read (before ++ (key, new) :: after) settings := by
  induction before generalizing settings with
  | nil => simp only [List.nil_append, readAll, form.read_eq_of_respelled isKind respelled]
  | cons entry before hypothesis => simp only [List.cons_append, readAll, hypothesis]

theorem Form.readAll_of_notMem {key : String} (noSlot : key ∉ form.names) (value : Json)
    (entries : List (String × Json)) (settings : α) :
    readAll read ((key, value) :: entries) settings = readAll read entries settings := by
  rw [readAll, form.read_of_notMem noSlot]
  rfl

end

end

/-! ## The forms -/

def hoursForm : Form hoursOffset where
  slots := [.sole "hoursOffset" (by decide) isLenient_integer]
  reads := rfl
  commute := List.pairwise_singleton _ _
  noAction := by decide

def displayForm : Form displayStyle where
  slots := [
    .part "relativeDays" (by decide) isLenient_integer
      fun days style => { style with relativeDays := days },
    .part "hoursOffset" (by decide) isLenient_integer
      fun hours style => { style with hoursOffset := hours },
    .part "year" (by decide) (isLenient_none yearMode)
      fun mode style => { style with year := mode },
    .part "shortMonth" (by decide) (isLenient_boolean.comp .ok)
      fun short style => { style with shortMonth := short }]
  reads := rfl
  commute := by simp [Slot.commutes_part]
  noAction := by decide

def articleForm : Form articleDateRule where
  slots := [
    .part "input" (by decide) isLenient_texts fun input rule => { rule with input },
    .part "shortDateField" (by decide) (isLenient_none text)
      fun field rule => { rule with shortDateField := field },
    .part "fullDateField" (by decide) (isLenient_none text)
      fun field rule => { rule with fullDateField := field }]
  reads := rfl
  commute := by simp [Slot.commutes_part]
  noAction := by decide

def headingForm : Form headingRule where
  slots := [
    .part "hoursOffset" (by decide) isLenient_integer
      fun hours rule => { rule with hoursOffset := hours },
    .part "showYearInMonth" (by decide) (isLenient_boolean.comp .ok)
      fun shown rule => { rule with showYearInMonth := shown }]
  reads := rfl
  commute := by simp [Slot.commutes_part]
  noAction := by decide

def sizeForm : Form limitSize where
  slots := [.sole "size" (by decide) isLenient_size]
  reads := rfl
  commute := List.pairwise_singleton _ _
  noAction := by decide

def dedupForm : Form dedupRule where
  slots := [
    .part "dedupField" (by decide) (isLenient_none optionalText)
      fun field rule => { rule with dedupField := field },
    .part "priorityField" (by decide) (isLenient_none optionalText)
      fun field rule => { rule with priorityField := field },
    .part "priorityValues" (by decide) (isLenient_values.comp .ok)
      fun values rule => { rule with priorityValues := values }]
  reads := rfl
  commute := by simp [Slot.commutes_part]
  noAction := by decide

def sortForm : Form sortRule where
  slots := [
    .part "fields" (by decide) isLenient_texts fun fields rule => { rule with fields },
    .part "orders" (by decide) isLenient_orders fun orders rule => { rule with orders }]
  reads := rfl
  commute := by simp [Slot.commutes_part]
  noAction := by decide

def projectionForm : Form projection where
  slots := [
    .part "fields" (by decide) isLenient_texts fun fields projection => { projection with fields },
    .part "removeEmpty" (by decide) (isLenient_boolean.comp .ok)
      fun removed projection => { projection with removeEmpty := removed }]
  reads := rfl
  commute := by simp [Slot.commutes_part]
  noAction := by decide

def defaultForm : Form defaultItem where
  slots := [.sole "default" (by decide) (isLenient_none .ok)]
  reads := rfl
  commute := List.pairwise_singleton _ _
  noAction := by decide

def imagesForm : Form imageFields where
  slots := [.sole "fields" (by decide) isLenient_texts]
  reads := rfl
  commute := List.pairwise_singleton _ _
  noAction := by decide

end PageContext.Setting
