import Mathlib.Data.String.Basic
import PageContext.Proofs.Number.FixedWidth

/-!
# Notations of local dates

A local date can be written as a year, a month, a day, or a day and a time, with all digits of each
field.  The reader tries several formats one after the other; on a text in one of these notations
only the format of the notation fits, so the reader finds the fields that the notation shows.
-/

namespace PageContext

/-- The ways to write a local date in which every field has its full width. -/
inductive DateNotation where
  /-- As in `2020`. -/
  | year
  /-- As in `2020-07`. -/
  | month
  /-- As in `2020-07-15`. -/
  | day
  /-- As in `2020-07-15T12:30`. -/
  | minute
  /-- As in `2020-07-15 12:30:00`. -/
  | second
deriving DecidableEq, Repr

namespace DateNotation

def yearText (fields : DateFields) : String :=
  Text.padded 4 fields.year.natAbs

def monthText (fields : DateFields) : String :=
  yearText fields ++ "-" ++ Text.padded 2 fields.month

def dayText (fields : DateFields) : String :=
  monthText fields ++ "-" ++ Text.padded 2 fields.day

def clockText (fields : DateFields) : String :=
  Text.padded 2 fields.hour ++ ":" ++ Text.padded 2 fields.minute

/-- A date in a notation; its seconds are always zero. -/
def text (fields : DateFields) : DateNotation → String
  | .year => yearText fields
  | .month => monthText fields
  | .day => dayText fields
  | .minute => dayText fields ++ "T" ++ clockText fields
  | .second => dayText fields ++ " " ++ clockText fields ++ ":00"

/-- The fields that a notation shows; a date without a day is the first one of its month or year, and
one without a time begins the day. -/
def shown (fields : DateFields) : DateNotation → DateFields
  | .year => { year := fields.year }
  | .month => { year := fields.year, month := fields.month }
  | .day => { year := fields.year, month := fields.month, day := fields.day }
  | .minute | .second =>
      { year := fields.year, month := fields.month, day := fields.day, hour := fields.hour,
        minute := fields.minute }

end DateNotation

/-- No field has more digits than its place in a notation. -/
structure DateFields.FitNotations (fields : DateFields) : Prop where
  year : 0 ≤ fields.year ∧ fields.year ≤ 9999
  month : fields.month ≤ 99
  day : fields.day ≤ 99
  hour : fields.hour ≤ 99
  minute : fields.minute ≤ 99

namespace Text

/-! ## Texts that are no integers -/

theorem signed?_eq_none {text : String} {first separator : Char} {rest : List Char}
    (isText : text.toList = first :: rest) (isDigit : first.isDigit = true)
    (member : separator ∈ rest) (noDigit : separator.isDigit = false) (bits : Nat) :
    signed? bits text = none := by
  have noNumber : digits? (first :: rest) = none := by
    rw [Option.eq_none_iff_forall_ne_some]
    intro number isNumber
    have allDigits := (digits?_eq_some_iff.mp isNumber).2.1
    simp [allDigits separator (List.mem_cons_of_mem _ member)] at noDigit
  rw [signed?, isText]
  split
  · next isPlus =>
    obtain ⟨rfl, _⟩ := List.cons.inj isPlus
    contradiction
  · next isMinus =>
    obtain ⟨rfl, _⟩ := List.cons.inj isMinus
    contradiction
  · rw [noNumber]
    rfl

/-- A digit takes one byte. -/
theorem utf8Len_of_areDigits {run : List Char} (areDigits : AreDigits run) :
    String.utf8Len run = run.length := by
  induction run with
  | nil => rfl
  | cons digit rest hypothesis =>
      rw [AreDigits, List.forall_mem_cons] at areDigits
      have bounds := toNat_bounds_of_isDigit areDigits.1
      have oneByte : digit.utf8Size = 1 := by
        rw [Char.utf8Size_eq_one_iff, UInt32.le_iff_toNat_le, Char.toNat_val]
        exact Nat.le_trans bounds.2 (by decide)
      rw [String.utf8Len_cons, hypothesis areDigits.2, oneByte, List.length_cons]

end Text

namespace DateReader

variable {year month day hour minute : Nat} {y m d h n : List Char}
  (isYear : Text.IsFixedWidth 4 year y) (isMonth : Text.IsFixedWidth 2 month m)
  (isDay : Text.IsFixedWidth 2 day d) (isHour : Text.IsFixedWidth 2 hour h)
  (isMinute : Text.IsFixedWidth 2 minute n)

/-! ## Items of a format -/

theorem readItems?_cons (item : Item) (items : List Item) (fields : DateFields)
    (characters : List Char) :
    readItems? (item :: items) fields characters =
      (readItem? item fields characters).bind fun read => readItems? items read.1 read.2 := by
  cases characters <;> rfl

theorem readItems?_nil (fields : DateFields) : readItems? [] fields [] = some fields := rfl

theorem readItems?_tooLong (fields : DateFields) (character : Char) (rest : List Char) :
    readItems? [] fields (character :: rest) = none := rfl

/-- What the formats of local dates expect behind the date. -/
def itemsBehindDate : List (List Item) :=
  [.literal 'T' :: (clockItems ++ [.literal ':', .second, .fraction]),
    .literal 'T' :: (clockItems ++ []),
    .blanks :: (clockItems ++ [.literal ':', .second]),
    []]

theorem localFormats_eq : localFormats = itemsBehindDate.map (dateItems ++ ·) := rfl

include isYear in
theorem readItems?_yearOnly (items : List Item) (fields : DateFields) :
    readItems? (dateItems ++ items) fields (y ++ []) = none := by
  simp only [dateItems, List.cons_append, readItems?_cons, readItem?, isYear.readYear?,
    Option.map_some, Option.bind_some, readCharacter?, Option.map_none, Option.bind_none]

include isYear isMonth in
theorem readItems?_monthOnly (items : List Item) (fields : DateFields) :
    readItems? (dateItems ++ items) fields (y ++ '-' :: (m ++ [])) = none := by
  simp only [dateItems, List.cons_append, readItems?_cons, readItem?, isYear.readYear?,
    isMonth.readShort?, Option.map_some, Option.bind_some, readCharacter?, if_true, Option.map_none,
    Option.bind_none]

include isYear isMonth isDay in
theorem readItems?_date (items : List Item) (fields : DateFields) (rest : List Char) :
    readItems? (dateItems ++ items) fields (y ++ '-' :: (m ++ '-' :: (d ++ rest))) =
      readItems? items { fields with year := year, month := month, day := day } rest := by
  simp only [dateItems, List.cons_append, List.nil_append, readItems?_cons, readItem?,
    isYear.readYear?, isMonth.readShort?, isDay.readShort?, Option.map_some, Option.bind_some,
    readCharacter?, if_true]

include isHour isMinute in
theorem readItems?_clock (items : List Item) (fields : DateFields) (rest : List Char) :
    readItems? (clockItems ++ items) fields (h ++ ':' :: (n ++ rest)) =
      readItems? items { fields with hour := hour, minute := minute } rest := by
  simp only [clockItems, List.cons_append, List.nil_append, readItems?_cons, readItem?,
    isHour.readShort?, isMinute.readShort?, Option.map_some, Option.bind_some, readCharacter?,
    if_true]

theorem readItems?_literal (character : Char) (items : List Item) (fields : DateFields)
    (characters : List Char) :
    readItems? (.literal character :: items) fields characters =
      (readCharacter? character characters).bind (readItems? items fields) := by
  rw [readItems?_cons, readItem?, Option.bind_map]
  rfl

theorem readItems?_blanks (items : List Item) (fields : DateFields) (characters : List Char) :
    readItems? (.blanks :: items) fields characters =
      readItems? items fields (Text.dropBlanks characters) := by
  rw [readItems?_cons, readItem?, Option.bind_some]

/-- A time of day begins with a digit. -/
theorem readItems?_noClock (characters : List Char)
    (noDigits : (Text.dropBlanks characters).head?.all (fun first => !first.isDigit) = true)
    (items : List Item) (fields : DateFields) :
    readItems? (clockItems ++ items) fields characters = none := by
  have noHour : readShort? characters = none := by
    rw [readShort?]
    cases isRest : Text.dropBlanks characters with
    | nil => rfl
    | cons first rest =>
        have noDigit : first.isDigit = false := by simpa [isRest] using noDigits
        simp [readDigits?, noDigit, Text.digits?]
  simp only [clockItems, List.cons_append, readItems?_cons, readItem?, noHour, Option.map_none,
    Option.bind_none]

/-! ## Local dates -/

include isYear in
/-- A text that goes on with a hyphen behind its year is no integer. -/
theorem signed?_yearAndHyphen {text : String} {rest : List Char}
    (isText : text.toList = y ++ '-' :: rest) (bits : Nat) : Text.signed? bits text = none := by
  rcases isYear.exists_cons with ⟨first, others, rfl, isDigit⟩
  apply Text.signed?_eq_none isText isDigit
  · exact List.mem_append_right _ List.mem_cons_self
  · rfl

include isYear in
theorem readFourCharacterYear?_yearAndHyphen {text : String} {rest : List Char}
    (isText : text.toList = y ++ '-' :: rest) : readFourCharacterYear? text = none := by
  simp [readFourCharacterYear?, signed?_yearAndHyphen isYear isText]

/-- The local time of a text by the formats of local dates. -/
theorem findSome?_localFormats (text : String) :
    localFormats.findSome? (fun format => readFormat? format text) =
      itemsBehindDate.findSome? fun items =>
        (readItems? (dateItems ++ items) {} text.toList).bind DateFields.toLocalTime? := by
  rw [localFormats_eq, List.findSome?_map]
  rfl

include isYear in
/-- A text of four digits has four bytes and stands for a number of any width. -/
theorem signed?_year (fits : year ≤ 9999) {text : String} (isText : text.toList = y)
    {bits : Nat} (wide : 32 ≤ bits) :
    text.utf8ByteSize = 4 ∧ Text.signed? bits text = some (year : Int) := by
  have bytes : text.utf8ByteSize = 4 := by
    rw [← String.ofList_toList (s := text), String.utf8ByteSize_ofList, isText,
      Text.utf8Len_of_areDigits isYear.areDigits, isYear.length]
  have isLarge : Nat.pow 2 32 ≤ Nat.pow 2 bits := Nat.pow_le_pow_right (by decide) wide
  have isUnsigned : Text.unsigned? bits text = some year := by
    apply Text.unsigned?_eq_some_iff.mpr
    refine ⟨?_, y, isYear.number, .inl isText⟩
    exact Nat.lt_of_lt_of_le (by simp; omega) isLarge
  refine ⟨bytes, ?_⟩
  rw [Text.signed?_of_unsigned? isUnsigned]
  apply Option.filter_some_pos
  have isHalf : Nat.pow 2 31 ≤ Nat.pow 2 (bits - 1) := Nat.pow_le_pow_right (by decide) (by omega)
  have isBound : Nat.pow 2 31 = 2147483648 := rfl
  simp only [Text.fitsSigned, Bool.and_eq_true, decide_eq_true_eq]
  omega

include isYear in
theorem readLocal?_year (fits : year ≤ 9999) {text : String} (isText : text.toList = y ++ []) :
    readLocal? text = DateFields.toLocalTime? { year := year } := by
  have noFormat : localFormats.findSome? (fun format => readFormat? format text) = none := by
    rw [findSome?_localFormats, isText]
    simp only [itemsBehindDate, List.findSome?_cons, readItems?_yearOnly isYear, Option.bind_none,
      List.findSome?_nil]
  have noMonth : readFormat? dateItems (text ++ "-01") = none := by
    have isFirst : (text ++ "-01").toList = y ++ '-' :: (['0', '1'] ++ []) := by
      simp [isText]
    have isRun : Text.IsFixedWidth 2 1 ['0', '1'] := ⟨rfl, rfl⟩
    have noDay := readItems?_monthOnly isYear isRun [] {}
    rw [List.append_nil dateItems] at noDay
    rw [readFormat?, isFirst, noDay]
    rfl
  rcases signed?_year isYear fits (isText.trans (List.append_nil y)) (Nat.le_refl 32) with
    ⟨fourBytes, isSigned⟩
  rw [readLocal?, noFormat, noMonth, readFourCharacterYear?, if_pos fourBytes, isSigned]
  cases isDate : Date.ofParts? year 1 1 <;> simp [DateFields.toLocalTime?, isDate, LocalTime.midnight]

include isYear isMonth in
theorem readLocal?_month {text : String} (isText : text.toList = y ++ '-' :: (m ++ [])) :
    readLocal? text = DateFields.toLocalTime? { year := year, month := month } := by
  have noFormat : localFormats.findSome? (fun format => readFormat? format text) = none := by
    rw [findSome?_localFormats, isText]
    simp only [itemsBehindDate, List.findSome?_cons, readItems?_monthOnly isYear isMonth,
      Option.bind_none, List.findSome?_nil]
  have isFirst : readFormat? dateItems (text ++ "-01") =
      DateFields.toLocalTime? { year := year, month := month } := by
    have isDate : (text ++ "-01").toList = y ++ '-' :: (m ++ '-' :: (['0', '1'] ++ [])) := by
      simp [isText]
    have isRun : Text.IsFixedWidth 2 1 ['0', '1'] := ⟨rfl, rfl⟩
    have isRead := readItems?_date isYear isMonth isRun [] {} []
    rw [List.append_nil dateItems] at isRead
    rw [readFormat?, isDate, isRead]
    rfl
  rw [readLocal?, noFormat, isFirst, readFourCharacterYear?_yearAndHyphen isYear isText,
    Option.none_or, Option.or_none]

include isYear isMonth isDay in
/-- Behind a date only the format that fits the rest is read. -/
theorem readLocal?_date {text : String} {rest : List Char}
    (isText : text.toList = y ++ '-' :: (m ++ '-' :: (d ++ rest))) :
    readLocal? text = itemsBehindDate.findSome? fun items =>
      (readItems? items { year := year, month := month, day := day } rest).bind
        DateFields.toLocalTime? := by
  have noDay : readFormat? dateItems (text ++ "-01") = none := by
    have isLonger : (text ++ "-01").toList =
        y ++ '-' :: (m ++ '-' :: (d ++ (rest ++ ['-', '0', '1']))) := by
      simp [isText]
    have isRead := readItems?_date isYear isMonth isDay [] {} (rest ++ ['-', '0', '1'])
    rw [List.append_nil dateItems] at isRead
    rw [readFormat?, isLonger, isRead]
    cases rest <;> rfl
  rw [readLocal?, noDay, readFourCharacterYear?_yearAndHyphen isYear isText, Option.or_none,
    Option.or_none, findSome?_localFormats, isText]
  simp only [readItems?_date isYear isMonth isDay]

include isYear isMonth isDay in
theorem readLocal?_day {text : String}
    (isText : text.toList = y ++ '-' :: (m ++ '-' :: (d ++ []))) :
    readLocal? text = DateFields.toLocalTime? { year := year, month := month, day := day } := by
  have noClock := readItems?_noClock [] rfl
  rw [readLocal?_date isYear isMonth isDay isText]
  simp only [itemsBehindDate, List.findSome?_cons, List.findSome?_nil, readItems?_literal,
    readItems?_blanks, readItems?_nil, readCharacter?, Text.dropBlanks, List.dropWhile_nil, noClock,
    Option.bind_none, Option.bind_some]
  cases DateFields.toLocalTime? { year := year, month := month, day := day } <;> rfl

include isYear isMonth isDay isHour isMinute in
theorem readLocal?_minute {text : String}
    (isText : text.toList = y ++ '-' :: (m ++ '-' :: (d ++ 'T' :: (h ++ ':' :: (n ++ []))))) :
    readLocal? text = DateFields.toLocalTime?
      { year := year, month := month, day := day, hour := hour, minute := minute } := by
  have noBlank : Text.dropBlanks ('T' :: (h ++ ':' :: (n ++ []))) =
      'T' :: (h ++ ':' :: (n ++ [])) := rfl
  have noClock := readItems?_noClock ('T' :: (h ++ ':' :: (n ++ []))) rfl
  rw [readLocal?_date isYear isMonth isDay isText]
  simp only [itemsBehindDate, List.findSome?_cons, List.findSome?_nil, readItems?_literal,
    readItems?_blanks, readItems?_nil, readItems?_tooLong, readCharacter?, noBlank, if_true,
    readItems?_clock isHour isMinute, noClock, Option.bind_none, Option.bind_some]
  cases DateFields.toLocalTime?
    { year := year, month := month, day := day, hour := hour, minute := minute } <;> rfl

include isYear isMonth isDay isHour isMinute in
theorem readLocal?_second {text : String}
    (isText : text.toList = y ++ '-' :: (m ++ '-' :: (d ++ ' ' :: (h ++ ':' ::
      (n ++ ':' :: (['0', '0'] ++ [])))))) :
    readLocal? text = DateFields.toLocalTime?
      { year := year, month := month, day := day, hour := hour, minute := minute } := by
  have isRun : Text.IsFixedWidth 2 0 ['0', '0'] := ⟨rfl, rfl⟩
  have isBehindBlank : Text.dropBlanks (' ' :: (h ++ ':' :: (n ++ ':' :: (['0', '0'] ++ [])))) =
      h ++ ':' :: (n ++ ':' :: (['0', '0'] ++ [])) := isHour.dropBlanks _
  have noLetter : ¬(' ' = 'T') := by decide
  have isSecond (fields : DateFields) :
      readItems? [.literal ':', .second] fields (':' :: (['0', '0'] ++ [])) =
        some { fields with second := 0 } := by
    simp only [readItems?_cons, readItem?, readCharacter?, if_true, isRun.readShort?,
      Option.map_some, Option.bind_some, readItems?_nil]
  rw [readLocal?_date isYear isMonth isDay isText]
  simp only [itemsBehindDate, List.findSome?_cons, List.findSome?_nil, readItems?_literal,
    readItems?_blanks, readItems?_tooLong, readCharacter?, isBehindBlank, noLetter, if_false,
    readItems?_clock isHour isMinute, isSecond, Option.bind_none, Option.bind_some]
  cases DateFields.toLocalTime?
    { year := year, month := month, day := day, hour := hour, minute := minute } <;> rfl

/-! ## Moments

A text in one of the notations ends before an offset could stand in it. -/

include isYear in
theorem readUniversal?_year {text : String} (isText : text.toList = y ++ []) :
    readUniversal? text = none := by
  rw [readUniversal?, isText, isYear.readExactly?]
  rfl

include isYear isMonth in
theorem readUniversal?_month {text : String} (isText : text.toList = y ++ '-' :: (m ++ [])) :
    readUniversal? text = none := by
  rw [readUniversal?, isText, isYear.readExactly?]
  change (readExactly? 2 (m ++ [])).bind _ = none
  rw [isMonth.readExactly?]
  rfl

include isYear isMonth isDay in
theorem readUniversal?_day {text : String}
    (isText : text.toList = y ++ '-' :: (m ++ '-' :: (d ++ []))) :
    readUniversal? text = none := by
  rw [readUniversal?, isText, isYear.readExactly?]
  change (readExactly? 2 (m ++ _)).bind _ = none
  rw [isMonth.readExactly?]
  change (readExactly? 2 (d ++ [])).bind _ = none
  rw [isDay.readExactly?]
  rfl

include isYear isMonth isDay isHour isMinute in
/-- Up to the minute all texts of moments are read alike. -/
theorem readUniversal?_eq_end {text : String} {separator : Char}
    (isSeparator : ∀ rest, readSeparator? (separator :: rest) = some rest) {rest : List Char}
    (isText : text.toList =
      y ++ '-' :: (m ++ '-' :: (d ++ separator :: (h ++ ':' :: (n ++ rest))))) :
    readUniversal? text = readUniversalEnd? year month day hour minute rest := by
  rw [readUniversal?, isText, isYear.readExactly?]
  change (readExactly? 2 (m ++ _)).bind _ = _
  rw [isMonth.readExactly?]
  change (readExactly? 2 (d ++ _)).bind _ = _
  rw [isDay.readExactly?]
  change (readSeparator? (separator :: (h ++ _))).bind _ = _
  rw [isSeparator]
  change (readExactly? 2 (h ++ _)).bind _ = _
  rw [isHour.readExactly?]
  change (readExactly? 2 (n ++ _)).bind _ = _
  rw [isMinute.readExactly?]
  rfl

include isYear in
/-- A text that goes on with a hyphen behind its year and has no offset is a local date. -/
theorem readMoment?_yearAndHyphen {text : String} {rest : List Char}
    (isText : text.toList = y ++ '-' :: rest) (noOffset : readUniversal? text = none)
    (offset : Int) :
    readMoment? offset text = (readLocal? text).bind fun time => time.toInstant? offset := by
  rw [readMoment?, signed?_yearAndHyphen isYear isText, noOffset]
  rfl

end DateReader

/-- The year of a notation has four digits. -/
theorem DateFields.FitNotations.isYear {fields : DateFields} (fit : fields.FitNotations) :
    Text.IsFixedWidth 4 fields.year.natAbs (Text.padded 4 fields.year.natAbs).toList := by
  apply Text.isFixedWidth_padded (by decide)
  have := fit.year
  simp
  omega

/-- Every other field has two digits. -/
theorem Text.isFixedWidth_field {field : Nat} (fits : field ≤ 99) :
    IsFixedWidth 2 field (padded 2 field).toList := by
  apply isFixedWidth_padded (by decide)
  simp
  omega

namespace DateNotation

open DateReader

section

variable (fields : DateFields)

theorem toList_year : (text fields .year).toList = (Text.padded 4 fields.year.natAbs).toList ++ [] := by
  rw [text, yearText, List.append_nil]

theorem toList_month :
    (text fields .month).toList = (Text.padded 4 fields.year.natAbs).toList ++ '-' ::
      ((Text.padded 2 fields.month).toList ++ []) := by
  simp [text, monthText, yearText]

theorem toList_day :
    (text fields .day).toList = (Text.padded 4 fields.year.natAbs).toList ++ '-' ::
      ((Text.padded 2 fields.month).toList ++ '-' ::
        ((Text.padded 2 fields.day).toList ++ [])) := by
  simp [text, dayText, monthText, yearText]

theorem toList_minute :
    (text fields .minute).toList = (Text.padded 4 fields.year.natAbs).toList ++ '-' ::
      ((Text.padded 2 fields.month).toList ++ '-' ::
        ((Text.padded 2 fields.day).toList ++ 'T' ::
          ((Text.padded 2 fields.hour).toList ++ ':' ::
            ((Text.padded 2 fields.minute).toList ++ [])))) := by
  simp [text, dayText, monthText, yearText, clockText]

theorem toList_second :
    (text fields .second).toList = (Text.padded 4 fields.year.natAbs).toList ++ '-' ::
      ((Text.padded 2 fields.month).toList ++ '-' ::
        ((Text.padded 2 fields.day).toList ++ ' ' ::
          ((Text.padded 2 fields.hour).toList ++ ':' ::
            ((Text.padded 2 fields.minute).toList ++ ':' :: (['0', '0'] ++ []))))) := by
  simp [text, dayText, monthText, yearText, clockText]

end

/-- What is read from a date in a notation is the instant of the fields that it shows. -/
theorem readMoment?_text {fields : DateFields} (fit : fields.FitNotations) (style : DateNotation)
    (offset : Int) :
    readMoment? offset (style.text fields) =
      (style.shown fields).toLocalTime?.bind fun time => time.toInstant? offset := by
  have isYear := fit.isYear
  have isMonth := Text.isFixedWidth_field fit.month
  have isDay := Text.isFixedWidth_field fit.day
  have isHour := Text.isFixedWidth_field fit.hour
  have isMinute := Text.isFixedWidth_field fit.minute
  have isNumber : (fields.year.natAbs : Int) = fields.year := Int.natAbs_of_nonneg fit.year.1
  cases style with
  | year =>
      have isText := toList_year fields
      have fits : fields.year.natAbs ≤ 9999 := by
        have := fit.year
        omega
      rcases signed?_year isYear fits (isText.trans (List.append_nil _)) (by decide : 32 ≤ 64) with
        ⟨fourBytes, isSigned⟩
      rw [readMoment?, isSigned, fourBytes, readUniversal?_year isYear isText,
        readLocal?_year isYear fits isText, isNumber]
      rfl
  | month =>
      have isText := toList_month fields
      rw [readMoment?_yearAndHyphen isYear isText (readUniversal?_month isYear isMonth isText),
        readLocal?_month isYear isMonth isText, isNumber]
      rfl
  | day =>
      have isText := toList_day fields
      rw [readMoment?_yearAndHyphen isYear isText
          (readUniversal?_day isYear isMonth isDay isText),
        readLocal?_day isYear isMonth isDay isText, isNumber]
      rfl
  | minute =>
      have isText := toList_minute fields
      have noOffset : readUniversal? (text fields .minute) = none :=
        readUniversal?_eq_end isYear isMonth isDay isHour isMinute (fun _ => rfl) isText
      rw [readMoment?_yearAndHyphen isYear isText noOffset,
        readLocal?_minute isYear isMonth isDay isHour isMinute isText, isNumber]
      rfl
  | second =>
      have isText := toList_second fields
      have noOffset : readUniversal? (text fields .second) = none :=
        readUniversal?_eq_end isYear isMonth isDay isHour isMinute (fun _ => rfl) isText
      rw [readMoment?_yearAndHyphen isYear isText noOffset,
        readLocal?_second isYear isMonth isDay isHour isMinute isText, isNumber]
      rfl

/-- The text of every notation starts with the digits of the year. -/
theorem exists_behindYear (fields : DateFields) (style : DateNotation) :
    ∃ rest, (style.text fields).toList = (Text.padded 4 fields.year.natAbs).toList ++ rest := by
  cases style <;> simp [text, dayText, monthText, yearText]

/-- The text of every notation ends with a digit. -/
theorem exists_lastDigits {fields : DateFields} (fit : fields.FitNotations) (style : DateNotation) :
    ∃ front width number run, Text.IsFixedWidth width number run ∧
      (style.text fields).toList = front ++ run := by
  cases style with
  | year =>
      refine ⟨[], 4, fields.year.natAbs, _, fit.isYear, ?_⟩
      rw [text, yearText, List.nil_append]
  | month =>
      refine ⟨(yearText fields ++ "-").toList, 2, fields.month, _,
        Text.isFixedWidth_field fit.month, ?_⟩
      simp [text, monthText]
  | day =>
      refine ⟨(monthText fields ++ "-").toList, 2, fields.day, _,
        Text.isFixedWidth_field fit.day, ?_⟩
      simp [text, dayText]
  | minute =>
      refine ⟨(dayText fields ++ "T" ++ Text.padded 2 fields.hour ++ ":").toList, 2, fields.minute, _,
        Text.isFixedWidth_field fit.minute, ?_⟩
      simp [text, clockText]
  | second =>
      refine ⟨(dayText fields ++ " " ++ clockText fields ++ ":").toList, 2, 0, ['0', '0'],
        ⟨rfl, rfl⟩, ?_⟩
      simp [text]

theorem trim_text {fields : DateFields} (fit : fields.FitNotations) (style : DateNotation) :
    Text.trim (style.text fields) = style.text fields := by
  rw [Text.trim_eq_self_iff]
  refine ⟨?_, ?_⟩
  · rcases exists_behindYear fields style with ⟨rest, isText⟩
    rcases fit.isYear.exists_cons with ⟨first, others, isYear, isDigit⟩
    simp [isText, isYear, Text.isBlank_of_isDigit isDigit]
  · rcases exists_lastDigits fit style with ⟨front, width, number, run, isRun, isText⟩
    intro character isLast
    rw [isText, List.getLast?_append_of_ne_nil _ isRun.ne_nil] at isLast
    exact Text.isBlank_of_isDigit (isRun.areDigits character (List.mem_of_getLast? isLast))

end DateNotation

end PageContext
