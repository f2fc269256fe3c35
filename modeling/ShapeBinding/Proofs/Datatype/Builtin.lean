import ShapeBinding.Datatype.Builtin
import ShapeBinding.Proofs.Datatype
import ShapeBinding.Proofs.Number.Decimal
import ShapeBinding.Proofs.Time.Lexical
/-!
# The built-in converters return what they read

All the built-in converters but those of floating-point numbers return what they read, and all of these but that of
`xsd:dateTime` are faithful.  An integer is read from all its forms (`Converter.readInteger_eq_ok_iff`).  A clock far in
the past may be writable in a zone although the midnight before it is out of range, so an instant is read again if it was
read before (`Converter.returns_dateTime`), but not just because it could be written.
-/
namespace ShapeBinding
namespace Converter

/-! ## Text and truth values -/

theorem faithful_string : string.Faithful := by
  rintro (s | _ | _ | _ | _ | _ | _ | _) lexical - ⟨⟩
  rfl

theorem returns_string : string.Returns := faithful_string.returns fun s v h => by
  cases h
  exact ⟨rfl, nofun, s, rfl⟩

theorem faithful_boolean : boolean.Faithful := by
  rintro (_ | _ | _ | _ | (_ | _) | _ | _ | _) lexical - ⟨⟩ <;> decide

theorem returns_boolean : boolean.Returns := faithful_boolean.returns fun s v h => by
  have htype : ∃ b, v = .boolean b := by
    simp only [boolean] at h
    split at h
    · exact ⟨true, (Except.ok.inj h).symm⟩
    split at h
    · exact ⟨false, (Except.ok.inj h).symm⟩
    · cases h
  obtain ⟨b, rfl⟩ := htype
  exact ⟨rfl, nofun, _, rfl⟩

/-! ## Numbers -/

/-- **An integer is read from its forms**, if it lies within the bounds. -/
theorem readInteger_eq_ok_iff {least greatest : Int} {s : List Char} {w : Int64} :
    readInteger least greatest s = .ok w ↔ IntegerForm s w.toInt ∧ least ≤ w.toInt ∧ w.toInt ≤ greatest := by
  obtain ⟨⟨negative, body⟩, hsplit⟩ : ∃ parts, splitSign s = parts := ⟨_, rfl⟩
  simp only [readInteger, hsplit, integerForm_iff_of_splitSign hsplit]
  generalize (if negative = true then -(numeral body : Int) else numeral body) = n
  by_cases hdigits : isNumeral body = true
  · rw [if_pos hdigits]
    simp only [hdigits, true_and]
    split
    · rename_i hn
      rw [int64?_eq_none_iff] at hn
      have := w.le_toInt
      have := w.toInt_lt
      exact ⟨nofun, fun h => by omega⟩
    · rename_i w' hn
      rw [int64?_eq_some_iff] at hn
      subst hn
      rw [guard_eq_ok_iff, Except.ok.injEq, Int64.toInt_inj, not_or, Int.not_lt, Int.not_lt]
      constructor
      · rintro ⟨hrange, rfl⟩
        exact ⟨rfl, hrange⟩
      · rintro ⟨rfl, hrange⟩
        exact ⟨hrange, rfl⟩
  · rw [if_neg hdigits]
    exact ⟨nofun, fun h => absurd h.1.1 hdigits⟩

theorem decode_integerBetween_eq_ok_iff {least greatest : Int} {s : String} {v : Value} :
    (integerBetween least greatest).decode s = .ok v ↔
      ∃ w, v = .integer w ∧ IntegerForm s.toList w.toInt ∧ least ≤ w.toInt ∧ w.toInt ≤ greatest := by
  simp only [← readInteger_eq_ok_iff, integerBetween]
  cases readInteger least greatest s.toList <;> simp [Except.map, eq_comm]

theorem encode_integerBetween {least greatest : Int} {w : Int64} (h0 : least ≤ w.toInt) (h1 : w.toInt ≤ greatest) :
    (integerBetween least greatest).encode (.integer w) = .ok (signedText w.toInt) := if_neg (by omega)

theorem faithful_integerBetween (least greatest : Int) : (integerBetween least greatest).Faithful := by
  intro v lexical _ h
  cases v with
  | integer w =>
    have hrange : least ≤ w.toInt ∧ w.toInt ≤ greatest := by
      obtain ⟨hguard, -⟩ := guard_eq_ok_iff.1 h
      omega
    rw [encode_integerBetween hrange.1 hrange.2] at h
    cases h
    rw [decode_integerBetween_eq_ok_iff, signedText, String.toList_ofList]
    exact ⟨w, rfl, integerForm_signedDigits w.toInt, hrange⟩
  | _ => cases h

theorem returns_integerBetween (least greatest : Int) : (integerBetween least greatest).Returns :=
  (faithful_integerBetween least greatest).returns fun s v h => by
    obtain ⟨w, rfl, -, h0, h1⟩ := decode_integerBetween_eq_ok_iff.1 h
    exact ⟨rfl, nofun, _, encode_integerBetween h0 h1⟩

theorem faithful_decimal : decimal.Faithful := by
  intro v lexical _ h
  cases v with
  | decimal d =>
    obtain rfl : d.text = lexical := Except.ok.inj h
    simp only [decimal, Decimal.text, String.toList_ofList, Decimal.read_chars]
  | _ => cases h

theorem returns_decimal : decimal.Returns := faithful_decimal.returns fun s v h => by
  obtain ⟨d, rfl⟩ : ∃ d, v = .decimal d := by
    simp only [decimal] at h
    split at h
    · exact ⟨_, (Except.ok.inj h).symm⟩
    · cases h
  exact ⟨rfl, nofun, _, rfl⟩

theorem typed_double : double.Typed := by
  intro s v h
  simp only [double] at h
  split at h
  · cases h
    rfl
  · cases h

theorem typed_float : float.Typed := by
  intro s v h
  simp only [float] at h
  split at h
  · cases h
    rfl
  · cases h

/-! ## Dates and times -/

/-- **Which offsets are let through**: those that a zone can show, and the least one. -/
theorem checkOffset_eq_ok_iff {offset : Option Int16} {u : Unit} :
    checkOffset offset = .ok u ↔ Time.OffsetInRange offset ∨ offset = some Int16.minValue := by
  cases offset with
  | none => exact ⟨fun _ => .inl Time.offsetInRange_none, fun _ => rfl⟩
  | some m =>
    simp only [checkOffset, Time.OffsetInRange, guard_eq_ok_iff, Option.some.injEq, forall_eq', and_true]
    by_cases hleast : m = Int16.minValue
    · subst hleast
      decide
    · rw [Word.toInt_abs hleast, or_iff_left hleast]
      omega

theorem checkOffset_eq_ok_iff_of_ne {offset : Option Int16} (hleast : offset ≠ some Int16.minValue) {u : Unit} :
    checkOffset offset = .ok u ↔ Time.OffsetInRange offset := checkOffset_eq_ok_iff.trans (or_iff_left hleast)

theorem checkOffset_bind_eq_ok_iff {offset : Option Int16} (hleast : offset ≠ some Int16.minValue)
    {text s : String} :
    (checkOffset offset >>= fun _ => Except.ok text) = .ok s ↔ Time.OffsetInRange offset ∧ s = text := by
  rw [bind_eq_ok_iff]
  constructor
  · rintro ⟨_, hoffset, ⟨⟩⟩
    exact ⟨(checkOffset_eq_ok_iff_of_ne hleast).1 hoffset, rfl⟩
  · rintro ⟨hoffset, rfl⟩
    exact ⟨(), (checkOffset_eq_ok_iff_of_ne hleast).2 hoffset, rfl⟩

theorem encode_date_eq_ok_iff {days : Int32} {offset : Option Int16} (hleast : offset ≠ some Int16.minValue)
    {s : String} : date.encode (.date days offset) = .ok s ↔
      Time.OffsetInRange offset ∧ s = String.ofList (Time.dateChars days offset) := checkOffset_bind_eq_ok_iff hleast

theorem decode_date_eq_ok_iff {s : String} {v : Value} : date.decode s = .ok v ↔
    ∃ days offset, Time.readDate s.toList = .ok (days, offset) ∧ v = .date days offset := by
  simp only [date]
  cases Time.readDate s.toList with
  | error e => simp
  | ok r =>
    obtain ⟨days, offset⟩ := r
    simp [eq_comm]

theorem faithful_date : date.Faithful := by
  intro v lexical hleast h
  cases v with
  | date days offset =>
    obtain ⟨hoffset, rfl⟩ := (encode_date_eq_ok_iff hleast).1 h
    rw [decode_date_eq_ok_iff, String.toList_ofList]
    exact ⟨days, offset, Time.readDate_dateChars days hoffset, rfl⟩
  | _ => cases h

theorem returns_date : date.Returns := faithful_date.returns fun s v h => by
  obtain ⟨days, offset, hread, rfl⟩ := decode_date_eq_ok_iff.1 h
  have hoffset := Time.offsetInRange_of_readDate hread
  exact ⟨rfl, hoffset.ne_minValue, _, (encode_date_eq_ok_iff hoffset.ne_minValue).2 ⟨hoffset, rfl⟩⟩

theorem encode_time_eq_ok_iff {micros : Int64} {offset : Option Int16} (hleast : offset ≠ some Int16.minValue)
    {s : String} : time.encode (.time micros offset) = .ok s ↔ (0 ≤ micros.toInt ∧ micros.toInt < Time.microsPerDay) ∧
      Time.OffsetInRange offset ∧ s = String.ofList (Time.timeChars micros.toInt offset) := by
  simp only [time]
  split
  · rename_i hout
    exact ⟨nofun, fun h => by omega⟩
  · rename_i hin
    rw [and_iff_right (by omega), checkOffset_bind_eq_ok_iff hleast]

theorem decode_time_eq_ok_iff {s : String} {v : Value} : time.decode s = .ok v ↔
    ∃ micros offset, Time.readTime s.toList = .ok (micros, offset) ∧ v = .time micros offset := by
  simp only [time]
  cases Time.readTime s.toList with
  | error e => simp
  | ok r =>
    obtain ⟨micros, offset⟩ := r
    simp [eq_comm]

theorem faithful_time : time.Faithful := by
  intro v lexical hleast h
  cases v with
  | time micros offset =>
    obtain ⟨⟨h0, h1⟩, hoffset, rfl⟩ := (encode_time_eq_ok_iff hleast).1 h
    rw [decode_time_eq_ok_iff, String.toList_ofList]
    exact ⟨micros, offset, Time.readTime_timeChars h0 h1 hoffset, rfl⟩
  | _ => cases h

theorem returns_time : time.Returns := faithful_time.returns fun s v h => by
  obtain ⟨micros, offset, hread, rfl⟩ := decode_time_eq_ok_iff.1 h
  obtain ⟨hrange, hoffset⟩ := Time.range_of_readTime hread
  exact ⟨rfl, hoffset.ne_minValue, _, (encode_time_eq_ok_iff hoffset.ne_minValue).2 ⟨hrange, hoffset, rfl⟩⟩

theorem decode_dateTime_eq_ok_iff {s : String} {v : Value} : dateTime.decode s = .ok v ↔
    ∃ instant offset, Time.readDateTime s.toList = .ok (instant, offset) ∧ v = .dateTime instant offset := by
  simp only [dateTime]
  cases Time.readDateTime s.toList with
  | error e => simp
  | ok r =>
    obtain ⟨instant, offset⟩ := r
    simp [eq_comm]

theorem decode_dateTime_eq_error {s : String} {e : Time.ReadError} (h : Time.readDateTime s.toList = .error e) :
    dateTime.decode s = .error (.time e) := by simp only [dateTime, h]

theorem encode_dateTime_eq_ok_iff {instant : Int64} {offset : Option Int16} (hleast : offset ≠ some Int16.minValue)
    {s : String} : dateTime.encode (.dateTime instant offset) = .ok s ↔ Time.OffsetInRange offset ∧
      (-2 ^ 63 ≤ instant.toInt + Time.zoneShift offset ∧ instant.toInt + Time.zoneShift offset < 2 ^ 63) ∧
      s = String.ofList (Time.dateTimeChars instant offset) := by
  simp only [dateTime, bind_eq_ok_iff]
  constructor
  · rintro ⟨u, hoffset, h⟩
    split at h
    · cases h
    · rename_i reading hreading
      rw [int64?_eq_some_iff] at hreading
      rw [← hreading]
      exact ⟨(checkOffset_eq_ok_iff_of_ne hleast).1 hoffset, ⟨reading.le_toInt, reading.toInt_lt⟩,
        (Except.ok.inj h).symm⟩
  · rintro ⟨hoffset, ⟨h0, h1⟩, rfl⟩
    refine ⟨(), (checkOffset_eq_ok_iff_of_ne hleast).2 hoffset, ?_⟩
    rw [int64?_eq_some_iff.2 (Int64.toInt_ofInt_of_le h0 h1)]

/-- **An instant that can be shown is read as it was written.** -/
theorem decode_encode_dateTime {instant : Int64} {offset : Option Int16} {s : String}
    (hshowable : Time.Showable instant offset) (h : dateTime.encode (.dateTime instant offset) = .ok s) :
    dateTime.decode s = .ok (.dateTime instant offset) := by
  obtain ⟨-, -, rfl⟩ := (encode_dateTime_eq_ok_iff hshowable.offset_inRange.ne_minValue).1 h
  rw [decode_dateTime_eq_ok_iff, String.toList_ofList]
  exact ⟨instant, offset, Time.readDateTime_dateTimeChars hshowable, rfl⟩

theorem returns_dateTime : dateTime.Returns := by
  intro s v h
  obtain ⟨instant, offset, hread, rfl⟩ := decode_dateTime_eq_ok_iff.1 h
  have hshowable := Time.showable_of_readDateTime hread
  have hencode := (encode_dateTime_eq_ok_iff hshowable.offset_inRange.ne_minValue).2
    ⟨hshowable.offset_inRange, ⟨hshowable.le_reading, hshowable.reading_lt⟩, rfl⟩
  exact ⟨rfl, _, hencode, decode_encode_dateTime hshowable hencode⟩

end Converter

/-! ## The table -/

namespace Datatypes

/-- The bounds of the integer datatypes. -/
def integerBounds : List (String × Int × Int) := [
  (Xsd.integer, -2 ^ 63, 2 ^ 63 - 1), (Xsd.long, -2 ^ 63, 2 ^ 63 - 1), (Xsd.int, -2 ^ 31, 2 ^ 31 - 1),
  (Xsd.short, -2 ^ 15, 2 ^ 15 - 1), (Xsd.nonNegativeInteger, 0, 2 ^ 63 - 1), (Xsd.positiveInteger, 1, 2 ^ 63 - 1)]

/-- The datatypes of any text. -/
def textDatatypes : List String := [Xsd.string, Xsd.normalizedString, Xsd.token, Xsd.anyURI]

/-- The built-in datatypes with their converters. -/
inductive IsBuiltin : String → Converter → Prop
  | text {datatype : String} (h : datatype ∈ textDatatypes) : IsBuiltin datatype .string
  | integer {datatype : String} {least greatest : Int} (h : (datatype, least, greatest) ∈ integerBounds) :
      IsBuiltin datatype (.integerBetween least greatest)
  | decimal : IsBuiltin Xsd.decimal .decimal
  | double : IsBuiltin Xsd.double .double
  | float : IsBuiltin Xsd.float .float
  | boolean : IsBuiltin Xsd.boolean .boolean
  | date : IsBuiltin Xsd.date .date
  | time : IsBuiltin Xsd.time .time
  | dateTime : IsBuiltin Xsd.dateTime .dateTime

variable {datatype : String} {c : Converter}

theorem find?_builtin_eq_some_iff : builtin.find? datatype = some c ↔ IsBuiltin datatype c := by
  constructor
  · intro h
    have hmem := mem_of_find?_ofList h
    simp only [List.mem_cons, List.not_mem_nil, or_false, Prod.mk.injEq] at hmem
    rcases hmem with ⟨rfl, rfl⟩ | ⟨rfl, rfl⟩ | ⟨rfl, rfl⟩ | ⟨rfl, rfl⟩ | ⟨rfl, rfl⟩ | ⟨rfl, rfl⟩ | ⟨rfl, rfl⟩ |
      ⟨rfl, rfl⟩ | ⟨rfl, rfl⟩ | ⟨rfl, rfl⟩ | ⟨rfl, rfl⟩ | ⟨rfl, rfl⟩ | ⟨rfl, rfl⟩ | ⟨rfl, rfl⟩ | ⟨rfl, rfl⟩ |
      ⟨rfl, rfl⟩ | ⟨rfl, rfl⟩
    iterate 4 exact .text (by simp [textDatatypes])
    iterate 6 exact .integer (by simp [integerBounds])
    · exact .decimal
    · exact .double
    · exact .float
    · exact .boolean
    · exact .date
    · exact .time
    · exact .dateTime
  · intro h
    refine find?_ofList_of_mem (by decide) ?_
    cases h with
    | text h =>
      simp only [textDatatypes, List.mem_cons, List.not_mem_nil, or_false] at h
      rcases h with rfl | rfl | rfl | rfl <;> simp
    | integer h =>
      simp only [integerBounds, List.mem_cons, List.not_mem_nil, or_false, Prod.mk.injEq] at h
      rcases h with ⟨rfl, rfl, rfl⟩ | ⟨rfl, rfl, rfl⟩ | ⟨rfl, rfl, rfl⟩ | ⟨rfl, rfl, rfl⟩ | ⟨rfl, rfl, rfl⟩ |
        ⟨rfl, rfl, rfl⟩ <;>
        simp [Converter.integer, Converter.int, Converter.short, Converter.nonNegativeInteger,
          Converter.positiveInteger]
    | decimal => simp
    | double => simp
    | float => simp
    | boolean => simp
    | date => simp
    | time => simp
    | dateTime => simp

theorem find?_dateTime : builtin.find? Xsd.dateTime = some Converter.dateTime := find?_builtin_eq_some_iff.2 .dateTime

open Converter

/-- **Every built-in converter returns what it reads**, save those of floating-point numbers. -/
theorem returns_of_find?_builtin (h : builtin.find? datatype = some c) (hdouble : datatype ≠ Xsd.double)
    (hfloat : datatype ≠ Xsd.float) : c.Returns ∧ c.valueType ≠ .double := by
  cases find?_builtin_eq_some_iff.1 h with
  | text => exact ⟨returns_string, by decide⟩
  | integer => exact ⟨returns_integerBetween _ _, nofun⟩
  | decimal => exact ⟨returns_decimal, by decide⟩
  | double => exact absurd rfl hdouble
  | float => exact absurd rfl hfloat
  | boolean => exact ⟨returns_boolean, by decide⟩
  | date => exact ⟨returns_date, by decide⟩
  | time => exact ⟨returns_time, by decide⟩
  | dateTime => exact ⟨returns_dateTime, by decide⟩

/-- **Every built-in converter is faithful**, save those of floating-point numbers and of instants. -/
theorem faithful_of_find?_builtin (h : builtin.find? datatype = some c) (hdouble : datatype ≠ Xsd.double)
    (hfloat : datatype ≠ Xsd.float) (hdateTime : datatype ≠ Xsd.dateTime) : c.Faithful := by
  cases find?_builtin_eq_some_iff.1 h with
  | text => exact faithful_string
  | integer => exact faithful_integerBetween _ _
  | decimal => exact faithful_decimal
  | double => exact absurd rfl hdouble
  | float => exact absurd rfl hfloat
  | boolean => exact faithful_boolean
  | date => exact faithful_date
  | time => exact faithful_time
  | dateTime => exact absurd rfl hdateTime

/-- **Every built-in converter reads values of its type only**, those of floating-point numbers included. -/
theorem typed_builtin : builtin.Typed := by
  intro datatype c h
  cases find?_builtin_eq_some_iff.1 h with
  | text => exact returns_string.typed
  | integer => exact (returns_integerBetween _ _).typed
  | decimal => exact returns_decimal.typed
  | double => exact typed_double
  | float => exact typed_float
  | boolean => exact returns_boolean.typed
  | date => exact returns_date.typed
  | time => exact returns_time.typed
  | dateTime => exact returns_dateTime.typed

end Datatypes
end ShapeBinding
