import ShapeBinding.Proofs.Datatype.Builtin
/-!
# What the built-in datatypes write is read again

A value that lies in the range of a datatype (`Value.InRange`) can be written under it, and what was written is read as
the value (`Datatypes.decode_encode_builtin`).  Instants are the exception.  All whose clock is within 64 bits can be
written, but they are read from the first midnight of that range on (`Datatypes.decode_encode_dateTime_iff`), so that
those of the four hours before are lost (`Datatypes.not_decode_encode_least_instant`).
-/
namespace ShapeBinding

/-! ## Values in range -/

/-- **A value is in the range of a datatype**, of those whose values are neither floating-point numbers nor instants. -/
def Value.InRange (datatype : String) : Value → Prop
  | string _ => datatype ∈ Datatypes.textDatatypes
  | integer n => ∃ least greatest, (datatype, least, greatest) ∈ Datatypes.integerBounds ∧
      least ≤ n.toInt ∧ n.toInt ≤ greatest
  | decimal _ => datatype = Xsd.decimal
  | double _ => False
  | boolean _ => datatype = Xsd.boolean
  | date _ offset => datatype = Xsd.date ∧ Time.OffsetInRange offset
  | time micros offset => datatype = Xsd.time ∧ (0 ≤ micros.toInt ∧ micros.toInt < Time.microsPerDay) ∧
      Time.OffsetInRange offset
  | dateTime _ _ => False

namespace Datatypes

open Converter

variable {datatype : String} {v : Value}

theorem encode_builtin_of {c : Converter} (hc : IsBuiltin datatype c) {s : String} (htype : v.type = c.valueType)
    (h : c.encode v = .ok s) : builtin.encode datatype v = .ok s :=
  (encode_eq_ok_iff_of_find? (find?_builtin_eq_some_iff.2 hc)).2 ⟨htype, h⟩

/-- **Every value in range can be written.** -/
theorem exists_encode_of_inRange (h : v.InRange datatype) : ∃ s, builtin.encode datatype v = .ok s := by
  cases v with
  | string text => exact ⟨text, encode_builtin_of (.text h) rfl rfl⟩
  | integer n =>
    obtain ⟨least, greatest, hbounds, h0, h1⟩ := h
    exact ⟨_, encode_builtin_of (.integer hbounds) rfl (encode_integerBetween h0 h1)⟩
  | decimal d =>
    obtain rfl : datatype = Xsd.decimal := h
    exact ⟨d.text, encode_builtin_of .decimal rfl rfl⟩
  | double x => exact h.elim
  | boolean b =>
    obtain rfl : datatype = Xsd.boolean := h
    exact ⟨_, encode_builtin_of .boolean rfl rfl⟩
  | date days offset =>
    obtain ⟨rfl, hoffset⟩ := h
    exact ⟨_, encode_builtin_of .date rfl ((encode_date_eq_ok_iff hoffset.ne_minValue).2 ⟨hoffset, rfl⟩)⟩
  | time micros offset =>
    obtain ⟨rfl, hmicros, hoffset⟩ := h
    exact ⟨_, encode_builtin_of .time rfl
      ((encode_time_eq_ok_iff hoffset.ne_minValue).2 ⟨hmicros, hoffset, rfl⟩)⟩
  | dateTime instant offset => exact h.elim

/-- **What a built-in datatype writes it reads as what was written**, unless its values are floating-point numbers or
instants; and every value in range is written.  The least offset is left out, whose absolute value is no word. -/
theorem decode_encode_builtin (hdouble : datatype ≠ Xsd.double) (hfloat : datatype ≠ Xsd.float)
    (hdateTime : datatype ≠ Xsd.dateTime) (v : Value) (hleast : v.offset? ≠ some Int16.minValue) :
    (∀ s, builtin.encode datatype v = .ok s → builtin.decode datatype s = .ok v) ∧
      (v.InRange datatype → ∃ s, builtin.encode datatype v = .ok s ∧ builtin.decode datatype s = .ok v) := by
  have hread : ∀ s, builtin.encode datatype v = .ok s → builtin.decode datatype s = .ok v := by
    intro s h
    obtain ⟨c, hc, -, hs⟩ := encode_eq_ok_iff.1 h
    have hfaithful := faithful_of_find?_builtin hc hdouble hfloat hdateTime
    exact decode_eq_ok_iff.2 ⟨c, hc, hfaithful v s hleast hs⟩
  refine ⟨hread, fun hrange => ?_⟩
  obtain ⟨s, hs⟩ := exists_encode_of_inRange hrange
  exact ⟨s, hs, hread s hs⟩

/-- The least day number, in a zone fourteen hours behind, is written with a year of seven digits before the common era,
and comes back. -/
theorem decode_encode_least_date : (Xsd.date ≠ Xsd.double ∧ Xsd.date ≠ Xsd.float ∧ Xsd.date ≠ Xsd.dateTime) ∧
    (Value.date Int32.minValue (some (-840))).offset? ≠ some Int16.minValue ∧
    (Value.date Int32.minValue (some (-840))).InRange Xsd.date ∧
    builtin.encode Xsd.date (.date Int32.minValue (some (-840))) = .ok "-5877641-06-23-14:00" ∧
    builtin.decode Xsd.date "-5877641-06-23-14:00" = .ok (.date Int32.minValue (some (-840))) := by
  have hdatatype : Xsd.date ≠ Xsd.double ∧ Xsd.date ≠ Xsd.float ∧ Xsd.date ≠ Xsd.dateTime := by decide
  have hrange : (Value.date Int32.minValue (some (-840))).InRange Xsd.date := by
    refine ⟨rfl, fun m hm => ?_⟩
    cases hm
    decide
  have hencode : builtin.encode Xsd.date (.date Int32.minValue (some (-840))) = .ok "-5877641-06-23-14:00" :=
    encode_builtin_of .date rfl (by decide +kernel)
  have hleast : (Value.date Int32.minValue (some (-840))).offset? ≠ some Int16.minValue := by decide
  obtain ⟨-, hwritten⟩ := decode_encode_builtin hdatatype.1 hdatatype.2.1 hdatatype.2.2
    (.date Int32.minValue (some (-840))) hleast
  obtain ⟨s, hs, hread⟩ := hwritten hrange
  rw [hencode] at hs
  cases hs
  exact ⟨hdatatype, hleast, hrange, hencode, hread⟩

/-! ## Instants -/

section Instants

variable {instant : Int64} {offset : Option Int16} {s : String}

theorem encode_builtin_dateTime_eq_ok_iff (hoffset : Time.OffsetInRange offset) :
    builtin.encode Xsd.dateTime (.dateTime instant offset) = .ok s ↔
      (-2 ^ 63 ≤ instant.toInt + Time.zoneShift offset ∧ instant.toInt + Time.zoneShift offset < 2 ^ 63) ∧
        s = String.ofList (Time.dateTimeChars instant offset) := by
  rw [encode_eq_ok_iff_of_find? find?_dateTime, encode_dateTime_eq_ok_iff hoffset.ne_minValue, and_iff_right hoffset]
  exact and_iff_right rfl

theorem exists_decode_dateTime_iff_showable :
    (∃ s, builtin.decode Xsd.dateTime s = .ok (.dateTime instant offset)) ↔ Time.Showable instant offset := by
  simp only [decode_eq_ok_iff_of_find? find?_dateTime, decode_dateTime_eq_ok_iff]
  constructor
  · rintro ⟨s, _, _, hread, ⟨⟩⟩
    exact Time.showable_of_readDateTime hread
  · intro hshowable
    refine ⟨String.ofList (Time.dateTimeChars instant offset), instant, offset, ?_, rfl⟩
    rw [String.toList_ofList]
    exact Time.readDateTime_dateTimeChars hshowable

theorem decode_builtin_dateTime_of_lt (hoffset : Time.OffsetInRange offset)
    (hs : builtin.encode Xsd.dateTime (.dateTime instant offset) = .ok s)
    (hfirst : instant.toInt + Time.zoneShift offset < Time.firstMidnight) :
    builtin.decode Xsd.dateTime s = .error (.invalidLiteral Xsd.dateTime s (.time (.outOfRange .year))) := by
  obtain ⟨⟨h0, -⟩, rfl⟩ := (encode_builtin_dateTime_eq_ok_iff hoffset).1 hs
  have hrefused := Time.readDateTime_dateTimeChars_of_lt hoffset h0 hfirst
  exact (decode_eq_error_iff_of_find? find?_dateTime).2
    (decode_dateTime_eq_error (by rw [String.toList_ofList, hrefused]))

/-- **Which instants are written and which are read.**  With an offset of at most fourteen hours, an instant is written
just when its clock is within 64 bits, and there is a form that is read as the instant just when the clock stands at the
first midnight of that range or later.  So what was written is read again from then on; before, the year is out of
range. -/
theorem decode_encode_dateTime_iff (hoffset : Time.OffsetInRange offset) :
    ((∃ s, builtin.encode Xsd.dateTime (.dateTime instant offset) = .ok s) ↔
      -2 ^ 63 ≤ instant.toInt + Time.zoneShift offset ∧ instant.toInt + Time.zoneShift offset < 2 ^ 63) ∧
    ((∃ s, builtin.decode Xsd.dateTime s = .ok (.dateTime instant offset)) ↔
      Time.firstMidnight ≤ instant.toInt + Time.zoneShift offset ∧ instant.toInt + Time.zoneShift offset < 2 ^ 63) ∧
    ∀ s, builtin.encode Xsd.dateTime (.dateTime instant offset) = .ok s →
      (builtin.decode Xsd.dateTime s = .ok (.dateTime instant offset) ↔
        Time.firstMidnight ≤ instant.toInt + Time.zoneShift offset) ∧
      (instant.toInt + Time.zoneShift offset < Time.firstMidnight → builtin.decode Xsd.dateTime s =
        .error (.invalidLiteral Xsd.dateTime s (.time (.outOfRange .year)))) := by
  have hread : (∃ s, builtin.decode Xsd.dateTime s = .ok (.dateTime instant offset)) ↔ _ :=
    exists_decode_dateTime_iff_showable.trans (Time.showable_iff hoffset)
  refine ⟨?_, hread, fun s hs => ⟨⟨fun h => (hread.1 ⟨s, h⟩).1, fun hfirst => ?_⟩,
    decode_builtin_dateTime_of_lt hoffset hs⟩⟩
  · simp only [encode_builtin_dateTime_eq_ok_iff hoffset, exists_and_left, exists_eq, and_true]
  · obtain ⟨⟨-, h1⟩, rfl⟩ := (encode_builtin_dateTime_eq_ok_iff hoffset).1 hs
    have hshowable := (Time.showable_iff hoffset).2 ⟨hfirst, h1⟩
    exact (decode_eq_ok_iff_of_find? find?_dateTime).2
      (decode_encode_dateTime hshowable ((encode_eq_ok_iff_of_find? find?_dateTime).1 hs).2)

end Instants

/-- The least instant comes back from a zone fourteen hours ahead, where the clock has passed the first midnight. -/
theorem decode_encode_least_instant_ahead : Time.OffsetInRange (some 840) ∧
    Time.firstMidnight ≤ Int64.minValue.toInt + Time.zoneShift (some 840) ∧
    builtin.encode Xsd.dateTime (.dateTime Int64.minValue (some 840)) = .ok "-290308-12-22T09:59:05.224192+14:00" ∧
    builtin.decode Xsd.dateTime "-290308-12-22T09:59:05.224192+14:00" =
      .ok (.dateTime Int64.minValue (some 840)) := by
  have hoffset : Time.OffsetInRange (some 840) := by
    intro m hm
    cases hm
    decide
  have hfirst : Time.firstMidnight ≤ Int64.minValue.toInt + Time.zoneShift (some 840) := by decide
  have hencode : builtin.encode Xsd.dateTime (.dateTime Int64.minValue (some 840)) =
      .ok "-290308-12-22T09:59:05.224192+14:00" := encode_builtin_of .dateTime rfl (by decide +kernel)
  obtain ⟨-, -, hread⟩ := decode_encode_dateTime_iff hoffset
  exact ⟨hoffset, hfirst, hencode, (hread _ hencode).1.2 hfirst⟩

/-- **The least instant is written without a zone, but nothing is read as it**: the midnight before it is out of
range. -/
theorem not_decode_encode_least_instant : Time.OffsetInRange none ∧
    builtin.encode Xsd.dateTime (.dateTime Int64.minValue none) = .ok "-290308-12-21T19:59:05.224192" ∧
    builtin.decode Xsd.dateTime "-290308-12-21T19:59:05.224192" =
      .error (.invalidLiteral Xsd.dateTime "-290308-12-21T19:59:05.224192" (.time (.outOfRange .year))) ∧
    ¬ ∃ s, builtin.decode Xsd.dateTime s = .ok (.dateTime Int64.minValue none) := by
  have hencode : builtin.encode Xsd.dateTime (.dateTime Int64.minValue none) = .ok "-290308-12-21T19:59:05.224192" :=
    encode_builtin_of .dateTime rfl (by decide +kernel)
  refine ⟨Time.offsetInRange_none, hencode, decode_builtin_dateTime_of_lt Time.offsetInRange_none hencode (by decide),
    fun hread => ?_⟩
  have hmidnight := (exists_decode_dateTime_iff_showable.1 hread).le_midnight
  exact absurd hmidnight (by decide)

end Datatypes
end ShapeBinding
