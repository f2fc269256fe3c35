import Mathlib.Data.List.Induction
import ShapeBinding.Datatype
/-!
# Converters that keep to their type and return what they read

A converter is typed if what it reads is of its own type (`Converter.Typed`).  It is faithful if it reads whatever it
writes as what was written (`Converter.Faithful`), and it returns what it reads if every value it reads can be written
and is read again (`Converter.Returns`).  The last is what a table of datatypes needs for a value that was read from one
lexical form and written as another.
-/
namespace ShapeBinding

/-- The offset of a date or a time that has one. -/
def Value.offset? : Value → Option Int16
  | date _ offset => offset
  | time _ offset => offset
  | dateTime _ offset => offset
  | _ => none

namespace Converter

variable {c : Converter}

/-- **What the converter reads is of its type.** -/
def Typed (c : Converter) : Prop := ∀ s v, c.decode s = .ok v → v.type = c.valueType

/-- **What the converter writes it reads as what was written.**  The least offset is left out: it is its own absolute
value, so that no check of its size refuses it. -/
def Faithful (c : Converter) : Prop :=
  ∀ v s, v.offset? ≠ some Int16.minValue → c.encode v = .ok s → c.decode s = .ok v

/-- **What the converter reads is of its type, and is read again from what it is written as.** -/
def Returns (c : Converter) : Prop := ∀ s v, c.decode s = .ok v →
  v.type = c.valueType ∧ ∃ s', c.encode v = .ok s' ∧ c.decode s' = .ok v

theorem Returns.typed (h : c.Returns) : c.Typed := fun s v hv => (h s v hv).1

theorem Faithful.returns (h : c.Faithful) (hread : ∀ s v, c.decode s = .ok v →
    v.type = c.valueType ∧ v.offset? ≠ some Int16.minValue ∧ ∃ s', c.encode v = .ok s') : c.Returns := by
  intro s v hv
  obtain ⟨htype, hoffset, s', hs'⟩ := hread s v hv
  exact ⟨htype, s', hs', h v s' hoffset hs'⟩

end Converter

namespace Datatypes

variable {ds : Datatypes} {datatype lexical : String} {v : Value}

theorem decode_eq_ok_iff :
    ds.decode datatype lexical = .ok v ↔ ∃ c, ds.find? datatype = some c ∧ c.decode lexical = .ok v := by
  unfold decode
  cases ds.find? datatype with
  | none => simp
  | some c =>
    simp only [Option.some.injEq, exists_eq_left']
    cases c.decode lexical <;> simp

theorem encode_eq_ok_iff : ds.encode datatype v = .ok lexical ↔
    ∃ c, ds.find? datatype = some c ∧ v.type = c.valueType ∧ c.encode v = .ok lexical := by
  unfold encode
  cases ds.find? datatype with
  | none => simp
  | some c =>
    simp only [Option.some.injEq, exists_eq_left']
    by_cases h : v.type = c.valueType
    · rw [if_pos h]
      cases c.encode v <;> simp [h]
    · rw [if_neg h]
      simp [h]

theorem decode_eq_ok_iff_of_find? {c : Converter} (hc : ds.find? datatype = some c) :
    ds.decode datatype lexical = .ok v ↔ c.decode lexical = .ok v := by
  rw [decode_eq_ok_iff]
  simp only [hc, Option.some.injEq, exists_eq_left']

theorem decode_eq_error_iff_of_find? {c : Converter} (hc : ds.find? datatype = some c) {reason : Reason} :
    ds.decode datatype lexical = .error (.invalidLiteral datatype lexical reason) ↔
      c.decode lexical = .error reason := by
  simp only [decode, hc]
  cases c.decode lexical <;> simp

theorem encode_eq_ok_iff_of_find? {c : Converter} (hc : ds.find? datatype = some c) :
    ds.encode datatype v = .ok lexical ↔ v.type = c.valueType ∧ c.encode v = .ok lexical := by
  rw [encode_eq_ok_iff]
  simp only [hc, Option.some.injEq, exists_eq_left']

theorem mem_of_find?_ofList {entries : List (String × Converter)} {c : Converter}
    (h : (ofList entries).find? datatype = some c) : (datatype, c) ∈ entries := by
  induction entries using List.reverseRecOn with
  | nil => cases h
  | append_singleton entries e ih =>
    have hstep : ofList (entries ++ [e]) = (ofList entries).register e.1 e.2 := by simp [ofList]
    rw [hstep, find?_register] at h
    split at h
    · rename_i heq
      cases h
      exact List.mem_append_right _ (List.mem_singleton.2 (Prod.ext heq rfl))
    · exact List.mem_append_left _ (ih h)

theorem find?_ofList_of_mem {entries : List (String × Converter)} {c : Converter} (hkeys : (entries.map (·.1)).Nodup)
    (h : (datatype, c) ∈ entries) : (ofList entries).find? datatype = some c := by
  induction entries using List.reverseRecOn with
  | nil => exact (List.not_mem_nil h).elim
  | append_singleton entries e ih =>
    have hstep : ofList (entries ++ [e]) = (ofList entries).register e.1 e.2 := by simp [ofList]
    rw [List.map_append, List.nodup_append] at hkeys
    rw [hstep, find?_register]
    rcases List.mem_append.1 h with hold | hnew
    · have hne : datatype ≠ e.1 :=
        hkeys.2.2 _ (List.mem_map_of_mem hold) _ (List.mem_singleton_self e.1)
      rw [if_neg hne]
      exact ih hkeys.1 hold
    · obtain rfl := List.mem_singleton.1 hnew
      exact if_pos rfl

/-- **Every converter of the table reads values of its type only.** -/
def Typed (ds : Datatypes) : Prop := ∀ datatype c, ds.find? datatype = some c → c.Typed

theorem valueType?_of_decode (h : ds.Typed) (hv : ds.decode datatype lexical = .ok v) :
    ds.valueType? datatype = some v.type := by
  obtain ⟨c, hc, hv⟩ := decode_eq_ok_iff.1 hv
  rw [valueType?, hc, Option.map_some, h datatype c hc lexical v hv]

/-- **Whatever is read through a converter that returns it** can be written through the table and is read again. -/
theorem exists_encode_of_decode {c : Converter} (hc : ds.find? datatype = some c) (hreturns : c.Returns)
    (h : ds.decode datatype lexical = .ok v) :
    v.type = c.valueType ∧ ∃ lexical', ds.encode datatype v = .ok lexical' ∧ ds.decode datatype lexical' = .ok v := by
  obtain ⟨c', hc', hv⟩ := decode_eq_ok_iff.1 h
  rw [hc] at hc'
  cases hc'
  obtain ⟨htype, s, hs, hv'⟩ := hreturns lexical v hv
  exact ⟨htype, s, encode_eq_ok_iff.2 ⟨c, hc, htype, hs⟩, decode_eq_ok_iff.2 ⟨c, hc, hv'⟩⟩

end Datatypes
end ShapeBinding
