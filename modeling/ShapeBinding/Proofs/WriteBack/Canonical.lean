import ShapeBinding.Proofs.WriteBack.Bound
/-!
# Canonical forms

The canonical form of a lexical form is what its value is written as (`Datatypes.canonical`).  If the converter of a
datatype returns what it reads, every form that is read has a canonical form, which is its own, and two forms have the
same one just when their values are equal (`Datatypes.canonizes_of_returns`).  Of the built-in datatypes only those of
floating-point numbers are left out, and so an entity over a schema without them can be written once it was bound
(`Binder.canonizes_builtin_and_exists_triples`).
-/
namespace ShapeBinding
namespace Datatypes

variable {ds : Datatypes} {datatype lexical : String} {v : Value}

/-- **The canonical form of a lexical form**: what its value is written as. -/
def canonical (ds : Datatypes) (datatype lexical : String) : Except ConvertError String := do
  let v ← ds.decode datatype lexical
  ds.encode datatype v

theorem canonical_of_decode (h : ds.decode datatype lexical = .ok v) :
    ds.canonical datatype lexical = ds.encode datatype v := by
  rw [canonical, h]
  rfl

/-- **A datatype has canonical forms**: what is read is of its type and has a canonical form, which is read as the same
value and is its own canonical form; and values are equal just when the canonical forms of what they were read from
are. -/
structure Canonizes (ds : Datatypes) (datatype : String) : Prop where
  valueType?_eq : ∀ s v, ds.decode datatype s = .ok v → ds.valueType? datatype = some v.type
  exists_canonical : ∀ s v, ds.decode datatype s = .ok v → ∃ c, ds.encode datatype v = .ok c ∧
    ds.canonical datatype s = .ok c ∧ ds.decode datatype c = .ok v ∧ ds.canonical datatype c = .ok c
  beq_iff_canonical_eq : ∀ s s' v v', ds.decode datatype s = .ok v → ds.decode datatype s' = .ok v' →
    ((v == v') = true ↔ ds.canonical datatype s = ds.canonical datatype s')

theorem canonizes_of_returns {conv : Converter} (hconv : ds.find? datatype = some conv) (hreturns : conv.Returns)
    (hdouble : conv.valueType ≠ .double) : ds.Canonizes datatype := by
  constructor
  · intro s v h
    obtain ⟨htype, -⟩ := exists_encode_of_decode hconv hreturns h
    rw [valueType?, hconv, Option.map_some, htype]
  · intro s v h
    obtain ⟨-, c, hc, hread⟩ := exists_encode_of_decode hconv hreturns h
    exact ⟨c, hc, (canonical_of_decode h).trans hc, hread, (canonical_of_decode hread).trans hc⟩
  · intro s s' v v' h h'
    obtain ⟨-, c, hc, hread⟩ := exists_encode_of_decode hconv hreturns h
    obtain ⟨htype', c', hc', hread'⟩ := exists_encode_of_decode hconv hreturns h'
    rw [canonical_of_decode h, canonical_of_decode h', Value.beq_iff_eq (htype' ▸ hdouble)]
    constructor
    · intro heq
      rw [heq]
    · intro heq
      -- one canonical form is read as one value
      rw [hc, hc'] at heq
      cases heq
      rw [hread] at hread'
      exact Except.ok.inj hread'

theorem canonizes_of_find?_eq_none (h : ds.find? datatype = none) : ds.Canonizes datatype := by
  have hrefused : ∀ s v, ds.decode datatype s ≠ .ok v := by
    intro s v hv
    obtain ⟨conv, hconv, -⟩ := decode_eq_ok_iff.1 hv
    rw [h] at hconv
    cases hconv
  exact ⟨fun s v hv => absurd hv (hrefused s v), fun s v hv => absurd hv (hrefused s v),
    fun s s' v v' hv => absurd hv (hrefused s v)⟩

theorem canonizes_builtin (hdouble : datatype ≠ Xsd.double) (hfloat : datatype ≠ Xsd.float) :
    builtin.Canonizes datatype := by
  cases hconv : builtin.find? datatype with
  | none => exact canonizes_of_find?_eq_none hconv
  | some conv =>
    obtain ⟨hreturns, htype⟩ := returns_of_find?_builtin hconv hdouble hfloat
    exact canonizes_of_returns hconv hreturns htype

end Datatypes

/-- **Everything that the built-in datatypes read can be written, in a canonical form**, floating-point numbers apart.
Hence an entity can be written that was bound, in whichever way, over a schema without them at any depth, whether or not
the schema is of the catalog. -/
theorem Binder.canonizes_builtin_and_exists_triples :
    (∀ datatype, datatype ≠ Xsd.double → datatype ≠ Xsd.float → Datatypes.builtin.Canonizes datatype) ∧
      ∀ c strict g e, (Binder.mk c .builtin strict).Yields g e →
        (∀ t, e.schema.Includes t → ∀ p ∈ t.properties,
          p.kind ≠ .datatype Xsd.double ∧ p.kind ≠ .datatype Xsd.float) → ∃ ts, e.triples .builtin = .ok ts := by
  constructor
  · intro datatype hdouble hfloat
    exact Datatypes.canonizes_builtin hdouble hfloat
  · intro c strict g e h hexact
    have hbinds := Binds.of_builtin (bindSubject_of_yields h) hexact
    exact hbinds.exists_triples

open Example in
/-- Two spellings of an instant have one canonical form, and the sensor that was bound with two spellings of a number can
be written. -/
theorem Binder.canonizes_builtin_and_exists_triples_sensor :
    Datatypes.builtin.decode Xsd.dateTime "2024-03-15T14:30:00.1234567-00:00" =
      .ok (.dateTime 1710513000123456 (some 0)) ∧
    Datatypes.builtin.decode Xsd.dateTime "2024-03-15T14:30:00.123456Z" = .ok (.dateTime 1710513000123456 (some 0)) ∧
    Datatypes.builtin.canonical Xsd.dateTime "2024-03-15T14:30:00.1234567-00:00" =
      Datatypes.builtin.canonical Xsd.dateTime "2024-03-15T14:30:00.123456Z" ∧
    ∃ c, Catalog.compile {} ∅ default sensorShapes = .ok c ∧ sensorSchema ∈ c.schemas ∧
      (Binder.mk c .builtin true).Yields readings sensor ∧ ∃ ts, sensor.triples .builtin = .ok ts := by
  obtain ⟨hcanonical, hwritten⟩ := canonizes_builtin_and_exists_triples
  have hread : Datatypes.builtin.decode Xsd.dateTime "2024-03-15T14:30:00.1234567-00:00" =
      .ok (.dateTime 1710513000123456 (some 0)) :=
    (Datatypes.decode_eq_ok_iff_of_find? Datatypes.find?_dateTime).2 (by decide +kernel)
  have hread' : Datatypes.builtin.decode Xsd.dateTime "2024-03-15T14:30:00.123456Z" =
      .ok (.dateTime 1710513000123456 (some 0)) :=
    (Datatypes.decode_eq_ok_iff_of_find? Datatypes.find?_dateTime).2 (by decide +kernel)
  have hdateTime := hcanonical Xsd.dateTime (by decide) (by decide)
  obtain ⟨c, hc, hschemas⟩ := compile_sensorShapes
  have hs : sensorSchema ∈ c.schemas := by
    rw [hschemas]
    exact List.mem_singleton_self _
  have hyields : (Binder.mk c .builtin true).Yields readings sensor := .type (bindType_readings hs true)
  exact ⟨hread, hread', (hdateTime.beq_iff_canonical_eq _ _ _ _ hread hread').1 (by decide), c, hc, hs, hyields,
    hwritten c true readings sensor hyields fun t ht p hp => sensorSchema_exact ht hp⟩

end ShapeBinding
