import ShapeBinding.Catalog
/-!
# Look-ups of a catalog

Names and target types are keys of the schemas in a catalog, so a look-up finds a schema just when the schema is there
and has the key (`byName?_eq_some_iff`, `byTarget?_eq_some_iff`).
-/
namespace ShapeBinding

/-- **In a list without a repeated key, a search by the key finds the one element that has it.** -/
theorem find?_key_eq_some_iff {α κ : Type} [DecidableEq κ] {key : α → κ} {k : κ} {a : α} : ∀ {as : List α},
    (as.map key).Nodup → (as.find? (key · = k) = some a ↔ a ∈ as ∧ key a = k)
  | [], _ => by simp
  | b :: as, h => by
    rw [List.map_cons, List.nodup_cons] at h
    have ih := find?_key_eq_some_iff h.2 (k := k) (a := a)
    by_cases hb : key b = k
    · rw [List.find?_cons_of_pos (by simpa using hb), Option.some.injEq, List.mem_cons]
      constructor
      · rintro rfl
        exact ⟨.inl rfl, hb⟩
      · rintro ⟨rfl | ha, hk⟩
        · rfl
        · exact absurd (List.mem_map.2 ⟨a, ha, hk.trans hb.symm⟩) h.1
    · rw [List.find?_cons_of_neg (by simpa using hb), ih, List.mem_cons]
      constructor
      · rintro ⟨ha, hk⟩
        exact ⟨.inr ha, hk⟩
      · rintro ⟨rfl | ha, hk⟩
        · exact absurd hk hb
        · exact ⟨ha, hk⟩

theorem notMem_map_of_nodup_map_append {α κ : Type} {key : α → κ} {before after : List α} {a : α}
    (h : ((before ++ a :: after).map key).Nodup) : key a ∉ before.map key := fun hmem => by
  rw [List.map_append, List.map_cons] at h
  exact (List.nodup_append.1 h).2.2 _ hmem _ (List.mem_cons_self ..) rfl

namespace Catalog

theorem byName?_eq_some_iff {c : Catalog} {name : String} {s : Schema} :
    c.byName? name = some s ↔ s ∈ c.schemas ∧ s.name = name :=
  find?_key_eq_some_iff c.names_nodup

theorem byTarget?_eq_some_iff {c : Catalog} {target : String} {s : Schema} :
    c.byTarget? target = some s ↔ s ∈ c.schemas ∧ s.targetType = target :=
  find?_key_eq_some_iff c.targets_nodup

/-- **A schema is accepted just when its name and its target type are new.** -/
theorem exists_register_iff {c : Catalog} {s : Schema} : (∃ c', c.register s = .ok c') ↔
    s.name ∉ c.schemas.map (·.name) ∧ s.targetType ∉ c.schemas.map (·.targetType) := by
  rw [← byName?_eq_none_iff, ← byTarget?_eq_none_iff]
  constructor
  · rintro ⟨c', h⟩
    obtain ⟨hn, ht, -⟩ := register_eq_ok_iff.1 h
    exact ⟨hn, ht⟩
  · rintro ⟨hn, ht⟩
    unfold register
    split
    · rename_i h
      rw [hn] at h
      cases h
    · rename_i h
      rw [ht] at h
      cases h
    · exact ⟨_, rfl⟩

end Catalog
end ShapeBinding
