import ShapeBinding.Compile.Error
import ShapeBinding.Schema
/-!
# Catalogs

A catalog holds the schemas that are known, in the order in which they were registered, with the namespaces that their
qualified names come from.  No two schemas have one name or one target type, by the type: so each look-up finds the one
schema there is.  Registering a schema whose name or target is taken is refused, the name being looked at first.
-/
namespace ShapeBinding

theorem nodup_map_append {α β : Type} {f : α → β} {as : List α} {a : α} (h : (as.map f).Nodup)
    (ha : f a ∉ as.map f) : ((as ++ [a]).map f).Nodup := by
  rw [List.map_append, List.nodup_append]
  refine ⟨h, List.pairwise_singleton _ _, fun x hx y hy hxy => ha ?_⟩
  rwa [← List.mem_singleton.1 hy, ← hxy]

structure Catalog where
  schemas : List Schema
  namespaces : Namespaces
  names_nodup : (schemas.map (·.name)).Nodup
  targets_nodup : (schemas.map (·.targetType)).Nodup
  deriving DecidableEq

namespace Catalog

def empty (namespaces : Namespaces) : Catalog := ⟨[], namespaces, List.nodup_nil, List.nodup_nil⟩

instance : Inhabited Catalog := ⟨empty ∅⟩

def size (c : Catalog) : Nat := c.schemas.length

def isEmpty (c : Catalog) : Bool := c.schemas.isEmpty

/-! ## Look-up -/

def byName? (c : Catalog) (name : String) : Option Schema := c.schemas.find? (·.name = name)

def byTarget? (c : Catalog) (target : String) : Option Schema := c.schemas.find? (·.targetType = target)

theorem byName?_eq_none_iff {c : Catalog} {name : String} :
    c.byName? name = none ↔ name ∉ c.schemas.map (·.name) := by
  simp [byName?, List.find?_eq_none]

theorem byTarget?_eq_none_iff {c : Catalog} {target : String} :
    c.byTarget? target = none ↔ target ∉ c.schemas.map (·.targetType) := by
  simp [byTarget?, List.find?_eq_none]

/-! ## Registration -/

def register (c : Catalog) (s : Schema) : Except CompileError Catalog :=
  match hn : c.byName? s.name, ht : c.byTarget? s.targetType with
  | some _, _ => .error (.duplicateSchema s.name)
  | none, some existing => .error (.duplicateTarget s.targetType existing.name s.name)
  | none, none => .ok {
      schemas := c.schemas ++ [s]
      namespaces := c.namespaces
      names_nodup := nodup_map_append c.names_nodup (byName?_eq_none_iff.1 hn)
      targets_nodup := nodup_map_append c.targets_nodup (byTarget?_eq_none_iff.1 ht) }

/-- **What an accepted registration checked and did**: name and target were free, and the schema stands at the end. -/
theorem register_eq_ok_iff {c c' : Catalog} {s : Schema} :
    c.register s = .ok c' ↔ c.byName? s.name = none ∧ c.byTarget? s.targetType = none ∧
      c'.schemas = c.schemas ++ [s] ∧ c'.namespaces = c.namespaces := by
  unfold register
  obtain ⟨schemas', namespaces', _, _⟩ := c'
  split
  · rename_i hn
    simp [hn]
  · rename_i hn ht
    simp [hn, ht]
  · rename_i hn ht
    simp [hn, ht, eq_comm]

end Catalog
end ShapeBinding
