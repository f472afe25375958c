import Mathlib.Data.List.Forall2
import FileSieve.Proofs.Text.ByteOrder
import FileSieve.Registry

/-!
# The table of a registry

A registry is a map from names to factories: what `find?` gives is changed by registering and by
removing at the one name only.  The registry lists its operands by the bytes of their names, each
made by the factory of its name.
-/

namespace FileSieve.Registry

variable {α : Type}

lemma find?_register (r : Registry α) (name : String) (factory : Factory α) (other : String) :
    (r.register name factory).find? other =
      if name = other then some factory else r.find? other := by
  simp [find?, register, Std.TreeMap.getElem?_insert]

lemma find?_remove (r : Registry α) (name other : String) :
    (r.remove name).find? other = if name = other then none else r.find? other := by
  simp [find?, remove, Std.TreeMap.getElem?_erase]

lemma contains_iff {r : Registry α} {name : String} :
    r.contains name = true ↔ ∃ factory, r.find? name = some factory := by
  rw [contains, Option.isSome_iff_exists]

/-! ## Listing -/

lemma mem_names_iff {r : Registry α} {name : String} :
    name ∈ r.names ↔ ∃ factory, r.find? name = some factory := by
  rw [names, Std.TreeMap.mem_keys, Std.TreeMap.mem_iff_isSome_getElem?, Option.isSome_iff_exists]
  rfl

lemma pairwise_bytes_names (r : Registry α) :
    r.names.Pairwise fun a b => Text.bytes a < Text.bytes b :=
  r.factories.ordered_keys.imp fun h => Text.bytes_lt (compare_lt_iff_lt.mp h)

lemma forall₂_names_list (r : Registry α) :
    List.Forall₂ (fun name a => ∃ factory, r.find? name = some factory ∧ a = factory name "")
      r.names r.list := by
  rw [names, list, ← Std.TreeMap.map_fst_toList_eq_keys, List.forall₂_map_left_iff,
    List.forall₂_map_right_iff, List.forall₂_same]
  intro entry hentry
  exact ⟨entry.2, Std.TreeMap.mem_toList_iff_getElem?_eq_some.mp hentry, rfl⟩

end FileSieve.Registry
