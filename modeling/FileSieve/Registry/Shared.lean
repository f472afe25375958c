import FileSieve.Registry

/-!
# Shared registries

Several handles may share one registry: what is registered through one of them is seen through
all.  `Registries` holds the registries themselves; a `Handle` is the place of one, and a copy of
a handle is a handle on the same registry.  Expressions do not refer to a registry, so one that
has been parsed keeps its meaning whatever happens to the registry later.
-/

namespace FileSieve

/-- The place of a registry among `Registries`. -/
structure Handle where
  /-- The index of the registry. -/
  index : Nat
  deriving DecidableEq, Repr, Inhabited

/-- The registries in use, in the order in which they were made. -/
structure Registries (α : Type) where
  /-- The registries. -/
  tables : Array (Registry α) := #[]

namespace Registries

variable {α ρ : Type}

/-- The registry of a handle; a handle from elsewhere has an empty one. -/
def get (rs : Registries α) (h : Handle) : Registry α :=
  rs.tables[h.index]?.getD Registry.empty

/-- Adds a registry of its own, and gives its handle. -/
def create (rs : Registries α) (r : Registry α := Registry.empty) : Registries α × Handle :=
  (⟨rs.tables.push r⟩, ⟨rs.tables.size⟩)

/-- A second handle on the same registry. -/
def clone (_ : Registries α) (h : Handle) : Handle := h

/-- Registers a factory through a handle. -/
def register (rs : Registries α) (h : Handle) (name : String) (factory : Factory α) :
    Registries α :=
  ⟨rs.tables.modify h.index (·.register name factory)⟩

/-- Takes a name out through a handle, and says whether it was registered. -/
def remove (rs : Registries α) (h : Handle) (name : String) : Registries α × Bool :=
  (⟨rs.tables.modify h.index (·.remove name)⟩, (rs.get h).contains name)

end Registries

end FileSieve
