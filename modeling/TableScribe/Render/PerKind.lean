/-
One entry per node kind.
-/
import TableScribe.Model.Kind

namespace TableScribe

/-- A total table with one entry per kind. -/
structure PerKind (α : Type) where
  slots : Vector α 12

namespace PerKind

variable {α : Type}

def fill (entry : α) : PerKind α := ⟨Vector.replicate 12 entry⟩

def get (table : PerKind α) (kind : Kind) : α :=
  table.slots[kind.index]

def set (table : PerKind α) (kind : Kind) (entry : α) : PerKind α :=
  ⟨table.slots.set kind.index entry⟩

@[simp] theorem get_fill (entry : α) (kind : Kind) : (fill entry).get kind = entry := by
  simp [fill, get]

theorem get_set (table : PerKind α) (kind other : Kind) (entry : α) :
    (table.set kind entry).get other = if kind = other then entry else table.get other := by
  by_cases hkind : kind = other
  · subst hkind
    simp [set, get]
  · have hindex : kind.index.val ≠ other.index.val := fun hval =>
      hkind (Kind.index_injective (Fin.ext hval))
    simp [set, get, hkind, hindex]

@[simp] theorem set_set (table : PerKind α) (kind : Kind) (first second : α) :
    (table.set kind first).set kind second = table.set kind second := by
  simp [set]

@[simp] theorem set_get (table : PerKind α) (kind : Kind) :
    table.set kind (table.get kind) = table := by
  simp [set, get]

end PerKind

end TableScribe
