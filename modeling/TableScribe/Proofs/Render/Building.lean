/-
What a builder yields.  Once every kind has a view, there is a registry, and it
has the view of each kind that was installed last.
-/
import Mathlib.Data.List.Basic
import TableScribe.Render.Registry

namespace TableScribe

theorem Kind.mem_all (kind : Kind) : kind ∈ all := by
  cases kind <;> decide

theorem Kind.getElem?_map_all {α : Type} (f : Kind → α) (kind : Kind) :
    (all.map f)[kind.index.val]? = some (f kind) := by
  cases kind <;> rfl

namespace RegistryBuilder

variable {builder : RegistryBuilder} {registry : Registry}

theorem length_present_iff :
    builder.present.length = Kind.all.length ↔ ∀ kind, (builder.views.get kind).isSome := by
  rw [present, List.filterMap_length_eq_length]
  exact ⟨fun hall kind => hall kind kind.mem_all, fun hall kind _ => hall kind⟩

/-- A registry is built exactly if every kind has a view. -/
theorem exists_build_iff :
    (∃ registry, builder.build = .ok registry) ↔ ∀ kind, (builder.views.get kind).isSome := by
  rw [← length_present_iff, build]
  split
  case isTrue hlength => simp [hlength]
  case isFalse hlength => simp [hlength]

/-- A registry has the views of its builder. -/
theorem get?_of_build (hbuild : builder.build = .ok registry) (kind : Kind) :
    registry.get? kind = builder.views.get kind := by
  have hall := exists_build_iff.mp ⟨registry, hbuild⟩
  have hpresent : builder.present =
      Kind.all.map fun kind => (builder.views.get kind).get (hall kind) :=
    List.filterMap_eq_map_iff_forall_eq_some.mpr fun kind _ => by simp
  rw [build, dif_pos (length_present_iff.mpr hall)] at hbuild
  obtain rfl := Except.ok.inj hbuild
  simp only [Registry.get?, hpresent, Kind.getElem?_map_all, Option.some_get]

end RegistryBuilder

end TableScribe
