/-
Type references as trees.  What holds of a type once it holds of its arguments holds
of all types, and a type refers to itself and to what its arguments refer to.
-/
import TableScribe.Model.TypeRef

namespace TableScribe.TypeRef

/-- Induction on the arguments of a type. -/
@[induction_eliminator]
theorem ofArguments {motive : TypeRef → Prop}
    (mk : ∀ name generics dims, (∀ argument ∈ generics, motive argument) →
      motive ⟨name, generics, dims⟩)
    (type : TypeRef) : motive type :=
  @TypeRef.rec motive (fun types => ∀ type ∈ types, motive type) mk (fun _ hnil => nomatch hnil)
    (fun _ _ hhead hrest => List.forall_mem_cons.mpr ⟨hhead, hrest⟩) type

theorem referencedAll_eq_flatMap (types : List TypeRef) :
    referencedAll types = types.flatMap referenced := by
  induction types with
  | nil => rfl
  | cons type rest ih => rw [referencedAll, ih, List.flatMap_cons]

theorem forall_mem_referencedAll_iff {types : List TypeRef} {p : TypeRef → Prop} :
    (∀ inner ∈ referencedAll types, p inner) ↔
      ∀ type ∈ types, ∀ inner ∈ type.referenced, p inner := by
  rw [referencedAll_eq_flatMap]
  exact List.forall_mem_flatMap

/-- What holds in the whole tree of a type holds of the type and in the trees of its
arguments. -/
theorem forall_mem_referenced_iff {type : TypeRef} {p : TypeRef → Prop} :
    (∀ inner ∈ type.referenced, p inner) ↔
      p type ∧ ∀ argument ∈ type.generics, ∀ inner ∈ argument.referenced, p inner := by
  cases type with
  | mk name generics dims =>
      rw [referenced, List.forall_mem_cons, forall_mem_referencedAll_iff]

/-- Every type in a tree is at its root or an argument of a type in the tree. -/
theorem forall_mem_referenced_iff_generics {type : TypeRef} {p : TypeRef → Prop} :
    (∀ inner ∈ type.referenced, p inner) ↔
      p type ∧ ∀ owner ∈ type.referenced, ∀ argument ∈ owner.generics, p argument := by
  induction type with
  | mk name generics dims ih =>
      rw [forall_mem_referenced_iff, forall_mem_referenced_iff, forall₂_congr ih]
      simp only [forall_and]

theorem forall_mem_referencedAll_iff_generics {types : List TypeRef} {p : TypeRef → Prop} :
    (∀ inner ∈ referencedAll types, p inner) ↔
      (∀ type ∈ types, p type) ∧
        ∀ owner ∈ referencedAll types, ∀ argument ∈ owner.generics, p argument := by
  rw [forall_mem_referencedAll_iff, forall_mem_referencedAll_iff,
    forall₂_congr fun type _ => forall_mem_referenced_iff_generics]
  simp only [forall_and]

end TableScribe.TypeRef
