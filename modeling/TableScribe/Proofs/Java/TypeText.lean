/-
The text of a type reference as a function of the type.  What is being rendered around it
matters only by the names that are taken there.
-/
import TableScribe.Proofs.Java.Spelling
import TableScribe.Proofs.Model.TypeTree

namespace TableScribe

namespace TypeRef

mutual

/-- The text of a type with the names in it written in a given way. -/
def written (write : String → String) : TypeRef → String
  | ⟨name, generics, dims⟩ =>
    Java.typeText ⟨name, generics, dims⟩ (write name) (writtenAll write generics)

/-- The texts of types, in order. -/
def writtenAll (write : String → String) : List TypeRef → List String
  | [] => []
  | type :: rest => type.written write :: writtenAll write rest

end

variable {write other : String → String}

theorem writtenAll_eq_map (types : List TypeRef) :
    writtenAll write types = types.map (written write) := by
  induction types with
  | nil => rfl
  | cons type rest ih => rw [writtenAll, ih, List.map_cons]

theorem written_eq (type : TypeRef) :
    type.written write =
      Java.typeText type (write type.name) (type.generics.map (written write)) := by
  cases type with
  | mk name generics dims => rw [written, writtenAll_eq_map]

/-- Only the names that a type refers to matter to its text. -/
theorem written_congr {type : TypeRef}
    (hsame : ∀ inner ∈ type.referenced, write inner.name = other inner.name) :
    type.written write = type.written other := by
  induction type with
  | mk name generics dims ih =>
      obtain ⟨hname, harguments⟩ := forall_mem_referenced_iff.mp hsame
      have hgenerics : generics.map (written write) = generics.map (written other) :=
        List.map_congr_left fun argument hargument =>
          ih argument hargument (harguments argument hargument)
      rw [written_eq, written_eq, hgenerics, hname]

end TypeRef

namespace Java

variable {above : List Model}

/-- The models of some types, one by one. -/
theorem forall₂_of_map_node_eq {models : List Model} {types : List TypeRef}
    (hnodes : models.map Model.node = types.map .typeRef) :
    List.Forall₂ (fun model type => model.node = .typeRef type) models types := by
  have hsame : List.Forall₂ Eq (models.map Model.node) (types.map .typeRef) := by
    rw [hnodes, List.forall₂_eq_eq_eq]
  rwa [List.forall₂_map_left_iff, List.forall₂_map_right_iff] at hsame

theorem exists_model_of_mem {models : List Model} {types : List TypeRef}
    (hnodes : models.map Model.node = types.map .typeRef) {type : TypeRef} (htype : type ∈ types) :
    ∃ model ∈ models, model.node = .typeRef type := by
  have hmem := List.mem_map_of_mem (f := Node.typeRef) htype
  rw [← hnodes] at hmem
  exact List.mem_map.mp hmem

theorem map_node_generics {model : Model} {type : TypeRef} (hnode : model.node = .typeRef type) :
    (model.children .generics).map Model.node = type.generics.map .typeRef := by
  rw [Model.map_node_children, hnode, Node.children]

theorem printedName_typeRef {model : Model} {type : TypeRef} (hnode : model.node = .typeRef type)
    (above : List Model) : printedName (model :: above) = printedName above := by
  have hkind : model.kind = .typeRef := congrArg Node.kind hnode
  exact printedName_cons (by simp [hkind]) (by simp [hkind, Kind.declarations]) above

/-- The texts of types are theirs one by one. -/
theorem mapM_text_typeRefs {models : List Model} {types : List TypeRef} {write : String → String}
    (hnodes : models.map Model.node = types.map .typeRef)
    (htext : ∀ type ∈ types, ∀ model : Model, model.node = .typeRef type →
      Registry.java.text above model = .ok (type.written write)) :
    models.mapM (Registry.java.text above) = .ok (types.map (TypeRef.written write)) := by
  have hpairs := forall₂_of_map_node_eq hnodes
  clear hnodes
  rw [mapM_eq_ok_iff, List.forall₂_map_right_iff]
  induction hpairs with
  | nil => exact .nil
  | cons hnode _ ih =>
      obtain ⟨hhead, hrest⟩ := List.forall_mem_cons.mp htext
      exact .cons (hhead _ hnode) (ih hrest)

/-- A type in which every type has a name is written with the names as the place asks
for. -/
theorem text_eq_written {model : Model} {type : TypeRef} (hnode : model.node = .typeRef type)
    (hnamed : ∀ inner ∈ type.referenced, inner.name ≠ "") :
    Registry.java.text above model = .ok (type.written (printedName above)) := by
  induction type generalizing above model with
  | mk name generics dims ih =>
      obtain ⟨hname, harguments⟩ := TypeRef.forall_mem_referenced_iff.mp hnamed
      have htexts : (model.children .generics).mapM (Registry.java.text (model :: above)) =
          .ok (generics.map (TypeRef.written (printedName above))) := by
        refine mapM_text_typeRefs (map_node_generics hnode) ?_
        intro argument hargument child hchild
        rw [ih argument hargument hchild (harguments argument hargument),
          printedName_typeRef hnode]
      rw [text_typeRef hnode hname, spelling, TypeRef.written_eq]
      simp only [hnode, htexts]
      rfl

/-- A type that has a text has a name, and so have all types in it. -/
theorem named_of_text {model : Model} {type : TypeRef} (hnode : model.node = .typeRef type)
    (htext : ∃ text, Registry.java.text above model = .ok text) :
    ∀ inner ∈ type.referenced, inner.name ≠ "" := by
  induction type generalizing above model with
  | mk name generics dims ih =>
      obtain ⟨hsound, hchildren⟩ := (exists_text_iff above model).mp htext
      rw [TypeRef.forall_mem_referenced_iff]
      refine ⟨by simpa [Sound, hnode] using hsound, fun argument hargument => ?_⟩
      obtain ⟨child, hchild, hbelow⟩ := exists_model_of_mem (map_node_generics hnode) hargument
      have hwrites := @writes_of_ne .generics nofun nofun above model
      exact ih argument hargument hbelow (hchildren .generics hwrites child hchild)

end Java

end TableScribe
