/-
How the Java views write the names of types: which declarations around a place
keep a qualified name from being shortened there.
-/
import TableScribe.Java.Views
import TableScribe.Proofs.Render.Needs

namespace TableScribe.Java

/-- A name is taken at a place: the file around it declares the name at its top
level, or the nearest class, the nearest interface or the nearest enum around
it goes by the name. -/
def takes (above : List Model) (simple : String) : Bool :=
  (above.find? fun model => model.kind = .file).any (fun file => declaresAtTop simple file.node) ||
    Kind.declarations.any fun kind =>
      (above.find? fun model => model.kind = kind).any fun owner => owner.name? == some simple

/-- A name as it is written inside given models. -/
def printedName (above : List Model) (name : String) : String :=
  if takes above (simpleName name) then name else simpleName name

/-- A model that is neither a file nor a declaration takes no name. -/
theorem takes_cons {model : Model} (hfile : model.kind ≠ .file)
    (hdeclaration : model.kind ∉ Kind.declarations) (above : List Model) :
    takes (model :: above) = takes above := by
  simp only [Kind.declarations, List.mem_cons, List.not_mem_nil, or_false, not_or] at hdeclaration
  obtain ⟨hclass, hinterface, henum⟩ := hdeclaration
  funext simple
  simp [takes, Kind.declarations, hfile, hclass, hinterface, henum]

theorem printedName_cons {model : Model} (hfile : model.kind ≠ .file)
    (hdeclaration : model.kind ∉ Kind.declarations) (above : List Model) :
    printedName (model :: above) = printedName above := by
  funext name
  rw [printedName, takes_cons hfile hdeclaration, printedName]

section

variable {α : Type} {stack : List Model} {model : Model} {condition : Prop} {parts : List Part}

theorem visibleName_bind_eq (name : String) (next : String → ViewM α) :
    visibleName name >>= next =
      match Text.splitLast '.' name.toList with
      | none => next name
      | some (_, last) => isShadowed (String.ofList last) >>= fun shadowed =>
          next (if shadowed then name else String.ofList last) := by
  unfold visibleName
  cases Text.splitLast '.' name.toList with
  | none => exact pure_bind name next
  | some pieces =>
      simp only [bind_assoc]
      congr 1
      funext shadowed
      cases shadowed <;> simp

/-- A view goes on with the name as it is written where it stands. -/
theorem needs_visibleName_bind {name : String} {next : String → ViewM α}
    (hnext : (next (printedName stack name)).Needs (answersIn stack) model condition parts) :
    (visibleName name >>= next).Needs (answersIn stack) model condition parts := by
  rw [visibleName_bind_eq]
  unfold printedName simpleName at hnext
  cases hsplit : Text.splitLast '.' name.toList with
  | none => simpa [hsplit] using hnext
  | some pieces =>
      simp only [hsplit] at hnext
      exact ⟨hnext.requests, hnext.succeeds⟩

theorem eval_visibleName (reply : Call → Rendered) (name : String) :
    (visibleName name).eval (answersIn stack) reply = .ok (printedName stack name) := by
  rw [← bind_pure (visibleName name), visibleName_bind_eq]
  unfold printedName simpleName
  cases Text.splitLast '.' name.toList with
  | none => simp
  | some pieces => rfl

end

end TableScribe.Java
