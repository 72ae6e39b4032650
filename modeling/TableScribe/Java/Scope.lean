/-
Which names are in scope.  A qualified name is shortened to its last segment
unless a declaration of the file, or one around the place, has that name.
-/
import TableScribe.Render.View

namespace TableScribe.Java

/-- The innermost model of a kind, if one is being rendered. -/
def innermost? (kind : Kind) : ViewM (Option Model) := ViewM.ask (.last kind)

def declaresAtTop (name : String) : Node → Bool
  | .file file => file.declarations.any fun declaration => declaration.name == name
  | _ => false

/-- Whether a name is taken where the current rendering stands. -/
def isShadowed (simple : String) : ViewM Bool := do
  let file ← innermost? .file
  let owners ← Kind.declarations.mapM innermost?
  let inFile := file.any fun model => declaresAtTop simple model.node
  let enclosing := owners.any fun owner => owner.any fun model => model.name? == some simple
  return inFile || enclosing

/-- A name as it is written: the last segment, or all of it if the last
segment is shadowed. -/
def visibleName (name : String) : ViewM String :=
  match Text.splitLast '.' name.toList with
  | none => return name
  | some (_, last) => do
    let simple := String.ofList last
    if ← isShadowed simple then
      return name
    else
      return simple

end TableScribe.Java
