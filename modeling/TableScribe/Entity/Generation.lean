/-
Generating the entities of a project: one file per enabled table outside
system schemas.
-/
import TableScribe.Document.Traversal
import TableScribe.Entity.Entity
import TableScribe.Java.Views
import TableScribe.Storage.GeneratedFiles

namespace TableScribe

/-- Settings and the views to render with. -/
structure EntityGenerator where
  settings : EntitySettings
  registry : Registry

namespace EntityGenerator

def name : String := "entity"

/-- The package that the packages of all schemas start with. -/
def basePackage (settings : EntitySettings) (project : Project) : String :=
  match settings.package with
  | some package => package
  | none => project.package.getD (Unicode.lowerText (Java.fieldName project.name))

def dialectName (settings : EntitySettings) (path : DocumentPath) : Except SchemaError String :=
  match path.ancestor? .dbms with
  | some (.dbms dbms) => .ok (settings.dialect.getD dbms.typeName)
  | _ => .error (.noParent path.document.describe)

/-- Whether a table lies in a system schema. -/
def isExcluded (naming : NamingConvention) (path : DocumentPath) : Bool :=
  (path.ancestor? .schema).any fun schema => naming.isExcluded schema.name

/-- The entity of a table; none for a table of a system schema. -/
def entity? (settings : EntitySettings) (base : String) (path : DocumentPath) :
    Except SchemaError (Option File) := do
  let dialect ← dialectName settings path
  let naming ← NamingConvention.ofDialect dialect
  if isExcluded naming path then
    return none
  else
    let file ← Entity.file settings.accessors path base naming
    return some file

def entities (settings : EntitySettings) (project : Project) : Except SchemaError (List File) := do
  let found ← project.enabledTables.mapM (entity? settings (basePackage settings project))
  return found.filterMap id

/-- The file to be written for a file of nodes, from what rendering it comes
to. -/
def renderedFile (file : File) :
    Option (Rendered × Generator) → Except CodegenError (GeneratedFile × Generator)
  | none => .error .endless
  | some (.error error, _) => .error (.render error)
  | some (.ok content, after) => .ok (⟨file.path "java", content⟩, after)

/-- Renders files one after the other with the same generator. -/
def renderFiles : Generator → List File → Except CodegenError GeneratedFiles
  | _, [] => .ok []
  | generator, file :: rest => do
    let (generated, after) ← renderedFile file (generator.render (Model.root 0 (.file file)))
    let others ← renderFiles after rest
    return generated :: others

/-- Generates the files of a project.  All entities are formed before the
first one is rendered. -/
def generate (generator : EntityGenerator) (project : Project) :
    Except CodegenError GeneratedFiles := do
  let files ← (entities generator.settings project).mapError CodegenError.schema
  renderFiles (Generator.new generator.registry) files

/-- The entity generator with the Java views and no options set. -/
def java : EntityGenerator := ⟨.initial, .java⟩

end EntityGenerator

end TableScribe
