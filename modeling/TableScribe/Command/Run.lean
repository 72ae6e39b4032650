/-
The commands: generating entities, checking a project, listing the kinds.
-/
import TableScribe.Command.Arguments
import TableScribe.Document.Reader
import TableScribe.Entity.Generation
import TableScribe.Storage.Disk

namespace TableScribe.Command

inductive Failure
  /-- The project is not loaded, or not all its names can be formed. -/
  | schema (cause : SchemaError)
  /-- The generation fails. -/
  | codegen (cause : CodegenError)
  /-- The output is not written. -/
  | output (cause : FileError)

def Failure.message : Failure → String
  | schema cause => cause.message
  | codegen cause => cause.message
  | output cause => cause.message

/-- What a command prints, and why it fails, if it does. -/
structure Outcome where
  printed : String
  failure : Option Failure

/-- Lines, each with its end. -/
def unlines (lines : List String) : String :=
  String.join (lines.map (· ++ "\n"))

def load {m : Type → Type} [Monad m] (disk : Disk m) (input : String) :
    m (Except SchemaError Project) := do
  match ← disk.read input with
  | .error error => return .error (.file error)
  | .ok bytes => return Project.ofBytes bytes

/-- The files of a project under some options, or why there are none. -/
def plan (options : List (String × String)) (project : Project) :
    Except CodegenError GeneratedFiles := do
  let settings ← EntitySettings.initial.setAll options
  EntityGenerator.generate { EntityGenerator.java with settings } project

def generatedLines (output : String) (files : GeneratedFiles) : List String :=
  ("Generated " ++ toString files.length ++ " files to " ++ output)
    :: files.map fun file => "  - " ++ file.path

def store {m : Type → Type} [Monad m] (disk : Disk m) (output : String) (files : GeneratedFiles) :
    ExceptT FileError m Unit := do
  disk.createDirectories output
  files.writeTo disk output

def generate {m : Type → Type} [Monad m] (disk : Disk m) (input output : String)
    (options : List (String × String)) : m Outcome := do
  match ← load disk input with
  | .error error => return ⟨"", some (.schema error)⟩
  | .ok project =>
    match plan options project with
    | .error error => return ⟨"", some (.codegen error)⟩
    | .ok files =>
      match ← (store disk output files).run with
      | .error error => return ⟨"", some (.output error)⟩
      | .ok () => return ⟨unlines (generatedLines output files), none⟩

def enabledColumns : Document → Nat
  | .table table => (table.columns.filter Column.enabled).length
  | _ => 0

/-- The line on a table: its full name, and the number of its columns or that
it is skipped.  A table without a dbms above it has none. -/
def tableLine (path : DocumentPath) : Except SchemaError (Option String) :=
  match path.ancestor? .dbms with
  | some (.dbms dbms) => do
    let naming ← NamingConvention.ofDialect dbms.typeName
    let fullName ← path.fullTableName
    if EntityGenerator.isExcluded naming path then
      return some ("    table " ++ fullName ++ " (system schema, skipped)")
    else
      return some ("    table " ++ fullName ++ " (" ++ toString (enabledColumns path.document)
        ++ " columns)")
  | _ => .ok none

/-- The lines on tables up to the first failure, and the failure. -/
def tableLines : List DocumentPath → List String × Option SchemaError
  | [] => ([], none)
  | path :: rest =>
    match tableLine path with
    | .error error => ([], some error)
    | .ok line =>
      let (lines, failure) := tableLines rest
      (line.toList ++ lines, failure)

def checkProject (input : String) (project : Project) : Outcome :=
  let tables := project.enabledTables
  let heading := [
    "✓ " ++ input ++ " is valid",
    "  project " ++ project.name ++ " (" ++ toString tables.length ++ " tables enabled)"]
  let (lines, failure) := tableLines tables
  ⟨unlines (heading ++ lines), failure.map .schema⟩

/-- Checks the project at a path and lists its enabled tables. -/
def check {m : Type → Type} [Monad m] (disk : Disk m) (input : String) : m Outcome := do
  match ← load disk input with
  | .error error => return ⟨"", some (.schema error)⟩
  | .ok project => return checkProject input project

def kindLine (builder : RegistryBuilder) (kind : Kind) : String :=
  "  " ++ kind.name ++ (if builder.isInstalled kind then " (java view)" else " (no view)")

def listKinds (builder : RegistryBuilder) : Outcome :=
  let lines := ["Model kinds:", ""] ++ Kind.all.map (kindLine builder)
  match builder.build with
  | .ok _ => ⟨unlines lines, none⟩
  | .error error => ⟨unlines lines, some (.codegen (.registry error))⟩

def run {m : Type → Type} [Monad m] (disk : Disk m) : Request → m Outcome
  | .generate input output options => generate disk input output options
  | .check input => check disk input
  | .kinds => return listKinds .java

def versionLine : String := "ormgen 0.1.0"

end TableScribe.Command
