/-
The settings of the entity generator and the ways a generation fails.
-/
import TableScribe.Document.Naming
import TableScribe.Render.Registry

namespace TableScribe

inductive CodegenError
  | registry (cause : RegistryError)
  | render (cause : RenderError)
  | schema (cause : SchemaError)
  /-- A setting is unknown or has a value it cannot have. -/
  | invalidOption (key reason : String)
  /-- A view renders without end. -/
  | endless

def CodegenError.message : CodegenError → String
  | registry cause => cause.message
  | render cause => cause.message
  | schema cause => "schema error: " ++ cause.message
  | invalidOption key reason => "invalid option '" ++ key ++ "': " ++ reason
  | endless => "rendering does not end"

structure EntitySettings where
  /-- The base package; the project's package if there is none. -/
  package : Option String
  /-- The dialect; that of each database system if there is none. -/
  dialect : Option String
  /-- Whether every column gets a getter and a setter. -/
  accessors : Bool
deriving DecidableEq, Repr

namespace EntitySettings

/-- The settings in the absence of options. -/
def initial : EntitySettings := ⟨none, none, true⟩

def set (settings : EntitySettings) (key value : String) : Except CodegenError EntitySettings :=
  if key = "package" then
    if value.isEmpty then .error (.invalidOption key "package must not be empty")
    else .ok { settings with package := some value }
  else if key = "dialect" then
    match NamingConvention.ofDialect value with
    | .ok _ => .ok { settings with dialect := some value }
    | .error error => .error (.invalidOption key error.message)
  else if key = "accessors" then
    if value = "true" then .ok { settings with accessors := true }
    else if value = "false" then .ok { settings with accessors := false }
    else .error (.invalidOption key ("expected true or false, got '" ++ value ++ "'"))
  else
    .error (.invalidOption key "unknown option, expected one of: package, dialect, accessors")

/-- Sets options in order, up to the first that is rejected. -/
def setAll (settings : EntitySettings) (options : List (String × String)) :
    Except CodegenError EntitySettings :=
  options.foldlM (fun settings option => settings.set option.1 option.2) settings

end EntitySettings

end TableScribe
