/-
The entity of an enabled table, seen from the table itself.  It takes the
documents above the table, but nothing else of the project, and it is formed
unless the dialect is unknown or the primary key refers to a missing column.
-/
import TableScribe.Entity.Generation
import TableScribe.Proofs.Document.PrimaryKey
import TableScribe.Proofs.Document.TableSite

namespace TableScribe

theorem NamingConvention.eq_of_ofDialect_eq_error {name : String} {error : SchemaError}
    (herror : ofDialect name = .error error) : error = .unknownDialect name := by
  simp only [ofDialect] at herror
  split_ifs at herror
  exact (Except.error.inj herror).symm

namespace TableSite

section

variable (settings : EntitySettings) (site : TableSite)

/-- The name of the dialect of a table: that of the settings, or else that of
the database system. -/
def dialect : String := settings.dialect.getD site.dbms.typeName

/-- The naming convention of a table, if its dialect is known. -/
def naming? : Option NamingConvention :=
  (NamingConvention.ofDialect (site.dialect settings)).toOption

def isExcluded : Bool :=
  (site.naming? settings).any fun naming => naming.isExcluded site.schema.name

/-- Why a table has no entity although its schema may not be excluded. -/
inductive Fault : SchemaError → Prop
  | dialect (hnaming : site.naming? settings = none) :
      Fault (.unknownDialect (site.dialect settings))
  | key {naming : NamingConvention} {key : KeyColumn}
      (hnaming : site.naming? settings = some naming)
      (hincluded : naming.isExcluded site.schema.name = false)
      (hkey : site.table.danglingKey? = some key) :
      Fault (.unknownColumn site.table.name key.name)

/-- The tables of a list for which there are files to be generated. -/
def included (sites : List TableSite) : List TableSite :=
  sites.filter fun site => !site.isExcluded settings

theorem mem_included_iff {sites : List TableSite} :
    site ∈ included settings sites ↔ site ∈ sites ∧ site.isExcluded settings = false := by
  simp [included]

def frame (key : List Column) : Entity.Frame :=
  ⟨Entity.className site.table, key, settings.accessors⟩

def fullName : String := site.schema.name ++ "." ++ site.table.name

def columns : List Column := site.table.columns.filter Column.enabled

def head (naming : NamingConvention) (key : List Column) : ClassHead :=
  Entity.classHead (site.frame settings key) site.columns site.fullName
    (naming.encloseField site.table.name)

def entity (base : String) (naming : NamingConvention) (key : List Column) : File where
  name := Entity.className site.table
  package := some (Entity.packageName base (.schema site.schema))
  javadoc := some (.ofText "Generated by ormgen. Do not edit.")
  imports := Entity.importLines (site.frame settings key) site.columns
  declarations := [.ofClass (site.head settings naming key) []]

end

/-- The entity of a table, taken from the table and the documents above it. -/
def entity? (settings : EntitySettings) (base : String) (site : TableSite) :
    Except SchemaError (Option File) := do
  let naming ← NamingConvention.ofDialect (site.dialect settings)
  if naming.isExcluded site.schema.name then
    return none
  else
    let key ← site.table.primaryKey
    return some (site.entity settings base naming key)

section

variable {settings : EntitySettings} {site : TableSite} {base : String}

/-- The entity of a table is known from where the table stands. -/
theorem entity?_path (project : Project) :
    EntityGenerator.entity? settings base (site.path project) = site.entity? settings base := by
  have hfile (naming : NamingConvention) :
      Entity.file settings.accessors (site.path project) base naming = do
        let key ← site.table.primaryKey
        return site.entity settings base naming key := rfl
  change (NamingConvention.ofDialect (site.dialect settings) >>= fun naming =>
    if naming.isExcluded site.schema.name then pure none
    else do
      let file ← Entity.file settings.accessors (site.path project) base naming
      return some file) = _
  simp only [hfile, bind_assoc, pure_bind]
  rfl

theorem naming?_eq_some_iff {naming : NamingConvention} :
    site.naming? settings = some naming ↔
      NamingConvention.ofDialect (site.dialect settings) = .ok naming := by
  unfold naming?
  cases NamingConvention.ofDialect (site.dialect settings) <;> simp [Except.toOption]

theorem entity?_of_naming?_eq_some {naming : NamingConvention}
    (hnaming : site.naming? settings = some naming) :
    site.entity? settings base =
      if naming.isExcluded site.schema.name then pure none
      else do
        let key ← site.table.primaryKey
        return some (site.entity settings base naming key) := by
  unfold entity?
  rw [naming?_eq_some_iff.mp hnaming]
  rfl

theorem ofDialect_of_naming?_eq_none (hnaming : site.naming? settings = none) :
    NamingConvention.ofDialect (site.dialect settings) =
      .error (.unknownDialect (site.dialect settings)) := by
  unfold naming? at hnaming
  cases hdialect : NamingConvention.ofDialect (site.dialect settings) with
  | error error => rw [NamingConvention.eq_of_ofDialect_eq_error hdialect]
  | ok naming => simp [hdialect, Except.toOption] at hnaming

theorem entity?_of_naming?_eq_none (hnaming : site.naming? settings = none) :
    site.entity? settings base = .error (.unknownDialect (site.dialect settings)) := by
  unfold entity?
  rw [ofDialect_of_naming?_eq_none hnaming]
  rfl

theorem isExcluded_of_naming?_eq_some {naming : NamingConvention}
    (hnaming : site.naming? settings = some naming) :
    site.isExcluded settings = naming.isExcluded site.schema.name := by
  simp [isExcluded, hnaming]

theorem entity?_of_fault {fault : SchemaError} (hfault : site.Fault settings fault) :
    site.entity? settings base = .error fault := by
  cases hfault with
  | dialect hnaming => exact entity?_of_naming?_eq_none hnaming
  | key hnaming hincluded hkey =>
      have herror := Table.primaryKey_eq_error_iff.mpr ⟨_, hkey, rfl⟩
      rw [entity?_of_naming?_eq_some hnaming, hincluded, herror]
      rfl

/-- The ways it can go with an entity: the table has a fault, its schema is
excluded, or the entity is that of the naming convention and the primary key. -/
theorem entity?_cases (settings : EntitySettings) (site : TableSite) (base : String) :
    (∃ fault, site.Fault settings fault ∧ site.entity? settings base = .error fault) ∨
    (site.isExcluded settings = true ∧ site.entity? settings base = .ok none) ∨
    ∃ naming key, site.naming? settings = some naming ∧ site.isExcluded settings = false ∧
      site.table.primaryKey = .ok key ∧
      site.entity? settings base = .ok (some (site.entity settings base naming key)) := by
  cases hnaming : site.naming? settings with
  | none => exact Or.inl ⟨_, .dialect hnaming, entity?_of_naming?_eq_none hnaming⟩
  | some naming =>
      have hentity := @entity?_of_naming?_eq_some settings site base naming hnaming
      have hexcluded := isExcluded_of_naming?_eq_some hnaming
      cases hincluded : naming.isExcluded site.schema.name with
      | true =>
          rw [hincluded] at hentity hexcluded
          exact Or.inr (Or.inl ⟨hexcluded, hentity⟩)
      | false =>
          rw [hincluded] at hentity hexcluded
          cases hkey : site.table.primaryKey with
          | error error =>
              obtain ⟨key, hdangling, -⟩ := Table.primaryKey_eq_error_iff.mp hkey
              have hfault := Fault.key hnaming hincluded hdangling
              exact Or.inl ⟨_, hfault, entity?_of_fault hfault⟩
          | ok key =>
              rw [hkey] at hentity
              exact Or.inr (Or.inr ⟨naming, key, rfl, hexcluded, rfl, hentity⟩)

/-- The entity of a table fails exactly if the table has a fault, and with that
fault. -/
theorem entity?_eq_error_iff {error : SchemaError} :
    site.entity? settings base = .error error ↔ site.Fault settings error := by
  constructor
  · intro herror
    rcases entity?_cases settings site base with
      ⟨fault, hfault, hentity⟩ | ⟨-, hentity⟩ | ⟨naming, key, -, -, -, hentity⟩
    · exact Except.error.inj (herror.symm.trans hentity) ▸ hfault
    · exact nomatch herror.symm.trans hentity
    · exact nomatch herror.symm.trans hentity
  · exact entity?_of_fault

/-- A table without a fault has an entity, or is left out. -/
theorem exists_entity?_eq_ok_iff :
    (∃ entity, site.entity? settings base = .ok entity) ↔ ∀ fault, ¬ site.Fault settings fault := by
  cases hentity : site.entity? settings base with
  | error fault =>
      have hfault := entity?_eq_error_iff.mp hentity
      simpa using ⟨fault, hfault⟩
  | ok entity =>
      simp only [Except.ok.injEq, exists_eq', true_iff]
      intro fault hfault
      exact nomatch hentity.symm.trans (entity?_of_fault hfault)

theorem exists_entity?_of_included (hsound : ∀ fault, ¬ site.Fault settings fault)
    (hincluded : site.isExcluded settings = false) (base : String) :
    ∃ naming key, site.naming? settings = some naming ∧ site.table.primaryKey = .ok key ∧
      site.entity? settings base = .ok (some (site.entity settings base naming key)) := by
  rcases entity?_cases settings site base with
    ⟨fault, hfault, -⟩ | ⟨hexcluded, -⟩ | ⟨naming, key, hnaming, -, hkey, hentity⟩
  · exact absurd hfault (hsound fault)
  · simp [hincluded] at hexcluded
  · exact ⟨naming, key, hnaming, hkey, hentity⟩

theorem isExcluded_of_entity?_eq_none (hnone : site.entity? settings base = .ok none) :
    site.isExcluded settings = true := by
  rcases entity?_cases settings site base with
    ⟨fault, -, hentity⟩ | ⟨hexcluded, -⟩ | ⟨naming, key, -, -, -, hentity⟩
  · exact nomatch hnone.symm.trans hentity
  · exact hexcluded
  · exact nomatch hnone.symm.trans hentity

theorem exists_of_entity?_eq_some {file : File}
    (hsome : site.entity? settings base = .ok (some file)) :
    site.isExcluded settings = false ∧ ∃ naming key, site.naming? settings = some naming ∧
      site.table.primaryKey = .ok key ∧ file = site.entity settings base naming key := by
  rcases entity?_cases settings site base with
    ⟨fault, -, hentity⟩ | ⟨-, hentity⟩ | ⟨naming, key, hnaming, hincluded, hkey, hentity⟩
  · exact nomatch hsome.symm.trans hentity
  · exact nomatch hsome.symm.trans hentity
  · have hfile := Option.some.inj (Except.ok.inj (hsome.symm.trans hentity))
    exact ⟨hincluded, naming, key, hnaming, hkey, hfile⟩

end

end TableSite

end TableScribe
