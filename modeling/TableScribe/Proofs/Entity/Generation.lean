/-
The files of a project, table by table.  An entity can always be rendered, and
rendering leaves nothing behind in the generator, so the file of a table is the
same whatever is generated before it.
-/
import Mathlib.Data.List.Forall2
import TableScribe.Proofs.Entity.ImportAgreement
import TableScribe.Proofs.Entity.TableEntity

namespace TableScribe

namespace Entity

/-- The generated file of a file of nodes, rendered on its own. -/
def print (file : File) : Except RenderError GeneratedFile :=
  (Registry.java.text [] (Model.root 0 (.file file))).map (GeneratedFile.mk (file.path "java"))

theorem print_eq_ok_iff {file : File} {generated : GeneratedFile} :
    print file = .ok generated ↔ generated.path = file.path "java" ∧
      (Generator.new .java).render (Model.root 0 (.file file)) =
        some (.ok generated.content, Generator.new .java) := by
  rw [Generator.render_new Java.java_descends, print]
  obtain ⟨path, content⟩ := generated
  cases Registry.java.text [] (Model.root 0 (.file file)) with
  | error error => simp [Except.map]
  | ok text => simp [Except.map, eq_comm]

theorem text_of_print_eq_ok {file : File} {generated : GeneratedFile}
    (hprint : print file = .ok generated) :
    Registry.java.text [] (Model.root 0 (.file file)) = .ok generated.content := by
  obtain ⟨-, hrender⟩ := print_eq_ok_iff.mp hprint
  rw [Generator.render_new Java.java_descends] at hrender
  exact congrArg Prod.fst (Option.some.inj hrender)

end Entity

namespace TableSite

/-- The file that is generated for a table. -/
def Yields (settings : EntitySettings) (base : String) (site : TableSite) (file : GeneratedFile) :
    Prop :=
  ∃ entity, site.entity? settings base = .ok (some entity) ∧ Entity.print entity = .ok file

section

variable {settings : EntitySettings} {base : String} {site : TableSite}

/-- A table yields one file at most. -/
theorem rightUnique_yields : Relator.RightUnique (Yields settings base) := by
  rintro site file other ⟨entity, hentity, hprint⟩ ⟨entity', hentity', hprint'⟩
  obtain rfl := Option.some.inj (Except.ok.inj (hentity.symm.trans hentity'))
  exact Except.ok.inj (hprint.symm.trans hprint')

theorem isEntity_entity (settings : EntitySettings) (site : TableSite) (base : String)
    (naming : NamingConvention) (key : List Column) :
    Entity.IsEntity (site.frame settings key) site.columns (site.entity settings base naming key)
      (site.head settings naming key) :=
  ⟨rfl, rfl, rfl, site.fullName, naming.encloseField site.table.name, rfl⟩

theorem exists_text_entity (settings : EntitySettings) (site : TableSite) (base : String)
    (naming : NamingConvention) (key : List Column) :
    ∃ text, Registry.java.text []
      (Model.root 0 (.file (site.entity settings base naming key))) = .ok text :=
  Entity.exists_text (isEntity_entity settings site base naming key)
    (Entity.className_ne_empty site.table) rfl

/-- An entity that is formed can be rendered. -/
theorem exists_yields {entity : File} (hentity : site.entity? settings base = .ok (some entity)) :
    ∃ file, Entity.print entity = .ok file ∧ site.Yields settings base file := by
  obtain ⟨-, naming, key, -, -, rfl⟩ := exists_of_entity?_eq_some hentity
  obtain ⟨text, htext⟩ := exists_text_entity settings site base naming key
  have hprint : Entity.print (site.entity settings base naming key) =
      .ok ⟨(site.entity settings base naming key).path "java", text⟩ := by
    simp [Entity.print, htext, Except.map]
  exact ⟨_, hprint, _, hentity, hprint⟩

theorem yields_iff_print {entity : File} {file : GeneratedFile}
    (hentity : site.entity? settings base = .ok (some entity)) :
    site.Yields settings base file ↔ Entity.print entity = .ok file := by
  constructor
  · rintro ⟨other, hother, hprint⟩
    obtain rfl := Option.some.inj (Except.ok.inj (hentity.symm.trans hother))
    exact hprint
  · exact fun hprint => ⟨entity, hentity, hprint⟩

/-- What holds of the entities of tables, one by one, holds of the tables that are included. -/
theorem forall₂_included {R : File → GeneratedFile → Prop} {sites : List TableSite}
    {found : List (Option File)} {files : List GeneratedFile}
    (hfound : List.Forall₂ (fun site entity => site.entity? settings base = .ok entity)
      sites found)
    (hfiles : List.Forall₂ R (found.filterMap id) files) :
    List.Forall₂
      (fun site file => ∃ entity, site.entity? settings base = .ok (some entity) ∧ R entity file)
      (included settings sites) files := by
  induction hfound generalizing files with
  | nil =>
      cases hfiles
      exact .nil
  | @cons site entity sites found hentity hrest ih =>
      cases entity with
      | none =>
          have hexcluded := isExcluded_of_entity?_eq_none hentity
          simpa [included, hexcluded] using ih hfiles
      | some entity =>
          obtain ⟨hincluded, -⟩ := exists_of_entity?_eq_some hentity
          rw [List.filterMap_cons_some (f := id) rfl] at hfiles
          obtain ⟨file, others, hfile, hothers, rfl⟩ := List.forall₂_cons_left_iff.mp hfiles
          have hsite : ∃ other, site.entity? settings base = .ok (some other) ∧ R other file :=
            ⟨entity, hentity, hfile⟩
          simpa [included, hincluded] using List.Forall₂.cons hsite (ih hothers)

/-- Tables that have no fault yield the files of those that are included. -/
theorem exists_forall₂_yields {sites : List TableSite} {found : List (Option File)}
    (hfound : List.Forall₂ (fun site entity => site.entity? settings base = .ok entity)
      sites found) :
    ∃ files, (found.filterMap id).mapM Entity.print = .ok files ∧
      List.Forall₂ (Yields settings base) (included settings sites) files := by
  have hprints : ∀ entity ∈ found.filterMap id, ∃ file, Entity.print entity = .ok file := by
    intro entity hmem
    obtain ⟨-, hentity, rfl⟩ := List.mem_filterMap.mp hmem
    obtain ⟨site, -, hsite⟩ := exists_of_mem_of_mapM_eq_ok (mapM_eq_ok_iff.mpr hfound) hentity
    obtain ⟨file, hfile, -⟩ := exists_yields hsite
    exact ⟨file, hfile⟩
  obtain ⟨files, hfiles⟩ := exists_mapM_eq_ok_iff.mpr hprints
  exact ⟨files, hfiles, forall₂_included hfound (mapM_eq_ok_iff.mp hfiles)⟩

end

end TableSite

namespace EntityGenerator

/-- Rendering files one after the other is rendering each on its own. -/
theorem renderFiles_new (files : List File) :
    renderFiles (Generator.new .java) files =
      (files.mapM Entity.print).mapError CodegenError.render := by
  induction files with
  | nil => rfl
  | cons file rest ih =>
      rw [renderFiles, Generator.render_new Java.java_descends, List.mapM_cons,
        Entity.print]
      cases Registry.java.text [] (Model.root 0 (.file file)) with
      | error error => rfl
      | ok content =>
          change (renderFiles (Generator.new .java) rest >>= fun others => pure (_ :: others)) = _
          rw [ih]
          cases rest.mapM Entity.print <;> rfl

/-- A generated file is what some generator makes of a file of nodes. -/
def Renders (file : File) (generated : GeneratedFile) : Prop :=
  ∃ before after : Generator,
    renderedFile file (before.render (Model.root 0 (.file file))) = .ok (generated, after)

theorem path_of_renderedFile_eq_ok {file : File} {outcome : Option (Rendered × Generator)}
    {generated : GeneratedFile} {after : Generator}
    (hfile : renderedFile file outcome = .ok (generated, after)) :
    generated.path = file.path "java" := by
  rcases outcome with _ | ⟨error | content, left⟩
  · exact nomatch hfile
  · exact nomatch hfile
  · cases hfile
    rfl

theorem Renders.path_eq {file : File} {generated : GeneratedFile}
    (hrenders : Renders file generated) : generated.path = file.path "java" := by
  obtain ⟨before, after, hfile⟩ := hrenders
  exact path_of_renderedFile_eq_ok hfile

theorem forall₂_renders {generator : Generator} {entities : List File} {files : GeneratedFiles}
    (hfiles : renderFiles generator entities = .ok files) :
    List.Forall₂ Renders entities files := by
  induction entities generalizing generator files with
  | nil =>
      obtain rfl := Except.ok.inj hfiles
      exact .nil
  | cons file rest ih =>
      simp only [renderFiles, Except.bind_eq_ok_iff] at hfiles
      obtain ⟨⟨generated, after⟩, hfile, others, hothers, hok⟩ := hfiles
      obtain rfl := Except.ok.inj hok
      exact .cons ⟨generator, after, hfile⟩ (ih hothers)

section

variable {settings : EntitySettings} {project : Project}

/-- The entities of the enabled tables, none for those that are excluded, up to
the first table that has a fault. -/
def found (settings : EntitySettings) (project : Project) :
    Except SchemaError (List (Option File)) :=
  project.enabledSites.mapM (TableSite.entity? settings (basePackage settings project))

theorem entities_eq : entities settings project = (do
    let entities ← found settings project
    return entities.filterMap id) := by
  have hentity : entity? settings (basePackage settings project) ∘ TableSite.path project =
      TableSite.entity? settings (basePackage settings project) :=
    funext fun site => TableSite.entity?_path project
  rw [entities, Project.enabledTables_eq_map, List.mapM_map, hentity, found]

/-- All entities are found before the first of them is printed. -/
theorem generate_eq :
    generate ⟨settings, .java⟩ project = (do
      let entities ← (found settings project).mapError CodegenError.schema
      ((entities.filterMap id).mapM Entity.print).mapError CodegenError.render) := by
  rw [generate, entities_eq]
  cases found settings project with
  | error fault => rfl
  | ok entities => exact renderFiles_new (entities.filterMap id)

theorem generate_eq_ok_iff_of_found {entities : List (Option File)}
    (hfound : found settings project = .ok entities) {files : GeneratedFiles} :
    generate ⟨settings, .java⟩ project = .ok files ↔
      (entities.filterMap id).mapM Entity.print = .ok files := by
  rw [generate_eq, hfound]
  change ((entities.filterMap id).mapM Entity.print).mapError CodegenError.render = _ ↔ _
  cases (entities.filterMap id).mapM Entity.print <;> simp [Except.mapError]

/-- Projects whose enabled tables have the same entities one by one come to the
same, whatever the views are. -/
theorem generate_congr (generator : EntityGenerator) {other : Project}
    {change : TableSite → TableSite}
    (hbase : basePackage generator.settings other = basePackage generator.settings project)
    (hsites : other.enabledSites = project.enabledSites.map change)
    (hentity : ∀ site ∈ project.enabledSites, ∀ base,
      (change site).entity? generator.settings base = site.entity? generator.settings base) :
    generator.generate other = generator.generate project := by
  have hfound : found generator.settings other = found generator.settings project := by
    rw [found, found, hbase, hsites, List.mapM_map]
    exact mapM_congr fun site hsite => hentity site hsite _
  rw [generate, generate, entities_eq, entities_eq, hfound]

/-- Entities are found up to the first table that has a fault. -/
theorem found_eq_error_iff {fault : SchemaError} :
    found settings project = .error fault ↔
      ∃ before site after, project.enabledSites = before ++ site :: after ∧
        (∀ earlier ∈ before, ∀ other, ¬ earlier.Fault settings other) ∧
        site.Fault settings fault := by
  simp only [found, mapM_eq_error_iff, TableSite.entity?_eq_error_iff,
    TableSite.exists_entity?_eq_ok_iff]

theorem exists_found_eq_ok_iff :
    (∃ entities, found settings project = .ok entities) ↔
      ∀ site ∈ project.enabledSites, ∀ fault, ¬ site.Fault settings fault := by
  simp only [found, exists_mapM_eq_ok_iff, TableSite.exists_entity?_eq_ok_iff]

/-- Whatever the views are, the files of a project are rendered from the entities of the tables
that are included. -/
theorem forall₂_included_renders {generator : EntityGenerator} {files : GeneratedFiles}
    (hgenerate : generator.generate project = .ok files) :
    List.Forall₂
      (fun site file => ∃ entity, TableSite.entity? generator.settings
        (basePackage generator.settings project) site = .ok (some entity) ∧ Renders entity file)
      (TableSite.included generator.settings project.enabledSites) files := by
  rw [generate, entities_eq] at hgenerate
  cases hfound : found generator.settings project with
  | error fault =>
      rw [hfound] at hgenerate
      exact nomatch hgenerate
  | ok entities =>
      rw [hfound] at hgenerate
      exact TableSite.forall₂_included (mapM_eq_ok_iff.mp hfound) (forall₂_renders hgenerate)

/-- What comes of the tables comes of the whole project. -/
theorem generate_of_found_eq_ok {entities : List (Option File)}
    (hfound : found settings project = .ok entities) :
    ∃ files, generate ⟨settings, .java⟩ project = .ok files ∧
      List.Forall₂ (TableSite.Yields settings (basePackage settings project))
        (TableSite.included settings project.enabledSites) files := by
  obtain ⟨files, hprint, hyields⟩ := TableSite.exists_forall₂_yields (mapM_eq_ok_iff.mp hfound)
  exact ⟨files, (generate_eq_ok_iff_of_found hfound).mpr hprint, hyields⟩

/-- A generation fails at the entities only, as all that are found can be printed. -/
theorem generate_eq_error_iff {error : CodegenError} :
    generate ⟨settings, .java⟩ project = .error error ↔
      ∃ fault, found settings project = .error fault ∧ error = .schema fault := by
  cases hfound : found settings project with
  | error fault =>
      rw [generate_eq, hfound]
      simp [Except.mapError, bind, Except.bind, eq_comm]
  | ok entities =>
      obtain ⟨files, hfiles, -⟩ := generate_of_found_eq_ok hfound
      simp [hfiles]

/-- A generation succeeds exactly if no table has a fault, and then with what the included tables
yield. -/
theorem generate_eq_ok_iff {files : GeneratedFiles} :
    generate ⟨settings, .java⟩ project = .ok files ↔
      (∀ site ∈ project.enabledSites, ∀ fault, ¬ site.Fault settings fault) ∧
      List.Forall₂ (TableSite.Yields settings (basePackage settings project))
        (TableSite.included settings project.enabledSites) files := by
  rw [← exists_found_eq_ok_iff]
  constructor
  · intro hfiles
    cases hfound : found settings project with
    | error fault => exact nomatch hfiles.symm.trans (generate_eq_error_iff.mpr ⟨_, hfound, rfl⟩)
    | ok entities =>
        obtain ⟨others, hothers, hyields⟩ := generate_of_found_eq_ok hfound
        obtain rfl := Except.ok.inj (hfiles.symm.trans hothers)
        exact ⟨⟨entities, rfl⟩, hyields⟩
  · rintro ⟨⟨entities, hfound⟩, hyields⟩
    obtain ⟨others, hothers, hyields'⟩ := generate_of_found_eq_ok hfound
    obtain rfl := List.right_unique_forall₂' TableSite.rightUnique_yields hyields hyields'
    exact hothers

theorem generate_only_eq_ok_iff {site : TableSite} (hsite : site ∈ project.enabledSites)
    {file : GeneratedFile} :
    generate ⟨settings, .java⟩ (project.only site) = .ok [file] ↔
      site.Yields settings (basePackage settings project) file := by
  rw [generate_eq_ok_iff, Project.enabledSites_only hsite]
  constructor
  · rintro ⟨-, hyields⟩
    change site.alone.Yields settings (basePackage settings (project.only site)) file
    cases hexcluded : site.alone.isExcluded settings with
    | true => simp [TableSite.included, hexcluded] at hyields
    | false => simpa [TableSite.included, hexcluded] using hyields
  · rintro ⟨entity, hentity, hprint⟩
    change site.alone.entity? settings (basePackage settings (project.only site)) = _ at hentity
    obtain ⟨hincluded, -⟩ := TableSite.exists_of_entity?_eq_some hentity
    have hsound := TableSite.exists_entity?_eq_ok_iff.mp ⟨_, hentity⟩
    simpa [TableSite.included, hincluded, hsound] using ⟨entity, hentity, hprint⟩

/-- A project is generated exactly if none of its enabled tables has a fault. -/
theorem exists_generate_eq_ok_iff :
    (∃ files, generate ⟨settings, .java⟩ project = .ok files) ↔
      ∀ site ∈ project.enabledSites, ∀ fault, ¬ site.Fault settings fault := by
  constructor
  · rintro ⟨files, hfiles⟩
    exact (generate_eq_ok_iff.mp hfiles).1
  · intro hsites
    obtain ⟨entities, hfound⟩ := exists_found_eq_ok_iff.mpr hsites
    obtain ⟨files, hfiles, -⟩ := generate_of_found_eq_ok hfound
    exact ⟨files, hfiles⟩

theorem exists_generate_eq_error_iff :
    (∃ error, generate ⟨settings, .java⟩ project = .error error) ↔
      ∃ site ∈ project.enabledSites, ∃ fault, site.Fault settings fault := by
  constructor
  · rintro ⟨error, herror⟩
    obtain ⟨fault, hfound, -⟩ := generate_eq_error_iff.mp herror
    obtain ⟨before, site, after, hsites, -, hsite⟩ := found_eq_error_iff.mp hfound
    exact ⟨site, by simp [hsites], fault, hsite⟩
  · rintro ⟨site, hsite, fault, hfault⟩
    cases hgenerate : generate ⟨settings, .java⟩ project with
    | error error => exact ⟨error, rfl⟩
    | ok files => exact absurd hfault ((generate_eq_ok_iff.mp hgenerate).1 site hsite fault)

/-- What holds of the enabled tables of a project holds of those that are included. -/
theorem forall₂_included_imp {files : GeneratedFiles} {p q : TableSite → GeneratedFile → Prop}
    (himp : ∀ site ∈ project.enabledSites, ∀ file, p site file → q site file)
    (hfiles : List.Forall₂ p (TableSite.included settings project.enabledSites) files) :
    List.Forall₂ q (TableSite.included settings project.enabledSites) files := by
  have hsites : ∀ site ∈ TableSite.included settings project.enabledSites,
      site ∈ project.enabledSites := by
    intro site hsite
    exact ((TableSite.mem_included_iff settings site).mp hsite).1
  refine ((List.forall₂_and_left _ _).mpr ⟨hsites, hfiles⟩).imp ?_
  rintro site file ⟨hsite, hfile⟩
  exact himp site hsite file hfile

/-- Each included table yields the file that its project cut down to it comes
to. -/
theorem forall₂_yields_iff {files : GeneratedFiles} :
    List.Forall₂ (TableSite.Yields settings (basePackage settings project))
        (TableSite.included settings project.enabledSites) files ↔
      List.Forall₂
        (fun site file => generate ⟨settings, .java⟩ (project.only site) = .ok [file])
        (TableSite.included settings project.enabledSites) files := by
  constructor
  · exact forall₂_included_imp fun site hsite file => (generate_only_eq_ok_iff hsite).mpr
  · exact forall₂_included_imp fun site hsite file => (generate_only_eq_ok_iff hsite).mp

/-- A generation fails exactly if a table has a fault, with the fault of the
first such table.  Otherwise every table that is included has the file that is
generated when the project is cut down to it. -/
theorem generate_fault_or_file_per_table (settings : EntitySettings) (project : Project) :
    (∀ error, generate ⟨settings, .java⟩ project = .error error ↔
      ∃ before site after fault, project.enabledSites = before ++ site :: after ∧
        (∀ earlier ∈ before, ∀ other, ¬ earlier.Fault settings other) ∧
        site.Fault settings fault ∧ error = .schema fault) ∧
    ((∃ error, generate ⟨settings, .java⟩ project = .error error) ↔
      ∃ site ∈ project.enabledSites, ∃ fault, site.Fault settings fault) ∧
    ∀ files, generate ⟨settings, .java⟩ project = .ok files ↔
      (∀ site ∈ project.enabledSites, ∀ fault, ¬ site.Fault settings fault) ∧
      List.Forall₂
        (fun site file => generate ⟨settings, .java⟩ (project.only site) = .ok [file])
        (TableSite.included settings project.enabledSites) files := by
  refine ⟨?_, exists_generate_eq_error_iff, ?_⟩
  · intro error
    rw [generate_eq_error_iff]
    constructor
    · rintro ⟨fault, hfound, herror⟩
      obtain ⟨before, site, after, hsites, hbefore, hsite⟩ := found_eq_error_iff.mp hfound
      exact ⟨before, site, after, fault, hsites, hbefore, hsite, herror⟩
    · rintro ⟨before, site, after, fault, hsites, hbefore, hsite, herror⟩
      exact ⟨fault, found_eq_error_iff.mpr ⟨before, site, after, hsites, hbefore, hsite⟩, herror⟩
  · intro files
    rw [generate_eq_ok_iff, forall₂_yields_iff]

end

end EntityGenerator

end TableScribe
