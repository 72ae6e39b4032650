/-
The paths of the generated files and their packages.  No character of a name becomes a dot or a
slash, so the path of a file has the segments of its package as directories and nothing that leads
elsewhere, as long as a package that is given is a list of segments.
-/
import TableScribe.Proofs.Entity.Packages
import TableScribe.Proofs.Storage.Components

namespace TableScribe

/-- A path may be written to if each of its segments is a name. -/
theorem Path.checkPath_of_segments {path : String}
    (hsegments : ∀ segment ∈ segments path, isVoid segment = false ∧ segment ≠ "..") :
    GeneratedFile.checkPath path = .ok () := by
  refine checkPath_eq_ok_iff.mpr (forall_isName_iff.mpr ⟨?_, ?_⟩)
  · rw [isAbsolute, beq_eq_false_iff_ne]
    intro hslash
    obtain ⟨rest, hrest⟩ := List.head?_eq_some_iff.mp hslash
    have hempty : "" ∈ segments path := by
      rw [segments, hrest, Text.segments, if_pos rfl, List.map_cons]
      exact List.mem_cons_self
    exact absurd (hsegments "" hempty).1 (by decide)
  · have hcurrent : (segments path).head? ≠ some "." :=
      fun hcurrent => absurd (hsegments "." (List.mem_of_head? hcurrent)).1 (by decide)
    have hparent : ".." ∉ segments path := fun hparent => (hsegments ".." hparent).2 rfl
    simp [isPlain, hcurrent, hparent]

namespace File

/-- A package is a dotted list of segments, which are not empty and hold no slash. -/
def IsPackage (package : String) : Prop :=
  ∀ segment ∈ Text.segments '.' package.toList, segment ≠ [] ∧ '/' ∉ segment

section

variable {package : String}

/-- A converted name is a package of one segment. -/
theorem isPackage_packageWord (name : String) : IsPackage (Java.packageWord name) := by
  rw [IsPackage, Java.segments_packageWord, List.forall_mem_singleton]
  exact ⟨mt String.toList_eq_nil_iff.mp (Java.packageWord_ne_empty name),
    Java.not_mem_packageWord name (by decide) (by decide)⟩

theorem IsPackage.append {other : String} (hpackage : IsPackage package)
    (hother : IsPackage other) : IsPackage (package ++ "." ++ other) := by
  rw [IsPackage, Java.segments_append_dot, List.forall_mem_append]
  exact ⟨hpackage, hother⟩

variable (hpackage : IsPackage package)

include hpackage

/-- The directories of a package are its segments. -/
theorem IsPackage.segments_packageDirectory :
    Path.segments (packageDirectory package) =
      (Text.segments '.' package.toList).map String.ofList := by
  have hslash : '/' ∉ package.toList := by
    intro hmem
    rcases Text.eq_or_exists_of_mem '.' hmem with hdot | ⟨segment, hsegment, hmem⟩
    · exact absurd hdot (by decide)
    · exact (hpackage segment hsegment).2 hmem
  rw [Path.segments, packageDirectory, String.toList_ofList, Text.segments_map_replace hslash]

variable {file : File} (hfile : file.package = some package) (hname : '/' ∉ file.name.toList)

include hfile hname

/-- The path of a file has the segments of its package, and then the name of the file. -/
theorem IsPackage.segments_path :
    Path.segments (file.path "java") =
      (Text.segments '.' package.toList).map String.ofList ++ [file.name ++ ".java"] := by
  have hpath : file.path "java" = packageDirectory package ++ "/" ++ (file.name ++ ".java") := by
    rw [path, hfile, @String.append_assoc file.name]
    rfl
  have hlast : Path.segments (file.name ++ ".java") = [file.name ++ ".java"] := by
    have hslash : ∀ piece ∈ [file.name ++ ".java"], '/' ∉ piece.toList := by
      simpa using hname
    exact Path.segments_intercalate (List.cons_ne_nil _ _) hslash
  rw [hpath, Path.segments_append_slash, hpackage.segments_packageDirectory, hlast]

/-- A path along a package leads nowhere else. -/
theorem IsPackage.checkPath_path : GeneratedFile.checkPath (file.path "java") = .ok () := by
  apply Path.checkPath_of_segments
  rw [hpackage.segments_path hfile hname, List.forall_mem_append, List.forall_mem_singleton,
    List.forall_mem_map]
  -- A segment has no dot in it, and the last piece has the extension.
  constructor
  · intro segment hsegment
    have hempty := (hpackage segment hsegment).1
    have hne {text : String} (hdot : '.' ∈ text.toList) : String.ofList segment ≠ text := by
      rintro rfl
      rw [String.toList_ofList] at hdot
      exact Text.not_mem_of_mem_segments hsegment hdot
    exact ⟨by simp [Path.isVoid, hempty, hne], hne (by decide)⟩
  · have hne {text : String} (hletter : 'v' ∉ text.toList) : file.name ++ ".java" ≠ text := by
      rintro rfl
      simp at hletter
    exact ⟨by simp [Path.isVoid, hne], hne (by decide)⟩

end

end File

namespace TableSite

section

variable {settings : EntitySettings} {project : Project} {site : TableSite}
  (hproject : project.HasNoAlias) (hsite : site ∈ project.enabledSites) (base : String)
  (naming : NamingConvention) (key : List Column)

include hproject hsite

theorem name_entity :
    (site.entity settings base naming key).name = Java.typeName site.table.name := by
  obtain ⟨-, htable, -⟩ := alias?_eq_none hproject hsite
  rw [entity, Entity.className, htable]
  rfl

theorem exists_package_entity (hbase : File.IsPackage base) :
    ∃ package, (site.entity settings base naming key).package = some package ∧
      File.IsPackage package := by
  obtain ⟨hschema, -⟩ := alias?_eq_none hproject hsite
  refine ⟨base ++ "." ++ Java.packageWord site.schema.name, ?_,
    hbase.append (File.isPackage_packageWord site.schema.name)⟩
  rw [entity, Entity.packageName, Document.javaName, hschema]
  rfl

end

end TableSite

namespace EntityGenerator

section

variable {settings : EntitySettings} {project : Project}

theorem isPackage_basePackage
    (hpackage : ∀ package ∈ settings.package.or project.package, File.IsPackage package) :
    File.IsPackage (basePackage settings project) := by
  unfold basePackage
  cases hgiven : settings.package with
  | some package => exact hpackage package (by simp [hgiven])
  | none =>
      cases hown : project.package with
      | some package => exact hpackage package (by simp [hgiven, hown])
      | none => exact File.isPackage_packageWord project.name

/-- Without aliases, whatever the names are, the path of a generated file has the segments of its
package as directories and the name of its class as the name of the file, and it may be written
to, as long as a package that is given is a dotted list of segments. -/
theorem paths_follow_packages {generator : EntityGenerator} (hproject : project.HasNoAlias)
    (hpackage : ∀ package ∈ generator.settings.package.or project.package, File.IsPackage package)
    {files : GeneratedFiles} (hgenerate : generator.generate project = .ok files) :
    List.Forall₂
      (fun site file => ∃ entity package,
        site.entity? generator.settings (basePackage generator.settings project) =
          .ok (some entity) ∧
        Renders entity file ∧ entity.package = some package ∧
        entity.declarations.map Declaration.name = [Java.typeName site.table.name] ∧
        Path.segments file.path = (Text.segments '.' package.toList).map String.ofList ++
          [Java.typeName site.table.name ++ ".java"] ∧
        GeneratedFile.checkPath file.path = .ok ())
      (TableSite.included generator.settings project.enabledSites) files := by
  refine forall₂_included_imp ?_ (forall₂_included_renders hgenerate)
  rintro site hsite file ⟨entity, hentity, hrenders⟩
  obtain ⟨-, naming, key, -, -, rfl⟩ := TableSite.exists_of_entity?_eq_some hentity
  obtain ⟨package, hfile, hlist⟩ := @TableSite.exists_package_entity generator.settings _ _
    hproject hsite _ naming key (isPackage_basePackage hpackage)
  have hname := @TableSite.name_entity generator.settings _ _ hproject hsite
    (basePackage generator.settings project) naming key
  have hslash : '/' ∉ (site.entity generator.settings (basePackage generator.settings project)
      naming key).name.toList := by
    rw [hname]
    exact Java.not_mem_typeName (by decide) (by decide) site.table.name
  have hsegments := hlist.segments_path hfile hslash
  have hcheck := hlist.checkPath_path hfile hslash
  rw [← hrenders.path_eq] at hsegments hcheck
  rw [hname] at hsegments
  exact ⟨_, package, hentity, hrenders, hfile, congrArg List.singleton hname, hsegments, hcheck⟩

end

namespace Climbing

/-- A table whose name and the name of its schema try to lead to other directories. -/
def site : TableSite :=
  let table : Table := ⟨"x/../y", none, true, [], []⟩
  let schema : Schema := ⟨"../a.b", none, true, [table]⟩
  ⟨⟨"d", none, true, "mysql", [schema]⟩, schema, table⟩

/-- A project with a package. -/
def project : Project := ⟨"/p", none, true, some "org.demo", [site.dbms]⟩

end Climbing

theorem climbing_names_stay_in_package :
    Climbing.project.HasNoAlias ∧ ∃ file, generate java Climbing.project = .ok [file] ∧
      Path.segments file.path = ["org", "demo", "ab", "XY.java"] ∧
      GeneratedFile.checkPath file.path = .ok () := by
  have halias : Climbing.project.HasNoAlias := by
    unfold Project.HasNoAlias
    decide
  have hpackage : ∀ package ∈ java.settings.package.or Climbing.project.package,
      File.IsPackage package := by
    rintro package ⟨⟩
    unfold File.IsPackage
    decide
  have hfound : found .initial Climbing.project =
      .ok [some (Climbing.site.entity .initial "org.demo" .mysql [])] := rfl
  obtain ⟨files, hgenerate, -⟩ := generate_of_found_eq_ok hfound
  have hincluded : TableSite.included .initial Climbing.project.enabledSites = [Climbing.site] :=
    rfl
  have hall := paths_follow_packages halias hpackage hgenerate
  change List.Forall₂ _ (TableSite.included .initial Climbing.project.enabledSites) files at hall
  rw [hincluded, List.forall₂_cons_left_iff] at hall
  obtain ⟨file, rest, ⟨entity, package, hentity, -, hname, -, hsegments, hcheck⟩, hrest, rfl⟩ :=
    hall
  cases hrest
  obtain rfl := Option.some.inj (Except.ok.inj hentity)
  obtain rfl := Option.some.inj hname
  exact ⟨halias, file, hgenerate, hsegments, hcheck⟩

end EntityGenerator

end TableScribe
