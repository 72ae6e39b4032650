/-
The paths of the generated files.  The path of a table is made of names that
are not told apart in all their letters, so two tables can have one path; then
only the file of the last of them is left.
-/
import TableScribe.Proofs.Entity.Generation
import TableScribe.Proofs.Storage.Writing

namespace TableScribe

theorem File.packageDirectory_append_dot (front rest : String) :
    packageDirectory (front ++ "." ++ rest) =
      packageDirectory front ++ "/" ++ packageDirectory rest := by
  simp [packageDirectory, ← String.toList_inj]

namespace TableSite

/-- Where the file of a table lies below the directory of the base package. -/
def place (site : TableSite) : List String :=
  Path.names (File.packageDirectory (Unicode.lowerText (Document.schema site.schema).javaName)) ++
    Path.names (Entity.className site.table ++ ".java")

/-- The path of a file leads through the base package to the place of its table. -/
theorem Yields.way_eq {settings : EntitySettings} {base : String} {site : TableSite}
    {file : GeneratedFile} (hyields : site.Yields settings base file) :
    file.way = Path.names (File.packageDirectory base) ++ site.place := by
  obtain ⟨entity, hentity, hprint⟩ := hyields
  obtain ⟨-, naming, key, -, -, rfl⟩ := exists_of_entity?_eq_some hentity
  rw [GeneratedFile.way, (Entity.print_eq_ok_iff.mp hprint).1]
  have hpath : (site.entity settings base naming key).path "java" =
      File.packageDirectory base ++ "/" ++
        File.packageDirectory (Unicode.lowerText (Document.schema site.schema).javaName) ++ "/" ++
          (Entity.className site.table ++ ".java") := by
    change File.packageDirectory (base ++ "." ++ _) ++ "/" ++
      (Entity.className site.table ++ "." ++ "java") = _
    rw [File.packageDirectory_append_dot, @String.append_assoc (Entity.className site.table)]
    rfl
  rw [hpath, Path.names_append_slash, Path.names_append_slash, List.append_assoc]
  rfl

end TableSite

namespace EntityGenerator

section

variable {settings : EntitySettings} {project : Project} {generated : GeneratedFiles}

/-- The files have paths of their own exactly if the tables have places of their
own. -/
theorem nodup_way_iff (hgenerate : generate ⟨settings, .java⟩ project = .ok generated) :
    (generated.map GeneratedFile.way).Nodup ↔
      ((TableSite.included settings project.enabledSites).map TableSite.place).Nodup := by
  obtain ⟨-, hyields⟩ := generate_eq_ok_iff.mp hgenerate
  let below (place : List String) : List String :=
    Path.names (File.packageDirectory (basePackage settings project)) ++ place
  have hbelow : Function.Injective below := fun _ _ => List.append_cancel_left
  have hways : ((TableSite.included settings project.enabledSites).map TableSite.place).map below =
      generated.map GeneratedFile.way := by
    rw [← List.forall₂_eq_eq_eq, List.map_map, List.forall₂_map_left_iff,
      List.forall₂_map_right_iff]
    exact hyields.imp fun site file hfile => hfile.way_eq.symm
  rw [← hways, List.nodup_map_iff hbelow]

/-- The generated files have paths of their own, and a writing that succeeds
leaves each of them, exactly if the tables have places of their own. -/
theorem every_file_left_iff (hgenerate : generate ⟨settings, .java⟩ project = .ok generated) :
    ((generated.map GeneratedFile.way).Nodup ↔
      ((TableSite.included settings project.enabledSites).map TableSite.place).Nodup) ∧
    ∀ (files after : FileSystem) (directory : String), files.HasNoFileIn directory →
      (generated.writeTo FileSystem.disk directory).run.run files = (.ok (), after) →
        (after.HoldsEach directory generated ↔
          ((TableSite.included settings project.enabledSites).map TableSite.place).Nodup) := by
  have hnodup := nodup_way_iff hgenerate
  refine ⟨hnodup, ?_⟩
  intro files after directory hempty hwrite
  rw [holdsEach_iff_nodup hempty hwrite, hnodup]

/-- The paths of the generated files are those of the entities. -/
theorem map_path_of_generate_eq_ok {entities : List (Option File)}
    (hfound : found settings project = .ok entities)
    (hgenerate : generate ⟨settings, .java⟩ project = .ok generated) :
    generated.map GeneratedFile.path =
      (entities.filterMap id).map fun file => file.path "java" := by
  have hprint := (generate_eq_ok_iff_of_found hfound).mp hgenerate
  rw [eq_comm, ← List.forall₂_eq_eq_eq, List.forall₂_map_left_iff, List.forall₂_map_right_iff]
  exact (mapM_eq_ok_iff.mp hprint).imp fun file other hfile =>
    (Entity.print_eq_ok_iff.mp hfile).1.symm

theorem exists_generate_of_two_paths {entities : List (Option File)} {first second : String}
    (hfound : found .initial project = .ok entities)
    (hpaths : (entities.filterMap id).map (fun file => file.path "java") = [first, second]) :
    ∃ a b, generate java project = .ok [⟨first, a⟩, ⟨second, b⟩] := by
  obtain ⟨generated, hgenerate, -⟩ := generate_of_found_eq_ok hfound
  have hmap := (map_path_of_generate_eq_ok hfound hgenerate).trans hpaths
  obtain ⟨⟨one, a⟩, rest, rfl, rfl, hrest⟩ := List.map_eq_cons_iff.mp hmap
  obtain ⟨⟨two, b⟩, none, rfl, rfl, hnone⟩ := List.map_eq_cons_iff.mp hrest
  obtain rfl := List.map_eq_nil_iff.mp hnone
  exact ⟨a, b, hgenerate⟩

end

namespace Twins

def table (name : String) : Table := ⟨name, none, true, [], []⟩

def project (first second : String) : Project where
  name := "p"
  javaAlias := none
  enabled := true
  package := none
  dbmses := [⟨"d", none, true, "mysql", [⟨"s", none, true, [table first, table second]⟩]⟩]

def entities (first second : String) : List (Option File) :=
  (project first second).enabledSites.map fun site => some (site.entity .initial "p" .mysql [])

theorem exists_generate_eq_ok {first second path other : String}
    (hfound : found .initial (project first second) = .ok (entities first second))
    (hpaths : ((entities first second).filterMap id).map (fun file => file.path "java") =
      [path, other]) :
    ∃ a b, generate java (project first second) = .ok [⟨path, a⟩, ⟨other, b⟩] :=
  exists_generate_of_two_paths hfound hpaths

/-- A file system with an empty directory. -/
def files : FileSystem := ⟨.directory [("out", .empty)], []⟩

theorem hasNoFileIn_files : files.HasNoFileIn "out" :=
  hasNoFileIn_of_here_eq_empty rfl rfl

/-- The file system with the directory of the package in the empty directory. -/
def filled (entries : List (String × FileNode)) : FileSystem :=
  ⟨.directory [("out", .directory [("p", .directory [("s", .directory entries)])])], []⟩

theorem run_writeTo_file (path content : String) (before middle : FileSystem)
    (entries : ByteArray → List (String × FileNode))
    (hcheck : GeneratedFile.checkPath path = .ok ())
    (hcreate : (FileSystem.disk.createDirectories (Path.parent (Path.join "out" path))).run.run
      before = (.ok (), middle))
    (hwrite : ∀ bytes,
      middle.write (Path.join "out" path) bytes = (filled (entries bytes), .ok ())) :
    (GeneratedFile.writeTo FileSystem.disk "out" ⟨path, content⟩).run.run before =
      (.ok (), filled (entries content.toUTF8)) :=
  run_writeTo_file_eq_ok_iff.mpr ⟨hcheck, middle, hcreate, hwrite content.toUTF8⟩

theorem run_writeTo {first second : GeneratedFile} {middle after : FileSystem}
    (hfirst : (first.writeTo FileSystem.disk "out").run.run files = (.ok (), middle))
    (hsecond : (second.writeTo FileSystem.disk "out").run.run middle = (.ok (), after)) :
    (GeneratedFiles.writeTo FileSystem.disk "out" [first, second]).run.run files =
      (.ok (), after) :=
  run_bind_eq_ok_iff.mpr ⟨(), middle, hfirst, run_bind_eq_ok_iff.mpr ⟨(), after, hsecond, rfl⟩⟩

end Twins

theorem user_and_order_are_left :
    ∃ generated after, generate java (Twins.project "user" "order") = .ok generated ∧
      (generated.writeTo FileSystem.disk "out").run.run Twins.files = (.ok (), after) ∧
      after.HoldsEach "out" generated := by
  obtain ⟨a, b, hgenerate⟩ :
      ∃ a b, generate java (Twins.project "user" "order") =
        .ok [⟨"p/s/User.java", a⟩, ⟨"p/s/Order.java", b⟩] :=
    Twins.exists_generate_eq_ok rfl rfl
  have hfirst := Twins.run_writeTo_file "p/s/User.java" a Twins.files (Twins.filled [])
    (fun bytes => [("User.java", .file bytes)]) rfl rfl fun bytes => rfl
  have hsecond (older : ByteArray) := Twins.run_writeTo_file "p/s/Order.java" b
    (Twins.filled [("User.java", .file older)]) (Twins.filled [("User.java", .file older)])
    (fun bytes => [("Order.java", .file bytes), ("User.java", .file older)]) rfl rfl
    fun bytes => rfl
  have hwrite := Twins.run_writeTo hfirst (hsecond a.toUTF8)
  obtain ⟨-, hleft⟩ := every_file_left_iff hgenerate
  exact ⟨_, _, hgenerate, hwrite, (hleft _ _ _ Twins.hasNoFileIn_files hwrite).mpr (by decide)⟩

/-- Two tables whose names differ in a separator only have one path, and the
file of the second one replaces that of the first. -/
theorem user_name_file_is_lost :
    ∃ generated after, generate java (Twins.project "user_name" "user-name") = .ok generated ∧
      ¬ (generated.map GeneratedFile.path).Nodup ∧ Twins.files.HasNoFileIn "out" ∧
      (generated.writeTo FileSystem.disk "out").run.run Twins.files = (.ok (), after) ∧
      ¬ after.HoldsEach "out" generated := by
  obtain ⟨a, b, hgenerate⟩ :
      ∃ a b, generate java (Twins.project "user_name" "user-name") =
        .ok [⟨"p/s/UserName.java", a⟩, ⟨"p/s/UserName.java", b⟩] :=
    Twins.exists_generate_eq_ok rfl rfl
  have hfirst := Twins.run_writeTo_file "p/s/UserName.java" a Twins.files (Twins.filled [])
    (fun bytes => [("UserName.java", .file bytes)]) rfl rfl fun bytes => rfl
  have hsecond (older : ByteArray) := Twins.run_writeTo_file "p/s/UserName.java" b
    (Twins.filled [("UserName.java", .file older)]) (Twins.filled [("UserName.java", .file older)])
    (fun bytes => [("UserName.java", .file bytes)]) rfl rfl fun bytes => rfl
  have hwrite := Twins.run_writeTo hfirst (hsecond a.toUTF8)
  refine ⟨_, _, hgenerate, by simp, Twins.hasNoFileIn_files, hwrite, ?_⟩
  rw [holdsEach_iff_nodup Twins.hasNoFileIn_files hwrite]
  simp [GeneratedFile.way]

end EntityGenerator

end TableScribe
