/-
What a check vouches for.  It passes every project that can be read and whose
dialects are known; that the primary keys refer to columns is asked only when
code is generated.
-/
import Mathlib.Data.List.Permutation
import TableScribe.Proofs.Command.Listing

namespace TableScribe

theorem fromUTF8?_toUTF8 (text : String) : String.fromUTF8? text.toUTF8 = some text := by
  unfold String.fromUTF8?
  rw [String.toUTF8_eq_toByteArray, dif_pos text.isValidUTF8]
  rfl

theorem Project.ofBytes_toUTF8 (text : String) :
    Project.ofBytes text.toUTF8 = Project.ofJson text := by
  unfold Project.ofBytes
  rw [fromUTF8?_toUTF8]

/-- If its dialect is known, a table is at fault only for its primary key. -/
theorem TableSite.no_fault_iff {site : TableSite} (hdialect : site.hasDialect = true) :
    (∀ fault, ¬ site.Fault .initial fault) ↔
      (site.isExcluded .initial = false → site.table.danglingKey? = none) := by
  obtain ⟨naming, hnaming⟩ := Option.isSome_iff_exists.mp hdialect
  rw [isExcluded_of_naming?_eq_some hnaming]
  constructor
  · intro hsound hincluded
    cases hkey : site.table.danglingKey? with
    | none => rfl
    | some key => exact absurd (.key hnaming hincluded hkey) (hsound _)
  · intro hkeys fault hfault
    cases hfault with
    | dialect hnone => exact nomatch hnone.symm.trans hnaming
    | key hsome hincluded hkey =>
        obtain rfl := Option.some.inj (hsome.symm.trans hnaming)
        exact nomatch (hkeys hincluded).symm.trans hkey

namespace Command

section

variable {files : FileSystem} {input text : String}

/-- A check reads its input and changes nothing. -/
theorem run_check (hread : files.read input = .ok text.toUTF8) :
    (check FileSystem.disk input).run files =
      (match Project.ofJson text with
        | .error error => ⟨"", some (.schema error)⟩
        | .ok project => checkProject input project, files) := by
  have hload : (load FileSystem.disk input).run files = (Project.ofJson text, files) := by
    rw [run_load, hread, ← Project.ofBytes_toUTF8]
  cases hproject : Project.ofJson text with
  | error error =>
      rw [check, StateT.run_bind, hload, hproject]
      rfl
  | ok project => exact run_check_of_load (hproject ▸ hload)

/-- A check of a text succeeds exactly if the text is that of a project whose
dialects are all known. -/
theorem failure_check_eq_none_iff (hread : files.read input = .ok text.toUTF8) :
    ((check FileSystem.disk input).run files).1.failure = none ↔
      ∃ project, Project.ofJson text = .ok project ∧
        ∀ site ∈ project.enabledSites, site.hasDialect = true := by
  rw [run_check hread]
  cases Project.ofJson text with
  | error error => simp
  | ok project => simp [failure_checkProject_eq_none_iff]

/-- After a check the generation can only fail at a primary key: it fails at the
first table that is included and refers to a missing column. -/
theorem generate_after_check_iff (hread : files.read input = .ok text.toUTF8)
    (hcheck : ((check FileSystem.disk input).run files).1.failure = none) :
    ∃ project, Project.ofJson text = .ok project ∧
      ((∃ generated, EntityGenerator.java.generate project = .ok generated) ↔
        ∀ site ∈ TableSite.included .initial project.enabledSites,
          site.table.danglingKey? = none) ∧
      ∀ error, EntityGenerator.java.generate project = .error error →
        ∃ before site after key,
          TableSite.included .initial project.enabledSites = before ++ site :: after ∧
          (∀ earlier ∈ before, earlier.table.danglingKey? = none) ∧
          site.table.danglingKey? = some key ∧
          error = .schema (.unknownColumn site.table.name key.name) := by
  obtain ⟨project, hproject, hdialects⟩ := (failure_check_eq_none_iff hread).mp hcheck
  refine ⟨project, hproject, ?_, ?_⟩
  · rw [EntityGenerator.java, EntityGenerator.exists_generate_eq_ok_iff]
    simp only [TableSite.mem_included_iff, and_imp]
    exact forall₂_congr fun site hsite => TableSite.no_fault_iff (hdialects site hsite)
  · intro error herror
    obtain ⟨fault, hfound, rfl⟩ :=
      (@EntityGenerator.generate_eq_error_iff .initial project error).mp herror
    obtain ⟨before, site, after, hsites, hbefore, hsite⟩ :=
      EntityGenerator.found_eq_error_iff.mp hfound
    rw [hsites] at hdialects ⊢
    cases hsite with
    | dialect hnaming =>
        have hdialect := hdialects site (by simp)
        simp [TableSite.hasDialect, hnaming] at hdialect
    | @key naming key hnaming hincluded hkey =>
        rw [← TableSite.isExcluded_of_naming?_eq_some hnaming] at hincluded
        refine ⟨TableSite.included .initial before, site, TableSite.included .initial after, key,
          ?_, ?_, hkey, rfl⟩
        · simp [TableSite.included, hincluded]
        · intro earlier hearlier
          obtain ⟨hmem, hkept⟩ := (TableSite.mem_included_iff _ _).mp hearlier
          have hdialect := hdialects earlier (List.mem_append_left _ hmem)
          exact (TableSite.no_fault_iff hdialect).mp (hbefore earlier hmem) hkept

end

namespace SingleTable

/-- A project of one table without columns. -/
def project (keyColumns : List KeyColumn) : Project where
  name := "p"
  javaAlias := none
  enabled := true
  package := none
  dbmses := [⟨"d", none, true, "mysql", [
    ⟨"s", none, true, [⟨"t", none, true, [], keyColumns⟩]⟩]⟩]

/-- The text of the project with a table without a primary key. -/
def keyless : String :=
  "\x7b\"name\":\"p\",\"dbmses\":[\x7b\"name\":\"d\",\"typeName\":\"mysql\",\"schemas\":"
    ++ "[\x7b\"name\":\"s\",\"tables\":[\x7b\"name\":\"t\"\x7d]\x7d]\x7d]\x7d"

/-- The text of the project with a primary key on a column that is not there. -/
def dangling : String :=
  "\x7b\"name\":\"p\",\"dbmses\":[\x7b\"name\":\"d\",\"typeName\":\"mysql\",\"schemas\":"
    ++ "[\x7b\"name\":\"s\",\"tables\":[\x7b\"name\":\"t\",\"primaryKeyColumns\":"
    ++ "[\x7b\"name\":\"id\"\x7d]\x7d]\x7d]\x7d]\x7d"

/-- A file system with the text of a project in it. -/
def files (text : String) : FileSystem := ⟨.directory [("p.json", .file text.toUTF8)], []⟩

theorem read_files (text : String) : (files text).read "p.json" = .ok text.toUTF8 := rfl

theorem ofJson_keyless : Project.ofJson keyless = .ok (project []) := by
  cbv

theorem ofJson_dangling : Project.ofJson dangling = .ok (project [⟨"id", none, true⟩]) := by
  cbv

theorem failure_check {text : String} {keyColumns : List KeyColumn}
    (htext : Project.ofJson text = .ok (project keyColumns)) :
    ((check FileSystem.disk "p.json").run (files text)).1.failure = none := by
  refine (failure_check_eq_none_iff (read_files text)).mpr ⟨project keyColumns, htext, ?_⟩
  intro site hsite
  obtain rfl := List.mem_singleton.mp hsite
  have hdialect : NamingConvention.ofDialect "mysql" = .ok .mysql := rfl
  exact Option.isSome_iff_exists.mpr ⟨_, TableSite.naming?_eq_some_iff.mpr hdialect⟩

end SingleTable

theorem generate_after_check_of_keyless :
    ∃ generated, EntityGenerator.java.generate (SingleTable.project []) = .ok generated := by
  obtain ⟨project, hproject, hgenerate, -⟩ :=
    generate_after_check_iff (SingleTable.read_files SingleTable.keyless)
      (SingleTable.failure_check SingleTable.ofJson_keyless)
  obtain rfl := Except.ok.inj (SingleTable.ofJson_keyless.symm.trans hproject)
  exact hgenerate.mpr (List.forall_mem_singleton.mpr rfl)

/-- A check does not ask whether the primary keys refer to columns. -/
theorem dangling_key_passes_check :
    ((check FileSystem.disk "p.json").run (SingleTable.files SingleTable.dangling)).1.failure =
      none ∧
    ∃ project, (SingleTable.files SingleTable.dangling).read "p.json" =
        .ok SingleTable.dangling.toUTF8 ∧
      Project.ofJson SingleTable.dangling = .ok project ∧
      EntityGenerator.java.generate project = .error (.schema (.unknownColumn "t" "id")) :=
  ⟨SingleTable.failure_check SingleTable.ofJson_dangling, _,
    SingleTable.read_files SingleTable.dangling, SingleTable.ofJson_dangling, rfl⟩

end Command

end TableScribe
