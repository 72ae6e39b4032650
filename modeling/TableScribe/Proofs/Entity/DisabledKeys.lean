/-
Disabled references of primary keys.  They are not looked at apart from the
others: one that names no column is a fault of the table, and one that names an
enabled column marks its field.  A project comes to the same without them only
as far as enabled references do the same.
-/
import TableScribe.Proofs.Document.Pruning
import TableScribe.Proofs.Entity.KeyMarks

namespace TableScribe

/-- Two relations between the elements of lists hold at one place together. -/
theorem exists_of_mem_of_forall₂ {α β : Type} {p q : α → β → Prop} {items : List α}
    {others : List β} (hp : List.Forall₂ p items others) (hq : List.Forall₂ q items others)
    {item : α} (hitem : item ∈ items) : ∃ other, p item other ∧ q item other := by
  induction hp with
  | nil => exact absurd hitem List.not_mem_nil
  | cons hhead _ ih =>
      obtain ⟨hhead', hrest⟩ := List.forall₂_cons.mp hq
      rcases List.mem_cons.mp hitem with rfl | hmem
      · exact ⟨_, hhead, hhead'⟩
      · exact ih hrest hmem

namespace TableSite

/-- A table of a project without the disabled references of primary keys. -/
def withoutDisabledKeys (site : TableSite) : TableSite :=
  site.mapTables Table.withoutDisabledKeys

/-- A table has no entity because of a disabled reference of its primary key. -/
structure StoppedBy (settings : EntitySettings) (site : TableSite) (key : KeyColumn) : Prop where
  known : site.naming? settings ≠ none
  included : site.isExcluded settings = false
  dangling : site.table.danglingKey? = some key
  disabled : key.enabled = false

section

variable {settings : EntitySettings} {site : TableSite} {base : String} {fault : SchemaError}

theorem Fault.of_stoppedBy {key : KeyColumn} (hstopped : site.StoppedBy settings key) :
    site.Fault settings (.unknownColumn site.table.name key.name) := by
  obtain ⟨naming, hnaming⟩ := Option.ne_none_iff_exists'.mp hstopped.known
  have hincluded := isExcluded_of_naming?_eq_some hnaming
  exact .key hnaming (hincluded.symm.trans hstopped.included) hstopped.dangling

/-- A fault goes away with the disabled references only if one of them is the
fault. -/
theorem Fault.withoutDisabledKeys (hfault : site.Fault settings fault) :
    site.withoutDisabledKeys.Fault settings fault ∨
      ∃ key, site.StoppedBy settings key ∧ fault = .unknownColumn site.table.name key.name := by
  cases hfault with
  | dialect hnaming => exact Or.inl (@Fault.dialect settings site.withoutDisabledKeys hnaming)
  | @key naming key hnaming hincluded hkey =>
      cases henabled : key.enabled with
      | true =>
          have hkey' := Table.danglingKey?_withoutDisabledKeys hkey henabled
          apply Or.inl
          exact @Fault.key settings site.withoutDisabledKeys naming key hnaming hincluded hkey'
      | false =>
          have hexcluded := (isExcluded_of_naming?_eq_some hnaming).trans hincluded
          exact Or.inr ⟨key, ⟨by simp [hnaming], hexcluded, hkey, henabled⟩, rfl⟩

/-- No fault comes of leaving references out. -/
theorem not_fault_withoutDisabledKeys (hsound : ∀ fault, ¬ site.Fault settings fault)
    (fault : SchemaError) : ¬ site.withoutDisabledKeys.Fault settings fault := by
  intro hfault
  cases hfault with
  | dialect hnaming => exact hsound _ (.dialect hnaming)
  | key hnaming hincluded hkey =>
      obtain ⟨other, hother⟩ := Table.exists_danglingKey?_of_withoutDisabledKeys hkey
      exact hsound _ (.key hnaming hincluded hother)

/-- A table without faults yields the same file without the disabled references
exactly if the enabled ones name all the columns that any of them name. -/
theorem exists_yields_withoutDisabledKeys_iff (hsound : ∀ fault, ¬ site.Fault settings fault)
    (hincluded : site.isExcluded settings = false) :
    (∃ file, site.Yields settings base file ∧
        site.withoutDisabledKeys.Yields settings base file) ↔
      ∀ column ∈ site.columns, site.table.isPrimaryKey column = true →
        site.table.withoutDisabledKeys.isPrimaryKey column = true := by
  have hsound' := not_fault_withoutDisabledKeys hsound
  obtain ⟨naming, key, hnaming, hkey, hentity⟩ :=
    exists_entity?_of_included hsound hincluded base
  obtain ⟨naming', key', hnaming', hkey', hentity'⟩ :=
    @exists_entity?_of_included settings site.withoutDisabledKeys hsound' hincluded base
  obtain rfl : naming' = naming := Option.some.inj (hnaming'.symm.trans hnaming)
  have hall (column : Column) :
      (site.frame settings key).isKey column = site.table.isPrimaryKey column :=
    Table.any_name_primaryKey hkey column
  have henabled (column : Column) : (site.frame settings key').isKey column =
      site.table.withoutDisabledKeys.isPrimaryKey column :=
    Table.any_name_primaryKey hkey' column
  have hprint := @print_entity_eq_iff settings site base naming' key key' fun column hcolumn => by
    rw [henabled] at hcolumn
    rw [hall]
    exact Table.isPrimaryKey_of_withoutDisabledKeys hcolumn
  simp only [hall, henabled] at hprint
  rw [← hprint]
  constructor
  · rintro ⟨file, hfile, hfile'⟩
    exact ((yields_iff_print hentity').mp hfile').trans ((yields_iff_print hentity).mp hfile).symm
  · intro hsame
    obtain ⟨file, hfile, hyields⟩ := exists_yields hentity
    exact ⟨file, hyields, (yields_iff_print hentity').mpr (hsame.trans hfile)⟩

end

end TableSite

namespace EntityGenerator

section

variable {settings : EntitySettings} {project : Project} {fault : SchemaError}

/-- The fault of the first table of a project that has one. -/
def FirstFault (settings : EntitySettings) (project : Project) (fault : SchemaError) : Prop :=
  ∃ before site after, project.enabledSites = before ++ site :: after ∧
    (∀ earlier ∈ before, ∀ other, ¬ earlier.Fault settings other) ∧ site.Fault settings fault

/-- The fault that is reported is the first one. -/
theorem generate_eq_schema_error_iff :
    generate ⟨settings, .java⟩ project = .error (.schema fault) ↔
      FirstFault settings project fault := by
  rw [generate_eq_error_iff, FirstFault, ← found_eq_error_iff]
  simp

theorem exists_firstFault_iff :
    (∃ fault, FirstFault settings project fault) ↔
      ∃ site ∈ project.enabledSites, ∃ fault, site.Fault settings fault := by
  rw [← exists_generate_eq_error_iff]
  constructor
  · rintro ⟨fault, hfirst⟩
    exact ⟨_, generate_eq_schema_error_iff.mpr hfirst⟩
  · rintro ⟨error, herror⟩
    obtain ⟨fault, -, rfl⟩ := generate_eq_error_iff.mp herror
    exact ⟨fault, generate_eq_schema_error_iff.mp herror⟩

theorem enabledSites_withoutDisabledKeys (project : Project) :
    project.withoutDisabledKeys.enabledSites =
      project.enabledSites.map TableSite.withoutDisabledKeys := by
  have henabled : ∀ table : Table, table.withoutDisabledKeys.enabled = table.enabled :=
    fun _ => rfl
  exact Project.enabledSites_mapTables henabled project

/-- The first fault of a project stays, unless it is a disabled reference. -/
theorem FirstFault.withoutDisabledKeys (hfirst : FirstFault settings project fault) :
    FirstFault settings project.withoutDisabledKeys fault ∨
      ∃ before site after key, project.enabledSites = before ++ site :: after ∧
        (∀ earlier ∈ before, ∀ other, ¬ earlier.Fault settings other) ∧
        site.StoppedBy settings key ∧ fault = .unknownColumn site.table.name key.name := by
  obtain ⟨before, site, after, hsites, hbefore, hsite⟩ := hfirst
  rcases hsite.withoutDisabledKeys with hfault | ⟨key, hstopped, hfault⟩
  · refine Or.inl ⟨before.map TableSite.withoutDisabledKeys, site.withoutDisabledKeys,
      after.map TableSite.withoutDisabledKeys, ?_, ?_, hfault⟩
    · rw [enabledSites_withoutDisabledKeys, hsites, List.map_append, List.map_cons]
    · intro earlier hearlier
      obtain ⟨table, htable, rfl⟩ := List.mem_map.mp hearlier
      exact TableSite.not_fault_withoutDisabledKeys (hbefore table htable)
  · exact Or.inr ⟨before, site, after, key, hsites, hbefore, hstopped, hfault⟩

theorem included_withoutDisabledKeys (project : Project) :
    TableSite.included settings project.withoutDisabledKeys.enabledSites =
      (TableSite.included settings project.enabledSites).map TableSite.withoutDisabledKeys := by
  have hincluded : ∀ site : TableSite,
      (!site.withoutDisabledKeys.isExcluded settings) = !site.isExcluded settings :=
    fun _ => rfl
  rw [enabledSites_withoutDisabledKeys]
  exact filter_map_of_keeps hincluded

/-- Where no table has a fault, the files stay the same exactly if enabled
references name every column of a class that any reference names. -/
theorem generate_withoutDisabledKeys_iff_of_sound
    (hsound : ∀ site ∈ project.enabledSites, ∀ fault, ¬ site.Fault settings fault) :
    generate ⟨settings, .java⟩ project.withoutDisabledKeys = generate ⟨settings, .java⟩ project ↔
      ∀ site ∈ TableSite.included settings project.enabledSites, ∀ column ∈ site.columns,
        site.table.isPrimaryKey column = true →
          site.table.withoutDisabledKeys.isPrimaryKey column = true := by
  obtain ⟨files, hfiles⟩ := exists_generate_eq_ok_iff.mpr hsound
  obtain ⟨-, hyields⟩ := generate_eq_ok_iff.mp hfiles
  have hbase : basePackage settings project.withoutDisabledKeys = basePackage settings project :=
    rfl
  have hsound' : ∀ site ∈ project.withoutDisabledKeys.enabledSites,
      ∀ fault, ¬ site.Fault settings fault := by
    intro site hsite
    rw [enabledSites_withoutDisabledKeys] at hsite
    obtain ⟨table, htable, rfl⟩ := List.mem_map.mp hsite
    exact TableSite.not_fault_withoutDisabledKeys (hsound table htable)
  have hmember {site : TableSite}
      (hsite : site ∈ TableSite.included settings project.enabledSites) :
      (∀ fault, ¬ site.Fault settings fault) ∧ site.isExcluded settings = false := by
    obtain ⟨hmem, hincluded⟩ := (TableSite.mem_included_iff settings site).mp hsite
    exact ⟨hsound site hmem, hincluded⟩
  rw [hfiles, generate_eq_ok_iff, included_withoutDisabledKeys, hbase, List.forall₂_map_left_iff]
  constructor
  · rintro ⟨-, hyields'⟩ site hsite
    obtain ⟨hfaultless, hincluded⟩ := hmember hsite
    exact (TableSite.exists_yields_withoutDisabledKeys_iff hfaultless hincluded).mp
      (exists_of_mem_of_forall₂ hyields hyields' hsite)
  · intro hkeys
    refine ⟨hsound', ((List.forall₂_and_left _ _).mpr ⟨fun _ hsite => hsite, hyields⟩).imp ?_⟩
    rintro site file ⟨hsite, hfile⟩
    obtain ⟨hfaultless, hincluded⟩ := hmember hsite
    obtain ⟨other, hother, hother'⟩ :=
      (TableSite.exists_yields_withoutDisabledKeys_iff hfaultless hincluded).mpr (hkeys site hsite)
    exact TableSite.rightUnique_yields hfile hother ▸ hother'

/-- Deleting the disabled references of primary keys changes nothing exactly if
the first fault is none of them, or comes again, and in a project without faults
each included table has its enabled columns named by enabled references as far
as any reference names them. -/
theorem generate_withoutDisabledKeys_eq_iff (settings : EntitySettings) (project : Project) :
    generate ⟨settings, .java⟩ project.withoutDisabledKeys = generate ⟨settings, .java⟩ project ↔
      (∀ before site after key, project.enabledSites = before ++ site :: after →
        (∀ earlier ∈ before, ∀ fault, ¬ earlier.Fault settings fault) →
        site.StoppedBy settings key →
          FirstFault settings project.withoutDisabledKeys
            (.unknownColumn site.table.name key.name)) ∧
      ((∀ site ∈ project.enabledSites, ∀ fault, ¬ site.Fault settings fault) →
        ∀ site ∈ TableSite.included settings project.enabledSites, ∀ column ∈ site.columns,
          site.table.isPrimaryKey column = true →
            site.table.withoutDisabledKeys.isPrimaryKey column = true) := by
  constructor
  · intro hsame
    refine ⟨?_, fun hsound => (generate_withoutDisabledKeys_iff_of_sound hsound).mp hsame⟩
    intro before site after key hsites hbefore hstopped
    apply generate_eq_schema_error_iff.mp
    rw [hsame]
    exact generate_eq_schema_error_iff.mpr
      ⟨before, site, after, hsites, hbefore, .of_stoppedBy hstopped⟩
  · rintro ⟨hfault, hkeys⟩
    by_cases hsound : ∀ site ∈ project.enabledSites, ∀ fault, ¬ site.Fault settings fault
    · exact (generate_withoutDisabledKeys_iff_of_sound hsound).mpr (hkeys hsound)
    · push Not at hsound
      obtain ⟨fault, hfirst⟩ := exists_firstFault_iff.mpr hsound
      have hfirst' : FirstFault settings project.withoutDisabledKeys fault := by
        rcases hfirst.withoutDisabledKeys with
          hstays | ⟨before, site, after, key, hsites, hbefore, hstopped, rfl⟩
        · exact hstays
        · exact hfault before site after key hsites hbefore hstopped
      rw [generate_eq_schema_error_iff.mpr hfirst, generate_eq_schema_error_iff.mpr hfirst']

end

namespace Retired

/-- A column that only a disabled reference names. -/
def idColumn : Column := ⟨"id", none, true, "INT", true, false⟩

def table : Table := ⟨"t", none, true, [idColumn], [⟨"id", none, false⟩]⟩

def schema : Schema := ⟨"s", none, true, [table]⟩

def dbms : Dbms := ⟨"d", none, true, "mysql", [schema]⟩

def project : Project := ⟨"p", none, true, none, [dbms]⟩

def site : TableSite := ⟨dbms, schema, table⟩

theorem found_eq :
    found .initial project = .ok [some (site.entity .initial "p" .mysql [idColumn])] := rfl

theorem found_withoutDisabledKeys :
    found .initial project.withoutDisabledKeys =
      .ok [some (site.withoutDisabledKeys.entity .initial "p" .mysql [])] := rfl

end Retired

/-- A disabled reference marks the field of its column: both projects come to
files, but not to the same ones. -/
theorem disabled_reference_marks_field :
    (∃ files, generate java Retired.project = .ok files) ∧
      (∃ files, generate java Retired.project.withoutDisabledKeys = .ok files) ∧
      generate java Retired.project.withoutDisabledKeys ≠ generate java Retired.project := by
  obtain ⟨files, hfiles, -⟩ := generate_of_found_eq_ok Retired.found_eq
  obtain ⟨others, hothers, -⟩ := generate_of_found_eq_ok Retired.found_withoutDisabledKeys
  refine ⟨⟨files, hfiles⟩, ⟨others, hothers⟩, ?_⟩
  intro hsame
  have hsound := exists_found_eq_ok_iff.mp ⟨_, Retired.found_eq⟩
  have hkeys := (generate_withoutDisabledKeys_iff_of_sound hsound).mp hsame
  have hnamed := hkeys Retired.site (List.mem_singleton_self _) Retired.idColumn
    (List.mem_singleton_self _) (by decide)
  exact absurd hnamed (by decide)

end EntityGenerator

end TableScribe
