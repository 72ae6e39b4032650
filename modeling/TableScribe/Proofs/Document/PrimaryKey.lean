/-
Primary keys are resolved reference by reference, each to the first column of its
name, up to the first one that names no column.
-/
import TableScribe.Document.PrimaryKey
import TableScribe.Proofs.Attempts

namespace TableScribe

namespace Table

/-- A column is the first one of a table that goes by a name. -/
def IsFirstNamed (table : Table) (name : String) (column : Column) : Prop :=
  ∃ before after, table.columns = before ++ column :: after ∧ column.name = name ∧
    ∀ earlier ∈ before, earlier.name ≠ name

/-- A reference of a primary key names no column. -/
def Dangles (table : Table) (key : KeyColumn) : Prop :=
  ∀ column ∈ table.columns, column.name ≠ key.name

/-- How a primary key is looked up: up to the first reference that names no column, or
else to the first column of each name; and what goes by the name of a column found is
what the predicate says. -/
structure ResolvesKey (table : Table) : Prop where
  fails_iff : (∃ error, table.primaryKey = .error error) ↔
    ∃ key ∈ table.keyColumns, table.Dangles key
  error_iff : ∀ error, table.primaryKey = .error error ↔
    ∃ before key after, table.keyColumns = before ++ key :: after ∧
      (∀ earlier ∈ before, ¬ table.Dangles earlier) ∧ table.Dangles key ∧
      error = .unknownColumn table.name key.name
  ok_iff : ∀ columns, table.primaryKey = .ok columns ↔
    List.Forall₂ (fun key column => table.IsFirstNamed key.name column) table.keyColumns columns
  named_iff : ∀ columns, table.primaryKey = .ok columns → ∀ column ∈ table.columns,
    (∃ other ∈ columns, other.name = column.name) ↔ table.isPrimaryKey column = true

variable {table : Table}

/-- The first reference of the primary key that names no column. -/
def danglingKey? (table : Table) : Option KeyColumn :=
  table.keyColumns.find? fun key => table.columns.all fun column => column.name != key.name

/-- A reference is not resolved exactly if it names no column. -/
theorem resolve_eq_error_iff {key : KeyColumn} {error : SchemaError} :
    table.resolve key = .error error ↔
      (table.columns.all fun column => column.name != key.name) = true ∧
        error = .unknownColumn table.name key.name := by
  unfold resolve column?
  cases hfind : table.columns.find? fun column => column.name == key.name with
  | none =>
      have hall := List.find?_eq_none.mp hfind
      have hdangling : (table.columns.all fun column => column.name != key.name) = true := by
        simpa using hall
      simp only [hdangling, true_and, Except.error.injEq]
      exact eq_comm
  | some column =>
      have hname := List.find?_some hfind
      have hmem := List.mem_of_find?_eq_some hfind
      simp only [beq_iff_eq] at hname
      simp only [reduceCtorEq, List.all_eq_true, bne_iff_ne, false_iff, not_and]
      exact fun hall => absurd hname (hall column hmem)

theorem exists_resolve_iff {key : KeyColumn} :
    (∃ column, table.resolve key = .ok column) ↔
      (table.columns.all fun column => column.name != key.name) = false := by
  rw [← Bool.not_eq_true]
  cases hresolve : table.resolve key with
  | error error => simp [(resolve_eq_error_iff.mp hresolve).1]
  | ok column =>
      simp only [Except.ok.injEq, exists_eq', true_iff]
      intro hall
      simp [resolve_eq_error_iff.mpr ⟨hall, rfl⟩] at hresolve

/-- A primary key is not resolved exactly if a reference names no column; the
first such reference is reported. -/
theorem primaryKey_eq_error_iff {error : SchemaError} :
    table.primaryKey = .error error ↔
      ∃ key, table.danglingKey? = some key ∧ error = .unknownColumn table.name key.name := by
  simp only [primaryKey, mapM_eq_error_iff, danglingKey?, List.find?_eq_some_iff_append,
    resolve_eq_error_iff, exists_resolve_iff, Bool.not_eq_true']
  constructor
  · rintro ⟨before, key, after, hkeys, hbefore, hkey, herror⟩
    exact ⟨key, ⟨hkey, before, after, hkeys, hbefore⟩, herror⟩
  · rintro ⟨key, ⟨hkey, before, after, hkeys, hbefore⟩, herror⟩
    exact ⟨before, key, after, hkeys, hbefore, hkey, herror⟩

theorem column?_eq_some_iff {name : String} {column : Column} :
    table.column? name = some column ↔ table.IsFirstNamed name column := by
  simp only [column?, IsFirstNamed, List.find?_eq_some_iff_append, beq_iff_eq, Bool.not_eq_true',
    beq_eq_false_iff_ne]
  constructor
  · rintro ⟨hname, before, after, hcolumns, hbefore⟩
    exact ⟨before, after, hcolumns, hname, hbefore⟩
  · rintro ⟨before, after, hcolumns, hname, hbefore⟩
    exact ⟨hname, before, after, hcolumns, hbefore⟩

/-- A reference is resolved to the first column of its name. -/
theorem resolve_eq_ok_iff {key : KeyColumn} {column : Column} :
    table.resolve key = .ok column ↔ table.IsFirstNamed key.name column := by
  rw [← column?_eq_some_iff, resolve]
  cases table.column? key.name <;> simp

theorem name_of_resolve_eq_ok {key : KeyColumn} {column : Column}
    (hresolve : table.resolve key = .ok column) : column.name = key.name := by
  obtain ⟨before, after, -, hname, -⟩ := resolve_eq_ok_iff.mp hresolve
  exact hname

/-- The columns of a primary key go by the names that its references use. -/
theorem any_name_primaryKey {columns : List Column} (hcolumns : table.primaryKey = .ok columns)
    (column : Column) :
    (columns.any fun other => other.name == column.name) = table.isPrimaryKey column := by
  have hnames := mapM_eq_ok_iff.mp hcolumns
  unfold isPrimaryKey
  clear hcolumns
  generalize table.keyColumns = keys at hnames ⊢
  induction hnames with
  | nil => rfl
  | cons hresolve _ ih => rw [List.any_cons, List.any_cons, ih, name_of_resolve_eq_ok hresolve]

theorem dangles_iff {key : KeyColumn} :
    table.Dangles key ↔ (table.columns.all fun column => column.name != key.name) = true := by
  simp [Dangles]

/-- The reference that is reported is the first one that dangles. -/
theorem danglingKey?_eq_some_iff {key : KeyColumn} :
    table.danglingKey? = some key ↔
      ∃ before after, table.keyColumns = before ++ key :: after ∧
        (∀ earlier ∈ before, ¬ table.Dangles earlier) ∧ table.Dangles key := by
  simp only [danglingKey?, List.find?_eq_some_iff_append, dangles_iff, Bool.not_eq_true',
    Bool.not_eq_true]
  constructor
  · rintro ⟨hkey, before, after, hkeys, hbefore⟩
    exact ⟨before, after, hkeys, hbefore, hkey⟩
  · rintro ⟨before, after, hkeys, hbefore, hkey⟩
    exact ⟨hkey, before, after, hkeys, hbefore⟩

theorem resolvesKey (table : Table) : table.ResolvesKey where
  fails_iff := by
    have hsome : table.danglingKey?.isSome = true ↔
        ∃ key ∈ table.keyColumns, table.Dangles key := by
      simp only [danglingKey?, List.find?_isSome, dangles_iff]
    rw [← hsome, Option.isSome_iff_exists]
    constructor
    · rintro ⟨error, herror⟩
      obtain ⟨key, hkey, -⟩ := primaryKey_eq_error_iff.mp herror
      exact ⟨key, hkey⟩
    · rintro ⟨key, hkey⟩
      exact ⟨_, primaryKey_eq_error_iff.mpr ⟨key, hkey, rfl⟩⟩
  error_iff error := by
    simp only [primaryKey_eq_error_iff, danglingKey?_eq_some_iff]
    constructor
    · rintro ⟨key, ⟨before, after, hkeys, hbefore, hkey⟩, herror⟩
      exact ⟨before, key, after, hkeys, hbefore, hkey, herror⟩
    · rintro ⟨before, key, after, hkeys, hbefore, hkey, herror⟩
      exact ⟨key, ⟨before, after, hkeys, hbefore, hkey⟩, herror⟩
  ok_iff columns := by
    simp only [primaryKey, mapM_eq_ok_iff, resolve_eq_ok_iff]
  named_iff columns hcolumns column _ := by
    rw [← any_name_primaryKey hcolumns]
    simp

end Table

end TableScribe
