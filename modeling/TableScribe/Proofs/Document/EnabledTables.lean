/-
The enabled tables of a project by their places.  A document that is switched
off hides what is below it, and one that is on shows what its children show, with
the number of the child put before each place.  So the enabled tables are a nested
selection, and to switch a document off takes away the tables whose places lead
through it and no others.
-/
import TableScribe.Proofs.Document.Preorder
import TableScribe.Proofs.Document.TableSite

namespace TableScribe

/-- A table with its place: the numbers of the children on the way down to it. -/
structure PlacedTable where
  place : List Nat
  table : Table
deriving DecidableEq

namespace PlacedTable

/-- Whether the way to a table does not lead through a place. -/
def isOutside (place : List Nat) (placed : PlacedTable) : Bool := !place.isPrefixOf placed.place

/-- The table as it is placed one level further up, under a child of some number. -/
def under (position : Nat) (placed : PlacedTable) : PlacedTable :=
  { placed with place := position :: placed.place }

/-- What a document shows, from what each of its children shows: nothing, unless it
is enabled itself. -/
def gather (enabled : Bool) (shown : List (List PlacedTable)) : List PlacedTable :=
  if enabled then shown.zipIdx.flatMap fun entry => entry.1.map (under entry.2) else []

end PlacedTable

open PlacedTable (gather isOutside)

def Table.placedTables (table : Table) : List PlacedTable :=
  if table.enabled then [⟨[], table⟩] else []

def Schema.placedTables (schema : Schema) : List PlacedTable :=
  gather schema.enabled (schema.tables.map Table.placedTables)

/-- The enabled tables of the enabled schemas of a database system that is enabled. -/
def Dbms.placedTables (dbms : Dbms) : List PlacedTable :=
  gather dbms.enabled (dbms.schemas.map Schema.placedTables)

/-- The tables of a project that are enabled together with all above them, each with
its place. -/
def Project.placedTables (project : Project) : List PlacedTable :=
  gather project.enabled (project.dbmses.map Dbms.placedTables)

def Table.switchOff (table : Table) : List Nat → Table
  | [] => { table with enabled := false }
  | _ :: _ => table

/-- A schema with one of its tables switched off, or switched off itself. -/
def Schema.switchOff (schema : Schema) : List Nat → Schema
  | [] => { schema with enabled := false }
  | position :: place =>
    { schema with tables := schema.tables.modify position (·.switchOff place) }

/-- A database system with a schema or a table below it switched off, or switched off
itself. -/
def Dbms.switchOff (dbms : Dbms) : List Nat → Dbms
  | [] => { dbms with enabled := false }
  | position :: place =>
    { dbms with schemas := dbms.schemas.modify position (·.switchOff place) }

/-- A project with the database system, the schema or the table at a place switched
off, or switched off itself. -/
def Project.switchOff (project : Project) : List Nat → Project
  | [] => { project with enabled := false }
  | position :: place =>
    { project with dbmses := project.dbmses.modify position (·.switchOff place) }

/-- A path leads to a table, and the way to the place of the table is its way from a
place in a tree on. -/
structure PlacedTable.LedTo (root : Document) (start : List Nat) (placed : PlacedTable)
    (path : DocumentPath) : Prop where
  stands : path.StandsAt root (start ++ placed.place)
  document : path.document = .table placed.table

/-- Placed tables are the enabled tables of a project: in document order, each place
once, those of the enabled tables of enabled schemas of enabled database systems, and
with the paths that are found for them. -/
structure Project.Lists (project : Project) (tables : List PlacedTable) : Prop where
  paths : List.Forall₂ (PlacedTable.LedTo (.project project) []) tables project.enabledTables
  ascending : (tables.map PlacedTable.place).Pairwise (List.Lex (· < ·))
  mem_iff : ∀ placed, placed ∈ tables ↔ project.enabled = true ∧
    ∃ i dbms, project.dbmses[i]? = some dbms ∧ dbms.enabled = true ∧
    ∃ j schema, dbms.schemas[j]? = some schema ∧ schema.enabled = true ∧
    ∃ k table, schema.tables[k]? = some table ∧ table.enabled = true ∧
      placed = ⟨[i, j, k], table⟩

namespace PlacedTable

theorem mem_gather {α : Type} {enabled : Bool} {shown : α → List PlacedTable} {items : List α}
    {placed : PlacedTable} :
    placed ∈ gather enabled (items.map shown) ↔ enabled = true ∧
      ∃ position item, items[position]? = some item ∧
        ∃ inner ∈ shown item, placed = under position inner := by
  cases enabled with
  | false => simp [gather]
  | true =>
      simp only [gather, if_true, true_and, List.zipIdx_map, List.flatMap_map, List.mem_flatMap,
        List.mem_map, Prod.exists, List.mem_zipIdx_iff_getElem?]
      constructor
      · rintro ⟨item, position, hitem, inner, hinner, rfl⟩
        exact ⟨position, item, hitem, inner, hinner, rfl⟩
      · rintro ⟨position, item, hitem, inner, hinner, rfl⟩
        exact ⟨item, position, hitem, inner, hinner, rfl⟩

/-- Where the parts are in the order of their places, so is the whole. -/
theorem pairwise_gather (enabled : Bool) {shown : List (List PlacedTable)}
    (hshown : ∀ tables ∈ shown, (tables.map place).Pairwise (List.Lex (· < ·))) :
    ((gather enabled shown).map place).Pairwise (List.Lex (· < ·)) := by
  cases enabled with
  | false => exact .nil
  | true =>
      rw [gather, if_pos rfl, List.map_flatMap, List.pairwise_flatMap]
      constructor
      · intro entry hentry
        have htables := hshown entry.1 (List.fst_mem_of_mem_zipIdx hentry)
        rw [List.map_map, List.pairwise_map]
        exact (List.pairwise_map.mp htables).imp .cons
      · have hpositions : (shown.zipIdx.map Prod.snd).Pairwise (· < ·) := by
          rw [List.zipIdx_map_snd]
          exact List.pairwise_lt_range' 1
        refine (List.pairwise_map.mp hpositions).imp ?_
        intro first second hlt place hplace other hother
        simp only [List.map_map, List.mem_map] at hplace hother
        obtain ⟨inner, -, rfl⟩ := hplace
        obtain ⟨further, -, rfl⟩ := hother
        exact .rel hlt

@[simp] theorem isOutside_under (position other : Nat) (place : List Nat) (placed : PlacedTable) :
    isOutside (position :: place) (placed.under other) =
      (position != other || isOutside place placed) := by
  simp [isOutside, under, List.isPrefixOf, bne]

@[simp] theorem filter_isOutside_nil (tables : List PlacedTable) :
    tables.filter (isOutside []) = [] := by
  simp [isOutside, List.isPrefixOf]

theorem zipIdx_modify {α : Type} (items : List α) (position : Nat) (change : α → α) :
    (items.modify position change).zipIdx =
      items.zipIdx.map fun entry =>
        (if position = entry.2 then change entry.1 else entry.1, entry.2) := by
  apply List.ext_getElem?
  intro other
  cases hitem : items[other]? <;> simp [List.getElem?_zipIdx, List.getElem?_modify, hitem]

/-- When a change of one child leaves just the tables outside a place, so it does in
the whole. -/
theorem gather_map_modify {α : Type} {shown : α → List PlacedTable} {change : α → α}
    {place : List Nat}
    (hchange : ∀ item, shown (change item) = (shown item).filter (isOutside place))
    (enabled : Bool) (items : List α) (position : Nat) :
    gather enabled ((items.modify position change).map shown) =
      (gather enabled (items.map shown)).filter (isOutside (position :: place)) := by
  cases enabled with
  | false => rfl
  | true =>
      simp only [gather, if_true, List.zipIdx_map, zipIdx_modify, List.map_map, List.flatMap_map,
        List.filter_flatMap]
      refine List.flatMap_congr fun entry _ => ?_
      obtain ⟨item, other⟩ := entry
      rw [List.filter_map]
      by_cases hposition : position = other
      · subst hposition
        have hkept : isOutside (position :: place) ∘ under position = isOutside place := by
          funext placed
          simp
        simp [hkept, hchange]
      · have hkept : isOutside (position :: place) ∘ under other = fun _ => true := by
          funext placed
          simp [hposition]
        simp [hkept, hposition]

/-- Tables are those that the walk below a document finds enabled, as long as all
above the document is enabled. -/
def ShownBelow (root document : Document) (tables : List PlacedTable) : Prop :=
  ∀ (path : DocumentPath) start, path.document = document → path.StandsAt root start →
    path.ancestors.all Document.enabled = true →
      List.Forall₂ (LedTo root start) tables (path.walk.filter DocumentPath.isEnabledTable)

variable {root : Document}

theorem shownBelow_table (table : Table) :
    ShownBelow root (.table table) table.placedTables := by
  intro path start htable hstands habove
  have hpath : path.isEnabled = table.enabled := by
    simp [DocumentPath.isEnabled, htable, Document.enabled, habove]
  unfold Table.placedTables
  cases henabled : table.enabled with
  | false =>
      rw [DocumentPath.filter_walk_of_disabled (hpath.trans henabled)]
      exact .nil
  | true =>
      rw [DocumentPath.filter_walk_table (hpath.trans henabled) htable]
      exact .cons ⟨by simpa using hstands, htable⟩ .nil

theorem shownBelow_gather {α : Type} {wrap : α → Document} {shown : α → List PlacedTable}
    (hitems : ∀ item, ShownBelow root (wrap item) (shown item)) {document : Document}
    {items : List α} (hlevel : document.level ≠ .table)
    (hchildren : document.children = items.map wrap) :
    ShownBelow root document (gather document.enabled (items.map shown)) := by
  rintro path start rfl hstands habove
  have hpath : path.isEnabled = path.document.enabled := by
    simp [DocumentPath.isEnabled, habove]
  cases henabled : path.document.enabled with
  | false =>
      rw [DocumentPath.filter_walk_of_disabled (hpath.trans henabled)]
      exact .nil
  | true =>
      have hwalk : path.walk.filter DocumentPath.isEnabledTable =
          items.zipIdx.flatMap fun entry =>
            (path.child (wrap entry.1)).walk.filter DocumentPath.isEnabledTable := by
        rw [DocumentPath.filter_walk_eq_flatMap hlevel, DocumentPath.children, hchildren,
          List.map_map, List.flatMap_map]
        conv_lhs => rw [← List.zipIdx_map_fst 0 items, List.flatMap_map]
        rfl
      have hself : List.Forall₂ (fun first second => first = second ∧ first ∈ items.zipIdx)
          items.zipIdx items.zipIdx := List.forall₂_same.mpr fun _ hentry => ⟨rfl, hentry⟩
      rw [hwalk, gather, if_pos rfl, List.zipIdx_map, List.flatMap_map]
      refine List.rel_flatMap hself ?_
      rintro ⟨item, position⟩ _ ⟨rfl, hentry⟩
      have hchild : path.document.children[position]? = some (wrap item) := by
        simp [hchildren, List.mem_zipIdx_iff_getElem?.mp hentry]
      have hbelow := hitems item (path.child (wrap item)) (start ++ [position]) rfl
        (hstands.child hchild) (by simpa [DocumentPath.child, henabled] using habove)
      rw [List.forall₂_map_left_iff]
      exact hbelow.imp fun _ _ hled => ⟨by simpa [under] using hled.stands, hled.document⟩

end PlacedTable

namespace Table

theorem mem_placedTables {table : Table} {placed : PlacedTable} :
    placed ∈ table.placedTables ↔ table.enabled = true ∧ placed = ⟨[], table⟩ := by
  unfold placedTables
  cases table.enabled <;> simp

theorem pairwise_placedTables (table : Table) :
    (table.placedTables.map PlacedTable.place).Pairwise (List.Lex (· < ·)) := by
  unfold placedTables
  split <;> simp

/-- Switching a document off leaves the tables whose places do not lead through it. -/
theorem placedTables_switchOff (table : Table) (place : List Nat) :
    (table.switchOff place).placedTables = table.placedTables.filter (isOutside place) := by
  cases place with
  | nil => simp [switchOff, placedTables]
  | cons position place =>
      change table.placedTables = _
      unfold placedTables
      cases table.enabled <;> rfl

end Table

namespace Schema

theorem mem_placedTables {schema : Schema} {placed : PlacedTable} :
    placed ∈ schema.placedTables ↔ schema.enabled = true ∧
      ∃ k table, schema.tables[k]? = some table ∧ table.enabled = true ∧
        placed = ⟨[k], table⟩ := by
  simp [placedTables, PlacedTable.mem_gather, Table.mem_placedTables, PlacedTable.under, and_assoc]

theorem pairwise_placedTables (schema : Schema) :
    (schema.placedTables.map PlacedTable.place).Pairwise (List.Lex (· < ·)) :=
  PlacedTable.pairwise_gather _ (List.forall_mem_map.mpr fun table _ =>
    table.pairwise_placedTables)

theorem placedTables_switchOff (schema : Schema) (place : List Nat) :
    (schema.switchOff place).placedTables = schema.placedTables.filter (isOutside place) := by
  cases place with
  | nil => simp [switchOff, placedTables, gather]
  | cons position place =>
      exact PlacedTable.gather_map_modify
        (fun table : Table => table.placedTables_switchOff place) schema.enabled schema.tables
        position

end Schema

namespace Dbms

theorem mem_placedTables {dbms : Dbms} {placed : PlacedTable} :
    placed ∈ dbms.placedTables ↔ dbms.enabled = true ∧
      ∃ j schema, dbms.schemas[j]? = some schema ∧ schema.enabled = true ∧
      ∃ k table, schema.tables[k]? = some table ∧ table.enabled = true ∧
        placed = ⟨[j, k], table⟩ := by
  simp [placedTables, PlacedTable.mem_gather, Schema.mem_placedTables, PlacedTable.under, and_assoc]

theorem pairwise_placedTables (dbms : Dbms) :
    (dbms.placedTables.map PlacedTable.place).Pairwise (List.Lex (· < ·)) :=
  PlacedTable.pairwise_gather _ (List.forall_mem_map.mpr fun schema _ =>
    schema.pairwise_placedTables)

theorem placedTables_switchOff (dbms : Dbms) (place : List Nat) :
    (dbms.switchOff place).placedTables = dbms.placedTables.filter (isOutside place) := by
  cases place with
  | nil => simp [switchOff, placedTables, gather]
  | cons position place =>
      exact PlacedTable.gather_map_modify
        (fun schema : Schema => schema.placedTables_switchOff place) dbms.enabled dbms.schemas
        position

end Dbms

namespace Project

theorem mem_placedTables {project : Project} {placed : PlacedTable} :
    placed ∈ project.placedTables ↔ project.enabled = true ∧
      ∃ i dbms, project.dbmses[i]? = some dbms ∧ dbms.enabled = true ∧
      ∃ j schema, dbms.schemas[j]? = some schema ∧ schema.enabled = true ∧
      ∃ k table, schema.tables[k]? = some table ∧ table.enabled = true ∧
        placed = ⟨[i, j, k], table⟩ := by
  simp [placedTables, PlacedTable.mem_gather, Dbms.mem_placedTables, PlacedTable.under, and_assoc]

theorem pairwise_placedTables (project : Project) :
    (project.placedTables.map PlacedTable.place).Pairwise (List.Lex (· < ·)) :=
  PlacedTable.pairwise_gather _ (List.forall_mem_map.mpr fun dbms _ =>
    dbms.pairwise_placedTables)

theorem placedTables_switchOff (project : Project) (place : List Nat) :
    (project.switchOff place).placedTables = project.placedTables.filter (isOutside place) := by
  cases place with
  | nil => simp [switchOff, placedTables, gather]
  | cons position place =>
      exact PlacedTable.gather_map_modify
        (fun dbms : Dbms => dbms.placedTables_switchOff place) project.enabled project.dbmses
        position

open PlacedTable in
theorem lists_placedTables (project : Project) : project.Lists project.placedTables where
  paths := by
    have hschema (schema : Schema) :
        ShownBelow (.project project) (.schema schema) schema.placedTables :=
      shownBelow_gather shownBelow_table nofun rfl
    have hdbms (dbms : Dbms) : ShownBelow (.project project) (.dbms dbms) dbms.placedTables :=
      shownBelow_gather hschema nofun rfl
    have hproject : ShownBelow (.project project) (.project project) project.placedTables :=
      shownBelow_gather hdbms nofun rfl
    have hwalk := hproject (.root project) [] rfl (DocumentPath.standsAt_root project) rfl
    rw [← traverse_eq_walk] at hwalk
    exact hwalk
  ascending := project.pairwise_placedTables
  mem_iff _ := mem_placedTables

/-- The enabled tables of a project are selected level by level.  To switch the
document at a place off takes away the tables below the place and keeps the others in
their order. -/
theorem enabledTables_nested (project : Project) :
    project.enabledTables = project.enabledSites.map (TableSite.path project) ∧
    project.Lists project.placedTables ∧
    ∀ place, (project.switchOff place).Lists (project.placedTables.filter (isOutside place)) := by
  refine ⟨enabledTables_eq_map project, lists_placedTables project, fun place => ?_⟩
  rw [← placedTables_switchOff]
  exact lists_placedTables _

/-- Tables of one name in schemas of one name are told apart by their places. -/
example :
    let table : Table := ⟨"t", none, true, [], []⟩
    let schema : Schema := ⟨"s", none, true, [table]⟩
    let project : Project := ⟨"p", none, true, none, [⟨"d", none, true, "mysql", [schema, schema]⟩]⟩
    (project.switchOff [0, 0]).placedTables = [⟨[0, 1, 0], table⟩] := by
  decide

end Project

end TableScribe
