/-
Reading projects back.  Whatever way a project is written, it is read from the
text: while the keys of an object come in, its draft holds what has been seen.
-/
import TableScribe.Document.Reader
import TableScribe.Proofs.Document.Format

namespace TableScribe

open Json (Tree)

namespace Document

open Json (FieldRule RecordRule Read Items Slot)

section Values

theorem IsText.readString {text : String} {tree : Tree} (htree : IsText text tree) :
    tree.readString = .ok text := by
  obtain ⟨literal, rfl, hliteral⟩ := htree
  exact hliteral.read

theorem IsOptionalText.readOptionalString {text : Option String} {tree : Tree}
    (htree : IsOptionalText text tree) : tree.readOptionalString = .ok text := by
  cases text with
  | none =>
      obtain rfl : tree = .null := htree
      rfl
  | some text =>
      obtain ⟨literal, rfl, hliteral⟩ := htree
      simp [Tree.readOptionalString, Tree.readString, hliteral.read, Except.map]

theorem IsFlag.readBool {flag : Bool} {tree : Tree} (htree : IsFlag flag tree) :
    tree.readBool = .ok flag := by
  obtain rfl : tree = .bool flag := htree
  rfl

/-- A list is read if each of its values is. -/
theorem IsListOf.readList {α : Type} {IsWritten : α → Tree → Prop} {read : Tree → Read α}
    (hread : ∀ value tree, IsWritten value tree → tree.skip = .ok () → read tree = .ok value)
    {values : List α} {tree : Tree} (htree : IsListOf IsWritten values tree)
    (hskip : tree.skip = .ok ()) : tree.readList read = .ok values := by
  obtain ⟨items, trees, rfl, hlists, hwritten⟩ := htree
  have hitems : items.skip = .ok () := hskip
  rw [Tree.readList]
  clear hskip
  induction hlists generalizing values with
  | close =>
      cases hwritten
      rfl
  | @item value rest trees _ ih =>
      obtain _ | ⟨hvalue, hvalues⟩ := hwritten
      obtain ⟨hvalueSkip, hrestSkip⟩ := Json.Items.skip_item_eq_ok_iff.mp hitems
      simp [Items.readEach, hread _ _ hvalue hvalueSkip, ih hvalues hrestSkip, bind, Except.bind,
        pure, Except.pure]

end Values

/-- What is known of a value once some keys have been seen. -/
def given {α : Type} (key : String) (value : α) (seen : List String) : Option α :=
  if key ∈ seen then some value else none

theorem given_isSome_iff {α : Type} {key : String} {value : α} {seen : List String} :
    (given key value seen).isSome = true ↔ key ∈ seen := by
  simp [given]

/-- A value that was left out is the standard one. -/
theorem given_getD {α : Type} {key : String} {value standard : α} {seen : List String}
    (hseen : key ∈ seen ∨ value = standard) : (given key value seen).getD standard = value := by
  rw [given]
  split_ifs with hkey
  · rfl
  · exact (hseen.resolve_left hkey).symm

@[simp]
theorem given_cons {α : Type} (key other : String) (value : α) (seen : List String) :
    given key value (other :: seen) = if key = other then some value else given key value seen := by
  by_cases hkey : key = other <;> simp [given, hkey]

section Settling

variable {key : String} {seen : List String}

theorem text_getD {text : String} (hslot : (textSlot key text).SettledBy seen)
    (standard : String) : (given key text seen).getD standard = text :=
  given_getD (hslot.imp_right False.elim)

theorem optionalText_getD {text : Option String}
    (hslot : (optionalTextSlot key text).SettledBy seen) :
    (given key text seen).getD none = text :=
  given_getD hslot

theorem flag_getD {flag standard : Bool} (hslot : (flagSlot key flag standard).SettledBy seen) :
    (given key flag seen).getD standard = flag :=
  given_getD hslot

theorem list_getD {α : Type} {IsWritten : α → Tree → Prop} {values : List α}
    (hslot : (listSlot key IsWritten values).SettledBy seen) :
    (given key values seen).getD [] = values :=
  given_getD hslot

end Settling

section Fields

variable {δ β : Type} {draft : List String → δ} {get : δ → Option β} {put : δ → β → δ}

/-- A field is filled if its value is put where it is looked for. -/
theorem fills_fieldRule (slot : Slot) (value : β) {required : Bool} {read : Tree → Read β}
    (hrequired : required = true → ¬slot.Omissible)
    (hread : ∀ tree, slot.Admits tree → tree.skip = .ok () → read tree = .ok value)
    (hget : ∀ seen, get (draft seen) = given slot.key value seen)
    (hput : ∀ seen, put (draft seen) value = draft (slot.key :: seen)) :
    (Reader.fieldRule slot.key required read get put).Fills draft slot where
  key := rfl
  required := hrequired
  isSet seen := by
    change (get (draft seen)).isSome = true ↔ slot.key ∈ seen
    rw [hget]
    exact given_isSome_iff
  read seen tree hadmits hskip := by
    change (read tree).map (put (draft seen)) = .ok (draft (slot.key :: seen))
    rw [hread tree hadmits hskip]
    exact congrArg Except.ok (hput seen)

theorem fills_text {get : δ → Option String} {put : δ → String → δ} (key text : String)
    (hget : ∀ seen, get (draft seen) = given key text seen)
    (hput : ∀ seen, put (draft seen) text = draft (key :: seen)) :
    (Reader.fieldRule key true Tree.readString get put).Fills draft (textSlot key text) :=
  fills_fieldRule (textSlot key text) text (fun _ => not_false)
    (fun _ htree _ => IsText.readString htree) hget hput

theorem fills_optionalText {get : δ → Option (Option String)} {put : δ → Option String → δ}
    (key : String) (text : Option String) (hget : ∀ seen, get (draft seen) = given key text seen)
    (hput : ∀ seen, put (draft seen) text = draft (key :: seen)) :
    (Reader.fieldRule key false Tree.readOptionalString get put).Fills draft
      (optionalTextSlot key text) :=
  fills_fieldRule (optionalTextSlot key text) text nofun
    (fun _ htree _ => IsOptionalText.readOptionalString htree) hget hput

theorem fills_flag {get : δ → Option Bool} {put : δ → Bool → δ} (key : String)
    (flag standard : Bool) (hget : ∀ seen, get (draft seen) = given key flag seen)
    (hput : ∀ seen, put (draft seen) flag = draft (key :: seen)) :
    (Reader.fieldRule key false Tree.readBool get put).Fills draft (flagSlot key flag standard) :=
  fills_fieldRule (flagSlot key flag standard) flag nofun
    (fun _ htree _ => IsFlag.readBool htree) hget hput

theorem fills_list {get : δ → Option (List β)} {put : δ → List β → δ}
    {IsWritten : β → Tree → Prop} {read : Tree → Read β} (key : String) (values : List β)
    (hread : ∀ value tree, IsWritten value tree → tree.skip = .ok () → read tree = .ok value)
    (hget : ∀ seen, get (draft seen) = given key values seen)
    (hput : ∀ seen, put (draft seen) values = draft (key :: seen)) :
    (Reader.fieldRule key false (Tree.readList read) get put).Fills draft
      (listSlot key IsWritten values) :=
  fills_fieldRule (listSlot key IsWritten values) values nofun
    (fun _ htree hskip => IsListOf.readList hread htree hskip) hget hput

end Fields

/-- The header of a document once some keys have been seen. -/
def headerDraft (name : String) (javaAlias : Option String) (enabled : Bool)
    (seen : List String) : Reader.Header where
  name := given "name" name seen
  javaAlias := given "alias" javaAlias seen
  enabled := given "enabled" enabled seen

section Headers

variable {δ : Type} {draft : List String → δ} {get : δ → Reader.Header}
  {put : δ → Reader.Header → δ} {name : String} {javaAlias : Option String} {enabled : Bool}

theorem fills_headerRules
    (hget : ∀ seen, get (draft seen) = headerDraft name javaAlias enabled seen)
    (hput : ∀ key ∈ ["name", "alias", "enabled"], ∀ seen,
      put (draft seen) (headerDraft name javaAlias enabled (key :: seen)) = draft (key :: seen)) :
    List.Forall₂ (FieldRule.Fills · draft) (Reader.headerRules get put)
      (headerSlots name javaAlias enabled) := by
  refine .cons (fills_text "name" name ?_ ?_) (.cons (fills_optionalText "alias" javaAlias ?_ ?_)
    (.cons (fills_flag "enabled" enabled true ?_ ?_) .nil))
  · exact fun seen => congrArg Reader.Header.name (hget seen)
  · intro seen
    rw [← hput "name" (by simp), hget]
    simp [headerDraft]
  · exact fun seen => congrArg Reader.Header.javaAlias (hget seen)
  · intro seen
    rw [← hput "alias" (by simp), hget]
    simp [headerDraft]
  · exact fun seen => congrArg Reader.Header.enabled (hget seen)
  · intro seen
    rw [← hput "enabled" (by simp), hget]
    simp [headerDraft]

/-- A header is complete once its fields are settled. -/
theorem headerDraft_complete {seen : List String}
    (hseen : ∀ slot ∈ headerSlots name javaAlias enabled, slot.SettledBy seen) :
    (headerDraft name javaAlias enabled seen).nameRead = name ∧
      (headerDraft name javaAlias enabled seen).aliasRead = javaAlias ∧
      (headerDraft name javaAlias enabled seen).enabledRead = enabled := by
  simp only [headerSlots, List.forall_mem_cons] at hseen
  obtain ⟨hname, halias, henabled, -⟩ := hseen
  exact ⟨text_getD hname "", optionalText_getD halias, flag_getD henabled⟩

end Headers

end Document

section Reading

open Document

/-- A column once some keys have been seen. -/
def Column.draft (column : Column) (seen : List String) : Reader.ColumnDraft where
  header := headerDraft column.name column.javaAlias column.enabled seen
  databaseType := given "databaseType" column.databaseType seen
  nullable := given "nullable" column.nullable seen
  autoIncrement := given "autoIncrement" column.autoIncrement seen

/-- A column is read back from whatever it is written as. -/
theorem Column.IsWrittenAs.read {column : Column} {tree : Tree} (htree : column.IsWrittenAs tree)
    (hskip : tree.skip = .ok ()) : Reader.column.read tree = .ok column := by
  apply Json.read_of_isObjectOf column.draft ?_ rfl htree hskip
  · intro seen hseen
    obtain ⟨hheader, hfields⟩ := List.forall_mem_append.mp hseen
    obtain ⟨hname, halias, henabled⟩ := headerDraft_complete hheader
    simp only [List.forall_mem_cons] at hfields
    obtain ⟨htype, hnullable, hincrement, -⟩ := hfields
    have htype := text_getD htype ""
    have hnullable := flag_getD hnullable
    have hincrement := flag_getD hincrement
    simp only [Reader.column, Column.draft, hname, halias, henabled, htype, hnullable, hincrement]
  · apply List.rel_append
    · apply fills_headerRules
      · exact fun _ => rfl
      · simp [Column.draft]
    · refine .cons (fills_text "databaseType" column.databaseType (fun _ => rfl) ?_)
        (.cons (fills_flag "nullable" column.nullable true (fun _ => rfl) ?_) (.cons
          (fills_flag "autoIncrement" column.autoIncrement false (fun _ => rfl) ?_) .nil)) <;>
      simp [Column.draft, headerDraft]

theorem KeyColumn.IsWrittenAs.read {key : KeyColumn} {tree : Tree} (htree : key.IsWrittenAs tree)
    (hskip : tree.skip = .ok ()) : Reader.keyColumn.read tree = .ok key := by
  apply Json.read_of_isObjectOf (headerDraft key.name key.javaAlias key.enabled) ?_ rfl htree hskip
  · intro seen hseen
    obtain ⟨hname, halias, henabled⟩ := headerDraft_complete hseen
    simp only [Reader.keyColumn, hname, halias, henabled]
  · simp only [Reader.keyColumn]
    apply fills_headerRules
    · exact fun _ => rfl
    · exact fun _ _ _ => rfl

def Table.draft (table : Table) (seen : List String) : Reader.TableDraft where
  header := headerDraft table.name table.javaAlias table.enabled seen
  columns := given "columns" table.columns seen
  keyColumns := given "primaryKeyColumns" table.keyColumns seen

theorem Table.IsWrittenAs.read {table : Table} {tree : Tree} (htree : table.IsWrittenAs tree)
    (hskip : tree.skip = .ok ()) : Reader.table.read tree = .ok table := by
  apply Json.read_of_isObjectOf table.draft ?_ rfl htree hskip
  · intro seen hseen
    obtain ⟨hheader, hfields⟩ := List.forall_mem_append.mp hseen
    obtain ⟨hname, halias, henabled⟩ := headerDraft_complete hheader
    simp only [List.forall_mem_cons] at hfields
    obtain ⟨hcolumns, hkeys, -⟩ := hfields
    have hcolumns := list_getD hcolumns
    have hkeys := list_getD hkeys
    simp only [Reader.table, Table.draft, hname, halias, henabled, hcolumns, hkeys]
  · apply List.rel_append
    · apply fills_headerRules
      · exact fun _ => rfl
      · simp [Table.draft]
    · have hcolumn (column : Column) (tree : Tree) := @Column.IsWrittenAs.read column tree
      have hkey (key : KeyColumn) (tree : Tree) := @KeyColumn.IsWrittenAs.read key tree
      refine .cons (fills_list "columns" table.columns hcolumn (fun _ => rfl) ?_)
        (.cons (fills_list "primaryKeyColumns" table.keyColumns hkey (fun _ => rfl) ?_) .nil) <;>
      simp [Table.draft, headerDraft]

def Schema.draft (schema : Schema) (seen : List String) : Reader.SchemaDraft where
  header := headerDraft schema.name schema.javaAlias schema.enabled seen
  tables := given "tables" schema.tables seen

theorem Schema.IsWrittenAs.read {schema : Schema} {tree : Tree} (htree : schema.IsWrittenAs tree)
    (hskip : tree.skip = .ok ()) : Reader.schema.read tree = .ok schema := by
  apply Json.read_of_isObjectOf schema.draft ?_ rfl htree hskip
  · intro seen hseen
    obtain ⟨hheader, hfields⟩ := List.forall_mem_append.mp hseen
    obtain ⟨hname, halias, henabled⟩ := headerDraft_complete hheader
    simp only [List.forall_mem_cons] at hfields
    have htables := list_getD hfields.1
    simp only [Reader.schema, Schema.draft, hname, halias, henabled, htables]
  · apply List.rel_append
    · apply fills_headerRules
      · exact fun _ => rfl
      · simp [Schema.draft]
    · have htable (table : Table) (tree : Tree) := @Table.IsWrittenAs.read table tree
      refine .cons (fills_list "tables" schema.tables htable (fun _ => rfl) ?_) .nil
      simp [Schema.draft, headerDraft]

def Dbms.draft (dbms : Dbms) (seen : List String) : Reader.DbmsDraft where
  header := headerDraft dbms.name dbms.javaAlias dbms.enabled seen
  typeName := given "typeName" dbms.typeName seen
  schemas := given "schemas" dbms.schemas seen

theorem Dbms.IsWrittenAs.read {dbms : Dbms} {tree : Tree} (htree : dbms.IsWrittenAs tree)
    (hskip : tree.skip = .ok ()) : Reader.dbms.read tree = .ok dbms := by
  apply Json.read_of_isObjectOf dbms.draft ?_ rfl htree hskip
  · intro seen hseen
    obtain ⟨hheader, hfields⟩ := List.forall_mem_append.mp hseen
    obtain ⟨hname, halias, henabled⟩ := headerDraft_complete hheader
    simp only [List.forall_mem_cons] at hfields
    obtain ⟨htype, hschemas, -⟩ := hfields
    have htype := text_getD htype ""
    have hschemas := list_getD hschemas
    simp only [Reader.dbms, Dbms.draft, hname, halias, henabled, htype, hschemas]
  · apply List.rel_append
    · apply fills_headerRules
      · exact fun _ => rfl
      · simp [Dbms.draft]
    · have hschema (schema : Schema) (tree : Tree) := @Schema.IsWrittenAs.read schema tree
      refine .cons (fills_text "typeName" dbms.typeName (fun _ => rfl) ?_)
        (.cons (fills_list "schemas" dbms.schemas hschema (fun _ => rfl) ?_) .nil) <;>
      simp [Dbms.draft, headerDraft]

def Project.draft (project : Project) (seen : List String) : Reader.ProjectDraft where
  header := headerDraft project.name project.javaAlias project.enabled seen
  package := given "package" project.package seen
  dbmses := given "dbmses" project.dbmses seen

/-- A project is read back from whatever it is written as, all that is below it
included. -/
theorem Project.IsWrittenAs.read {project : Project} {tree : Tree}
    (htree : project.IsWrittenAs tree) (hskip : tree.skip = .ok ()) :
    Reader.project.read tree = .ok project := by
  apply Json.read_of_isObjectOf project.draft ?_ rfl htree hskip
  · intro seen hseen
    obtain ⟨hheader, hfields⟩ := List.forall_mem_append.mp hseen
    obtain ⟨hname, halias, henabled⟩ := headerDraft_complete hheader
    simp only [List.forall_mem_cons] at hfields
    obtain ⟨hpackage, hdbmses, -⟩ := hfields
    have hpackage := optionalText_getD hpackage
    have hdbmses := list_getD hdbmses
    simp only [Reader.project, Project.draft, hname, halias, henabled, hpackage, hdbmses]
  · apply List.rel_append
    · apply fills_headerRules
      · exact fun _ => rfl
      · simp [Project.draft]
    · have hdbms (dbms : Dbms) (tree : Tree) := @Dbms.IsWrittenAs.read dbms tree
      refine .cons (fills_optionalText "package" project.package (fun _ => rfl) ?_)
        (.cons (fills_list "dbmses" project.dbmses hdbms (fun _ => rfl) ?_) .nil) <;>
      simp [Project.draft, headerDraft]

/-- Every text that writes a project is read as that project. -/
theorem Project.ofJson_of_isWrittenIn {project : Project} {text : String}
    (htext : project.IsWrittenIn text) : Project.ofJson text = .ok project := by
  obtain ⟨tree, hspelled, htree⟩ := htext
  rw [Project.ofJson, Json.readText_of_spelledIn hspelled, htree.read hspelled.skip]

end Reading

namespace EscapedProject

open Json (StringLiteral Denote Tree)
open Json.StringLiteral (plain plain_denotes)
open Document

def dbms : Dbms := ⟨"d", none, true, "MySQL", []⟩

/-- A project with one database system. -/
def project : Project := ⟨"𝄞/", none, true, none, [dbms]⟩

/-- The text of the project with escapes, white space and a key that is passed
over, whose value is none that could be read. -/
def text : String :=
  "\x7b \"\\u006eame\" : \"\\uD834\\udd1e\\/\",\"extra\":[\"\\ud800\",-1.5E+3,\x7b\"name\":null"
    ++ "\x7d]\n,\"dbmses\":[\x7b\"typeName\":\"MySQL\",\"alias\":null,\"name\":\"d\"\x7d]\x7d "

def dbmsTree : Tree :=
  .object (.member (plain "typeName") (.string (plain "MySQL"))
    (.member (plain "alias") .null (.member (plain "name") (.string (plain "d")) .close)))

/-- The value that is passed over. -/
def extraTree : Tree :=
  .array (.item (.string ⟨[.unit 0xD800], none⟩)
    (.item (.number ⟨true, ['1'], some ['5'], some (false, ['3'])⟩)
      (.item (.object (.member (plain "name") .null .close)) .close)))

/-- The name of the project as it is written. -/
def nameLiteral : StringLiteral :=
  ⟨[.unit 0xD834, .unit 0xDD1E, .char '/'], none⟩

def tree : Tree :=
  .object (.member ⟨.unit 0x6E :: "ame".toList.map .char, none⟩ (.string nameLiteral)
    (.member (plain "extra") extraTree
      (.member (plain "dbmses") (.array (.item dbmsTree .close)) .close)))

theorem scan_text : Json.scan text.toList = (tree, [' ']) := by
  decide +kernel

theorem dbms_isWrittenAs : dbms.IsWrittenAs dbmsTree := by
  refine ⟨_, _, rfl, .member (plain_denotes "typeName") (.member (plain_denotes "alias")
    (.member (plain_denotes "name") .close)), ?_⟩
  have htype : IsText "MySQL" (.string (plain "MySQL")) := ⟨_, rfl, plain_denotes _⟩
  have hname : IsText "d" (.string (plain "d")) := ⟨_, rfl, plain_denotes _⟩
  simp only [headerSlots, List.cons_append, List.nil_append, List.forall_mem_cons]
  refine ⟨⟨?_, ?_, ?_⟩, ⟨?_, ?_, ?_⟩, ⟨?_, ?_, ?_⟩, ⟨?_, ?_, ?_⟩, ⟨?_, ?_, ?_⟩, nofun⟩ <;>
  simp [dbms, textSlot, optionalTextSlot, IsOptionalText, flagSlot, listSlot, htype, hname]

theorem project_isWrittenAs : project.IsWrittenAs tree := by
  have hkey : Denote (.unit 0x6E :: "ame".toList.map .char) "name".toList :=
    .unit 'n' (plain_denotes "ame").2
  refine ⟨_, _, rfl, .member ⟨rfl, hkey⟩ (.member (plain_denotes "extra")
    (.member (plain_denotes "dbmses") .close)), ?_⟩
  have hclef : Denote nameLiteral.pieces "𝄞/".toList := .pair '𝄞' (by decide) (.char '/' .nil)
  have hname : IsText "𝄞/" (.string nameLiteral) := ⟨_, rfl, rfl, hclef⟩
  have hdbmses : IsListOf Dbms.IsWrittenAs [dbms] (.array (.item dbmsTree .close)) :=
    ⟨_, _, rfl, .item .close, .cons dbms_isWrittenAs .nil⟩
  simp only [headerSlots, List.cons_append, List.nil_append, List.forall_mem_cons]
  refine ⟨⟨?_, ?_, ?_⟩, ⟨?_, ?_, ?_⟩, ⟨?_, ?_, ?_⟩, ⟨?_, ?_, ?_⟩, ⟨?_, ?_, ?_⟩, nofun⟩ <;>
  simp [project, textSlot, optionalTextSlot, flagSlot, listSlot, hname, hdbmses]

end EscapedProject

/-- The project is read from a text with escapes in a key and in a name. -/
theorem ofJson_escaped :
    EscapedProject.project.IsWrittenIn EscapedProject.text ∧
      Project.ofJson EscapedProject.text = .ok EscapedProject.project := by
  have hspelled : EscapedProject.tree.SpelledIn EscapedProject.text :=
    Json.spelledIn_of_scan EscapedProject.scan_text rfl rfl
  have htext : EscapedProject.project.IsWrittenIn EscapedProject.text :=
    ⟨_, hspelled, EscapedProject.project_isWrittenAs⟩
  exact ⟨htext, Project.ofJson_of_isWrittenIn htext⟩

end TableScribe
