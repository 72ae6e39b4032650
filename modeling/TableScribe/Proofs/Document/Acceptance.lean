/-
What an accepted project document is like.  The text is JSON to its end, and each
object that stands for a document has the fields of its level, none of them twice
or with a value of the wrong kind, and all that are required.
-/
import Mathlib.Data.List.Permutation
import TableScribe.Document.Path
import TableScribe.Document.Reader
import TableScribe.Proofs.Json.Records

namespace TableScribe

open Json (FieldRule RecordRule Tree Items Members Read Slot Thorough)

/-- The kinds of values in a project document. -/
inductive FieldKind
  | text
  | optionalText
  | flag
  | list (below : Level)

/-- The JSON values of a kind. -/
def FieldKind.Admits : FieldKind → Tree → Prop
  | text, tree => ∃ literal, tree = .string literal
  | optionalText, tree => tree = .null ∨ ∃ literal, tree = .string literal
  | flag, tree => ∃ flag, tree = .bool flag
  | list _, tree => ∃ items, tree = .array items

/-- A field of a document: its key, the kind of its values and whether it is
required. -/
structure FieldFormat where
  key : String
  kind : FieldKind
  required : Bool

def FieldFormat.slot (field : FieldFormat) : Slot :=
  ⟨field.key, field.kind.Admits, field.required = false⟩

/-- The fields that every document starts with. -/
def headerFields : List FieldFormat :=
  [⟨"name", .text, true⟩, ⟨"alias", .optionalText, false⟩, ⟨"enabled", .flag, false⟩]

/-- The fields of the documents of a level. -/
def Level.fields : Level → List FieldFormat
  | project => headerFields ++ [⟨"package", .optionalText, false⟩, ⟨"dbmses", .list dbms, false⟩]
  | dbms => headerFields ++ [⟨"typeName", .text, true⟩, ⟨"schemas", .list schema, false⟩]
  | schema => headerFields ++ [⟨"tables", .list table, false⟩]
  | table =>
    headerFields ++
      [⟨"columns", .list column, false⟩, ⟨"primaryKeyColumns", .list keyColumn, false⟩]
  | column =>
    headerFields ++ [⟨"databaseType", .text, true⟩, ⟨"nullable", .flag, false⟩,
      ⟨"autoIncrement", .flag, false⟩]
  | keyColumn => headerFields

def Level.slots (level : Level) : List Slot := level.fields.map FieldFormat.slot

/-- A tree stands for a document of some level in the tree of a project: for the
project itself, or as an item of a list in the object of another document. -/
inductive IsPartOf (root : Tree) : Level → Tree → Prop
  | root : IsPartOf root .project root
  | item {level below : Level} {members : Members} {entries : List (String × Tree)} {key : String}
    {required : Bool} {items : Items} {trees : List Tree} {tree : Tree}
    (hparent : IsPartOf root level (.object members)) (hmembers : members.Lists entries)
    (hfield : ⟨key, .list below, required⟩ ∈ level.fields) (hvalue : (key, .array items) ∈ entries)
    (hitems : items.Lists trees) (htree : tree ∈ trees) : IsPartOf root below tree

/-- A tree is read as a document of a level. -/
def Level.Reads : Level → Tree → Prop
  | project, tree => ∃ record, Document.Reader.project.read tree = .ok record
  | dbms, tree => ∃ record, Document.Reader.dbms.read tree = .ok record
  | schema, tree => ∃ record, Document.Reader.schema.read tree = .ok record
  | table, tree => ∃ record, Document.Reader.table.read tree = .ok record
  | column, tree => ∃ record, Document.Reader.column.read tree = .ok record
  | keyColumn, tree => ∃ record, Document.Reader.keyColumn.read tree = .ok record

/-- A tree is read as a value of a kind; the items of a list as documents. -/
def FieldKind.Reads : FieldKind → Tree → Prop
  | list below, tree =>
    ∃ items, tree = .array items ∧ ∀ trees, items.Lists trees → ∀ item ∈ trees, below.Reads item
  | kind, tree => kind.Admits tree

theorem FieldKind.Reads.admits {kind : FieldKind} {tree : Tree} (hreads : kind.Reads tree) :
    kind.Admits tree := by
  cases kind with
  | list below =>
      obtain ⟨items, htree, -⟩ := hreads
      exact ⟨items, htree⟩
  | _ => exact hreads

def FieldFormat.readSlot (field : FieldFormat) : Slot :=
  ⟨field.key, field.kind.Reads, field.required = false⟩

/-- The fields of the object of a document of a level, as they are read. -/
def Level.readSlots (level : Level) : List Slot := level.fields.map FieldFormat.readSlot

namespace Document.Reader

section Fields

variable {δ β : Type}

/-- A field checks what its slot asks for if its value is read thoroughly and as
one of its kind. -/
theorem checks_fieldRule (field : FieldFormat) {read : Tree → Read β} {get : δ → Option β}
    {put : δ → β → δ} (hread : ∀ tree value, read tree = .ok value → field.kind.Reads tree)
    (hthorough : Thorough read) :
    (fieldRule field.key field.required read get put).Checks field.readSlot where
  key := rfl
  required := id
  admits tree draft next hnext := by
    obtain ⟨value, hvalue, -⟩ := Except.map_eq_ok_iff.mp hnext
    exact hread tree value hvalue
  thorough draft tree next hnext := by
    obtain ⟨value, hvalue, -⟩ := Except.map_eq_ok_iff.mp hnext
    exact hthorough tree value hvalue

theorem checks_text (key : String) (required : Bool) {get : δ → Option String}
    {put : δ → String → δ} :
    (fieldRule key required Tree.readString get put).Checks
      (FieldFormat.readSlot ⟨key, .text, required⟩) := by
  apply checks_fieldRule ⟨key, .text, required⟩ ?_ Json.thorough_readString
  intro tree value hread
  cases tree with
  | string literal => exact ⟨literal, rfl⟩
  | _ => exact nomatch hread

theorem checks_optionalText (key : String) (required : Bool) {get : δ → Option (Option String)}
    {put : δ → Option String → δ} :
    (fieldRule key required Tree.readOptionalString get put).Checks
      (FieldFormat.readSlot ⟨key, .optionalText, required⟩) := by
  apply checks_fieldRule ⟨key, .optionalText, required⟩ ?_ Json.thorough_readOptionalString
  intro tree value hread
  cases tree with
  | null => exact .inl rfl
  | string literal => exact .inr ⟨literal, rfl⟩
  | _ => exact nomatch hread

theorem checks_flag (key : String) (required : Bool) {get : δ → Option Bool}
    {put : δ → Bool → δ} :
    (fieldRule key required Tree.readBool get put).Checks
      (FieldFormat.readSlot ⟨key, .flag, required⟩) := by
  apply checks_fieldRule ⟨key, .flag, required⟩ ?_ Json.thorough_readBool
  intro tree value hread
  cases tree with
  | bool flag => exact ⟨flag, rfl⟩
  | _ => exact nomatch hread

theorem reads_of_readEach {below : Level} {read : Tree → Read β}
    (hread : ∀ tree value, read tree = .ok value → below.Reads tree) {values : List β}
    {items : Items} {trees : List Tree} (hlists : items.Lists trees)
    (hitems : items.readEach read = .ok values) :
    ∀ item ∈ trees, below.Reads item := by
  induction hlists generalizing values with
  | close => exact nofun
  | @item value rest trees _ ih =>
      obtain ⟨first, hfirst, hitems⟩ := Except.bind_eq_ok_iff.mp hitems
      obtain ⟨others, hothers, -⟩ := Except.bind_eq_ok_iff.mp hitems
      exact List.forall_mem_cons.mpr ⟨hread value first hfirst, ih hothers⟩

/-- A list of documents checks each of them. -/
theorem checks_list (key : String) (required : Bool) (below : Level) {read : Tree → Read β}
    (hread : ∀ tree value, read tree = .ok value → below.Reads tree) (hthorough : Thorough read)
    {get : δ → Option (List β)} {put : δ → List β → δ} :
    (fieldRule key required (Tree.readList read) get put).Checks
      (FieldFormat.readSlot ⟨key, .list below, required⟩) := by
  apply checks_fieldRule ⟨key, .list below, required⟩ ?_ (Json.thorough_readList hthorough)
  intro tree values hvalues
  cases tree with
  | array items =>
      exact ⟨items, rfl, fun trees hlists => reads_of_readEach hread hlists hvalues⟩
  | _ => exact nomatch hvalues

theorem setsOnly_fieldRule {fields : List (FieldRule δ)} {key : String} {required : Bool}
    {read : Tree → Read β} {get : δ → Option β} {put : δ → β → δ}
    (hput : ∀ draft value, ∀ other ∈ fields,
      other.isSet (put draft value) = (other.isSet draft || other.key == key)) :
    (fieldRule key required read get put).SetsOnly fields := by
  intro tree draft next hnext
  obtain ⟨value, -, rfl⟩ := Except.map_eq_ok_iff.mp hnext
  exact hput draft value

end Fields

theorem checks_headerRules {δ : Type} (get : δ → Header) (put : δ → Header → δ) :
    List.Forall₂ FieldRule.Checks (headerRules get put) (headerFields.map FieldFormat.readSlot) :=
  .cons (checks_text "name" true) (.cons (checks_optionalText "alias" false)
    (.cons (checks_flag "enabled" false) .nil))

theorem column_covers : column.Covers Level.column.readSlots where
  checks := List.rel_append (checks_headerRules _ _)
    (.cons (checks_text "databaseType" true) (.cons (checks_flag "nullable" false)
      (.cons (checks_flag "autoIncrement" false) .nil)))
  distinct := by decide
  blank := by decide
  sets := by
    simp only [column, headerRules, List.cons_append, List.nil_append, List.forall_mem_cons]
    refine ⟨setsOnly_fieldRule ?_, setsOnly_fieldRule ?_, setsOnly_fieldRule ?_,
      setsOnly_fieldRule ?_, setsOnly_fieldRule ?_, setsOnly_fieldRule ?_, nofun⟩ <;>
    simp [fieldRule]

theorem keyColumn_covers : keyColumn.Covers Level.keyColumn.readSlots where
  checks := checks_headerRules id fun _ header => header
  distinct := by decide
  blank := by decide
  sets := by
    simp only [keyColumn, headerRules, List.forall_mem_cons]
    refine ⟨setsOnly_fieldRule ?_, setsOnly_fieldRule ?_, setsOnly_fieldRule ?_, nofun⟩ <;>
    simp [fieldRule]

theorem table_covers : table.Covers Level.table.readSlots where
  checks := List.rel_append (checks_headerRules _ _)
    (.cons (checks_list "columns" false .column (fun _ value hread => ⟨value, hread⟩)
        column_covers.thorough_read)
      (.cons (checks_list "primaryKeyColumns" false .keyColumn (fun _ value hread => ⟨value, hread⟩)
        keyColumn_covers.thorough_read) .nil))
  distinct := by decide
  blank := by decide
  sets := by
    simp only [table, headerRules, List.cons_append, List.nil_append, List.forall_mem_cons]
    refine ⟨setsOnly_fieldRule ?_, setsOnly_fieldRule ?_, setsOnly_fieldRule ?_,
      setsOnly_fieldRule ?_, setsOnly_fieldRule ?_, nofun⟩ <;>
    simp [fieldRule]

theorem schema_covers : schema.Covers Level.schema.readSlots where
  checks := List.rel_append (checks_headerRules _ _)
    (.cons (checks_list "tables" false .table (fun _ value hread => ⟨value, hread⟩)
      table_covers.thorough_read) .nil)
  distinct := by decide
  blank := by decide
  sets := by
    simp only [schema, headerRules, List.cons_append, List.nil_append, List.forall_mem_cons]
    refine ⟨setsOnly_fieldRule ?_, setsOnly_fieldRule ?_, setsOnly_fieldRule ?_,
      setsOnly_fieldRule ?_, nofun⟩ <;>
    simp [fieldRule]

theorem dbms_covers : dbms.Covers Level.dbms.readSlots where
  checks := List.rel_append (checks_headerRules _ _)
    (.cons (checks_text "typeName" true)
      (.cons (checks_list "schemas" false .schema (fun _ value hread => ⟨value, hread⟩)
        schema_covers.thorough_read) .nil))
  distinct := by decide
  blank := by decide
  sets := by
    simp only [dbms, headerRules, List.cons_append, List.nil_append, List.forall_mem_cons]
    refine ⟨setsOnly_fieldRule ?_, setsOnly_fieldRule ?_, setsOnly_fieldRule ?_,
      setsOnly_fieldRule ?_, setsOnly_fieldRule ?_, nofun⟩ <;>
    simp [fieldRule]

theorem project_covers : project.Covers Level.project.readSlots where
  checks := List.rel_append (checks_headerRules _ _)
    (.cons (checks_optionalText "package" false)
      (.cons (checks_list "dbmses" false .dbms (fun _ value hread => ⟨value, hread⟩)
        dbms_covers.thorough_read) .nil))
  distinct := by decide
  blank := by decide
  sets := by
    simp only [project, headerRules, List.cons_append, List.nil_append, List.forall_mem_cons]
    refine ⟨setsOnly_fieldRule ?_, setsOnly_fieldRule ?_, setsOnly_fieldRule ?_,
      setsOnly_fieldRule ?_, setsOnly_fieldRule ?_, nofun⟩ <;>
    simp [fieldRule]

end Document.Reader

/-- An object that is read as a document has the fields of its level. -/
theorem Level.Reads.isObjectOf {level : Level} {members : Members} {written : List Char}
    (hreads : level.Reads (.object members)) (hspelled : (Tree.object members).SpelledAs written) :
    (Tree.object members).IsObjectOf level.readSlots := by
  cases level with
  | project =>
      obtain ⟨record, hread⟩ := hreads
      exact Document.Reader.project_covers.isObjectOf_of_read hspelled hread
  | dbms =>
      obtain ⟨record, hread⟩ := hreads
      exact Document.Reader.dbms_covers.isObjectOf_of_read hspelled hread
  | schema =>
      obtain ⟨record, hread⟩ := hreads
      exact Document.Reader.schema_covers.isObjectOf_of_read hspelled hread
  | table =>
      obtain ⟨record, hread⟩ := hreads
      exact Document.Reader.table_covers.isObjectOf_of_read hspelled hread
  | column =>
      obtain ⟨record, hread⟩ := hreads
      exact Document.Reader.column_covers.isObjectOf_of_read hspelled hread
  | keyColumn =>
      obtain ⟨record, hread⟩ := hreads
      exact Document.Reader.keyColumn_covers.isObjectOf_of_read hspelled hread

/-- Whatever stands for a document in a project that is read has been read as
one. -/
theorem IsPartOf.reads {root : Tree} (hroot : Level.project.Reads root) {written : List Char}
    (hspelled : root.SpelledAs written) {level : Level} {tree : Tree}
    (hpart : IsPartOf root level tree) : level.Reads tree ∧ ∃ text, tree.SpelledAs text := by
  induction hpart with
  | root => exact ⟨hroot, written, hspelled⟩
  | @item level below members entries key required items trees tree _ hmembers hfield hvalue hitems
      htree ih =>
      obtain ⟨hreads, text, htext⟩ := ih
      obtain ⟨_, others, hsame, hothers, hfilled⟩ := hreads.isObjectOf htext
      obtain rfl := Tree.object.inj hsame
      obtain rfl := hmembers.unique hothers
      obtain ⟨_, harray, hlist⟩ :=
        (hfilled _ (List.mem_map_of_mem hfield)).admitted _ hvalue
      obtain rfl := Tree.array.inj harray
      refine ⟨hlist trees hitems tree htree, ?_⟩
      cases htext with
      | object hinside =>
          obtain ⟨listText, hlistText⟩ := hmembers.spelledAs hinside _ hvalue
          cases hlistText with
          | array hinner => exact hitems.spelledAs hinner tree htree

theorem isObjectOf_slots {level : Level} {tree : Tree} (htree : tree.IsObjectOf level.readSlots) :
    tree.IsObjectOf level.slots := by
  obtain ⟨members, entries, rfl, hlists, hfilled⟩ := htree
  refine ⟨members, entries, rfl, hlists, ?_⟩
  intro slot hslot
  obtain ⟨field, hfield, rfl⟩ := List.mem_map.mp hslot
  obtain ⟨honce, hadmitted, hpresent⟩ := hfilled field.readSlot (List.mem_map_of_mem hfield)
  exact ⟨honce, fun value hvalue => (hadmitted value hvalue).admits, hpresent⟩

/-- A project is read from a text as any record is; only errors are put in other
words. -/
theorem Project.readText_of_ofJson {text : String} {project : Project}
    (hread : Project.ofJson text = .ok project) :
    Json.readText Document.Reader.project.read text = .ok project := by
  rw [Project.ofJson] at hread
  cases hresult : Json.readText Document.Reader.project.read text with
  | ok result =>
      rw [hresult] at hread
      exact congrArg Except.ok (Except.ok.inj hread)
  | error cause =>
      rw [hresult] at hread
      exact nomatch hread

/-- A text is accepted as a project only if it is JSON to its end.  If all
documents in it are written as objects, each of them has the fields of its level:
no known key twice, none that is required missing, and all of their values of the
right kinds. -/
theorem Project.objects_of_ofJson {text : String} {project : Project}
    (hread : Project.ofJson text = .ok project) :
    (∃ tree : Tree, tree.SpelledIn text) ∧ ∀ tree : Tree, tree.SpelledIn text →
      (∀ level part, IsPartOf tree level part → ∃ members, part = .object members) →
        ∀ level part, IsPartOf tree level part →
          part.IsObjectOf level.slots := by
  have htext := readText_of_ofJson hread
  constructor
  · obtain ⟨tree, htree, -⟩ := Document.Reader.project_covers.thorough_read.spelledIn htext
    exact ⟨tree, htree⟩
  · intro tree htree hobjects level part hpart
    rw [Json.readText_of_spelledIn htree] at htext
    obtain ⟨-, written, -, -, hwritten, -⟩ := htree
    obtain ⟨hreads, partText, hpartText⟩ := hpart.reads ⟨project, htext⟩ hwritten
    obtain ⟨members, rfl⟩ := hobjects level part hpart
    exact isObjectOf_slots (hreads.isObjectOf hpartText)

namespace NestedProject

open Json.StringLiteral (plain plain_denotes)

/-- A project with one database system, in which a key is passed over. -/
def text : String :=
  "\x7b\"dbmses\":[\x7b\"extra\":[],\"typeName\":\"mysql\",\"name\":\"d\"\x7d],\"name\":\"p\"\x7d"

def dbmsMembers : Members :=
  .member (plain "extra") (.array .close) (.member (plain "typeName") (.string (plain "mysql"))
    (.member (plain "name") (.string (plain "d")) .close))

def members : Members :=
  .member (plain "dbmses") (.array (.item (.object dbmsMembers) .close))
    (.member (plain "name") (.string (plain "p")) .close)

/-- The project in the text. -/
def project : Project := ⟨"p", none, true, none, [⟨"d", none, true, "mysql", []⟩]⟩

theorem ofJson_text : Project.ofJson text = .ok project := by
  cbv

theorem scan_text : Json.scan text.toList = (.object members, []) := by
  decide +kernel

theorem members_lists : members.Lists
    [("dbmses", .array (.item (.object dbmsMembers) .close)), ("name", .string (plain "p"))] :=
  .member (plain_denotes "dbmses") (.member (plain_denotes "name") .close)

theorem dbmsMembers_lists : dbmsMembers.Lists [("extra", .array .close),
    ("typeName", .string (plain "mysql")), ("name", .string (plain "d"))] :=
  .member (plain_denotes "extra")
    (.member (plain_denotes "typeName") (.member (plain_denotes "name") .close))

theorem eq_of_isPartOf {level : Level} {part : Tree}
    (hpart : IsPartOf (.object members) level part) :
    (level = .project ∧ part = .object members) ∨ (level = .dbms ∧ part = .object dbmsMembers) := by
  induction hpart with
  | root => exact .inl ⟨rfl, rfl⟩
  | item _ hmembers hfield hvalue hitems htree ih =>
      rcases ih with ⟨rfl, hparent⟩ | ⟨rfl, hparent⟩
      · obtain rfl := Tree.object.inj hparent
        obtain rfl := hmembers.unique members_lists
        obtain ⟨rfl, rfl⟩ : _ = "dbmses" ∧ _ = Items.item (.object dbmsMembers) .close := by
          simpa using hvalue
        obtain ⟨rfl, -⟩ : _ = Level.dbms ∧ _ := by
          simpa [Level.fields, headerFields] using hfield
        cases hitems with
        | item hrest =>
            cases hrest
            exact .inr ⟨rfl, List.mem_singleton.mp htree⟩
      · obtain rfl := Tree.object.inj hparent
        obtain rfl := hmembers.unique dbmsMembers_lists
        obtain ⟨rfl, -⟩ : _ = "extra" ∧ _ := by
          simpa using hvalue
        simp [Level.fields, headerFields] at hfield

end NestedProject

/-- Both documents in a text have the fields of their levels. -/
theorem objects_of_nested : Project.ofJson NestedProject.text = .ok NestedProject.project ∧
    (Tree.object NestedProject.members).SpelledIn NestedProject.text ∧
    (Tree.object NestedProject.members).IsObjectOf Level.project.slots ∧
    (Tree.object NestedProject.dbmsMembers).IsObjectOf Level.dbms.slots := by
  have hspelled : (Tree.object NestedProject.members).SpelledIn NestedProject.text :=
    Json.spelledIn_of_scan NestedProject.scan_text rfl rfl
  have hobjects : ∀ level part, IsPartOf (.object NestedProject.members) level part →
      ∃ members, part = .object members := by
    intro level part hpart
    rcases NestedProject.eq_of_isPartOf hpart with ⟨-, rfl⟩ | ⟨-, rfl⟩
    · exact ⟨_, rfl⟩
    · exact ⟨_, rfl⟩
  have hall := (Project.objects_of_ofJson NestedProject.ofJson_text).2 _ hspelled hobjects
  have hdbms : IsPartOf (.object NestedProject.members) .dbms
      (.object NestedProject.dbmsMembers) :=
    .item .root NestedProject.members_lists (.tail _ (.tail _ (.tail _ (.tail _ (.head _)))))
      (.head _) (.item .close) (.head _)
  exact ⟨NestedProject.ofJson_text, hspelled, hall _ _ .root, hall _ _ hdbms⟩

end TableScribe
