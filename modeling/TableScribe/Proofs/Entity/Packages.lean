/-
The packages of generated files.  The words of a package are identifiers that are put into lower
case once more, after keywords were kept out of them, so a name in mixed case can fall to a keyword
there.
-/
import TableScribe.Proofs.Entity.Injection
import TableScribe.Proofs.Java.LegalNames
import TableScribe.Proofs.Java.Placement

namespace TableScribe

namespace Java

open Unicode

/-- The word of a package that is made from a name. -/
def packageWord (name : String) : String := lowerText (fieldName name)

/-- A name is no keyword in camel case, but its lower case is one. -/
def FallsToKeyword (name : String) : Prop :=
  let camel := String.ofList (lowerCamel (words name.toList))
  camel ∉ keywords ∧ lowerText camel ∈ keywords

instance (name : String) : Decidable (FallsToKeyword name) := inferInstanceAs (Decidable (_ ∧ _))

theorem safeIdentifier_starts_without_digit (name : List Char) :
    (safeIdentifier name).head?.any Char.isDigit = false := by
  by_cases hrepair : needsRepair name = true
  · rw [safeIdentifier, if_pos hrepair]
    rfl
  · rw [safeIdentifier, if_neg hrepair, Bool.eq_false_iff]
    exact fun hdigit => hrepair (needsRepair_iff.mpr (Or.inr (Or.inl hdigit)))

/-- A change of case makes no digit of a letter and none a letter. -/
theorem resembles_lowerText {p : Char → Bool} (hsettled : Settled p) (text : String) :
    Resembles p text.toList (lowerText text).toList := by
  rw [lowerText, String.toList_ofList]
  exact .lowerAfter hsettled [] text.toList

section

variable (name : String)

theorem packageWord_ne_empty : packageWord name ≠ "" := by
  have hempty := (resembles_lowerText settled_isDigit (fieldName name)).isEmpty
  intro hword
  rw [← packageWord, hword] at hempty
  apply fieldName_ne_empty name
  simpa using hempty.symm

theorem packageWord_starts_without_digit :
    (packageWord name).toList.head?.any Char.isDigit = false := by
  rw [packageWord, (resembles_lowerText settled_isDigit (fieldName name)).first, fieldName,
    String.toList_ofList]
  exact safeIdentifier_starts_without_digit _

/-- A mark that is neither letter nor number is in no word of a package. -/
theorem not_mem_packageWord {mark : Char} (hmark : IsMark mark)
    (hpunctuation : isAlphanumeric mark = false) : mark ∉ (packageWord name).toList := by
  intro hmem
  exact not_mem_fieldName hmark hpunctuation name (mem_of_mem_lowerText hmark hmem)

/-- Repair is undone exactly if the name falls to a keyword after it. -/
theorem packageWord_mem_keywords_iff : packageWord name ∈ keywords ↔ FallsToKeyword name := by
  rw [packageWord, fieldName, FallsToKeyword]
  generalize lowerCamel (words name.toList) = camel
  by_cases hrepair : needsRepair camel = true
  · rw [safeIdentifier, if_pos hrepair]
    apply iff_of_false
    · have hlower : lowerText (String.ofList ('_' :: camel)) =
          String.ofList ('_' :: lowerAfter ['_'] camel) := by
        rw [lowerText, String.toList_ofList]
        rfl
      rw [hlower]
      exact not_mem_keywords_of_first (by decide) _
    · rintro ⟨hcamel, hkeyword⟩
      -- What is repaired is empty, starts with a digit or is a keyword, and its lower case is no
      -- keyword in the first two cases.
      have hresembles := resembles_lowerText settled_isDigit (String.ofList camel)
      rw [String.toList_ofList] at hresembles
      rcases needsRepair_iff.mp hrepair with hempty | hdigit | hsame
      · have hall : ∀ word ∈ keywords, word.toList.isEmpty = false := by decide
        rw [← hresembles.isEmpty, hall _ hkeyword] at hempty
        exact absurd hempty Bool.false_ne_true
      · have hall : ∀ word ∈ keywords, word.toList.head?.any Char.isDigit = false := by decide
        rw [← hresembles.first, hall _ hkeyword] at hdigit
        exact absurd hdigit Bool.false_ne_true
      · exact hcamel hsame
  · rw [safeIdentifier, if_neg hrepair]
    have hcamel := mt (fun hkeyword => needsRepair_iff.mpr (Or.inr (Or.inr hkeyword))) hrepair
    exact (and_iff_right hcamel).symm

end

theorem segments_packageWord (name : String) :
    Text.segments '.' (packageWord name).toList = [(packageWord name).toList] := by
  have hempty : Text.segments '.' [] = [[]] := rfl
  have hdot := not_mem_packageWord name (by decide : IsMark '.') (by decide)
  simpa using Text.segments_append_of_not_mem hdot hempty

/-- A dot stands between the segments of two packages. -/
theorem segments_append_dot (front rest : String) :
    Text.segments '.' (front ++ "." ++ rest).toList =
      Text.segments '.' front.toList ++ Text.segments '.' rest.toList := by
  have hdot : ("." : String).toList = ['.'] := rfl
  rw [String.toList_append, String.toList_append, hdot, List.append_assoc, List.singleton_append,
    Text.segments_append]

theorem segments_packageWords (first second : String) :
    Text.segments '.' (packageWord first ++ "." ++ packageWord second).toList =
      [(packageWord first).toList, (packageWord second).toList] := by
  rw [segments_append_dot, segments_packageWord, segments_packageWord, List.singleton_append]

section

variable {answer : (query : Query) → query.Answer} {reply : Call → Rendered} {model : Model}

/-- A file shows the line of its package. -/
theorem shows_packageLine_fileView {file : File} (hnode : model.node = .file file)
    {package : String} (hpackage : file.package = some package) :
    (fileView model).Ensures answer reply fun text =>
      Text.Shows text (Text.segments '\n' (packageLine package).toList) := by
  refine .expect_bind hnode rfl ?_
  refine .andThen fun comments => .andThen fun imports => .andThen fun declarations => .pure ?_
  have hclosed : Text.Closed (Text.segments '\n' (packageLine package).toList) := by
    rw [packageLine, String.toList_append]
    exact Text.closed_segments (by decide) (by decide) _
  have hmem : packageLine package ∈
      comments ++ file.package.toList.map packageLine ++ [imports, declarations] := by
    simp [hpackage]
  have hsections := (shows_joinNonEmpty hclosed List.infix_rfl hmem).append_right ""
  simpa using hsections

end

end Java

/-- The package of the tables of a schema where none is given. -/
def Project.packageOf (project : Project) (schema : Schema) : String :=
  Java.packageWord project.name ++ "." ++ Java.packageWord schema.name

theorem Entity.shows_packageLine {file : File} {package : String}
    (hpackage : file.package = some package) {generated : GeneratedFile}
    (hprint : print file = .ok generated) :
    Text.Shows generated.content (Text.segments '\n' (Java.packageLine package).toList) := by
  have hnode : (Model.root 0 (.file file)).node = .file file := rfl
  exact Java.of_text_eq_ok hnode (Java.shows_packageLine_fileView hnode hpackage) _
    (text_of_print_eq_ok hprint)

namespace EntityGenerator

/-- Without aliases and without a given package, the package of a generated file is made of two
words, one from the name of the project and one from the name of the schema.  They are not empty and
start with no digit of ASCII, and they are no keywords exactly if neither name falls to one. -/
theorem package_words_legal_iff {settings : EntitySettings} {project : Project}
    (hproject : project.HasNoAlias) (hpackage : project.package = none)
    (hsettings : settings.package = none) {files : GeneratedFiles}
    (hgenerate : generate ⟨settings, .java⟩ project = .ok files) :
    List.Forall₂
      (fun site file => ∃ entity, Entity.print entity = .ok file ∧
        entity.package = some (project.packageOf site.schema) ∧
        Text.Shows file.content
          (Text.segments '\n' (Java.packageLine (project.packageOf site.schema)).toList) ∧
        let words := Text.segments '.' (project.packageOf site.schema).toList
        words = [(Java.packageWord project.name).toList,
          (Java.packageWord site.schema.name).toList] ∧
        (∀ word ∈ words, word ≠ [] ∧ word.head?.any Char.isDigit = false) ∧
        ((∀ word ∈ words, String.ofList word ∉ Java.keywords) ↔
          ¬ Java.FallsToKeyword project.name ∧ ¬ Java.FallsToKeyword site.schema.name))
      (TableSite.included settings project.enabledSites) files := by
  obtain ⟨-, hyields⟩ := generate_eq_ok_iff.mp hgenerate
  refine forall₂_included_imp ?_ hyields
  rintro site hsite file ⟨entity, hentity, hprint⟩
  obtain ⟨-, naming, key, -, -, rfl⟩ := TableSite.exists_of_entity?_eq_some hentity
  obtain ⟨hschema, -⟩ := TableSite.alias?_eq_none hproject hsite
  have hname : (site.entity settings (basePackage settings project) naming key).package =
      some (project.packageOf site.schema) := by
    rw [TableSite.entity, Entity.packageName, basePackage, hsettings, hpackage, Document.javaName,
      hschema]
    rfl
  have hsegments := Java.segments_packageWords project.name site.schema.name
  refine ⟨_, hprint, hname, Entity.shows_packageLine hname hprint, hsegments, ?_, ?_⟩
  · have hword (name : String) : (Java.packageWord name).toList ≠ [] ∧
        (Java.packageWord name).toList.head?.any Char.isDigit = false :=
      ⟨mt String.toList_eq_nil_iff.mp (Java.packageWord_ne_empty name),
        Java.packageWord_starts_without_digit name⟩
    rw [Project.packageOf, hsegments, List.forall_mem_cons, List.forall_mem_singleton]
    exact ⟨hword project.name, hword site.schema.name⟩
  · rw [Project.packageOf, hsegments, List.forall_mem_cons, List.forall_mem_singleton,
      String.ofList_toList, String.ofList_toList, Java.packageWord_mem_keywords_iff,
      Java.packageWord_mem_keywords_iff]

namespace Ports

/-- A table without columns in a schema. -/
def site (schema : String) : TableSite :=
  let table : Table := ⟨"t", none, true, [], []⟩
  let schema : Schema := ⟨schema, none, true, [table]⟩
  ⟨⟨"d", none, true, "mysql", [schema]⟩, schema, table⟩

def project (name schema : String) : Project := ⟨name, none, true, none, [(site schema).dbms]⟩

/-- The entity of the table in a package. -/
def entity (base schema : String) : File := (site schema).entity .initial base .mysql []

theorem exists_file {name base schema : String}
    (hfound : found .initial (project name schema) = .ok [some (entity base schema)]) :
    ∃ file, generate java (project name schema) = .ok [file] ∧
      Entity.print (entity base schema) = .ok file := by
  obtain ⟨files, hgenerate, -⟩ := generate_of_found_eq_ok hfound
  have hprint := mapM_eq_ok_iff.mp ((generate_eq_ok_iff_of_found hfound).mp hgenerate)
  obtain ⟨file, rest, hfile, hrest, rfl⟩ := List.forall₂_cons_left_iff.mp hprint
  cases hrest
  exact ⟨file, hgenerate, hfile⟩

end Ports

/-- The name of the schema is a keyword, but the word made from it is repaired. -/
theorem public_schema_in_legal_package :
    (Ports.project "Shop" "public").HasNoAlias ∧
      ∃ file, generate java (Ports.project "Shop" "public") = .ok [file] ∧
        Text.Shows file.content (Text.segments '\n' (Java.packageLine "shop._public").toList) ∧
        ∀ word ∈ Text.segments '.' ("shop._public" : String).toList,
          String.ofList word ∉ Java.keywords := by
  have halias : (Ports.project "Shop" "public").HasNoAlias := by
    unfold Project.HasNoAlias
    decide
  obtain ⟨file, hgenerate, hfile⟩ := @Ports.exists_file "Shop" "shop" "public" rfl
  have hincluded : TableSite.included .initial (Ports.project "Shop" "public").enabledSites =
      [Ports.site "public"] := rfl
  have hall := package_words_legal_iff halias rfl rfl hgenerate
  rw [hincluded, List.forall₂_cons, and_iff_left .nil] at hall
  obtain ⟨entity, -, -, hline, -, -, hlegal⟩ := hall
  exact ⟨halias, file, hgenerate, hline, hlegal.mpr (by decide +kernel)⟩

/-- The name of the schema is no keyword in camel case, but in lower case. -/
theorem go_to_schema_in_keyword_package :
    (Ports.project "p" "go_to").HasNoAlias ∧
      ∃ file, generate java (Ports.project "p" "go_to") = .ok [file] ∧
        file.path = "p/goto/T.java" ∧
        Text.Shows file.content (Text.segments '\n' (Java.packageLine "p.goto").toList) ∧
        "goto" ∈ Java.keywords := by
  have halias : (Ports.project "p" "go_to").HasNoAlias := by
    unfold Project.HasNoAlias
    decide
  obtain ⟨file, hgenerate, hfile⟩ := @Ports.exists_file "p" "p" "go_to" rfl
  have hpackage : (Ports.entity "p" "go_to").package = some "p.goto" := rfl
  exact ⟨halias, file, hgenerate, (Entity.print_eq_ok_iff.mp hfile).1,
    Entity.shows_packageLine hpackage hfile, by decide⟩

end EntityGenerator

end TableScribe
