/-
Where the text of a member stands in the text of a tree.  A declaration writes
the texts of its members on lines of their own, one level deeper, and a file
those of its declarations as they are; so the lines of a member are lines of the
whole, shifted by as many levels as there are declarations around it.
-/
import Mathlib.Logic.Function.Iterate
import TableScribe.Proofs.Java.QualifiedNames
import TableScribe.Proofs.Text.Rows

namespace TableScribe

namespace Java

open Text (Closed Shows deeper)

/-- A text with lines in it is not among those that are left out as empty. -/
theorem mem_present_of_shows {text : String} {rows : List (List Char)} {texts : List String}
    (hclosed : Closed rows) (hshows : Shows text rows) (htext : text ∈ texts) :
    text ∈ texts.filter fun text => !text.isEmpty := by
  rw [List.mem_filter, Bool.not_eq_true', Bool.eq_false_iff]
  refine ⟨htext, fun hempty => ?_⟩
  obtain rfl := String.isEmpty_iff.mp hempty
  obtain ⟨front, last, c, rfl, -⟩ := hclosed
  have hmem := hshows.subset (List.mem_append_right front (List.mem_singleton_self (last ++ [c])))
  simp [Text.segments] at hmem

theorem shows_joinNonEmpty {text : String} {rows : List (List Char)} {texts : List String}
    (hclosed : Closed rows) (hshows : Shows text rows) (htext : text ∈ texts) :
    Shows (ViewM.joinNonEmpty "\n\n" texts) rows :=
  hshows.intercalate (mem_present_of_shows hclosed hshows htext)

/-- A body shifts what it holds. -/
theorem shows_body {text : String} {rows : List (List Char)} {sections : List String}
    (hclosed : Closed rows) (hshows : Shows text rows) (htext : text ∈ sections) (front : String) :
    Shows (front ++ body sections) (rows.map deeper) := by
  have hpresent := mem_present_of_shows hclosed hshows htext
  have hinside := (hshows.intercalate hpresent).indent hclosed
  have hlines := (hinside.append_left (front ++ "\x7b")).append_right "\x7d"
  have hne : (sections.filter fun text => !text.isEmpty).isEmpty = false :=
    List.isEmpty_eq_false_iff.mpr (List.ne_nil_of_mem hpresent)
  have hopen : ("\x7b\n" : String) = "\x7b" ++ "\n" := rfl
  have hclose : ("\n\x7d" : String) = "\n" ++ "\x7d" := rfl
  simp only [body, hne, Bool.false_eq_true, if_false, hopen, hclose]
  simpa only [String.append_assoc] using hlines

section

variable {answer : (query : Query) → query.Answer} {reply : Call → Rendered} {model : Model}

/-- The lines of the texts of the children in a part are lines of a text once
they are shifted in some way. -/
def Places (reply : Call → Rendered) (model : Model) (shift : List Char → List Char) (part : Part)
    (text : String) : Prop :=
  ∀ child ∈ model.children part, ∀ inner rows, reply (.render child) = .ok inner →
    Closed rows → Shows inner rows → Shows text (rows.map shift)

/-- Children with empty lines between them are not shifted. -/
theorem places_renderAll (part : Part) :
    (ViewM.renderAll (model.children part) "\n\n").Ensures answer reply
      (Places reply model id part) := by
  intro text htext child hchild inner rows hinner hclosed hshows
  obtain ⟨texts, htexts, rfl⟩ := ViewM.Ensures.renderAll part _ text htext
  rw [List.map_id]
  exact shows_joinNonEmpty hclosed hshows (mem_of_mapM_eq_ok htexts hchild hinner)

/-- A body shifts the children in each of its sections by one level. -/
theorem Places.body {part : Part} {members : String} {sections : List String}
    (hplaces : Places reply model id part members) (hmembers : members ∈ sections)
    (front : String) : Places reply model deeper part (front ++ body sections) := by
  intro child hchild inner rows hinner hclosed hshows
  have hinside := hplaces child hchild inner rows hinner hclosed hshows
  rw [List.map_id] at hinside
  exact shows_body hclosed hinside hmembers front

theorem places_of_eq_nil {shift : List Char → List Char} {part : Part}
    (hpart : model.node.children part = []) (text : String) :
    Places reply model shift part text := by
  intro child hchild
  simp [Model.children, hpart] at hchild

/-- The parts of a declaration that are written on lines of their own. -/
def memberParts : List Part := [.constructors, .methods, .nested]

theorem places_classView {head : ClassHead} {nested : List Declaration}
    (hnode : model.node = .declaration (.ofClass head nested)) :
    (classView model).Ensures answer reply fun text =>
      ∀ part ∈ memberParts, Places reply model deeper part text := by
  refine .expect_bind hnode rfl ?_
  refine .andThen fun _ => .andThen fun _ => .andThen fun _ => .andThen fun _ => ?_
  refine .andThen fun _ => ?_
  refine .bind (places_renderAll .constructors) fun constructors hconstructors => ?_
  refine .bind (places_renderAll .methods) fun methods hmethods => ?_
  refine .bind (places_renderAll .nested) fun nested hnested => .pure ?_
  simp only [memberParts, List.forall_mem_cons]
  exact ⟨hconstructors.body (by simp) _, hmethods.body (by simp) _, hnested.body (by simp) _,
    nofun⟩

theorem places_interfaceView {head : InterfaceHead} {nested : List Declaration}
    (hnode : model.node = .declaration (.ofInterface head nested)) :
    (interfaceView model).Ensures answer reply fun text =>
      ∀ part ∈ memberParts, Places reply model deeper part text := by
  refine .expect_bind hnode rfl ?_
  refine .andThen fun _ => .andThen fun _ => .andThen fun _ => .andThen fun _ => ?_
  refine .bind (places_renderAll .methods) fun methods hmethods => ?_
  refine .bind (places_renderAll .nested) fun nested hnested => .pure ?_
  simp only [memberParts, List.forall_mem_cons]
  exact ⟨places_of_eq_nil (by rw [hnode]; rfl) _, hmethods.body (by simp) _,
    hnested.body (by simp) _, nofun⟩

theorem places_enumView {head : EnumHead} {nested : List Declaration}
    (hnode : model.node = .declaration (.ofEnum head nested)) :
    (enumView model).Ensures answer reply fun text =>
      ∀ part ∈ memberParts, Places reply model deeper part text := by
  refine .expect_bind hnode rfl ?_
  refine .andThen fun _ => .andThen fun _ => .andThen fun _ => .andThen fun _ => ?_
  refine .bind (places_renderAll .constructors) fun constructors hconstructors => ?_
  refine .bind (places_renderAll .methods) fun methods hmethods => ?_
  refine .bind (places_renderAll .nested) fun nested hnested => .andThen fun _ => .pure ?_
  simp only [memberParts, List.forall_mem_cons]
  exact ⟨hconstructors.body (by simp) _, hmethods.body (by simp) _, hnested.body (by simp) _,
    nofun⟩

theorem places_fileView {file : File} (hnode : model.node = .file file) :
    (fileView model).Ensures answer reply (Places reply model id .declarations) := by
  refine .expect_bind hnode rfl ?_
  refine .andThen fun comments => .andThen fun imports => ?_
  refine .bind (places_renderAll .declarations) fun declarations hdeclarations => .pure ?_
  intro child hchild inner rows hinner hclosed hshows
  have hinside := hdeclarations child hchild inner rows hinner hclosed hshows
  have hsections := (shows_joinNonEmpty (by simpa using hclosed) hinside
    (List.mem_append_right (comments ++ file.package.toList.map packageLine)
      (List.mem_cons_of_mem imports (List.mem_singleton_self declarations)))).append_right ""
  simpa using hsections

end

section

variable {above : List Model} {model : Model} {text : String}

/-- A declaration of any sort writes its members one level deeper. -/
theorem places_of_declaration {declaration : Declaration}
    (hnode : model.node = .declaration declaration) :
    ∀ text, Registry.java.text above model = .ok text → ∀ part ∈ memberParts,
      Places (Registry.java.reply (model :: above)) model deeper part text := by
  cases declaration with
  | ofClass head nested => exact of_text_eq_ok hnode (places_classView hnode)
  | ofInterface head nested => exact of_text_eq_ok hnode (places_interfaceView hnode)
  | ofEnum head nested => exact of_text_eq_ok hnode (places_enumView hnode)

/-- A file writes its declarations as they are. -/
theorem places_of_file {file : File} (hnode : model.node = .file file) :
    ∀ text, Registry.java.text above model = .ok text →
      Places (Registry.java.reply (model :: above)) model id .declarations text :=
  of_text_eq_ok hnode (places_fileView hnode)

end

theorem kind_mem_declarations {owner : Model} {declaration : Declaration}
    (hnode : owner.node = .declaration declaration) : owner.kind ∈ Kind.declarations := by
  rw [Model.kind, hnode]
  cases declaration <;> simp [Node.kind, Kind.declarations]

/-- The kinds of the nodes whose texts stand on lines of their own. -/
def lineKinds : List Kind := .file :: .method :: Kind.declarations

/-- Methods and declarations are held by declarations, or by a file. -/
theorem holder_of_lineKind {owner child : Node} {part : Part} (hchild : child ∈ owner.children part)
    (hkind : child.kind ∈ lineKinds) :
    (∃ declaration, owner = .declaration declaration ∧ part ∈ memberParts) ∨
      ∃ file, owner = .file file ∧ part = .declarations := by
  have hfile := Node.kind_ne_file_of_mem_children hchild
  cases child with
  | method _ | declaration _ =>
      cases owner with
      | declaration node =>
          cases node <;> cases part <;> simp_all [Node.children, ClassHead.children,
            InterfaceHead.children, EnumHead.children, memberParts]
      | _ => cases part <;> simp_all [Node.children]
  | _ => simp_all [Node.kind, lineKinds, Kind.declarations]

variable {root : Model}

/-- The lines of a text in a tree are lines of the whole, shifted once for each
declaration around it. -/
theorem shows_root {whole : String} (hwhole : Registry.java.text [] root = .ok whole)
    {above : List Model} {model : Model} (hlineage : Lineage Writes root above model)
    (hkind : model.kind ∈ lineKinds) {text : String}
    (htext : Registry.java.text above model = .ok text) {rows : List (List Char)}
    (hclosed : Closed rows) (hshows : Shows text rows) :
    Shows whole (rows.map deeper^[above.countP fun outer => outer.kind ∈ Kind.declarations]) := by
  induction hlineage generalizing text rows with
  | root =>
      obtain rfl := Except.ok.inj (hwhole.symm.trans htext)
      simpa using hshows
  | @child above owner model part howner hpart hmodel ih =>
      -- The text of the owner shows the rows, shifted or not; the rest of the way up is
      -- the induction hypothesis for the owner and the rows as they stand there.
      obtain ⟨⟨ownerText, hownerText⟩, -⟩ :=
        Moment.leads_view java_descends java_covers hwhole howner (get?_java owner.kind)
      rcases holder_of_lineKind (Model.node_mem_of_mem_children hmodel) hkind with
        ⟨declaration, hnode, hmember⟩ | ⟨file, hnode, rfl⟩
      · have hdeclaration := kind_mem_declarations hnode
        have hplaced := places_of_declaration hnode _ hownerText part hmember model hmodel text rows
          htext hclosed hshows
        have hrows := ih (List.mem_cons_of_mem _ (List.mem_cons_of_mem _ hdeclaration)) hownerText
          hclosed.map_deeper hplaced
        rw [List.map_map, ← Function.iterate_succ] at hrows
        simpa [hdeclaration] using hrows
      · have hownerKind : owner.kind = .file := by rw [Model.kind, hnode, Node.kind]
        have hplaced :=
          places_of_file hnode _ hownerText model hmodel text rows htext hclosed hshows
        rw [List.map_id] at hplaced
        have hrows := ih (by rw [hownerKind]; decide) hownerText hclosed hplaced
        simpa [hownerKind, Kind.declarations] using hrows

end Java

end TableScribe
