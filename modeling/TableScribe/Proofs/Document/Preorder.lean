/-
The loop of the walk, and the order in which it visits a project.  The paths
that are still on the stack stand for the walks below them, so a round of the
loop moves one path from what is pending to what is visited.  A place in the
tree is given by the numbers of the children on the way down from the project;
the places are visited once each, in lexicographic order.
-/
import Mathlib.Data.List.Forall2
import Mathlib.Logic.Relation
import TableScribe.Proofs.Document.Traversal

namespace TableScribe

/-- The state of the loop: the paths still to be visited, the next one last, and
those visited so far. -/
structure Walker where
  stack : List DocumentPath
  visited : List DocumentPath

namespace Walker

/-- One round of the loop: the last path of the stack is visited, and its
children are pushed in reverse.  There is none once the stack is empty. -/
def next? (walker : Walker) : Option Walker :=
  walker.stack.getLast?.map fun path =>
    ⟨walker.stack.dropLast ++ path.children.reverse, walker.visited ++ [path]⟩

/-- One state comes later in the loop than another, or is the same. -/
def Leads : Walker → Walker → Prop :=
  Relation.ReflTransGen fun first second => first.next? = some second

/-- What is still to be visited: the walks of the paths on the stack. -/
def pending (walker : Walker) : List DocumentPath :=
  walker.stack.reverse.flatMap DocumentPath.walk

/-- A round visits the first path that is pending and leaves the others. -/
theorem pending_of_next? {walker next : Walker} (hnext : walker.next? = some next) :
    ∃ path, walker.pending = path :: next.pending ∧ next.visited = walker.visited ++ [path] := by
  obtain ⟨path, hpath, rfl⟩ := Option.map_eq_some_iff.mp hnext
  have hstack : walker.stack = walker.stack.dropLast ++ [path] :=
    (List.dropLast_append_getLast? path hpath).symm
  refine ⟨path, ?_, rfl⟩
  rw [pending, hstack]
  simp [pending, DocumentPath.walk_eq path]

theorem stack_eq_nil_of_pending {walker : Walker} (hpending : walker.pending = []) :
    walker.stack = [] := by
  rw [List.eq_nil_iff_forall_not_mem]
  intro path hpath
  have hwalk := List.flatMap_eq_nil_iff.mp hpending path (List.mem_reverse.mpr hpath)
  rw [DocumentPath.walk_eq] at hwalk
  exact nomatch hwalk

/-- The loop ends, and by then it has visited what was pending. -/
theorem leads_visited_pending (walker : Walker) :
    walker.Leads ⟨[], walker.visited ++ walker.pending⟩ := by
  -- A round may push more paths than it takes, but it takes one from what is pending.
  induction hpending : walker.pending generalizing walker with
  | nil =>
      obtain ⟨stack, visited⟩ := walker
      obtain rfl : stack = [] := stack_eq_nil_of_pending hpending
      rw [List.append_nil]
      exact Relation.ReflTransGen.refl
  | cons path rest ih =>
      cases hnext : walker.next? with
      | none =>
          have hstack : walker.stack = [] := by simpa [next?] using hnext
          simp [pending, hstack] at hpending
      | some next =>
          obtain ⟨first, hfirst, hvisited⟩ := pending_of_next? hnext
          obtain ⟨rfl, rfl⟩ := List.cons.inj (hpending.symm.trans hfirst)
          have hleads := ih next rfl
          rw [hvisited, List.append_assoc] at hleads
          exact Relation.ReflTransGen.head hnext hleads

end Walker

namespace Document

/-- The document at a place of a tree: the place lists the numbers of the
children on the way down. -/
def at? : Document → List Nat → Option Document
  | document, [] => some document
  | document, position :: place =>
    match document.children[position]? with
    | some child => child.at? place
    | none => none

/-- The places of a tree, each before those below it and in the order of the
children. -/
def places (document : Document) : List (List Nat) :=
  [] :: document.children.attach.zipIdx.flatMap fun entry =>
    entry.1.1.places.map (entry.2 :: ·)
termination_by document.levelsBelow
decreasing_by exact levelsBelow_lt_of_mem_children entry.1.2

theorem places_eq (document : Document) :
    document.places =
      [] :: document.children.zipIdx.flatMap fun entry => entry.1.places.map (entry.2 :: ·) := by
  have hattach : document.children.zipIdx =
      document.children.attach.zipIdx.map (Prod.map Subtype.val id) := by
    rw [← List.zipIdx_map, List.attach_map_subtype_val]
  rw [places, hattach, List.flatMap_map]
  rfl

theorem at?_append_singleton (root : Document) (place : List Nat) (position : Nat) :
    root.at? (place ++ [position]) =
      (root.at? place).bind fun document => document.children[position]? := by
  induction place generalizing root with
  | nil => cases hchild : root.children[position]? <;> simp [at?, hchild]
  | cons first place ih =>
      cases hchild : root.children[first]? <;> simp [at?, hchild, ih]

theorem mem_places_iff {document : Document} {place : List Nat} :
    place ∈ document.places ↔ (document.at? place).isSome = true := by
  induction place generalizing document with
  | nil => simp [places_eq document, at?]
  | cons position place ih =>
      rw [places_eq document]
      cases hchild : document.children[position]? <;>
        simp [at?, hchild, ih, List.mem_zipIdx_iff_getElem?]

/-- The places of a tree are in lexicographic order, so each of them is there
once. -/
theorem pairwise_places (document : Document) :
    document.places.Pairwise (List.Lex (· < ·)) := by
  induction document using places.induct with
  | case1 document ih =>
      rw [places_eq, List.pairwise_cons, List.pairwise_flatMap]
      refine ⟨?_, ?_, ?_⟩
      · intro place hplace
        obtain ⟨entry, -, hinner⟩ := List.mem_flatMap.mp hplace
        obtain ⟨inner, -, rfl⟩ := List.mem_map.mp hinner
        exact .nil
      · intro entry hentry
        have hchild := List.fst_mem_of_mem_zipIdx hentry
        exact List.pairwise_map.mpr ((ih (⟨entry.1, hchild⟩, entry.2)).imp .cons)
      · have hpositions : (document.children.zipIdx.map Prod.snd).Pairwise (· < ·) := by
          rw [List.zipIdx_map_snd]
          exact List.pairwise_lt_range' 1
        refine (List.pairwise_map.mp hpositions).imp ?_
        intro first second hlt place hplace other hother
        obtain ⟨inner, -, rfl⟩ := List.mem_map.mp hplace
        obtain ⟨further, -, rfl⟩ := List.mem_map.mp hother
        exact .rel hlt

theorem lex_asymm {first second : List Nat} (hlex : List.Lex (· < ·) first second) :
    ¬ List.Lex (· < ·) second first :=
  List.lex_asymm (fun hlt => Nat.lt_asymm hlt) hlex

/-- Of two places the one that comes first in lexicographic order is visited
first. -/
theorem idxOf_places_lt {document : Document} {first second : List Nat}
    (hfirst : first ∈ document.places) (hsecond : second ∈ document.places)
    (hlex : List.Lex (· < ·) first second) :
    document.places.idxOf first < document.places.idxOf second := by
  have hsorted := List.pairwise_iff_getElem.mp document.pairwise_places
  have hfirstAt := List.idxOf_lt_length_of_mem hfirst
  have hsecondAt := List.idxOf_lt_length_of_mem hsecond
  rcases Nat.lt_trichotomy (document.places.idxOf first) (document.places.idxOf second) with
    hlt | heq | hgt
  · exact hlt
  · have hsame : first = second := by
      rw [← List.getElem_idxOf hfirstAt, ← List.getElem_idxOf hsecondAt]
      simp only [heq]
    exact absurd (hsame ▸ hlex) (List.lex_irrefl Nat.lt_irrefl second)
  · have hback := hsorted _ _ hsecondAt hfirstAt hgt
    rw [List.getElem_idxOf, List.getElem_idxOf] at hback
    exact absurd hback (lex_asymm hlex)

theorem lex_append (place : List Nat) {first second : List Nat}
    (hlex : List.Lex (· < ·) first second) :
    List.Lex (· < ·) (place ++ first) (place ++ second) := by
  induction place with
  | nil => exact hlex
  | cons position place ih => exact .cons ih

/-- A table lists its columns before its key columns. -/
theorem column_lt_keyColumn {document : Document} {first second : Nat} {column : Column}
    {key : KeyColumn} (hcolumn : document.children[first]? = some (.column column))
    (hkey : document.children[second]? = some (.keyColumn key)) : first < second := by
  cases document with
  | project node | dbms node | schema node => simp [children] at hcolumn
  | column node | keyColumn node => simp [children] at hcolumn
  | table node =>
      rw [children, List.getElem?_append] at hcolumn hkey
      split at hcolumn
      case isFalse => simp at hcolumn
      case isTrue hfirst =>
        split at hkey
        case isTrue => simp at hkey
        case isFalse hsecond => omega

end Document

namespace DocumentPath

/-- A path leads to a place of a tree: its document is the one at the place, and
the documents above it are those on the way down, from the root to the parent. -/
structure StandsAt (root : Document) (place : List Nat) (path : DocumentPath) : Prop where
  document : root.at? place = some path.document
  length : path.ancestors.length = place.length
  ancestors : ∀ depth < place.length, root.at? (place.take depth) = path.ancestors[depth]?

theorem StandsAt.child {root : Document} {place : List Nat} {path : DocumentPath}
    (hstands : path.StandsAt root place) {position : Nat} {child : Document}
    (hchild : path.document.children[position]? = some child) :
    (path.child child).StandsAt root (place ++ [position]) where
  document := by
    rw [Document.at?_append_singleton, hstands.document]
    exact hchild
  length := by simp [DocumentPath.child, hstands.length]
  ancestors := by
    intro depth hdepth
    rw [List.length_append, List.length_singleton, Nat.lt_succ_iff] at hdepth
    rw [List.take_append_of_le_length hdepth, DocumentPath.child]
    rcases Nat.lt_or_eq_of_le hdepth with hlt | rfl
    · rw [List.getElem?_append_left (by rw [hstands.length]; exact hlt)]
      exact hstands.ancestors depth hlt
    · rw [← hstands.length, List.getElem?_concat_length, hstands.length, List.take_length]
      exact hstands.document

/-- The walk below a place visits the places below it in their order. -/
theorem StandsAt.forall₂_walk {root : Document} {place : List Nat} {path : DocumentPath}
    (hstands : path.StandsAt root place) :
    List.Forall₂ (fun inner below => StandsAt root (place ++ inner) below)
      path.document.places path.walk := by
  induction path using walk.induct generalizing place with
  | case1 path ih =>
      rw [walk_eq, Document.places_eq]
      refine .cons (by simpa using hstands) ?_
      have hchildren : List.Forall₂
          (fun entry below => path.document.children[entry.2]? = some entry.1 ∧
            below = path.child entry.1) path.document.children.zipIdx path.children := by
        have hmap : path.children = path.document.children.zipIdx.map (path.child ∘ Prod.fst) := by
          rw [← List.map_map, List.zipIdx_map_fst, children]
        rw [hmap, List.forall₂_map_right_iff, List.forall₂_same]
        exact fun entry hentry => ⟨List.mem_zipIdx_iff_getElem?.mp hentry, rfl⟩
      refine List.rel_flatMap hchildren ?_
      rintro entry below ⟨hentry, rfl⟩
      rw [List.forall₂_map_left_iff]
      have hbelow : List.Forall₂
          (fun inner below => StandsAt root (place ++ [entry.2] ++ inner) below)
          entry.1.places (path.child entry.1).walk :=
        ih ⟨entry.1, List.mem_of_getElem? hentry⟩ (hstands.child hentry)
      simpa only [List.append_assoc, List.singleton_append] using hbelow

theorem standsAt_root (project : Project) : (root project).StandsAt (.project project) [] where
  document := rfl
  length := rfl
  ancestors := nofun

end DocumentPath

/-- Paths lead to the documents of a tree in order.  Two documents may be equal,
so it is the places of the documents that occur once and that are ordered. -/
structure Document.VisitedInOrder (root : Document) (paths : List DocumentPath) : Prop where
  stands : List.Forall₂ (DocumentPath.StandsAt root) root.places paths
  once : ∀ place, root.places.count place = if (root.at? place).isSome then 1 else 0
  after_parent : ∀ place position, place ++ [position] ∈ root.places →
    root.places.idxOf place < root.places.idxOf (place ++ [position])
  before_next_sibling : ∀ place position inner, place ++ position :: inner ∈ root.places →
    place ++ [position + 1] ∈ root.places →
    root.places.idxOf (place ++ position :: inner) < root.places.idxOf (place ++ [position + 1])
  columns_first : ∀ place first second column key,
    root.at? (place ++ [first]) = some (.column column) →
    root.at? (place ++ [second]) = some (.keyColumn key) →
    root.places.idxOf (place ++ [first]) < root.places.idxOf (place ++ [second])

namespace Document

theorem mem_places_of_at? {root document : Document} {place : List Nat}
    (hat : root.at? place = some document) : place ∈ root.places := by
  rw [mem_places_iff, hat]
  rfl

/-- Each place of a tree is listed once. -/
theorem count_places (root : Document) (place : List Nat) :
    root.places.count place = if (root.at? place).isSome then 1 else 0 := by
  have hnodup : root.places.Nodup := by
    refine root.pairwise_places.imp ?_
    rintro first _ hlex rfl
    exact List.lex_irrefl Nat.lt_irrefl first hlex
  rw [hnodup.count]
  simp only [mem_places_iff]

/-- Paths that stand at the places of a tree visit it in order. -/
theorem visitedInOrder_of_stands {root : Document} {paths : List DocumentPath}
    (hstands : List.Forall₂ (DocumentPath.StandsAt root) root.places paths) :
    root.VisitedInOrder paths where
  stands := hstands
  once := root.count_places
  after_parent := by
    intro place position hplace
    have hparent : place ∈ root.places := by
      rw [mem_places_iff, at?_append_singleton] at hplace
      rw [mem_places_iff]
      exact Option.isSome_of_isSome_bind hplace
    refine idxOf_places_lt hparent hplace ?_
    simpa using lex_append place (.nil : List.Lex (· < ·) [] [position])
  before_next_sibling := by
    intro place position inner hplace hnext
    exact idxOf_places_lt hplace hnext (lex_append place (.rel (Nat.lt_succ_self position)))
  columns_first := by
    intro place first second column key hcolumn hkey
    refine idxOf_places_lt (mem_places_of_at? hcolumn) (mem_places_of_at? hkey)
      (lex_append place (.rel ?_))
    rw [at?_append_singleton] at hcolumn hkey
    obtain ⟨document, hdocument, hfirst⟩ := Option.bind_eq_some_iff.mp hcolumn
    rw [hdocument] at hkey
    exact column_lt_keyColumn hfirst hkey

end Document

/-- The loop over the stack ends with the recursive walk of the project, which
visits every document once, in order, along the chain of those above it. -/
theorem traverse_in_preorder (project : Project) :
    Walker.Leads ⟨[.root project], []⟩ ⟨[], traverse project⟩ ∧
    traverse project = (DocumentPath.root project).walk ∧
    (∀ path : DocumentPath, path.walk = path :: path.children.flatMap DocumentPath.walk) ∧
    (Document.project project).VisitedInOrder (traverse project) := by
  have hpending : Walker.pending ⟨[.root project], []⟩ = traverse project := by
    rw [traverse_eq_walk, Walker.pending, List.reverse_singleton, List.flatMap_singleton]
  refine ⟨?_, traverse_eq_walk project, DocumentPath.walk_eq, ?_⟩
  · have hleads := Walker.leads_visited_pending ⟨[.root project], []⟩
    rwa [hpending, List.nil_append] at hleads
  · have hstands := (DocumentPath.standsAt_root project).forall₂_walk
    rw [← traverse_eq_walk] at hstands
    exact Document.visitedInOrder_of_stands hstands

end TableScribe
