/-
The entries of a tree, by the way down to them.  Something put into a directory
replaces what was there under its name, and nothing else.
-/
import Mathlib.Data.List.Infix
import TableScribe.Storage.FileNode

namespace TableScribe.FileNode

/-- The content of the file at the end of a way down, if a file is there. -/
def contentAt (top : FileNode) (place : List String) : Option ByteArray :=
  match top.at? place with
  | some (.file content) => some content
  | _ => none

/-- The content of a file; a directory has none. -/
def content? : FileNode → Option ByteArray
  | directory _ => none
  | file content => some content

/-- What is at the end of a way down, if something is: a file with its content,
or a directory. -/
def entryAt (top : FileNode) (place : List String) : Option (Option ByteArray) :=
  (top.at? place).map content?

section

variable {top node child : FileNode} {entries : List (String × FileNode)} {name other : String}
  {front place : List String}

theorem child?_withChild_self :
    ((directory entries).withChild name child).child? name = some child := by
  simp [withChild, child?]

theorem lookup_filter_of_ne (hother : other ≠ name) :
    (entries.filter fun entry => entry.1 != name).lookup other = entries.lookup other := by
  induction entries with
  | nil => rfl
  | cons entry rest ih =>
      obtain ⟨key, inner⟩ := entry
      by_cases hkey : key = name
      · subst hkey
        have hne : (other == key) = false := by simpa using hother
        simpa [List.lookup_cons, hne] using ih
      · rw [List.filter_cons_of_pos (by simpa using hkey)]
        cases hsame : other == key <;> simp [List.lookup_cons, hsame, ih]

theorem child?_withChild_of_ne (hother : other ≠ name) :
    ((directory entries).withChild name child).child? other = (directory entries).child? other := by
  have hne : (other == name) = false := by simpa using hother
  simp [withChild, child?, List.lookup_cons, hne, lookup_filter_of_ne hother]

theorem at?_append (top : FileNode) (front rest : List String) :
    top.at? (front ++ rest) = (top.at? front).bind fun node => node.at? rest := by
  induction front generalizing top with
  | nil => rfl
  | cons name front ih =>
      simp only [List.cons_append, at?]
      cases top.child? name with
      | none => rfl
      | some child => exact ih child

theorem contentAt_append (top : FileNode) (front rest : List String) :
    top.contentAt (front ++ rest) = (top.at? front).bind fun node => node.contentAt rest := by
  rw [contentAt, at?_append]
  cases top.at? front <;> rfl

theorem contentAt_empty (place : List String) : empty.contentAt place = none := by
  cases place <;> rfl

theorem contentAt_eq_join (top : FileNode) (place : List String) :
    top.contentAt place = (top.entryAt place).join := by
  rw [contentAt, entryAt]
  rcases top.at? place with _ | _ | _ <;> rfl

theorem entryAt_eq_some_none_iff :
    top.entryAt place = some none ↔ ∃ entries, top.at? place = some (directory entries) := by
  rw [entryAt]
  rcases top.at? place with _ | _ | _ <;> simp [content?]

theorem entryAt_append (top : FileNode) (front rest : List String) :
    top.entryAt (front ++ rest) = (top.at? front).bind fun node => node.entryAt rest := by
  rw [entryAt, at?_append]
  cases top.at? front <;> rfl

theorem entryAt_cons (top : FileNode) (name : String) (rest : List String) :
    top.entryAt (name :: rest) = (top.child? name).bind fun child => child.entryAt rest := by
  cases hchild : top.child? name <;> simp [entryAt, at?, hchild]

/-- What has something inside is a directory. -/
theorem exists_directory_of_child? (hchild : top.child? name = some child) :
    ∃ entries, top = directory entries := by
  cases top with
  | directory entries => exact ⟨entries, rfl⟩
  | file content => exact nomatch hchild

/-- A way down goes through a directory. -/
theorem exists_of_at?_cons_eq_some (hnode : top.at? (name :: place) = some node) :
    ∃ entries child, top = directory entries ∧ top.child? name = some child ∧
      child.at? place = some node := by
  rw [at?] at hnode
  cases hchild : top.child? name with
  | none => simp [hchild] at hnode
  | some child =>
      obtain ⟨entries, htop⟩ := exists_directory_of_child? hchild
      rw [hchild] at hnode
      exact ⟨entries, child, htop, rfl, hnode⟩

/-- What is put into a directory is there afterwards. -/
theorem entryAt_put_append (hfront : top.at? front = some (directory entries))
    (rest : List String) :
    (top.put (front ++ [name]) node).entryAt (front ++ [name] ++ rest) = node.entryAt rest := by
  induction front generalizing top with
  | nil =>
      obtain rfl := Option.some.inj hfront
      change ((directory entries).withChild name node).entryAt (name :: rest) = _
      rw [entryAt_cons, child?_withChild_self, Option.bind_some]
  | cons first others ih =>
      obtain ⟨inside, child, rfl, hchild, hbelow⟩ := exists_of_at?_cons_eq_some hfront
      simp only [List.cons_append, put, hchild, Option.getD_some, entryAt_cons,
        child?_withChild_self, Option.bind_some]
      exact ih hbelow

/-- All else in a tree stays as it is. -/
theorem entryAt_put_of_not_isPrefix (hfront : top.at? front = some (directory entries))
    (hplace : ¬ front ++ [name] <+: place) :
    (top.put (front ++ [name]) node).entryAt place = top.entryAt place := by
  induction front generalizing top place with
  | nil =>
      obtain rfl := Option.some.inj hfront
      cases place with
      | nil => rfl
      | cons other rest =>
          have hother : other ≠ name := by
            rintro rfl
            exact hplace ⟨rest, rfl⟩
          change ((directory entries).withChild name node).entryAt (other :: rest) = _
          rw [entryAt_cons, child?_withChild_of_ne hother, ← entryAt_cons]
  | cons first others ih =>
      obtain ⟨inside, child, rfl, hchild, hbelow⟩ := exists_of_at?_cons_eq_some hfront
      cases place with
      | nil => rfl
      | cons other rest =>
          simp only [List.cons_append, put, hchild, Option.getD_some, entryAt_cons]
          by_cases hother : other = first
          · subst hother
            rw [child?_withChild_self, hchild]
            apply ih hbelow
            intro hrest
            exact hplace (List.prefix_cons_inj other |>.mpr hrest)
          · rw [child?_withChild_of_ne hother]

/-- A new directory is one more entry. -/
theorem entryAt_put_empty (hfront : top.at? front = some (directory entries))
    (hfree : top.at? (front ++ [name]) = none) (place : List String) :
    (top.put (front ++ [name]) empty).entryAt place =
      if place = front ++ [name] then some none else top.entryAt place := by
  by_cases hplace : front ++ [name] <+: place
  · obtain ⟨rest, rfl⟩ := hplace
    rw [entryAt_put_append hfront, entryAt_append, hfree, Option.bind_none]
    cases rest with
    | nil => simp [entryAt, at?, empty, content?]
    | cons inner rest => simp [entryAt, at?, empty, child?]
  · rw [entryAt_put_of_not_isPrefix hfront hplace, if_neg]
    rintro rfl
    exact hplace (List.prefix_refl _)

/-- A file that is put where no directory is is the only entry to change. -/
theorem entryAt_put_file (hfront : top.at? front = some (directory entries))
    (hplain : ∀ inside, top.at? (front ++ [name]) ≠ some (directory inside))
    (content : ByteArray) (place : List String) :
    (top.put (front ++ [name]) (file content)).entryAt place =
      if place = front ++ [name] then some (some content) else top.entryAt place := by
  by_cases hplace : front ++ [name] <+: place
  · obtain ⟨rest, rfl⟩ := hplace
    rw [entryAt_put_append hfront]
    cases rest with
    | nil => simp [entryAt, at?, content?]
    | cons inner rest =>
        have hbelow : top.entryAt (front ++ [name] ++ inner :: rest) = none := by
          rw [entryAt_append, Option.bind_eq_none_iff]
          intro there hthere
          cases there with
          | directory inside => exact absurd hthere (hplain inside)
          | file older => rfl
        rw [hbelow, if_neg]
        · rfl
        · exact fun hsame => nomatch List.append_right_eq_self.mp hsame
  · rw [entryAt_put_of_not_isPrefix hfront hplace, if_neg]
    rintro rfl
    exact hplace (List.prefix_refl _)

end

end TableScribe.FileNode
