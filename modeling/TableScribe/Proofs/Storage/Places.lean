/-
The places that paths lead to.  Without links the place is determined by the
segments of the path, whatever lies on the way; what lies there is what the
tree has at the place.
-/
import TableScribe.Proofs.Attempts
import TableScribe.Proofs.Storage.FileNode
import TableScribe.Proofs.Storage.Segments
import TableScribe.Storage.FileSystem

namespace TableScribe

namespace FileSystem

variable {files : FileSystem} {trail last : Trail} {segment : String} {segments : List String}

/-- The place that a path leads to. -/
def placeOf (files : FileSystem) (path : String) : List String :=
  (Path.segments path).foldl Path.advance (files.start path).place

/-- The trail one segment further. -/
def pass (files : FileSystem) (trail : Trail) (segment : String) : Trail :=
  if Path.isVoid segment then trail else files.step trail segment

theorem place_step (files : FileSystem) (trail : Trail) (name : String) :
    (files.step trail name).place =
      if name = ".." then trail.place.dropLast else trail.place ++ [name] := by
  unfold step
  split <;> simp [Trail.place]

theorem place_pass (files : FileSystem) (trail : Trail) (segment : String) :
    (files.pass trail segment).place = Path.advance trail.place segment := by
  unfold pass Path.advance
  split
  · rfl
  · exact files.place_step trail segment

theorem enter_eq_ok_iff :
    files.enter trail = .ok () ↔ ∃ entries, files.here trail = some (.directory entries) := by
  unfold enter
  split
  case h_1 entries hhere => simp [hhere]
  case h_2 content hhere => simp [hhere]
  case h_3 hhere => simp [hhere]

theorem follow_append (trail : Trail) (front rest : List String) :
    files.follow trail (front ++ rest) =
      files.follow trail front >>= fun before => files.follow before rest := by
  induction front generalizing trail with
  | nil => rfl
  | cons segment front ih =>
      simp only [List.cons_append, follow, bind_assoc]
      congr 1
      funext _
      split
      · exact ih trail
      · split
        · rfl
        · exact ih _

/-- A segment is followed from a directory to the trail one segment further. -/
theorem follow_cons_eq_ok (hfollow : files.follow trail (segment :: segments) = .ok last) :
    files.enter trail = .ok () ∧ files.follow (files.pass trail segment) segments = .ok last := by
  simp only [follow, Except.bind_eq_ok_iff] at hfollow
  obtain ⟨⟨⟩, henter, hrest⟩ := hfollow
  refine ⟨henter, ?_⟩
  unfold pass
  split at hrest
  case isTrue hvoid => rwa [if_pos hvoid]
  case isFalse hvoid =>
    rw [if_neg hvoid]
    split at hrest
    case isTrue hlong => exact nomatch hrest
    case isFalse hfits => exact hrest

/-- Following segments leads to the place that they determine. -/
theorem place_of_follow (hfollow : files.follow trail segments = .ok last) :
    last.place = segments.foldl Path.advance trail.place := by
  induction segments generalizing trail with
  | nil =>
      obtain rfl := Except.ok.inj hfollow
      rfl
  | cons segment rest ih =>
      rw [List.foldl_cons, ← files.place_pass]
      exact ih (follow_cons_eq_ok hfollow).2

/-- Where paths start depends on the current directory only. -/
theorem place_start_congr {others : FileSystem} (hcurrent : others.current = files.current)
    (path : String) : (others.start path).place = (files.start path).place := by
  have hfold (names : List String) (trail other : Trail) (hplace : other.place = trail.place) :
      (names.foldl others.step other).place = (names.foldl files.step trail).place := by
    induction names generalizing trail other with
    | nil => exact hplace
    | cons name rest ih =>
        apply ih
        rw [place_step, place_step, hplace]
  unfold start
  rw [hcurrent]
  split
  · rfl
  · exact hfold _ _ _ rfl

theorem placeOf_congr {others : FileSystem} (hcurrent : others.current = files.current)
    (path : String) : others.placeOf path = files.placeOf path := by
  rw [placeOf, place_start_congr hcurrent, placeOf]

/-- A trail goes through the tree: at each name lies what the directory before
it has there. -/
inductive Leads (files : FileSystem) : Trail → Prop
  | root : Leads files []
  | name {trail : Trail} (name : String) (htrail : Leads files trail) :
      Leads files ((name, (files.here trail).bind fun node => node.child? name) :: trail)

namespace Leads

theorem step (htrail : files.Leads trail) (name : String) :
    files.Leads (files.step trail name) := by
  unfold FileSystem.step
  split
  · cases htrail with
    | root => exact .root
    | name inner hbefore => exact hbefore
  · exact .name name htrail

theorem pass (htrail : files.Leads trail) (segment : String) :
    files.Leads (files.pass trail segment) := by
  unfold FileSystem.pass
  split
  · exact htrail
  · exact htrail.step segment

theorem follow (htrail : files.Leads trail) (hfollow : files.follow trail segments = .ok last) :
    files.Leads last := by
  induction segments generalizing trail with
  | nil =>
      obtain rfl := Except.ok.inj hfollow
      exact htrail
  | cons segment rest ih => exact ih (htrail.pass segment) (follow_cons_eq_ok hfollow).2

theorem start (files : FileSystem) (path : String) : files.Leads (files.start path) := by
  have hfold (names : List String) (trail : Trail) (htrail : files.Leads trail) :
      files.Leads (names.foldl files.step trail) := by
    induction names generalizing trail with
    | nil => exact htrail
    | cons name rest ih => exact ih _ (htrail.step name)
  unfold FileSystem.start
  split
  · exact .root
  · exact hfold _ _ .root

/-- What lies at the end of a trail is what the tree has at its place. -/
theorem here_eq (htrail : files.Leads trail) : files.here trail = files.root.at? trail.place := by
  induction htrail with
  | root => rfl
  | @name trail name htrail ih =>
      have hplace : Trail.place ((name, (files.here trail).bind fun node => node.child? name) ::
          trail) = trail.place ++ [name] := by
        simp [Trail.place]
      rw [hplace, FileNode.at?_append, ← ih]
      change (files.here trail).bind (fun node => node.child? name) = _
      congr 1
      funext node
      cases hchild : node.child? name <;> simp [FileNode.at?, hchild]

/-- What has a directory below it is a directory. -/
theorem here_drop (htrail : files.Leads trail) (hhere : files.enter trail = .ok ()) :
    files.enter (trail.drop 1) = .ok () := by
  rw [enter_eq_ok_iff] at hhere ⊢
  obtain ⟨entries, hhere⟩ := hhere
  cases htrail with
  | root => exact ⟨entries, hhere⟩
  | @name trail name hbefore =>
      obtain ⟨node, hnode, hchild⟩ := Option.bind_eq_some_iff.mp hhere
      obtain ⟨inside, rfl⟩ := FileNode.exists_directory_of_child? hchild
      exact ⟨inside, hnode⟩

end Leads

/-- The way that a path leads goes through the tree to the place of the path. -/
theorem leads_of_locate {path : String} (hlocate : files.locate path = .ok trail) :
    files.Leads trail ∧ trail.place = files.placeOf path := by
  simp only [locate, Except.bind_eq_ok_iff] at hlocate
  obtain ⟨-, -, hfollow⟩ := hlocate
  exact ⟨(Leads.start files path).follow hfollow, place_of_follow hfollow⟩

end FileSystem

end TableScribe
