/-
What the operations of a file system do to its entries.  Creating a directory
adds one, writing a file sets one, and neither of them refuses a path for where
it could lead.
-/
import TableScribe.Proofs.Storage.Places
import TableScribe.Storage.Disk

namespace TableScribe

/-- Errors about where a path to write to could lead. -/
def FileError.IsRefusal : FileError → Prop
  | notRelative _ | notPlain _ => True
  | system _ | notText | nulInPath => False

namespace FileSystem

variable {files after : FileSystem} {path : String} {trail : Trail} {error : FileError}

/-- A directory lies at a place. -/
def HasDirectory (files : FileSystem) (place : List String) : Prop :=
  ∃ entries, files.root.at? place = some (.directory entries)

theorem Leads.hasDirectory (htrail : files.Leads trail) (henter : files.enter trail = .ok ()) :
    files.HasDirectory trail.place := by
  obtain ⟨entries, hhere⟩ := enter_eq_ok_iff.mp henter
  exact ⟨entries, htrail.here_eq ▸ hhere⟩

/-- A file system is another one with an entry set at a place, to a directory or
to a file with its content. -/
structure Sets (files : FileSystem) (place : List String) (entry : Option ByteArray)
    (after : FileSystem) : Prop where
  current : after.current = files.current
  entryAt (other : List String) : after.root.entryAt other =
    if other = place then some entry else files.root.entryAt other

/-- The content of other files stays as it is. -/
theorem Sets.contentAt {place : List String} {entry : Option ByteArray}
    (hsets : files.Sets place entry after) (other : List String) :
    after.root.contentAt other = if other = place then entry else files.root.contentAt other := by
  rw [FileNode.contentAt_eq_join, hsets.entryAt, FileNode.contentAt_eq_join]
  split <;> rfl

/-- A directory is created at the place of its path, inside a directory and
where nothing is. -/
theorem exists_of_locateFree_eq_ok (hfree : files.locateFree path = .ok trail) :
    ∃ front name, files.placeOf path = front ++ [name] ∧ trail.place = front ++ [name] ∧
      files.HasDirectory front ∧ files.root.at? (front ++ [name]) = none := by
  simp only [locateFree, Except.bind_eq_ok_iff] at hfree
  obtain ⟨-, -, hfree⟩ := hfree
  cases hnames : (Path.trimmed path).reverse with
  | nil => simp [hnames] at hfree
  | cons name front =>
      simp only [hnames, Except.bind_eq_ok_iff] at hfree
      obtain ⟨before, hfollow, ⟨⟩, henter, hnext⟩ := hfree
      have hbefore := (Leads.start files path).follow hfollow
      split_ifs at hnext with hdots hfits hthere
      obtain rfl := Except.ok.inj hnext
      obtain ⟨hcurrent, hup⟩ := not_or.mp hdots
      have hplace : (files.step before name).place = before.place ++ [name] := by
        rw [place_step, if_neg hup]
      have htrimmed : Path.trimmed path = front.reverse ++ [name] := by
        rw [List.reverse_eq_iff.mp hnames, List.reverse_cons]
      have hvoid : Path.isVoid name = false := by
        have hempty := Path.isEmpty_eq_false_of_trimmed htrimmed
        simp [Path.isVoid, hempty, hcurrent]
      have hpath : files.placeOf path = before.place ++ [name] := by
        rw [placeOf, ← Path.foldl_advance_trimmed, htrimmed, List.foldl_append,
          ← place_of_follow hfollow]
        simp [Path.advance, hvoid, hup]
      refine ⟨before.place, name, hpath, hplace, hbefore.hasDirectory henter, ?_⟩
      rw [← hplace, ← (hbefore.step name).here_eq]
      simpa using hthere

/-- A file is written inside a directory. -/
theorem exists_of_locate_eq_ok (hlocate : files.locate path = .ok trail)
    (hplain : files.isDirectory trail = false) (hends : Path.endsInName path = true) :
    ∃ front name, trail.place = front ++ [name] ∧ files.HasDirectory front := by
  simp only [locate, Except.bind_eq_ok_iff] at hlocate
  obtain ⟨-, -, hfollow⟩ := hlocate
  unfold Path.endsInName at hends
  split at hends
  case h_2 hnone => exact absurd hends Bool.false_ne_true
  case h_1 name hname =>
    obtain ⟨front, hsegments⟩ := List.getLast?_eq_some_iff.mp hname
    rw [hsegments, follow_append, Except.bind_eq_ok_iff] at hfollow
    obtain ⟨before, hbefore, hlast⟩ := hfollow
    obtain ⟨henter, hlast⟩ := follow_cons_eq_ok hlast
    obtain rfl := Except.ok.inj hlast
    have hleads := (Leads.start files path).follow hbefore
    have hvoid : Path.isVoid name = false := by simpa using hends
    have hname : name ≠ ".." := by
      rintro rfl
      obtain ⟨entries, hhere⟩ := enter_eq_ok_iff.mp (hleads.here_drop henter)
      have hdirectory : files.isDirectory (before.drop 1) = true := by
        rw [isDirectory, hhere]
      exact Bool.eq_false_iff.mp hplain hdirectory
    refine ⟨before.place, name, ?_, hleads.hasDirectory henter⟩
    rw [place_pass, Path.advance, hvoid]
    simp [hname]

/-- A directory that is created is a new entry at the place of its path. -/
theorem sets_of_makeDirectory_eq_ok (hmake : files.makeDirectory path = (after, .ok ())) :
    files.placeOf path ≠ [] ∧ files.root.entryAt (files.placeOf path) = none ∧
      files.Sets (files.placeOf path) none after := by
  unfold makeDirectory at hmake
  cases hfree : files.locateFree path with
  | error error => simp [hfree] at hmake
  | ok trail =>
      obtain ⟨front, name, hpath, hplace, ⟨entries, hfront⟩, hnone⟩ :=
        exists_of_locateFree_eq_ok hfree
      simp only [hfree, hplace] at hmake
      obtain ⟨rfl, -⟩ := Prod.mk.inj hmake
      rw [hpath]
      exact ⟨by simp, by simp [FileNode.entryAt, hnone], rfl,
        FileNode.entryAt_put_empty hfront hnone⟩

/-- A file that is written is the entry at the place of its path afterwards. -/
theorem sets_of_write_eq_ok {content : ByteArray}
    (hwrite : files.write path content = (after, .ok ())) :
    files.Sets (files.placeOf path) (some content) after := by
  unfold write at hwrite
  cases hlocate : files.locate path with
  | error error => simp [hlocate] at hwrite
  | ok trail =>
      simp only [hlocate] at hwrite
      split_ifs at hwrite with hrefused
      · simp at hwrite
      · simp only [Bool.or_eq_true, Bool.not_eq_true', not_or, Bool.not_eq_true,
          Bool.not_eq_false] at hrefused
        obtain ⟨hplain, hends⟩ := hrefused
        obtain ⟨front, name, hplace, entries, hfront⟩ :=
          exists_of_locate_eq_ok hlocate hplain hends
        obtain ⟨hleads, hpath⟩ := leads_of_locate hlocate
        obtain ⟨rfl, -⟩ := Prod.mk.inj hwrite
        refine ⟨rfl, ?_⟩
        intro place
        rw [← hpath, hplace]
        refine FileNode.entryAt_put_file hfront ?_ content place
        intro inside hthere
        rw [← hplace, ← hleads.here_eq] at hthere
        simp [isDirectory, hthere] at hplain

theorem not_isRefusal_of_checkPath_eq_error (hcheck : checkPath path = .error error) :
    ¬ error.IsRefusal := by
  unfold checkPath at hcheck
  split_ifs at hcheck <;> cases hcheck <;> exact id

theorem not_isRefusal_of_enter_eq_error (henter : files.enter trail = .error error) :
    ¬ error.IsRefusal := by
  unfold enter at henter
  split at henter <;> cases henter <;> exact id

theorem not_isRefusal_of_follow_eq_error {segments : List String}
    (hfollow : files.follow trail segments = .error error) : ¬ error.IsRefusal := by
  induction segments generalizing trail with
  | nil => exact nomatch hfollow
  | cons segment rest ih =>
      simp only [follow, Except.bind_eq_error_iff] at hfollow
      rcases hfollow with henter | ⟨-, -, hrest⟩
      · exact not_isRefusal_of_enter_eq_error henter
      · split_ifs at hrest
        · exact ih hrest
        · cases hrest
          exact id
        · exact ih hrest

theorem not_isRefusal_of_locateFree_eq_error (hfree : files.locateFree path = .error error) :
    ¬ error.IsRefusal := by
  simp only [locateFree, Except.bind_eq_error_iff] at hfree
  rcases hfree with hcheck | ⟨-, -, hfree⟩
  · exact not_isRefusal_of_checkPath_eq_error hcheck
  · cases hnames : (Path.trimmed path).reverse with
    | nil =>
        rw [hnames] at hfree
        cases hfree
        exact id
    | cons name front =>
        simp only [hnames, Except.bind_eq_error_iff] at hfree
        rcases hfree with hfollow | ⟨trail, -, henter | ⟨-, -, hnext⟩⟩
        · exact not_isRefusal_of_follow_eq_error hfollow
        · exact not_isRefusal_of_enter_eq_error henter
        · split_ifs at hnext <;> cases hnext <;> exact id

/-- A directory that is not created changes nothing. -/
theorem eq_of_makeDirectory_eq_error (hmake : files.makeDirectory path = (after, .error error)) :
    after = files ∧ ¬ error.IsRefusal := by
  unfold makeDirectory at hmake
  cases hfree : files.locateFree path with
  | error cause =>
      rw [hfree] at hmake
      obtain ⟨rfl, hcause⟩ := Prod.mk.inj hmake
      obtain rfl := Except.error.inj hcause
      exact ⟨rfl, not_isRefusal_of_locateFree_eq_error hfree⟩
  | ok trail => simp [hfree] at hmake

/-- A file that is not written changes nothing. -/
theorem eq_of_write_eq_error {content : ByteArray}
    (hwrite : files.write path content = (after, .error error)) :
    after = files ∧ ¬ error.IsRefusal := by
  unfold write at hwrite
  cases hlocate : files.locate path with
  | error cause =>
      rw [hlocate] at hwrite
      obtain ⟨rfl, hcause⟩ := Prod.mk.inj hwrite
      obtain rfl := Except.error.inj hcause
      refine ⟨rfl, ?_⟩
      simp only [locate, Except.bind_eq_error_iff] at hlocate
      rcases hlocate with hcheck | ⟨-, -, hfollow⟩
      · exact not_isRefusal_of_checkPath_eq_error hcheck
      · exact not_isRefusal_of_follow_eq_error hfollow
  | ok trail =>
      simp only [hlocate] at hwrite
      split_ifs at hwrite
      · obtain ⟨rfl, hcause⟩ := Prod.mk.inj hwrite
        cases hcause
        exact ⟨rfl, id⟩
      · simp at hwrite

end FileSystem

end TableScribe
