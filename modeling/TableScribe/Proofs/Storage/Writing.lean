/-
What is left of generated files that have been written below a directory.  Each
write changes the content at the place of one path, so of the files of one
place the last one is left.
-/
import Mathlib.Data.List.Nodup
import Mathlib.Data.List.Perm.Subperm
import TableScribe.Proofs.Storage.Creation

namespace TableScribe

/-- The way down to a file from the directory that it is written below.  Empty
segments of its path make no difference. -/
def GeneratedFile.way (file : GeneratedFile) : List String := Path.names file.path

section

variable {files after : FileSystem} {directory : String} {file : GeneratedFile}
  {generated : GeneratedFiles} {error : FileError}

theorem placeOf_join (hcheck : GeneratedFile.checkPath file.path = .ok ()) :
    files.placeOf (Path.join directory file.path) = files.placeOf directory ++ file.way := by
  unfold GeneratedFile.checkPath at hcheck
  split_ifs at hcheck with habsolute hplain
  have hstart : files.start (Path.join directory file.path) = files.start directory := by
    rw [FileSystem.start, Path.isAbsolute_join (by simpa using habsolute), FileSystem.start]
  rw [FileSystem.placeOf, hstart, Path.foldl_advance_join (by simpa using hplain),
    FileSystem.placeOf, GeneratedFile.way]

/-- A file is written if its path may be written to, the directories above it
are there or can be created, and then the writing itself succeeds. -/
theorem run_writeTo_file_eq_ok_iff :
    (file.writeTo FileSystem.disk directory).run.run files = (.ok (), after) ↔
      GeneratedFile.checkPath file.path = .ok () ∧ ∃ middle,
        (FileSystem.disk.createDirectories (Path.parent (Path.join directory file.path))).run.run
          files = (.ok (), middle) ∧
        middle.write (Path.join directory file.path) file.content.toUTF8 = (after, .ok ()) := by
  simp only [GeneratedFile.writeTo, run_bind_eq_ok_iff]
  constructor
  · rintro ⟨⟨⟩, before, hcheck, ⟨⟩, middle, hcreate, hwrite⟩
    obtain ⟨hchecked, rfl⟩ := Prod.mk.inj hcheck
    obtain ⟨hok, hafter⟩ := Prod.mk.inj hwrite
    exact ⟨hchecked, middle, hcreate, Prod.ext hafter hok⟩
  · rintro ⟨hcheck, middle, hcreate, hwrite⟩
    obtain ⟨hafter, hok⟩ := Prod.mk.inj hwrite
    exact ⟨(), files, Prod.ext hcheck rfl, (), middle, hcreate, Prod.ext hok hafter⟩

/-- A path that is refused ends the writing before anything is done. -/
theorem run_writeTo_file_of_refused (hcheck : GeneratedFile.checkPath file.path = .error error) :
    (file.writeTo FileSystem.disk directory).run.run files = (.error error, files) :=
  run_bind_eq_error_iff.mpr (Or.inl (Prod.ext hcheck rfl))

/-- What the writing of a file below a directory comes to. -/
inductive GeneratedFile.Writes (files : FileSystem) (directory : String) (file : GeneratedFile) :
    Except FileError Unit → FileSystem → Prop
  /-- The path is refused before anything is done. -/
  | refused {error : FileError} (hcheck : checkPath file.path = .error error) :
      Writes files directory file (.error error) files
  /-- An operation fails, maybe after some directories have been created. -/
  | failed {error : FileError} {after : FileSystem} (hcheck : checkPath file.path = .ok ())
      (hgrows : files.Grows (Path.chain (Path.parent (Path.join directory file.path))) after)
      (herror : ¬ error.IsRefusal) : Writes files directory file (.error error) after
  | written {middle after : FileSystem} (hcheck : checkPath file.path = .ok ())
      (hgrows : files.Grows (Path.chain (Path.parent (Path.join directory file.path))) middle)
      (hsets : middle.Sets (files.placeOf (Path.join directory file.path))
        (some file.content.toUTF8) after) : Writes files directory file (.ok ()) after

/-- Whatever the writing of a file comes to, there are no more than these ways
for it to go. -/
theorem writes_of_run_writeTo {result : Except FileError Unit}
    (hrun : (file.writeTo FileSystem.disk directory).run.run files = (result, after)) :
    file.Writes files directory result after := by
  have hcreates := creates_createDirectories (Path.parent (Path.join directory file.path))
  cases result with
  | ok done =>
      obtain ⟨hcheck, middle, hcreate, hwrite⟩ := run_writeTo_file_eq_ok_iff.mp hrun
      have hgrows := hcreates.grows files
      rw [hcreate] at hgrows
      have hsets := FileSystem.sets_of_write_eq_ok hwrite
      rw [FileSystem.placeOf_congr hgrows.current] at hsets
      exact .written hcheck hgrows hsets
  | error error =>
      simp only [GeneratedFile.writeTo, run_bind_eq_error_iff] at hrun
      rcases hrun with hcheck | ⟨⟨⟩, before, hcheck, hrun⟩
      · obtain ⟨hrefused, rfl⟩ := Prod.mk.inj hcheck
        exact .refused hrefused
      · obtain ⟨hchecked, rfl⟩ := Prod.mk.inj hcheck
        have hgrows := hcreates.grows files
        rcases hrun with hcreate | ⟨⟨⟩, middle, hcreate, hwrite⟩
        · have herror := @hcreates.error files error
          rw [hcreate] at hgrows herror
          exact .failed hchecked hgrows (herror rfl)
        · rw [hcreate] at hgrows
          obtain ⟨hfailed, hafter⟩ := Prod.mk.inj hwrite
          obtain ⟨rfl, herror⟩ := FileSystem.eq_of_write_eq_error (Prod.ext hafter hfailed)
          exact .failed hchecked hgrows herror

/-- A file that is written below a directory lies at the place of its path
afterwards; all other files stay as they are. -/
theorem contentAt_writeTo_file
    (hwrite : (file.writeTo FileSystem.disk directory).run.run files = (.ok (), after)) :
    after.current = files.current ∧ ∀ place, after.root.contentAt place =
      if place = files.placeOf directory ++ file.way then some file.content.toUTF8
      else files.root.contentAt place := by
  cases writes_of_run_writeTo hwrite with
  | written hcheck hgrows hsets =>
      refine ⟨hsets.current.trans hgrows.current, ?_⟩
      intro place
      rw [hsets.contentAt, placeOf_join hcheck, hgrows.contentAt]

/-- The writing of files stops at the first one that is not written. -/
theorem run_writeTo_eq_error_iff :
    (generated.writeTo FileSystem.disk directory).run.run files = (.error error, after) ↔
      ∃ before file rest middle, generated = before ++ file :: rest ∧
        (GeneratedFiles.writeTo FileSystem.disk directory before).run.run files =
          (.ok (), middle) ∧
        (file.writeTo FileSystem.disk directory).run.run middle = (.error error, after) := by
  induction generated generalizing files with
  | nil =>
      constructor
      · rintro ⟨⟩
      · rintro ⟨before, file, rest, middle, hnil, -⟩
        simp at hnil
  | cons first others ih =>
      rw [GeneratedFiles.writeTo, run_bind_eq_error_iff]
      constructor
      · rintro (hfirst | ⟨⟨⟩, middle, hfirst, hothers⟩)
        · exact ⟨[], first, others, files, rfl, rfl, hfirst⟩
        · obtain ⟨before, file, rest, last, rfl, hbefore, hfile⟩ := ih.mp hothers
          exact ⟨first :: before, file, rest, last, rfl,
            run_bind_eq_ok_iff.mpr ⟨(), middle, hfirst, hbefore⟩, hfile⟩
      · rintro ⟨before, file, rest, last, hsplit, hbefore, hfile⟩
        cases before with
        | nil =>
            obtain ⟨rfl, rfl⟩ := List.cons.inj hsplit
            obtain ⟨-, rfl⟩ := Prod.mk.inj hbefore
            exact Or.inl hfile
        | cons head tail =>
            obtain ⟨rfl, rfl⟩ := List.cons.inj hsplit
            obtain ⟨⟨⟩, middle, hfirst, htail⟩ := run_bind_eq_ok_iff.mp hbefore
            exact Or.inr ⟨(), middle, hfirst, ih.mpr ⟨tail, file, rest, last, rfl, htail, hfile⟩⟩

/-- The last file with a place is the one that is left there. -/
theorem contentAt_writeTo
    (hwrite : (generated.writeTo FileSystem.disk directory).run.run files = (.ok (), after)) :
    after.current = files.current ∧ ∀ place, after.root.contentAt place =
      ((generated.reverse.find? fun file => files.placeOf directory ++ file.way == place).map
        fun file => file.content.toUTF8).or (files.root.contentAt place) := by
  induction generated generalizing files with
  | nil =>
      obtain ⟨-, rfl⟩ := Prod.mk.inj hwrite
      exact ⟨rfl, fun place => rfl⟩
  | cons file rest ih =>
      simp only [GeneratedFiles.writeTo, run_bind_eq_ok_iff] at hwrite
      obtain ⟨⟨⟩, middle, hfile, hrest⟩ := hwrite
      obtain ⟨hmiddle, hcontent⟩ := contentAt_writeTo_file hfile
      obtain ⟨hafter, hrest⟩ := ih hrest
      refine ⟨hafter.trans hmiddle, ?_⟩
      intro place
      rw [hrest, FileSystem.placeOf_congr hmiddle, hcontent, List.reverse_cons,
        List.find?_append, Option.map_or, Option.or_assoc]
      congr 1
      by_cases hplace : place = files.placeOf directory ++ file.way
      · simp [hplace]
      · simp [hplace, Ne.symm hplace]

/-- No file lies at or below the place of a path. -/
def FileSystem.HasNoFileIn (files : FileSystem) (directory : String) : Prop :=
  ∀ way, files.root.contentAt (files.placeOf directory ++ way) = none

/-- The files at or below the place of a path are as many as have been
generated, and each of them has the content of its own. -/
def FileSystem.HoldsEach (files : FileSystem) (directory : String) (generated : GeneratedFiles) :
    Prop :=
  ∃ ways : List (List String), ways.Nodup ∧
    List.Forall₂ (fun way file => files.root.contentAt (files.placeOf directory ++ way) =
      some file.content.toUTF8) ways generated ∧
    ∀ way, (files.root.contentAt (files.placeOf directory ++ way)).isSome = true → way ∈ ways

theorem hasNoFileIn_of_here_eq_empty {trail : Trail} (hlocate : files.locate directory = .ok trail)
    (hhere : files.here trail = some .empty) : files.HasNoFileIn directory := by
  obtain ⟨hleads, hplace⟩ := FileSystem.leads_of_locate hlocate
  intro way
  rw [FileNode.contentAt_append, ← hplace, ← hleads.here_eq, hhere]
  exact FileNode.contentAt_empty way

/-- If all places differ, the last file of the place of a file is that file. -/
theorem find?_reverse_of_nodup
    (hnodup : (generated.map GeneratedFile.way).Nodup) (hfile : file ∈ generated) :
    (generated.reverse.find? fun other => other.way == file.way) = some file := by
  have hsome : (generated.reverse.find? fun other => other.way == file.way).isSome :=
    List.find?_isSome.mpr ⟨file, List.mem_reverse.mpr hfile, by simp⟩
  obtain ⟨other, hother⟩ := Option.isSome_iff_exists.mp hsome
  have hway : other.way = file.way := by
    simpa using List.find?_some hother
  have hmem := List.mem_reverse.mp (List.mem_of_find?_eq_some hother)
  rw [hother, List.inj_on_of_nodup_map hnodup hmem hfile hway]

/-- Every generated file is left exactly if no two of them have one place. -/
theorem holdsEach_iff_nodup (hempty : files.HasNoFileIn directory)
    (hwrite : (generated.writeTo FileSystem.disk directory).run.run files = (.ok (), after)) :
    after.HoldsEach directory generated ↔
      (generated.map GeneratedFile.way).Nodup := by
  obtain ⟨hcurrent, hplaces⟩ := contentAt_writeTo hwrite
  have hcontent (way : List String) :
      after.root.contentAt (after.placeOf directory ++ way) =
        (generated.reverse.find? fun file => file.way == way).map
          fun file => file.content.toUTF8 := by
    have hsame : (fun file : GeneratedFile =>
        files.placeOf directory ++ file.way == files.placeOf directory ++ way) =
          fun file => file.way == way := by
      funext file
      rw [Bool.eq_iff_iff]
      simp
    rw [FileSystem.placeOf_congr hcurrent, hplaces, hempty, Option.or_none, hsame]
  have hsome (way : List String) :
      (after.root.contentAt (after.placeOf directory ++ way)).isSome = true ↔
        way ∈ generated.map GeneratedFile.way := by
    simp [hcontent]
  constructor
  · rintro ⟨ways, hways, hfiles, -⟩
    -- As many ways as files, and all of them ways of files.
    have hsubset : ∀ way ∈ ways, way ∈ generated.map GeneratedFile.way := by
      have hfound := hfiles.imp fun way file hfile =>
        And.intro ((hsome way).mp (by simp [hfile])) hfile
      exact ((List.forall₂_and_left _ _).mp hfound).1
    have hperm := (hways.subperm hsubset).perm_of_length_le (by simp [hfiles.length_eq])
    exact hperm.nodup_iff.mp hways
  · intro hnodup
    refine ⟨generated.map GeneratedFile.way, hnodup, ?_, ?_⟩
    · rw [List.forall₂_map_left_iff, List.forall₂_same]
      intro file hfile
      rw [hcontent, find?_reverse_of_nodup hnodup hfile]
      rfl
    · intro way hway
      exact (hsome way).mp hway

end

end TableScribe
