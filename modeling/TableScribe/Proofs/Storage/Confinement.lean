/-
Writing files never leads out of the output directory.  A path that could do so
is refused before anything is done for it; any other path adds its names to the
components of the directory, and what is created on the way lies above the file.
-/
import TableScribe.Proofs.Storage.Writing

namespace TableScribe

/-- A path starts with a slash, goes up somewhere, or has `.` as its first
segment. -/
def Path.MayEscape (path : String) : Prop :=
  path.toList.head? = some '/' ∨ ".." ∈ Path.segments path ∨
    (Path.segments path).head? = some "."

theorem GeneratedFile.exists_checkPath_eq_error_iff {path : String} :
    (∃ error, GeneratedFile.checkPath path = .error error) ↔ Path.MayEscape path := by
  unfold GeneratedFile.checkPath Path.MayEscape Path.isPlain Path.isAbsolute
  split_ifs <;> simp_all [or_comm]

theorem GeneratedFile.isRefusal_of_checkPath_eq_error {path : String} {error : FileError}
    (hcheck : GeneratedFile.checkPath path = .error error) : error.IsRefusal := by
  unfold GeneratedFile.checkPath at hcheck
  split_ifs at hcheck <;> cases hcheck <;> trivial

/-- A place lies above a file that is written below a directory. -/
def FileSystem.Above (files : FileSystem) (directory : String) (file : GeneratedFile)
    (place : List String) : Prop :=
  ∃ front rest, rest ≠ [] ∧ place = files.placeAt front ∧
    Path.components (Path.join directory file.path) = front ++ rest

section

variable {files middle after : FileSystem} {directory : String} {file : GeneratedFile}
  {generated : GeneratedFiles} {error : FileError}

theorem FileSystem.placeAt_congr (hcurrent : after.current = files.current) :
    after.placeAt = files.placeAt := by
  funext components
  rw [placeAt, place_start_congr hcurrent, placeAt]

theorem FileSystem.hasDirectory_iff {place : List String} :
    files.HasDirectory place ↔ files.root.entryAt place = some none :=
  FileNode.entryAt_eq_some_none_iff.symm

/-- The directories that are created for a file lie above it. -/
theorem FileSystem.Grows.hasDirectory {place : List String}
    (hgrows : files.Grows (Path.chain (Path.parent (Path.join directory file.path))) after)
    (hplace : after.HasDirectory place) :
    files.HasDirectory place ∨ files.Above directory file place := by
  rw [hasDirectory_iff] at hplace ⊢
  rcases hgrows.entryAt place with hsame | ⟨-, -, hroot, path, hpath, rfl⟩
  · exact Or.inl (hsame ▸ hplace)
  · rcases Path.exists_of_mem_chain_parent hpath with rfl | ⟨rest, hrest, hcomponents⟩
    · exact absurd rfl hroot
    · exact Or.inr ⟨_, rest, hrest, files.placeOf_eq_placeAt path, hcomponents⟩

theorem hasDirectory_of_writes {result : Except FileError Unit} {place : List String}
    (hwrites : file.Writes files directory result after) (hplace : after.HasDirectory place) :
    files.HasDirectory place ∨ files.Above directory file place := by
  cases hwrites with
  | refused hcheck => exact Or.inl hplace
  | failed hcheck hgrows herror => exact hgrows.hasDirectory hplace
  | written hcheck hgrows hsets =>
      apply hgrows.hasDirectory
      rw [FileSystem.hasDirectory_iff, hsets.entryAt] at hplace
      split_ifs at hplace with htarget
      · exact nomatch hplace
      · exact FileSystem.hasDirectory_iff.mpr hplace

/-- The directories that are created for files lie above them. -/
theorem hasDirectory_writeTo {place : List String}
    (hwrite : (generated.writeTo FileSystem.disk directory).run.run files = (.ok (), after))
    (hplace : after.HasDirectory place) :
    files.HasDirectory place ∨ ∃ file ∈ generated, files.Above directory file place := by
  induction generated generalizing files with
  | nil =>
      obtain ⟨-, rfl⟩ := Prod.mk.inj hwrite
      exact Or.inl hplace
  | cons first rest ih =>
      simp only [GeneratedFiles.writeTo, run_bind_eq_ok_iff] at hwrite
      obtain ⟨⟨⟩, middle, hfirst, hrest⟩ := hwrite
      have hcurrent := (contentAt_writeTo_file hfirst).1
      rcases ih hrest with hmiddle | ⟨file, hfile, habove⟩
      · rcases hasDirectory_of_writes (writes_of_run_writeTo hfirst) hmiddle with hthere | habove
        · exact Or.inl hthere
        · exact Or.inr ⟨first, List.mem_cons_self, habove⟩
      · rw [FileSystem.Above, FileSystem.placeAt_congr hcurrent] at habove
        exact Or.inr ⟨file, List.mem_cons_of_mem first hfile, habove⟩

theorem checkPath_of_writeTo
    (hwrite : (generated.writeTo FileSystem.disk directory).run.run files = (.ok (), after)) :
    ∀ file ∈ generated, GeneratedFile.checkPath file.path = .ok () := by
  induction generated generalizing files with
  | nil => exact nofun
  | cons first rest ih =>
      simp only [GeneratedFiles.writeTo, run_bind_eq_ok_iff] at hwrite
      obtain ⟨⟨⟩, middle, hfirst, hrest⟩ := hwrite
      exact List.forall_mem_cons.mpr ⟨(run_writeTo_file_eq_ok_iff.mp hfirst).1, ih hrest⟩

/-- What is left after some files have been written below a directory, and after
the writing of some has been tried. -/
structure StaysBelow (files : FileSystem) (directory : String) (written tried : GeneratedFiles)
    (after : FileSystem) : Prop where
  /-- The components of a file are those of the directory and then names. -/
  components : ∀ file ∈ tried,
    (∀ component ∈ Path.components file.path, component.IsName) ∧
    Path.components (Path.join directory file.path) =
      Path.components directory ++ Path.components file.path
  /-- The last file written at a place is left there; no other file changes. -/
  contentAt : ∀ place, after.root.contentAt place =
    ((written.reverse.find? fun file =>
        files.placeAt (Path.components (Path.join directory file.path)) == place).map
      fun file => file.content.toUTF8).or (files.root.contentAt place)
  /-- New directories lie above files. -/
  created : ∀ place, after.HasDirectory place → files.HasDirectory place ∨
    ∃ file ∈ tried, files.Above directory file place

theorem components_of_checkPath (hcheck : GeneratedFile.checkPath file.path = .ok ()) :
    (∀ component ∈ Path.components file.path, component.IsName) ∧
    Path.components (Path.join directory file.path) =
      Path.components directory ++ Path.components file.path := by
  have hnames := Path.checkPath_eq_ok_iff.mp hcheck
  exact ⟨hnames, Path.components_join hnames directory⟩

theorem staysBelow_of_run
    (hwrite : (generated.writeTo FileSystem.disk directory).run.run files = (.ok (), after)) :
    StaysBelow files directory generated generated after where
  components file hfile := components_of_checkPath (checkPath_of_writeTo hwrite file hfile)
  contentAt place := by
    have hplaces : ∀ file ∈ generated.reverse, (files.placeOf directory ++ file.way == place) =
        (files.placeAt (Path.components (Path.join directory file.path)) == place) := by
      intro file hfile
      have hcheck := checkPath_of_writeTo hwrite file (List.mem_reverse.mp hfile)
      rw [← placeOf_join hcheck, FileSystem.placeOf_eq_placeAt]
    rw [(contentAt_writeTo hwrite).2, ← List.head?_filter, List.filter_congr hplaces,
      List.head?_filter]
  created place hplace := hasDirectory_writeTo hwrite hplace

/-- An attempt that fails leaves no more than directories above the file. -/
theorem StaysBelow.failed
    (hstays : StaysBelow files directory generated generated middle)
    (hcurrent : middle.current = files.current)
    (hcheck : GeneratedFile.checkPath file.path = .ok ())
    (hgrows : middle.Grows (Path.chain (Path.parent (Path.join directory file.path))) after) :
    StaysBelow files directory generated (generated ++ [file]) after where
  components := List.forall_mem_append.mpr
    ⟨hstays.components, List.forall_mem_singleton.mpr (components_of_checkPath hcheck)⟩
  contentAt place := (hgrows.contentAt place).trans (hstays.contentAt place)
  created place hplace := by
    rcases hgrows.hasDirectory hplace with hmiddle | habove
    · rcases hstays.created place hmiddle with hthere | ⟨other, hother, habove⟩
      · exact Or.inl hthere
      · exact Or.inr ⟨other, List.mem_append_left [file] hother, habove⟩
    · rw [FileSystem.Above, FileSystem.placeAt_congr hcurrent] at habove
      exact Or.inr ⟨file, by simp, habove⟩

/-- A path is refused exactly if it could lead out of the directory. -/
theorem exists_refusal_iff :
    (∃ error, error.IsRefusal ∧
        (file.writeTo FileSystem.disk directory).run.run files = (.error error, files)) ↔
      Path.MayEscape file.path := by
  rw [← GeneratedFile.exists_checkPath_eq_error_iff]
  constructor
  · rintro ⟨error, hrefusal, hrun⟩
    cases writes_of_run_writeTo hrun with
    | refused hcheck => exact ⟨error, hcheck⟩
    | failed hcheck hgrows herror => exact absurd hrefusal herror
  · rintro ⟨error, hcheck⟩
    exact ⟨error, GeneratedFile.isRefusal_of_checkPath_eq_error hcheck,
      run_writeTo_file_of_refused hcheck⟩

end

/-- Files are written below the directory only, and directories are created only
above files that are written or tried.  A path is refused exactly if it could
lead out of the directory; that ends the writing and changes nothing more. -/
theorem writing_stays_below (files : FileSystem) (directory : String)
    (generated : GeneratedFiles) :
    (∀ file : GeneratedFile, (∃ error, error.IsRefusal ∧
        (file.writeTo FileSystem.disk directory).run.run files = (.error error, files)) ↔
      Path.MayEscape file.path) ∧
    ∃ result after written tried,
      (generated.writeTo FileSystem.disk directory).run.run files = (result, after) ∧
      StaysBelow files directory written tried after ∧
      (result = .ok () ∧ written = generated ∧ tried = generated ∨
        ∃ error file rest, result = .error error ∧ generated = written ++ file :: rest ∧
          (Path.MayEscape file.path ∧ error.IsRefusal ∧ tried = written ∨
            ¬ Path.MayEscape file.path ∧ ¬ error.IsRefusal ∧ tried = written ++ [file])) := by
  refine ⟨fun file => exists_refusal_iff, ?_⟩
  rcases hrun : (generated.writeTo FileSystem.disk directory).run.run files with ⟨result, after⟩
  cases result with
  | ok done =>
      exact ⟨_, after, generated, generated, rfl, staysBelow_of_run hrun, Or.inl ⟨rfl, rfl, rfl⟩⟩
  | error error =>
      obtain ⟨written, file, rest, middle, hsplit, hwritten, hfile⟩ :=
        run_writeTo_eq_error_iff.mp hrun
      have hstays := staysBelow_of_run hwritten
      cases writes_of_run_writeTo hfile with
      | refused hcheck =>
          refine ⟨_, _, written, written, rfl, hstays, Or.inr ⟨error, file, rest, rfl, hsplit, ?_⟩⟩
          exact Or.inl ⟨GeneratedFile.exists_checkPath_eq_error_iff.mp ⟨error, hcheck⟩,
            GeneratedFile.isRefusal_of_checkPath_eq_error hcheck, rfl⟩
      | failed hcheck hgrows herror =>
          refine ⟨_, _, written, written ++ [file], rfl,
            hstays.failed (contentAt_writeTo hwritten).1 hcheck hgrows,
            Or.inr ⟨error, file, rest, rfl, hsplit, Or.inr ⟨?_, herror, rfl⟩⟩⟩
          rw [← GeneratedFile.exists_checkPath_eq_error_iff, hcheck]
          exact nofun

end TableScribe
