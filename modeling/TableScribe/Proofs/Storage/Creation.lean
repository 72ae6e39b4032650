/-
The creation of directories in a file system in memory.  Whether it succeeds or
not, it adds directories at the places of some paths, and all other entries stay
as they are.
-/
import TableScribe.Proofs.Storage.Components
import TableScribe.Proofs.Storage.Operations

namespace TableScribe

/-- Directories are added to a file system at the places of some paths. -/
structure FileSystem.Grows (paths : List String) (files after : FileSystem) : Prop where
  current : after.current = files.current
  entryAt (place : List String) : after.root.entryAt place = files.root.entryAt place ∨
    files.root.entryAt place = none ∧ after.root.entryAt place = some none ∧
      place ≠ [] ∧ ∃ path ∈ paths, place = files.placeOf path

namespace FileSystem.Grows

variable {paths more : List String} {files middle after : FileSystem}

theorem refl (paths : List String) (files : FileSystem) : Grows paths files files :=
  ⟨rfl, fun _ => Or.inl rfl⟩

theorem trans (hfirst : Grows paths files middle) (hsecond : Grows paths middle after) :
    Grows paths files after := by
  refine ⟨hsecond.current.trans hfirst.current, ?_⟩
  intro place
  rcases hsecond.entryAt place with hsame | ⟨hnone, hnew, hroot, path, hpath, hplace⟩
  · rw [hsame]
    exact hfirst.entryAt place
  · rcases hfirst.entryAt place with hsame | ⟨-, hthere, -⟩
    · exact Or.inr ⟨hsame ▸ hnone, hnew, hroot, path, hpath,
        hplace.trans (FileSystem.placeOf_congr hfirst.current path)⟩
    · exact nomatch hnone.symm.trans hthere

theorem mono (hgrows : Grows paths files after) (hsubset : paths ⊆ more) :
    Grows more files after := by
  refine ⟨hgrows.current, ?_⟩
  intro place
  rcases hgrows.entryAt place with hsame | ⟨hnone, hnew, hroot, path, hpath, hplace⟩
  · exact Or.inl hsame
  · exact Or.inr ⟨hnone, hnew, hroot, path, hsubset hpath, hplace⟩

theorem contentAt (hgrows : Grows paths files after) (place : List String) :
    after.root.contentAt place = files.root.contentAt place := by
  rw [FileNode.contentAt_eq_join, FileNode.contentAt_eq_join]
  rcases hgrows.entryAt place with hsame | ⟨hnone, hnew, -⟩
  · rw [hsame]
  · rw [hnone, hnew]
    rfl

end FileSystem.Grows

/-- A program that adds no more to a file system than directories at the places
of some paths, and refuses no path. -/
structure Creates {α : Type} (paths : List String)
    (program : ExceptT FileError (StateM FileSystem) α) : Prop where
  grows (files : FileSystem) : files.Grows paths (program.run.run files).2
  error {files : FileSystem} {cause : FileError} :
    (program.run.run files).1 = .error cause → ¬ cause.IsRefusal

namespace Creates

variable {α β : Type} {paths more : List String}

theorem pure (result : α) : Creates paths (Pure.pure result) :=
  ⟨fun files => .refl paths files, nofun⟩

theorem throw {error : FileError} (herror : ¬ error.IsRefusal) :
    Creates paths (throw error : ExceptT FileError _ α) := by
  refine ⟨fun files => .refl paths files, ?_⟩
  rintro files cause ⟨⟩
  exact herror

theorem bind {program : ExceptT FileError (StateM FileSystem) α}
    {next : α → ExceptT FileError (StateM FileSystem) β} (hprogram : Creates paths program)
    (hnext : ∀ result, Creates paths (next result)) : Creates paths (program >>= next) := by
  constructor
  · intro files
    have hfirst := hprogram.grows files
    rw [run_bind_eq]
    generalize program.run.run files = outcome at hfirst ⊢
    obtain ⟨error | result, middle⟩ := outcome
    · exact hfirst
    · exact hfirst.trans ((hnext result).grows middle)
  · intro files cause
    have hfirst := @hprogram.error files
    rw [run_bind_eq]
    generalize program.run.run files = outcome at hfirst ⊢
    obtain ⟨error | result, middle⟩ := outcome
    · rintro ⟨⟩
      exact hfirst rfl
    · exact (hnext result).error

theorem mono {program : ExceptT FileError (StateM FileSystem) α} (hprogram : Creates paths program)
    (hsubset : paths ⊆ more) : Creates more program :=
  ⟨fun files => (hprogram.grows files).mono hsubset, hprogram.error⟩

/-- The attempt to create a directory does not fail, but what comes next has to
deal with its result. -/
theorem makeDirectory_bind {path : String}
    {next : Except FileError Unit → ExceptT FileError (StateM FileSystem) α} (hpath : path ∈ paths)
    (hnext : ∀ result, (∀ error, result = .error error → ¬ error.IsRefusal) →
      Creates paths (next result)) :
    Creates paths (ExceptT.lift (FileSystem.disk.makeDirectory path) >>= next) := by
  have hrun (files : FileSystem) :
      (ExceptT.lift (FileSystem.disk.makeDirectory path) >>= next).run.run files =
        (next (files.makeDirectory path).2).run.run (files.makeDirectory path).1 := rfl
  have hmake (files : FileSystem) : files.Grows paths (files.makeDirectory path).1 ∧
      ∀ error, (files.makeDirectory path).2 = .error error → ¬ error.IsRefusal := by
    cases hmake : files.makeDirectory path with
    | mk after result =>
        cases result with
        | ok done =>
            obtain ⟨hroot, hnone, hsets⟩ := FileSystem.sets_of_makeDirectory_eq_ok hmake
            refine ⟨⟨hsets.current, ?_⟩, nofun⟩
            intro place
            rw [hsets.entryAt]
            by_cases hplace : place = files.placeOf path
            · subst hplace
              exact Or.inr ⟨hnone, if_pos rfl, hroot, path, hpath, rfl⟩
            · exact Or.inl (if_neg hplace)
        | error cause =>
            obtain ⟨rfl, hcause⟩ := FileSystem.eq_of_makeDirectory_eq_error hmake
            refine ⟨.refl paths after, ?_⟩
            rintro error ⟨⟩
            exact hcause
  constructor
  · intro files
    obtain ⟨hgrows, hresult⟩ := hmake files
    rw [hrun]
    exact hgrows.trans ((hnext _ hresult).grows _)
  · intro files cause
    rw [hrun]
    exact (hnext _ (hmake files).2).error

end Creates

variable {paths : List String}

theorem creates_settle (path : String) {result : Except FileError Unit}
    (hresult : ∀ error, result = .error error → ¬ error.IsRefusal) :
    Creates paths (FileSystem.disk.settle path result) := by
  cases result with
  | ok done => exact .pure ()
  | error error =>
      have hask : Creates paths (ExceptT.lift (FileSystem.disk.isDirectory path)) :=
        ⟨fun files => .refl paths files, nofun⟩
      refine hask.bind fun isDirectory => ?_
      cases isDirectory with
      | true => exact .pure ()
      | false => exact .throw (hresult error rfl)

theorem creates_createFrom (paths : List String) :
    Creates paths (FileSystem.disk.createFrom paths) := by
  induction paths with
  | nil => exact .pure ()
  | cons path rest ih =>
      refine .makeDirectory_bind List.mem_cons_self fun result hresult => ?_
      split
      · refine (ih.mono (List.subset_cons_self path rest)).bind fun _ => ?_
        exact .makeDirectory_bind List.mem_cons_self fun again hagain =>
          creates_settle path hagain
      · exact creates_settle path hresult

/-- Directories are added along the chain of the path only. -/
theorem creates_createDirectories (path : String) :
    Creates (Path.chain path) (FileSystem.disk.createDirectories path) := by
  unfold Disk.createDirectories Path.chain
  split
  · exact .pure ()
  · exact creates_createFrom _

end TableScribe
