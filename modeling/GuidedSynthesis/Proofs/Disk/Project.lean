import GuidedSynthesis.Proofs.Disk.Containment
import GuidedSynthesis.Proofs.Failure.Attempts
/-!
What a throw-away project holds.

The sources are written in order, so of files with one path, and of paths that lead to one place,
the last is the one that counts. In particular the last source of all can be read back from the
project (`readSource_build_last`).
-/

namespace GuidedSynthesis.Project

theorem readText_writeFile {disk disk' : Disk} {path content : String}
    (h : writeFile disk path content = (.ok (), disk')) : disk'.readText path = .ok content := by
  obtain ⟨made, -, hwritten⟩ := Disk.andThen_eq_ok_iff.mp h
  exact Disk.readText_writeText hwritten

/-- The last of the files that were written is on disk as it was written. -/
theorem readText_writeFiles {root : String} {files : List SourceFile} {file : SourceFile}
    {disk disk' : Disk} (h : writeFiles root disk (files ++ [file]) = (.ok (), disk')) :
    disk'.readText (Path.join root file.path) = .ok file.content := by
  induction files generalizing disk with
  | nil =>
    obtain ⟨written, hwritten, hrest⟩ := Disk.andThen_eq_ok_iff.mp h
    obtain ⟨-, rfl⟩ := Prod.mk.inj hrest
    exact readText_writeFile hwritten
  | cons first files ih =>
    obtain ⟨written, -, hrest⟩ := Disk.andThen_eq_ok_iff.mp h
    exact ih hrest

/-- Paths are checked one by one, and passed on as they are. -/
theorem mapM_checkedPath_eq_ok {paths checked : List String}
    (h : paths.mapM checkedPath = .ok checked) :
    checked = paths ∧ ∀ path ∈ paths, isContained path = true := by
  have hall := mapM_eq_ok_iff.mp h
  clear h
  induction hall with
  | nil => simp
  | cons hfirst _ ih =>
    obtain ⟨hcontained, rfl⟩ := checkedPath_eq_ok_iff.mp hfirst
    obtain ⟨rfl, hrest⟩ := ih
    exact ⟨rfl, List.forall_mem_cons.mpr ⟨hcontained, hrest⟩⟩

/-- A project that was built has its directory, and all its sources were written below that. -/
theorem build_eq_ok {disk disk' : Disk} {parent name : String} {module : ModuleDescriptor}
    {sources : SourceSet} {project : Project}
    (h : build disk parent name module sources = (.ok project, disk')) :
    ∃ checked made, sources.paths.mapM checkedPath = .ok checked ∧
      project = ⟨Path.join parent name, module, checked.map (Path.join (Path.join parent name))⟩ ∧
      writeFiles (Path.join parent name) made sources.files = (.ok (), disk') := by
  rw [build] at h
  split at h
  · exact nomatch h
  · rename_i checked hchecked
    split at h
    · exact nomatch h
    · dsimp only at h
      split at h
      · exact nomatch h
      · split at h
        · exact nomatch h
        · rename_i made _
          split at h
          · exact nomatch h
          · rename_i hwritten
            obtain ⟨hproject, rfl⟩ := Prod.mk.inj h
            exact ⟨checked, made, hchecked, (Except.ok.inj hproject).symm, hwritten⟩

/-- The last source of a project can be read back from it. -/
theorem readSource_build_last {disk disk' : Disk} {parent name : String} {module : ModuleDescriptor}
    {sources : SourceSet} {files : List SourceFile} {file : SourceFile} {project : Project}
    (hlast : sources.files = files ++ [file])
    (h : build disk parent name module sources = (.ok project, disk')) :
    project.readSource disk' file.path = .ok file.content := by
  obtain ⟨checked, made, hchecked, rfl, hwritten⟩ := build_eq_ok h
  have hmem : file.path ∈ sources.paths := by
    rw [SourceSet.paths, hlast, List.map_append]
    exact List.mem_append_right _ List.mem_cons_self
  rw [hlast] at hwritten
  obtain ⟨-, hcontained⟩ := mapM_checkedPath_eq_ok hchecked
  rw [readSource, checkedPath_eq_ok_iff.mpr ⟨hcontained file.path hmem, rfl⟩]
  simp only [bind, Except.bind, readText_writeFiles hwritten]
  rfl

end GuidedSynthesis.Project
