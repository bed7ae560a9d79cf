import GuidedSynthesis.Proofs.Disk.Graft
import GuidedSynthesis.Proofs.Disk.Project
import GuidedSynthesis.Proofs.Toml.Manifest
/-!
What a build leaves on disk.

A build writes the manifest and then the sources, in order, into a directory that is new. If a path
is refused nothing is written, and the failure names the first such path. If anything fails later,
the disk is in the end what it was, and nothing fails unless something is in the way. If nothing
fails, the disk has one new directory and is otherwise what it was, and the new directory holds, at
every place, what the last of the writes to that place put there: whether the manifest or a source,
and however the paths that lead there are spelt (`build_law`). The manifest is the one of the
module: it reads back as its organization, its name and its version.

## How the proof goes

The name of the directory is new where it is made, so its path leads to an empty directory, and all
that follows are grafts of what it holds (`writeFile_graft`). What the directory holds is an
invariant of the writes (`Holds.store`, `writeFiles_graft`). To take the directory away is to undo
the grafts and the making of it (`removeRoot_put`).
-/

namespace GuidedSynthesis

/-! ## 1. What the writes leave -/

/-- No place lies in another one. -/
def Unnested (places : List (List String)) : Prop :=
  ∀ place ∈ places, ∀ other ∈ places, place <+: other → place = other

instance (places : List (List String)) : Decidable (Unnested places) :=
  inferInstanceAs (Decidable (∀ place ∈ places, ∀ other ∈ places, place <+: other → place = other))

theorem Unnested.mono {places fewer : List (List String)} (h : Unnested places)
    (hfewer : fewer ⊆ places) : Unnested fewer := fun place hplace other hother =>
  h place (hfewer hplace) other (hfewer hother)

/-- A directory holds what some writes put there: the files are those that were written, and the
directories are those that the files lie in. -/
structure Holds (writes : List (List String × String)) (inner : Entries) : Prop where
  files : HoldsFiles writes inner
  directories : ∀ location, inner.kind? location = some .directory ↔
    location = [] ∨ ∃ write ∈ writes, location <+: write.1 ∧ location ≠ write.1

namespace Holds

variable {writes : List (List String × String)} {inner : Entries}

theorem nil : Holds [] [] where
  files := .nil
  directories := fun location => by
    rcases location with _ | ⟨name, more⟩
    · simp [Entries.kind?_nil]
    · simp [Entries.kind?_empty_cons]

theorem store {place : List String} {text : String} {after : Entries} (h : Holds writes inner)
    (hstored : Disk.Stored place text inner after) : Holds (writes ++ [(place, text)]) after := by
  have hfiles := h.files.store hstored
  refine ⟨hfiles, fun location => ⟨fun hdirectory => ?_, ?_⟩⟩
  · rcases hstored.directories location hdirectory with hold | ⟨hpre, hne⟩
    · refine ((h.directories location).mp hold).imp_right ?_
      rintro ⟨write, hwrite, hpre⟩
      exact ⟨write, List.mem_append_left _ hwrite, hpre⟩
    · exact .inr ⟨(place, text), by simp, hpre, hne⟩
  · rintro (rfl | ⟨write, hwrite, ⟨more, hmore⟩, hne⟩)
    · exact Entries.kind?_nil after
    · -- what was written is a file, so whatever it lies in is a directory
      obtain ⟨content, hcontent⟩ := hfiles.file_of_mem ⟨write, hwrite, rfl⟩
      have hfile := Entries.kind?_eq_file_iff.mp hcontent
      rcases more with _ | ⟨name, more⟩
      · rw [List.append_nil] at hmore
        exact absurd hmore hne
      · rw [← hmore] at hfile
        obtain ⟨entries, hentries, -⟩ := Entries.exists_directory_of_isSome
          (by rw [hfile]; rfl : (after.get? (location ++ name :: more)).isSome)
        exact Entries.kind?_eq_directory_iff.mpr ⟨entries, hentries⟩

/-- Nothing is in the way of a file that is neither below a file nor in the place of a directory. -/
theorem writeFile_ok {disk : Disk} {root path : String} {base : List String}
    (h : Holds writes inner) (hempty : disk.EmptyAt root base) (hpath : isContained path = true)
    (hlimits : Disk.WithinLimits (Path.join root path)) (hfile : Path.namesDirectory path = false)
    (hunnested : Unnested (Path.steps path :: writes.map Prod.fst)) (content : String) :
    (Project.writeFile (disk.graft base inner) (Path.join root path) content).1 = .ok () := by
  have hsteps : Path.steps path ∈ Path.steps path :: writes.map Prod.fst := List.mem_cons_self
  obtain ⟨front, name, hname, -⟩ := Path.exists_steps_eq_concat hfile
  refine Disk.writeFile_graft_clear hempty hpath hlimits hfile ?_ ?_ content
  · intro place content hpre hplace
    obtain ⟨text, htext, -⟩ := (h.files place content).mp hplace
    obtain ⟨write, hwrite, rfl⟩ := isSome_lastWritten_iff.mp (Option.isSome_of_eq_some htext)
    have heq := hunnested write.1 (List.mem_cons_of_mem _ (List.mem_map_of_mem hwrite))
      (Path.steps path) hsteps (hpre.trans (List.dropLast_prefix _))
    have hlength := hpre.length_le
    rw [heq, hname, List.dropLast_concat, List.length_append, List.length_singleton] at hlength
    omega
  · intro hdirectory
    rcases (h.directories _).mp hdirectory with hnil | ⟨write, hwrite, hpre, hne⟩
    · rw [hname] at hnil
      exact absurd hnil (by simp)
    · exact hne (hunnested _ hsteps _ (List.mem_cons_of_mem _ (List.mem_map_of_mem hwrite)) hpre)

end Holds

namespace Project

variable {disk : Disk} {root parent name : String} {base : List String}

/-! ## 2. Writing the sources -/

/-- Where a source is to stand, and its text. -/
def writeOf (file : SourceFile) : List String × String := (Path.steps file.path, file.content)

/-- Sources that are written in order change nothing but what the directory holds; if all are
written, it holds what the last writes put there. All are written if none is in the way of another
and no limit is passed. -/
theorem writeFiles_graft (h : disk.EmptyAt root base) :
    ∀ {files : List SourceFile} {writes : List (List String × String)} {inner : Entries},
      (∀ file ∈ files, isContained file.path = true) → Holds writes inner →
      ∃ result after, writeFiles root (disk.graft base inner) files =
          (result, disk.graft base after) ∧
        (result = .ok () → Holds (writes ++ files.map writeOf) after) ∧
        ((∀ file ∈ files, Path.namesDirectory file.path = false ∧
            Disk.WithinLimits (Path.join root file.path)) →
          Unnested ((writes ++ files.map writeOf).map Prod.fst) → result = .ok ()) := by
  intro files
  induction files with
  | nil =>
    intro writes inner _ hholds
    refine ⟨.ok (), inner, rfl, fun _ => ?_, fun _ _ => rfl⟩
    rwa [List.map_nil, List.append_nil]
  | cons file files ih =>
    intro writes inner hcontained hholds
    rw [List.forall_mem_cons] at hcontained
    obtain ⟨hfile, hfiles⟩ := hcontained
    have hsplit : writes ++ (file :: files).map writeOf =
        (writes ++ [writeOf file]) ++ files.map writeOf := by simp
    obtain ⟨result, after, hwrite, hresult⟩ := Disk.writeFile_graft h hfile inner file.content
    rw [writeFiles, hwrite, hsplit]
    rcases hresult with ⟨fault, rfl, -⟩ | ⟨rfl, hstored⟩
    · refine ⟨.error fault, after, rfl, fun hok => ?_, fun hclear hunnested => ?_⟩
      · cases hok
      · obtain ⟨hname, hlimits⟩ := (List.forall_mem_cons.mp hclear).1
        have hsome : Path.steps file.path :: writes.map Prod.fst ⊆
            ((writes ++ [writeOf file]) ++ files.map writeOf).map Prod.fst := by
          intro place hplace
          rw [List.map_append, List.map_append, List.mem_append, List.mem_append]
          exact .inl ((List.mem_cons.mp hplace).symm.imp_right fun heq => by simp [writeOf, heq])
        have hok := hholds.writeFile_ok h hfile hlimits hname (hunnested.mono hsome)
          file.content
        rw [hwrite] at hok
        cases hok
    · obtain ⟨result, last, hrest, hlast, hdone⟩ := ih hfiles (hholds.store hstored)
      exact ⟨result, last, hrest, hlast,
        fun hclear hunnested => hdone (List.forall_mem_cons.mp hclear).2 hunnested⟩

/-- The manifest can be written into a directory that is empty, unless its path passes a limit. -/
theorem writeManifest_graft (h : disk.EmptyAt root base) (text : String) :
    ∃ result inner, disk.writeText (Path.join root manifestName) text =
        (result, disk.graft base inner) ∧
      (result = .ok () → Holds [([manifestName], text)] inner) ∧
      (Disk.WithinLimits (Path.join root manifestName) → result = .ok ()) := by
  have hpath : isContained manifestName = true := by decide
  have hfile : Path.namesDirectory manifestName = false := by decide
  have hsteps : Path.steps manifestName = [] ++ [manifestName] := by decide
  have hwrite := Disk.writeText_graft h hpath [] text
  rw [h.graft_nil] at hwrite
  rcases hwrite with ⟨fault, hwrite⟩ | ⟨front, last, inside, hplace, hinside, hfree, hwrite⟩
  · refine ⟨.error fault, [], by rw [hwrite, h.graft_nil], fun hok => ?_, fun hlimits => ?_⟩
    · cases hok
    · have htarget := Disk.target_graft h hpath hlimits hfile hsteps
        (by rfl : Entries.get? [] [] = some (.directory [])) (by simp)
      rw [h.graft_nil] at htarget
      rw [Disk.writeText, htarget] at hwrite
      cases hwrite
  · refine ⟨_, _, hwrite, fun _ => Holds.nil.store ?_, fun _ => rfl⟩
    have hstored := Disk.Stored.of_set text (.refl front []) hinside hfree
    rwa [← hplace, hsteps, List.nil_append] at hstored

/-! ## 3. The directory -/

/-- A name for the directory of a project, new where the directory is made. -/
structure FreshName (disk : Disk) (parent name : String) : Prop where
  named : ∃ suffix : String, name = directoryPrefix ++ suffix ∧ '/' ∉ suffix.toList
  short : Disk.isTooLong name = false
  free : ∀ location entries, disk.walk (disk.start parent) (Path.steps parent) = .ok location →
    disk.root.get? location = some (.directory entries) → entries.lookup name = none

namespace FreshName

theorem slash_not_mem (h : FreshName disk parent name) : '/' ∉ name.toList := by
  obtain ⟨suffix, rfl, hsuffix⟩ := h.named
  rw [String.toList_append, List.mem_append, not_or]
  exact ⟨by decide, hsuffix⟩

theorem head?_name (h : FreshName disk parent name) : name.toList.head? = some 'b' := by
  obtain ⟨suffix, rfl, -⟩ := h.named
  rw [String.toList_append]
  rfl

theorem isAbsolute_name (h : FreshName disk parent name) : Path.isAbsolute name = false := by
  rw [Path.isAbsolute, h.head?_name]
  decide

theorem ne_of_head? (h : FreshName disk parent name) {other : String}
    (hother : other.toList.head? ≠ some 'b') : name ≠ other :=
  fun heq => hother (heq ▸ h.head?_name)

theorem steps_name (h : FreshName disk parent name) : Path.steps name = [name] := by
  have hidle : Path.isIdle name = false := by
    rw [Path.isIdle, Bool.or_eq_false_iff, decide_eq_false_iff_not, decide_eq_false_iff_not]
    exact ⟨h.ne_of_head? (by decide), h.ne_of_head? (by decide)⟩
  rw [Path.steps, Path.pieces_of_not_mem h.slash_not_mem]
  simp [hidle]

end FreshName

/-- Where a directory is made, there is a directory to make it in. -/
theorem makeRoot_eq_ok {made : Disk} (h : makeRoot disk parent name = .ok made) :
    ∃ location entries, disk.walk (disk.start parent) (Path.steps parent) = .ok location ∧
      disk.root.get? location = some (.directory entries) ∧
      made = disk.put location name (.directory []) := by
  rw [makeRoot] at h
  split at h
  · cases h
  · cases h
  · rename_i entries hfind
    obtain ⟨-, location, hwalk, hentries⟩ := Disk.find_eq_ok hfind
    rw [hwalk] at h
    exact ⟨location, entries, hwalk, hentries, (Except.ok.inj h).symm⟩

theorem put_put_directory {location : List String} {entries : Entries}
    (hentries : disk.root.get? location = some (.directory entries)) (inner : Entries) :
    (disk.put location name (.directory [])).graft (location ++ [name]) inner =
      disk.put location name (.directory inner) := by
  have hset (e : Entries) : (e.set name (.directory [])).modify (fun _ => inner) [name] =
      e.set name (.directory inner) := by
    have hlookup : (e.set name (.directory [])).lookup name = some (.directory []) := by
      rw [Entries.lookup_set, if_pos rfl]
    simp only [Entries.modify, hlookup]
    exact Entries.set_set e name _ _
  rw [Disk.graft, Disk.put, Entries.modify_modify [name] hentries]
  simp only [hset]
  rfl

theorem walk_put_directory {location : List String} {entries : Entries}
    (h : FreshName disk parent name)
    (hwalk : disk.walk (disk.start parent) (Path.steps parent) = .ok location)
    (hentries : disk.root.get? location = some (.directory entries)) (inner : Entries) :
    (disk.put location name (.directory inner)).walk (disk.start parent) (Path.steps parent) =
      .ok location := by
  refine Disk.walk_grows ?_ hwalk
  have hfree := h.free location entries hwalk hentries
  exact .modify hentries (.set fun old hold => by simp [hfree] at hold)

/-- The path of the directory that was made leads to it. -/
theorem emptyAt_makeRoot {location : List String} {entries : Entries}
    (h : FreshName disk parent name)
    (hwalk : disk.walk (disk.start parent) (Path.steps parent) = .ok location)
    (hentries : disk.root.get? location = some (.directory entries)) :
    (disk.put location name (.directory [])).EmptyAt (Path.join parent name)
      (location ++ [name]) := by
  have hthere : (disk.put location name (.directory [])).root.get? location =
      some (.directory (entries.set name (.directory []))) := by
    have hget := Entries.get?_modify (f := fun e => e.set name (.directory [])) [] hentries
    rwa [List.append_nil] at hget
  have hlookup : (entries.set name (.directory [])).lookup name = some (.directory []) := by
    rw [Entries.lookup_set, if_pos rfl]
  refine ⟨?_, ?_⟩
  · have hparent := walk_put_directory h hwalk hentries []
    rw [Disk.start_join _ h.isAbsolute_name, Path.steps_join h.isAbsolute_name, h.steps_name]
    refine (Disk.walk_append [name] hparent).trans (Disk.walk_cons_eq_ok_iff.mpr ?_)
    have hup : name ≠ Path.up := h.ne_of_head? (by decide)
    refine ⟨_, hthere, ?_⟩
    rw [if_neg hup, hlookup]
    exact ⟨h.short, rfl, rfl⟩
  · rw [Entries.get?_concat hthere, hlookup]

/-- To take the directory away is to have the disk as it was. -/
theorem removeRoot_put {location : List String} {entries : Entries} (h : FreshName disk parent name)
    (hwalk : disk.walk (disk.start parent) (Path.steps parent) = .ok location)
    (hentries : disk.root.get? location = some (.directory entries)) (inner : Entries) :
    removeRoot (disk.put location name (.directory inner)) parent name = disk := by
  have hstart : (disk.put location name (.directory inner)).start parent = disk.start parent := rfl
  have hfree := h.free location entries hwalk hentries
  have hundone : (disk.root.modify (fun e => e.set name (.directory inner)) location).modify
      (fun e => e.remove name) location = disk.root := by
    have htwice := Entries.modify_modify (f := fun e => e.set name (.directory inner))
      (g := fun e => e.remove name) [] hentries
    rw [List.append_nil] at htwice
    rw [htwice]
    exact Entries.modify_self hentries (Entries.remove_set hfree _)
  rw [removeRoot, hstart, walk_put_directory h hwalk hentries]
  simp only [Disk.put, hundone]

/-! ## 4. The law of a build -/

variable {module : ModuleDescriptor} {sources : SourceSet}

/-- The writes of a build: the manifest, and then the sources in order. -/
def writes (manifest : String) (sources : SourceSet) : List (List String × String) :=
  ([manifestName], manifest) :: sources.files.map writeOf

/-- The places that a build writes to. -/
def places (sources : SourceSet) : List (List String) :=
  [manifestName] :: sources.files.map (Path.steps ·.path)

theorem mem_places_iff {place : List String} (text : String) :
    place ∈ places sources ↔ ∃ write ∈ writes text sources, write.1 = place := by
  have hplaces : (writes text sources).map Prod.fst = places sources := by
    simp [writes, places, writeOf]
  rw [← hplaces, List.mem_map]

/-- What a build that succeeded has left: the disk with a new directory, and in that what was
written. -/
structure Materialized (disk : Disk) (parent name : String) (module : ModuleDescriptor)
    (sources : SourceSet) (project : Project) (left : Disk) (location : List String)
    (text : String) (inner : Entries) : Prop where
  manifest : Project.manifest module = .ok text
  /-- The manifest has a line for the organization, one for the name and one for the version. -/
  text_eq : text = manifestText module
  /-- To read the manifest is to have these three back, whatever characters are in them. -/
  readBack : Toml.parse? text = some (manifestTable module)
  parentAt : disk.walk (disk.start parent) (Path.steps parent) = .ok location
  fresh : disk.root.kind? (location ++ [name]) = none
  left_eq : left = disk.put location name (.directory inner)
  elsewhere : ∀ place, ¬location ++ [name] <+: place →
    left.root.kind? place = disk.root.kind? place
  root : project.root = Path.join parent name
  /-- The path of the project leads to the new directory. -/
  leads : left.walk (left.start project.root) (Path.steps project.root) = .ok (location ++ [name])
  module_eq : project.module = module
  sourcePaths : project.sourcePaths = sources.paths.map (Path.join project.root)
  holds : Holds (writes text sources) inner

/-- Nothing is in the way of a build: its directory can be made, each source has a path of its own,
and the disk takes all paths. -/
structure Clear (disk : Disk) (parent name : String) (sources : SourceSet) : Prop where
  inDirectory : ∃ entries, disk.find parent = .ok (.directory entries)
  accepted : ∀ path ∈ sources.paths, checkedPath path = .ok path
  files : ∀ path ∈ sources.paths, Path.namesDirectory path = false
  limits : ∀ path ∈ manifestName :: sources.paths,
    Disk.WithinLimits (Path.join (Path.join parent name) path)
  unnested : Unnested (places sources)

/-- Whether anything is in the way is a matter of the paths, however often they are there. -/
theorem Clear.mono {fewer : SourceSet} (h : Clear disk parent name sources)
    (hpaths : fewer.paths ⊆ sources.paths) : Clear disk parent name fewer where
  inDirectory := h.inDirectory
  accepted path hpath := h.accepted path (hpaths hpath)
  files path hpath := h.files path (hpaths hpath)
  limits path hpath := h.limits path (List.cons_subset_cons _ hpaths hpath)
  unnested := by
    have hplaces (sources : SourceSet) :
        places sources = [manifestName] :: sources.paths.map Path.steps := by
      simp [places, SourceSet.paths]
    refine h.unnested.mono ?_
    rw [hplaces, hplaces]
    exact List.cons_subset_cons _ (List.map_subset _ hpaths)

/-- What comes of a build, whatever is built. -/
structure BuildLaw (disk : Disk) (parent name : String) (module : ModuleDescriptor)
    (sources : SourceSet) : Prop where
  /-- The first path that is refused is what the failure names, and nothing is written. -/
  refused : ∀ before path after, sources.paths = before ++ path :: after →
    (∀ earlier ∈ before, checkedPath earlier = .ok earlier) → checkedPath path ≠ .ok path →
    build disk parent name module sources = (.error (.invalidSourcePath path), disk)
  /-- A build that fails, at whatever point, leaves the disk as it was. -/
  failed : ∀ failure left, build disk parent name module sources = (.error failure, left) →
    left = disk
  /-- A place that lies in another one, where both are written to, makes the build fail. -/
  conflict : ∀ place ∈ places sources, ∀ other ∈ places sources, place <+: other → place ≠ other →
    ∃ failure, build disk parent name module sources = (.error failure, disk)
  /-- A build with nothing in the way succeeds. -/
  clear : Clear disk parent name sources →
    ∃ project left, build disk parent name module sources = (.ok project, left)
  built : ∀ project left, build disk parent name module sources = (.ok project, left) →
    ∃ location text inner,
      Materialized disk parent name module sources project left location text inner

theorem build_of_refused {before after : List String} {path : String}
    (hpaths : sources.paths = before ++ path :: after)
    (hbefore : ∀ earlier ∈ before, checkedPath earlier = .ok earlier)
    (hpath : checkedPath path ≠ .ok path) (disk : Disk) (parent name : String)
    (module : ModuleDescriptor) :
    build disk parent name module sources = (.error (.invalidSourcePath path), disk) := by
  have hrefused : checkedPath path = .error (.invalidSourcePath path) := by
    rw [checkedPath] at hpath ⊢
    split at hpath
    · exact absurd rfl hpath
    · rename_i hcontained
      rw [if_neg hcontained]
  have hmap : sources.paths.mapM checkedPath = .error (.invalidSourcePath path) :=
    mapM_eq_error_iff.mpr ⟨before, path, after, hpaths,
      fun earlier hearlier => ⟨earlier, hbefore earlier hearlier⟩, hrefused⟩
  rw [build, hmap]

/-- A build fails because something is in the way, and leaves the disk as it was, or it succeeds. -/
theorem build_cases (h : FreshName disk parent name) (module : ModuleDescriptor)
    (sources : SourceSet) :
    (∃ failure, build disk parent name module sources = (.error failure, disk) ∧
        ¬Clear disk parent name sources) ∨
      ∃ project left location text inner,
        build disk parent name module sources = (.ok project, left) ∧
        Materialized disk parent name module sources project left location text inner := by
  obtain ⟨text, htext, hlines, hreadBack⟩ : ∃ text, manifest module = .ok text ∧
      text = manifestText module ∧ Toml.parse? text = some (manifestTable module) :=
    ⟨_, manifest_eq module, rfl, parse?_manifestText module⟩
  rw [build]
  rcases hpaths : sources.paths.mapM checkedPath with failure | checked
  · refine .inl ⟨failure, rfl, fun hclear => ?_⟩
    obtain ⟨checked, hchecked⟩ := exists_mapM_eq_ok_iff.mpr fun path hpath =>
      ⟨path, hclear.accepted path hpath⟩
    rw [hpaths] at hchecked
    cases hchecked
  obtain ⟨rfl, hcontained⟩ := mapM_checkedPath_eq_ok hpaths
  rcases hmake : makeRoot disk parent name with fault | made
  · refine .inl ⟨.io fault, rfl, fun hclear => ?_⟩
    obtain ⟨entries, hfind⟩ := hclear.inDirectory
    obtain ⟨-, location, hwalk, -⟩ := Disk.find_eq_ok hfind
    simp only [makeRoot, hfind, hwalk] at hmake
    cases hmake
  obtain ⟨location, entries, hwalk, hentries, rfl⟩ := makeRoot_eq_ok hmake
  have hempty := emptyAt_makeRoot h hwalk hentries
  have hremove (inner : Entries) : removeRoot ((disk.put location name (.directory [])).graft
      (location ++ [name]) inner) parent name = disk := by
    rw [put_put_directory hentries]
    exact removeRoot_put h hwalk hentries inner
  obtain ⟨result, inner, hwrite, hholds, hlimits⟩ := writeManifest_graft hempty text
  simp only [htext, hwrite]
  rcases result with fault | ⟨⟩
  · refine .inl ⟨.io fault, by simp only [hremove], fun hclear => ?_⟩
    cases hlimits (hclear.limits manifestName List.mem_cons_self)
  -- the manifest is written, so the directory holds it and nothing else
  have hfiles : ∀ file ∈ sources.files, isContained file.path = true := fun file hfile =>
    hcontained file.path (List.mem_map_of_mem hfile)
  obtain ⟨result, after, hrun, hdone, hok⟩ := writeFiles_graft hempty hfiles (hholds rfl)
  simp only [hrun]
  rcases result with fault | ⟨⟩
  · refine .inl ⟨.io fault, by simp only [hremove], fun hclear => ?_⟩
    have hplaces : (([([manifestName], text)] ++ sources.files.map writeOf).map Prod.fst) =
        places sources := by simp [places, writeOf]
    have hsources : ∀ file ∈ sources.files, Path.namesDirectory file.path = false ∧
        Disk.WithinLimits (Path.join (Path.join parent name) file.path) := fun file hfile =>
      have hpath : file.path ∈ sources.paths := List.mem_map_of_mem hfile
      ⟨hclear.files _ hpath, hclear.limits _ (List.mem_cons_of_mem _ hpath)⟩
    cases hok hsources (hplaces ▸ hclear.unnested)
  · refine .inr ⟨_, _, location, text, after, rfl, htext, hlines, hreadBack, hwalk, ?_, ?_, ?_, rfl,
      ?_, rfl, rfl, hdone rfl⟩
    · rw [Entries.kind?, Entries.get?_concat hentries, h.free location entries hwalk hentries]
      rfl
    · exact put_put_directory hentries after
    · intro place hplace
      rw [put_put_directory hentries]
      exact Entries.kind?_modify_set_outside hentries _ hplace
    · have hleads := hempty.walk_append after []
      rwa [List.append_nil] at hleads

theorem exists_build_eq_ok (h : FreshName disk parent name) (hclear : Clear disk parent name sources)
    (module : ModuleDescriptor) :
    ∃ project left, build disk parent name module sources = (.ok project, left) := by
  rcases build_cases h module sources with ⟨-, -, hnot⟩ | ⟨project, left, -, -, -, hbuilt, -⟩
  · exact absurd hclear hnot
  · exact ⟨project, left, hbuilt⟩

/-- The first name is new in a directory in which nothing has it. -/
theorem freshName_tmp {entries : Entries}
    (hfree : entries.lookup (directoryPrefix ++ "0") = none) :
    FreshName ⟨[("tmp", .directory entries)], []⟩ "/tmp" (directoryPrefix ++ "0") where
  named := ⟨"0", rfl, by decide⟩
  short := by decide
  free := by
    intro location inner hwalk hinner
    have htmp : Disk.walk ⟨[("tmp", .directory entries)], []⟩ [] (Path.steps "/tmp") =
        .ok ["tmp"] := rfl
    obtain rfl := Except.ok.inj (htmp.symm.trans hwalk)
    cases hinner
    exact hfree

/-- What was written to lies in no other place that was written to. -/
theorem Materialized.unnested {project : Project} {left : Disk} {location : List String}
    {text : String} {inner : Entries}
    (h : Materialized disk parent name module sources project left location text inner) :
    Unnested (places sources) := by
  intro place hplace other hother hpre
  obtain ⟨content, hfile⟩ := h.holds.files.file_of_mem ((mem_places_iff text).mp hplace)
  obtain ⟨content', hfile'⟩ := h.holds.files.file_of_mem ((mem_places_iff text).mp hother)
  obtain ⟨more, rfl⟩ := hpre
  by_contra hne
  have hmore : more ≠ [] := fun hnil => hne (by rw [hnil, List.append_nil])
  rw [Entries.kind?_below_file hfile hmore] at hfile'
  cases hfile'

/-- The law of a build into a directory that is new: nothing is written if a path is refused, a
build that fails leaves no trace, and one that succeeds, as it does where nothing is in the way,
leaves a directory that holds what was written last. -/
theorem build_law (h : FreshName disk parent name) (module : ModuleDescriptor)
    (sources : SourceSet) : BuildLaw disk parent name module sources := by
  have hcases := build_cases h module sources
  refine ⟨?_, ?_, ?_, ?_, ?_⟩
  · intro before path after hpaths hbefore hpath
    exact build_of_refused hpaths hbefore hpath disk parent name module
  · intro failure left hbuild
    rcases hcases with ⟨failure', hfailed, -⟩ | ⟨project, _, _, _, _, hbuilt, -⟩
    · rw [hfailed] at hbuild
      exact (Prod.mk.inj hbuild).2.symm
    · rw [hbuilt] at hbuild
      cases hbuild
  · intro place hplace other hother hpre hne
    rcases hcases with ⟨failure, hfailed, -⟩ | ⟨_, _, _, _, _, -, hleft⟩
    · exact ⟨failure, hfailed⟩
    · exact absurd (hleft.unnested place hplace other hother hpre) hne
  · exact fun hclear => exists_build_eq_ok h hclear module
  · intro project left hbuild
    rcases hcases with
      ⟨failure, hfailed, -⟩ | ⟨project', left', location, text, inner, hbuilt, hleft⟩
    · rw [hfailed] at hbuild
      cases hbuild
    · rw [hbuilt] at hbuild
      obtain ⟨hproject, rfl⟩ := Prod.mk.inj hbuild
      obtain rfl := Except.ok.inj hproject
      exact ⟨location, text, inner, hleft⟩

/-! Two builds: one with two spellings of one path and a source in the place of the manifest, and one
in which the manifest stays. -/

/-- A disk with a directory to build projects in, where a file lies already. -/
def scratchDisk : Disk := ⟨[("tmp", .directory [("notes.txt", .file (.text "n"))])], []⟩

def scratchName : String := directoryPrefix ++ "0"

def respelt : SourceSet :=
  ⟨[⟨"a//b.bal", "1"⟩, ⟨"Ballerina.toml", "own"⟩, ⟨"./a/b.bal", "2"⟩]⟩

def single : SourceSet := ⟨[⟨"a//b.bal", "1"⟩]⟩

theorem freshName_scratch : FreshName scratchDisk "/tmp" scratchName := freshName_tmp rfl

theorem clear_respelt : Clear scratchDisk "/tmp" scratchName respelt where
  inDirectory := ⟨_, rfl⟩
  accepted := by decide
  files := by decide
  limits := by decide +kernel
  unnested := by decide

theorem build_law_of_respelt :
    FreshName scratchDisk "/tmp" scratchName ∧
    (∃ (project : Project) (left : Disk) (inner : Entries),
      build scratchDisk "/tmp" scratchName ⟨"acme", "calc", "0.1.0"⟩ respelt = (.ok project, left) ∧
      left = scratchDisk.put ["tmp"] scratchName (.directory inner) ∧
      inner.kind? ["a", "b.bal"] = some (.file (.text "2")) ∧
      inner.kind? ["Ballerina.toml"] = some (.file (.text "own")) ∧
      inner.kind? ["a"] = some .directory ∧
      project.sourcePaths.length = 3) ∧
    ∃ (project : Project) (left : Disk) (inner : Entries),
      build scratchDisk "/tmp" scratchName ⟨"acme", "calc", "0.1.0"⟩ single = (.ok project, left) ∧
      left = scratchDisk.put ["tmp"] scratchName (.directory inner) ∧
      inner.kind? ["a", "b.bal"] = some (.file (.text "1")) ∧
      inner.kind? ["Ballerina.toml"] = some (.file (.text
        "[package]\norg = \"acme\"\nname = \"calc\"\nversion = \"0.1.0\"\n")) := by
  have hbuilt (sources : SourceSet) (hclear : Clear scratchDisk "/tmp" scratchName sources) :
      ∃ project left text inner,
        build scratchDisk "/tmp" scratchName ⟨"acme", "calc", "0.1.0"⟩ sources =
          (.ok project, left) ∧
        Materialized scratchDisk "/tmp" scratchName ⟨"acme", "calc", "0.1.0"⟩ sources project left
          ["tmp"] text inner := by
    have hlaw := build_law freshName_scratch ⟨"acme", "calc", "0.1.0"⟩ sources
    obtain ⟨project, left, hbuild⟩ := hlaw.clear hclear
    obtain ⟨location, text, inner, hleft⟩ := hlaw.built project left hbuild
    have htmp : scratchDisk.walk (scratchDisk.start "/tmp") (Path.steps "/tmp") = .ok ["tmp"] := by
      decide
    obtain rfl := Except.ok.inj (htmp.symm.trans hleft.parentAt)
    exact ⟨project, left, text, inner, hbuild, hleft⟩
  refine ⟨freshName_scratch, ?_, ?_⟩
  · obtain ⟨project, left, text, inner, hbuild, hleft⟩ := hbuilt respelt clear_respelt
    have hwritten : writes text respelt = [(["Ballerina.toml"], text), (["a", "b.bal"], "1"),
        (["Ballerina.toml"], "own"), (["a", "b.bal"], "2")] := rfl
    have hfiles := hwritten ▸ hleft.holds.files
    refine ⟨project, left, inner, hbuild, hleft.left_eq, ?_, ?_, ?_, ?_⟩
    · exact (hfiles _ _).mpr ⟨"2", rfl, rfl⟩
    · exact (hfiles _ _).mpr ⟨"own", rfl, rfl⟩
    · refine (hleft.holds.directories _).mpr
        (.inr ⟨(["a", "b.bal"], "2"), ?_, by decide, by decide⟩)
      exact List.mem_of_mem_getLast? (by rfl)
    · rw [hleft.sourcePaths]
      rfl
  · have hclear : Clear scratchDisk "/tmp" scratchName single := clear_respelt.mono (by decide)
    obtain ⟨project, left, text, inner, hbuild, hleft⟩ := hbuilt single hclear
    have hwritten : writes text single =
        [(["Ballerina.toml"], text), (["a", "b.bal"], "1")] := rfl
    have hfiles := hwritten ▸ hleft.holds.files
    have htext : text = "[package]\norg = \"acme\"\nname = \"calc\"\nversion = \"0.1.0\"\n" := by
      rw [hleft.text_eq]
      decide +kernel
    refine ⟨project, left, inner, hbuild, hleft.left_eq, ?_, ?_⟩
    · exact (hfiles _ _).mpr ⟨"1", rfl, rfl⟩
    · rw [← htext]
      exact (hfiles _ _).mpr ⟨text, rfl, rfl⟩

end Project

end GuidedSynthesis
