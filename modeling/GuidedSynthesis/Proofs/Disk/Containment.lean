import GuidedSynthesis.Project
import GuidedSynthesis.Proofs.Disk.Path
import GuidedSynthesis.Proofs.Disk.Written
/-!
Paths that stay below a directory.

A path is accepted if it is not empty, does not start with `/` and has no component `..`, and no
other path is. Below any directory an accepted path leads only to places below that directory, step
by step, and in the end to the place that its named components give (`checkedPath_law`). That is so
for the path as a text, wherever the directory lies, and on any disk.

## How the proof goes

The steps of the joined path are those of the directory and then those of the path (`steps_join`).
Without a step up, a step only adds a name to the location (`follow_of_not_mem`), and a walk on a
disk leads to where its steps lead, if it leads anywhere (`eq_follow_of_walk`).
-/

namespace GuidedSynthesis

namespace Path

/-! ## 1. Components and where they lead -/

/-- A component that is a name: it is neither empty nor `.` nor `..`. -/
def isName (piece : String) : Bool := !isIdle piece && piece ≠ up

/-- The components of a path that are names. -/
def names (path : String) : List String := (pieces path).filter isName

/-- Where steps lead to from a location. -/
def follow (here : List String) : List String → List String
  | [] => here
  | step :: more => follow (if step = up then here.dropLast else here ++ [step]) more

theorem follow_append (here xs ys : List String) :
    follow here (xs ++ ys) = follow (follow here xs) ys := by
  induction xs generalizing here with
  | nil => rfl
  | cons x xs ih => exact ih _

theorem follow_of_not_mem {steps : List String} (h : up ∉ steps) (here : List String) :
    follow here steps = here ++ steps := by
  induction steps generalizing here with
  | nil => simp [follow]
  | cons step steps ih =>
    rw [List.mem_cons, not_or] at h
    obtain ⟨hstep, hsteps⟩ := h
    rw [follow, if_neg (Ne.symm hstep), ih hsteps, List.append_assoc, List.singleton_append]

theorem up_mem_steps_iff {path : String} : up ∈ steps path ↔ up ∈ pieces path := by
  have hup : isIdle up = false := by decide
  simp [steps, hup]

/-- Without a component `..`, what leads anywhere are the names. -/
theorem names_eq_steps {path : String} (h : up ∉ pieces path) : names path = steps path := by
  refine List.filter_congr fun piece hpiece => ?_
  have hne : piece ≠ up := fun heq => h (heq ▸ hpiece)
  simp [isName, hne]

end Path

namespace Disk

variable {disk : Disk}

/-- A walk leads to where its steps lead, if it gets there. -/
theorem eq_follow_of_walk : ∀ {steps here there : List String},
    disk.walk here steps = .ok there → there = Path.follow here steps
  | [], here, there, h => by
      cases h
      rfl
  | step :: steps, here, there, h => by
      obtain ⟨entries, -, hstep⟩ := walk_cons_eq_ok_iff.mp h
      rw [Path.follow]
      split
      · rename_i hup
        rw [if_pos hup] at hstep
        exact eq_follow_of_walk hstep
      · rename_i hup
        rw [if_neg hup] at hstep
        exact eq_follow_of_walk hstep.2.2

/-- Whoever walks on has walked that far. -/
theorem exists_walk_of_append {ys there : List String} : ∀ {xs here : List String},
    disk.walk here (xs ++ ys) = .ok there →
      ∃ middle, disk.walk here xs = .ok middle ∧ disk.walk middle ys = .ok there
  | [], here, h => ⟨here, rfl, h⟩
  | x :: xs, here, h => by
      obtain ⟨entries, hentries, hstep⟩ := walk_cons_eq_ok_iff.mp h
      by_cases hup : x = Path.up
      · rw [if_pos hup] at hstep
        obtain ⟨middle, hfirst, hrest⟩ := exists_walk_of_append hstep
        refine ⟨middle, walk_cons_eq_ok_iff.mpr ⟨entries, hentries, ?_⟩, hrest⟩
        rw [if_pos hup]
        exact hfirst
      · rw [if_neg hup] at hstep
        obtain ⟨hlong, hl, hmore⟩ := hstep
        obtain ⟨middle, hfirst, hrest⟩ := exists_walk_of_append hmore
        refine ⟨middle, walk_cons_eq_ok_iff.mpr ⟨entries, hentries, ?_⟩, hrest⟩
        rw [if_neg hup]
        exact ⟨hlong, hl, hfirst⟩

end Disk

/-! ## 2. Accepted paths -/

theorem isContained_iff {path : String} :
    isContained path = true ↔
      path ≠ "" ∧ path.toList.head? ≠ some '/' ∧ Path.up ∉ Path.pieces path := by
  simp [isContained, Path.isAbsolute, Path.up_mem_steps_iff, and_assoc]

theorem isContained_absolute_up {path : String} (h : isContained path = true) :
    Path.isAbsolute path = false ∧ Path.up ∉ Path.steps path := by
  obtain ⟨-, hhead, hup⟩ := isContained_iff.mp h
  exact ⟨by simpa [Path.isAbsolute] using hhead, fun hmem => hup (Path.up_mem_steps_iff.mp hmem)⟩

/-- What is accepted is contained, and is passed on as it is. -/
theorem checkedPath_eq_ok_iff {path checked : String} :
    checkedPath path = .ok checked ↔ isContained path = true ∧ checked = path := by
  rw [checkedPath]
  by_cases h : isContained path = true
  · rw [if_pos h, Except.ok.injEq, and_iff_right h, eq_comm]
  · simp [h]

namespace Path

/-- A path leads below a directory, by names and never up. -/
structure LeadsBelow (directory path : String) (below : List String) : Prop where
  /-- It takes the steps of the directory and then goes by the names. -/
  steps_eq : steps path = steps directory ++ below
  isAbsolute_eq : isAbsolute path = isAbsolute directory
  /-- Wherever the directory is, each step below it leads to a place below it. -/
  follow : ∀ here front, front <+: below →
    follow here (steps directory ++ front) = follow here (steps directory) ++ front
  /-- Whoever gets as far as some step on a disk has been in the directory, and is below it. -/
  walk : ∀ (disk : Disk) (front there : List String), front <+: below →
    disk.walk (disk.start path) (steps directory ++ front) = .ok there →
      ∃ base, disk.walk (disk.start directory) (steps directory) = .ok base ∧ there = base ++ front

theorem leadsBelow_of_steps {directory path : String} {below : List String}
    (hsteps : steps path = steps directory ++ below)
    (habsolute : isAbsolute path = isAbsolute directory) (hup : up ∉ below) :
    LeadsBelow directory path below := by
  have hfront : ∀ front, front <+: below → up ∉ front := fun front hpre hmem =>
    hup (hpre.subset hmem)
  refine ⟨hsteps, habsolute, ?_, ?_⟩
  · intro here front hpre
    rw [follow_append, follow_of_not_mem (hfront front hpre)]
  · intro disk front there hpre hwalk
    have hstart : disk.start path = disk.start directory := by
      rw [Disk.start, Disk.start, habsolute]
    rw [hstart] at hwalk
    obtain ⟨base, hbase, hbelow⟩ := Disk.exists_walk_of_append hwalk
    refine ⟨base, hbase, ?_⟩
    rw [Disk.eq_follow_of_walk hbelow, follow_of_not_mem (hfront front hpre)]

end Path

/-- A path is accepted as it is, or refused by its name; it is accepted if it is not empty, does not
start with `/` and has no component `..`. What is accepted leads by its names below whatever
directory it is joined to. -/
theorem checkedPath_law (path : String) :
    (checkedPath path =
      if path ≠ "" ∧ path.toList.head? ≠ some '/' ∧ Path.up ∉ Path.pieces path then .ok path
      else .error (.invalidSourcePath path)) ∧
    ∀ checked, checkedPath path = .ok checked →
      ∀ root, Path.LeadsBelow root (Path.join root checked) (Path.names checked) := by
  constructor
  · simp only [checkedPath, isContained_iff]
  · intro checked h root
    obtain ⟨hcontained, rfl⟩ := checkedPath_eq_ok_iff.mp h
    obtain ⟨habsolute, hup⟩ := isContained_absolute_up hcontained
    have hnames : Path.names checked = Path.steps checked :=
      Path.names_eq_steps fun hmem => hup (Path.up_mem_steps_iff.mpr hmem)
    rw [hnames]
    exact Path.leadsBelow_of_steps (Path.steps_join habsolute) (Path.isAbsolute_join habsolute) hup

/-- A path with a point before it, two slashes in it and a name that starts with `..`. -/
theorem checkedPath_law_of_dots :
    checkedPath "./a//..b/" = .ok "./a//..b/" ∧
    ∀ here, Path.follow here (Path.steps (Path.join "../srv/" "./a//..b/")) =
      here.dropLast ++ ["srv", "a", "..b"] := by
  obtain ⟨hchecked, hbelow⟩ := checkedPath_law "./a//..b/"
  have haccepted : checkedPath "./a//..b/" = .ok "./a//..b/" := by
    rw [hchecked, if_pos (by decide)]
  refine ⟨haccepted, fun here => ?_⟩
  obtain ⟨hsteps, -, hfollow, -⟩ := hbelow _ haccepted "../srv/"
  have hroot : Path.follow here (Path.steps "../srv/") = here.dropLast ++ ["srv"] := by
    have hsrv : Path.steps "../srv/" = [Path.up, "srv"] := by decide
    rw [hsrv]
    rfl
  have hnames : Path.names "./a//..b/" = ["a", "..b"] := by decide
  rw [hsteps, hfollow here _ (List.prefix_refl _), hroot, hnames, List.append_assoc]
  rfl

end GuidedSynthesis
