import GuidedSynthesis.Proofs.Disk.Path
/-!
What was written is what is read.

A file that was written at a path is found at that path, with the content that was written
(`readText_writeText`), whatever the disk, the working directory and the path are.

## How the proof goes

A path is written by changing the directory at one location. Whoever walked through a directory
before can still do so: a change that only adds names to a directory, and puts no file in the place
of a directory, leaves every directory where it was, with all the names it had (`Entries.Grows`). So
the walk to the written directory goes as it did (`walk_grows`), and one step further is the file.
-/

namespace GuidedSynthesis

namespace Entries

/-! ## 1. Directories -/

theorem lookup_cons (name other : String) (node : Node) (entries : Entries) :
    List.lookup other ((name, node) :: entries) =
      if other = name then some node else entries.lookup other := by
  rw [List.lookup_cons]
  by_cases h : other = name
  · rw [if_pos h, beq_iff_eq.mpr h]
  · rw [if_neg h, beq_eq_false_iff_ne.mpr h]

theorem lookup_set (entries : Entries) (name other : String) (node : Node) :
    (entries.set name node).lookup other =
      if other = name then some node else entries.lookup other := by
  induction entries with
  | nil => exact lookup_cons name other node []
  | cons entry entries ih =>
    obtain ⟨n, old⟩ := entry
    rw [set]
    by_cases hn : n = name
    · rw [if_pos hn, lookup_cons, lookup_cons, ← hn]
      split <;> rfl
    · rw [if_neg hn, lookup_cons, lookup_cons, ih]
      by_cases h : other = n
      · rw [if_pos h, if_pos h, if_neg (h ▸ hn)]
      · rw [if_neg h, if_neg h]

theorem get?_cons_directory {entries inner : Entries} {name : String}
    (h : entries.lookup name = some (.directory inner)) (location : List String) :
    entries.get? (name :: location) = inner.get? location := by
  rw [get?, h]

/-- A directory below a name is a directory below the directory of that name. -/
theorem lookup_of_get?_directory {entries inner : Entries} {name : String} {location : List String}
    (h : entries.get? (name :: location) = some (.directory inner)) :
    ∃ middle : Entries, entries.lookup name = some (.directory middle) ∧
      middle.get? location = some (.directory inner) := by
  rw [get?] at h
  cases hl : entries.lookup name with
  | none =>
    rw [hl] at h
    exact nomatch h
  | some node =>
    rw [hl] at h
    cases node with
    | directory middle => exact ⟨middle, rfl, h⟩
    | file content =>
      cases location with
      | nil => exact nomatch h
      | cons _ _ => exact nomatch h

/-- Below the directory that was changed stands what the change put there. -/
theorem get?_modify {f : Entries → Entries} (below : List String) :
    ∀ {location : List String} {entries inner : Entries},
      entries.get? location = some (.directory inner) →
        (entries.modify f location).get? (location ++ below) = (f inner).get? below
  | [], entries, inner, h => by
      cases h
      rfl
  | name :: location, entries, inner, h => by
      obtain ⟨middle, hlookup, hmiddle⟩ := lookup_of_get?_directory h
      have hset : (entries.set name (.directory (middle.modify f location))).lookup name =
          some (.directory (middle.modify f location)) := by
        rw [lookup_set, if_pos rfl]
      rw [modify, hlookup, List.cons_append, get?_cons_directory hset]
      exact get?_modify below hmiddle

/-- Every directory stays a directory, and no name in it gets lost. -/
def Grows (before after : Entries) : Prop :=
  ∀ location (inner : Entries), before.get? location = some (.directory inner) →
    ∃ inner' : Entries, after.get? location = some (.directory inner') ∧
      ∀ name, (inner.lookup name).isSome → (inner'.lookup name).isSome

theorem Grows.set {entries : Entries} {name : String} {node : Node}
    (h : ∀ inner : Entries, entries.lookup name = some (.directory inner) →
      ∃ inner' : Entries, node = .directory inner' ∧ Grows inner inner') :
    Grows entries (entries.set name node) := by
  intro location inner hget
  cases location with
  | nil =>
    cases hget
    refine ⟨_, rfl, fun other hother => ?_⟩
    rw [lookup_set]
    split
    · rfl
    · exact hother
  | cons first rest =>
    obtain ⟨middle, hlookup, hmiddle⟩ := lookup_of_get?_directory hget
    by_cases hfirst : first = name
    · subst hfirst
      obtain ⟨middle', rfl, hgrows⟩ := h middle hlookup
      have hset : (entries.set first (.directory middle')).lookup first =
          some (.directory middle') := by rw [lookup_set, if_pos rfl]
      rw [get?_cons_directory hset]
      exact hgrows rest inner hmiddle
    · have hset : (entries.set name node).lookup first = some (.directory middle) := by
        rw [lookup_set, if_neg hfirst, hlookup]
      rw [get?_cons_directory hset]
      exact ⟨inner, hmiddle, fun _ hother => hother⟩

theorem Grows.modify {f : Entries → Entries} :
    ∀ {location : List String} {entries inner : Entries},
      entries.get? location = some (.directory inner) → Grows inner (f inner) →
        Grows entries (entries.modify f location)
  | [], entries, inner, h, hgrows => by
      cases h
      exact hgrows
  | name :: location, entries, inner, h, hgrows => by
      obtain ⟨middle, hlookup, hmiddle⟩ := lookup_of_get?_directory h
      rw [Entries.modify, hlookup]
      refine Grows.set fun middle' hlookup' => ?_
      cases hlookup.symm.trans hlookup'
      exact ⟨_, rfl, Grows.modify hmiddle hgrows⟩

end Entries

/-! ## 2. Walks -/

namespace Disk

/-- The first step of a walk that gets somewhere: up, or to a name of the directory at hand. -/
theorem walk_cons_eq_ok_iff {disk : Disk} {here there : List String} {step : String}
    {more : List String} :
    disk.walk here (step :: more) = .ok there ↔
      ∃ entries : Entries, disk.root.get? here = some (.directory entries) ∧
        if step = Path.up then disk.walk here.dropLast more = .ok there
        else isTooLong step = false ∧ (entries.lookup step).isSome ∧
          disk.walk (here ++ [step]) more = .ok there := by
  rw [walk]
  cases disk.root.get? here with
  | none => simp
  | some node =>
    cases node with
    | file content => simp
    | directory entries =>
      simp only [Option.some.injEq, Node.directory.injEq, exists_eq_left']
      by_cases hup : step = Path.up
      · simp only [if_pos hup]
      · simp only [if_neg hup]
        cases isTooLong step with
        | true => simp only [if_true, Bool.true_eq_false, false_and, reduceCtorEq]
        | false =>
          by_cases hl : (entries.lookup step).isSome
          · simp only [Bool.false_eq_true, if_false, hl, if_true, true_and]
          · simp only [Bool.false_eq_true, if_false, hl, false_and, and_false, reduceCtorEq]

theorem walk_append {disk : Disk} {there : List String} (ys : List String) :
    ∀ {xs here : List String}, disk.walk here xs = .ok there →
      disk.walk here (xs ++ ys) = disk.walk there ys
  | [], here, h => by
      cases h
      rfl
  | x :: xs, here, h => by
      obtain ⟨entries, hentries, hstep⟩ := walk_cons_eq_ok_iff.mp h
      rw [List.cons_append, walk, hentries]
      by_cases hup : x = Path.up
      · rw [if_pos hup] at hstep
        simp only [if_pos hup]
        exact walk_append ys hstep
      · rw [if_neg hup] at hstep
        obtain ⟨hlong, hl, hrest⟩ := hstep
        simp only [if_neg hup, hlong, hl, Bool.false_eq_true, if_false, if_true]
        exact walk_append ys hrest

/-- A walk goes as it did in a tree that has grown. -/
theorem walk_grows {disk disk' : Disk} {there : List String}
    (hgrows : Entries.Grows disk.root disk'.root) :
    ∀ {steps here : List String}, disk.walk here steps = .ok there →
      disk'.walk here steps = .ok there
  | [], _, h => h
  | step :: steps, here, h => by
      obtain ⟨entries, hentries, hstep⟩ := walk_cons_eq_ok_iff.mp h
      obtain ⟨entries', hentries', hnames⟩ := hgrows here entries hentries
      refine walk_cons_eq_ok_iff.mpr ⟨entries', hentries', ?_⟩
      by_cases hup : step = Path.up
      · rw [if_pos hup] at hstep ⊢
        exact walk_grows hgrows hstep
      · rw [if_neg hup] at hstep ⊢
        obtain ⟨hlong, hl, hrest⟩ := hstep
        exact ⟨hlong, hnames step hl, walk_grows hgrows hrest⟩

/-- What is found stands where the steps of the path lead. -/
theorem find_eq_ok {disk : Disk} {path : String} {node : Node} (h : disk.find path = .ok node) :
    pathFault? path = none ∧
      ∃ location, disk.walk (disk.start path) (Path.steps path) = .ok location ∧
        disk.root.get? location = some node := by
  rw [find] at h
  cases hfault : pathFault? path with
  | some fault =>
    rw [hfault] at h
    cases h
  | none =>
    rw [hfault] at h
    cases hwalk : disk.walk (disk.start path) (Path.steps path) with
    | error fault =>
      rw [hwalk] at h
      cases h
    | ok location =>
      simp only [hwalk, bind, Except.bind] at h
      refine ⟨rfl, location, rfl, ?_⟩
      split at h
      · rename_i entries hentries
        rw [hentries, Except.ok.inj h]
      · rename_i content hcontent
        split at h
        · cases h
        · rw [hcontent, Except.ok.inj h]
      · cases h

/-! ## 3. Writing -/

/-- The last step of a path that names a file is no step up. -/
theorem ne_up_of_steps_eq {path name : String} {front : List String}
    (hfile : Path.namesDirectory path = false) (h : Path.steps path = front ++ [name]) :
    name ≠ Path.up := by
  obtain ⟨before, last, hsteps, hup⟩ := Path.exists_steps_eq_concat hfile
  obtain ⟨-, hname⟩ := List.append_inj' (h.symm.trans hsteps) rfl
  obtain rfl := List.singleton_inj.mp hname
  exact hup

/-- Where a file can be written: at a name of a directory that is no directory itself. -/
theorem target_eq_ok {disk : Disk} {path : String} {location : List String} {name : String}
    (h : disk.target path = .ok (location, name)) :
    pathFault? path = none ∧ Path.namesDirectory path = false ∧ isTooLong name = false ∧
      (∃ front, Path.steps path = front ++ [name] ∧
        disk.walk (disk.start path) front = .ok location) ∧
      ∃ entries : Entries, disk.root.get? location = some (.directory entries) ∧
        ∀ inner, entries.lookup name ≠ some (.directory inner) := by
  rw [target] at h
  cases hfault : pathFault? path with
  | some fault =>
    rw [hfault] at h
    exact nomatch h
  | none =>
    rw [hfault] at h
    have hhere : Path.endsInHere path = false := by
      cases hhere : Path.endsInHere path with
      | false => rfl
      | true =>
        rw [hhere] at h
        exact nomatch h
    rw [hhere] at h
    cases hlast : (Path.steps path).getLast? with
    | none =>
      rw [hlast] at h
      exact nomatch h
    | some last =>
      obtain ⟨front, hsteps⟩ := List.getLast?_eq_some_iff.mp hlast
      rw [hlast, hsteps, List.dropLast_concat] at h
      cases hwalk : disk.walk (disk.start path) front with
      | error fault =>
        rw [hwalk] at h
        exact nomatch h
      | ok there =>
        simp only [hwalk, bind, Except.bind, Bool.false_eq_true, if_false] at h
        split at h
        · rename_i entries hentries
          split at h
          · exact nomatch h
          rename_i hfile
          split at h
          · exact nomatch h
          rename_i hlong
          split at h
          · exact nomatch h
          rename_i hfree
          cases h
          exact ⟨rfl, Bool.eq_false_iff.mpr hfile, Bool.eq_false_iff.mpr hlong,
            ⟨front, hsteps, hwalk⟩, entries, hentries, hfree⟩
        · exact nomatch h
        · exact nomatch h

/-- A file stands where it was put. -/
theorem get?_put_file {disk : Disk} {location : List String} {entries : Entries}
    (hentries : disk.root.get? location = some (.directory entries)) (name : String)
    (content : Content) :
    (disk.put location name (.file content)).root.get? (location ++ [name]) =
      some (.file content) := by
  have hset : (entries.set name (.file content)).lookup name = some (.file content) := by
    rw [Entries.lookup_set, if_pos rfl]
  rw [put, Entries.get?_modify [name] hentries, Entries.get?, hset]
  rfl

/-- A file that was written is read as it was written. -/
theorem readText_writeText {disk disk' : Disk} {path content : String}
    (h : disk.writeText path content = (.ok (), disk')) : disk'.readText path = .ok content := by
  rw [writeText] at h
  cases htarget : disk.target path with
  | error fault =>
    rw [htarget] at h
    exact nomatch h
  | ok target =>
    obtain ⟨location, name⟩ := target
    rw [htarget] at h
    obtain ⟨-, rfl⟩ := Prod.mk.inj h
    obtain ⟨hfault, hfile, hlong, ⟨front, hsteps, hwalk⟩, entries, hentries, hnot⟩ :=
      target_eq_ok htarget
    have hgrows : Entries.Grows disk.root
        (disk.put location name (.file (.text content))).root :=
      .modify hentries (.set fun inner hinner => absurd hinner (hnot inner))
    have hthere : (disk.put location name (.file (.text content))).walk (disk.start path)
        (Path.steps path) = .ok (location ++ [name]) := by
      have hhere := Entries.get?_modify
        (f := fun entries => entries.set name (.file (.text content))) [] hentries
      rw [List.append_nil] at hhere
      rw [hsteps, walk_append [name] (walk_grows hgrows hwalk)]
      refine walk_cons_eq_ok_iff.mpr ⟨_, hhere, ?_⟩
      rw [if_neg (ne_up_of_steps_eq hfile hsteps), Entries.lookup_set, if_pos rfl]
      exact ⟨hlong, rfl, rfl⟩
    have hfind : (disk.put location name (.file (.text content))).find path =
        .ok (.file (.text content)) := by
      have hstart : (disk.put location name (.file (.text content))).start path =
          disk.start path := rfl
      rw [find, hfault, hstart, hthere]
      simp only [bind, Except.bind, get?_put_file hentries, hfile, Bool.false_eq_true, if_false]
    rw [readText, hfind]
    rfl

end Disk

end GuidedSynthesis
