import GuidedSynthesis.Proofs.Disk.Containment
import GuidedSynthesis.Proofs.Disk.Tree
/-!
Files that are written below a directory.

Let a path lead to an empty directory of a disk. Whatever is written at contained paths below it,
the disk is as it was but for what that directory holds (`writeFile_graft`): every disk that is met
on the way is a `graft` of some entries in its place, also after a write that fails. A write that
succeeds puts one file in its place, makes no directory but those that the file lies in, and keeps
all other files (`Stored`). It fails only where something is in the way or a limit of the disk is
passed (`writeFile_graft_clear`).

## How the proof goes

Where the path to the directory leads stays the same (`EmptyAt.walk_append`), and from there on a
contained path goes up nowhere. So a walk finds in the graft what the entries hold at the path's own
steps (`walk_graft_eq_ok_iff`), and what is put there is put into the entries (`EmptyAt.put_graft`).
Making directories is an induction on the steps (`makeSteps_graft`); a write is one change more.
-/

namespace GuidedSynthesis

variable {disk : Disk} {root path : String} {base : List String} {inner : Entries}

namespace Disk

/-- The disk with other entries in the directory at a location. -/
def graft (disk : Disk) (base : List String) (inner : Entries) : Disk :=
  { disk with root := disk.root.modify (fun _ => inner) base }

/-- The path leads to the location, and there is an empty directory. -/
structure EmptyAt (disk : Disk) (root : String) (base : List String) : Prop where
  leads : disk.walk (disk.start root) (Path.steps root) = .ok base
  empty : disk.root.get? base = some (.directory [])

/-! ## 1. Grafts -/

namespace EmptyAt

theorem get?_graft (h : disk.EmptyAt root base) (inner : Entries) (below : List String) :
    (disk.graft base inner).root.get? (base ++ below) = inner.get? below :=
  Entries.get?_modify below h.empty

theorem graft_nil (h : disk.EmptyAt root base) : disk.graft base [] = disk := by
  rw [graft, Entries.modify_self h.empty rfl]

theorem put_graft (h : disk.EmptyAt root base) (inner : Entries) (below : List String)
    (name : String) (node : Node) :
    (disk.graft base inner).put (base ++ below) name node =
      disk.graft base (inner.modify (·.set name node) below) := by
  rw [put, graft, Entries.modify_modify below h.empty]
  rfl

/-- The path leads to the directory whatever that holds. -/
theorem walk_append (h : disk.EmptyAt root base) (inner : Entries) (more : List String) :
    (disk.graft base inner).walk (disk.start root) (Path.steps root ++ more) =
      (disk.graft base inner).walk base more := by
  have hgrows : Entries.Grows disk.root (disk.graft base inner).root :=
    .modify h.empty (.of_nil inner)
  exact Disk.walk_append more (walk_grows hgrows h.leads)

/-- Below the directory a walk without a step up gets to what the entries hold. -/
theorem walk_graft_eq_ok_iff (h : disk.EmptyAt root base) {steps : List String} :
    ∀ {here there : List String}, Path.up ∉ steps → (inner.get? here).isSome →
      ((disk.graft base inner).walk (base ++ here) steps = .ok there ↔
        there = base ++ (here ++ steps) ∧ (∀ step ∈ steps, isTooLong step = false) ∧
          (inner.get? (here ++ steps)).isSome) := by
  induction steps with
  | nil =>
    intro here there _ hhere
    rw [walk, List.append_nil, Except.ok.injEq, eq_comm]
    simp [hhere]
  | cons step steps ih =>
    intro here there hup hhere
    rw [List.mem_cons, not_or] at hup
    obtain ⟨hstep, hsteps⟩ := hup
    have hsplit : here ++ step :: steps = (here ++ [step]) ++ steps := by simp
    simp only [walk_cons_eq_ok_iff, h.get?_graft, if_neg (Ne.symm hstep), List.forall_mem_cons]
    constructor
    · rintro ⟨entries, hentries, hlong, hname, hwalk⟩
      rw [← Entries.get?_concat hentries step] at hname
      rw [List.append_assoc] at hwalk
      obtain ⟨rfl, hlongs, hsome⟩ := (ih hsteps hname).mp hwalk
      rw [hsplit]
      exact ⟨rfl, ⟨hlong, hlongs⟩, hsome⟩
    · rintro ⟨rfl, ⟨hlong, hlongs⟩, hsome⟩
      obtain ⟨entries, hentries, hname⟩ := Entries.exists_directory_of_isSome hsome
      refine ⟨entries, hentries, hlong, hname, ?_⟩
      rw [← Entries.get?_concat hentries step] at hname
      rw [hsplit] at hsome ⊢
      rw [List.append_assoc]
      exact (ih hsteps hname).mpr ⟨rfl, hlongs, hsome⟩

end EmptyAt

/-! ## 2. Directories -/

/-- The same files, and no directory besides the old ones but on the way to a location. -/
structure Opened (way : List String) (before after : Entries) : Prop where
  files : ∀ location content, after.kind? location = some (.file content) ↔
    before.kind? location = some (.file content)
  directories : ∀ location, after.kind? location = some .directory →
    before.kind? location = some .directory ∨ location <+: way

theorem Opened.refl (way : List String) (entries : Entries) : Opened way entries entries :=
  ⟨fun _ _ => Iff.rfl, fun _ => .inl⟩

theorem Opened.trans {way : List String} {first second third : Entries}
    (h : Opened way first second) (h' : Opened way second third) : Opened way first third where
  files := fun location content => (h'.files location content).trans (h.files location content)
  directories := fun location hthird =>
    (h'.directories location hthird).elim (h.directories location) .inr

/-- An empty directory under a name that is free. -/
theorem Opened.of_set {way here : List String} {entries : Entries} {step : String}
    (hway : here ++ [step] <+: way) (hentries : inner.get? here = some (.directory entries))
    (hfree : entries.lookup step = none) :
    Opened way inner (inner.modify (·.set step (.directory [])) here) ∧
      (inner.modify (·.set step (.directory [])) here).kind? (here ++ [step]) =
        some .directory := by
  have hnew : ∀ old, Node.directory [] = .directory old → old = [] :=
    fun _ h => (Node.directory.inj h).symm
  have hold : ∀ old, entries.lookup step ≠ some (.directory old) := by simp [hfree]
  have hkind (location : List String) := Entries.kind?_modify_set hnew location hentries hold
  have hnothing : inner.kind? (here ++ [step]) = none := by
    rw [Entries.kind?, Entries.get?_concat hentries, hfree]
    rfl
  refine ⟨⟨fun location content => ?_, fun location hdirectory => ?_⟩, ?_⟩
  · rw [hkind]
    split
    · rename_i hlocation
      simp [hlocation, hnothing, Node.kind]
    · exact Iff.rfl
  · rw [hkind] at hdirectory
    split at hdirectory
    · rename_i hlocation
      exact .inr (hlocation ▸ hway)
    · exact .inl hdirectory
  · rw [hkind, if_pos rfl]
    rfl

/-- What comes of making the directories that steps lead through, from a directory `here`. -/
structure MakesWay (here steps : List String) (before after : Entries)
    (result : Except Fault Unit) : Prop where
  opened : Opened (here ++ steps) before after
  reached : result = .ok () → after.kind? (here ++ steps) = some .directory
  /-- Only a file that is in the way, or a name that is too long, can make it fail. -/
  clear : (∀ front content, front <+: steps → before.kind? (here ++ front) ≠ some (.file content)) →
    (∀ step ∈ steps, isTooLong step = false) → result = .ok ()

theorem makeSteps_graft (h : disk.EmptyAt root base) {steps : List String} :
    ∀ {here : List String} {inner : Entries}, Path.up ∉ steps →
      inner.kind? here = some .directory →
      ∃ result after, (disk.graft base inner).makeSteps (base ++ here) steps =
          (result, disk.graft base after) ∧ MakesWay here steps inner after result := by
  induction steps with
  | nil =>
    intro here inner _ hhere
    refine ⟨.ok (), inner, rfl, .refl _ _, fun _ => ?_, fun _ _ => rfl⟩
    rwa [List.append_nil]
  | cons step steps ih =>
    intro here inner hup hhere
    rw [List.mem_cons, not_or] at hup
    obtain ⟨hstep, hsteps⟩ := hup
    obtain ⟨entries, hentries⟩ := Entries.kind?_eq_directory_iff.mp hhere
    have hsplit : here ++ step :: steps = (here ++ [step]) ++ steps := by simp
    -- what the rest of the steps comes to, from entries that are open up to this step
    have hmore : ∀ next : Entries, Opened (here ++ step :: steps) inner next →
        next.kind? (here ++ [step]) = some .directory →
        ∃ result after, (disk.graft base next).makeSteps (base ++ (here ++ [step])) steps =
          (result, disk.graft base after) ∧ MakesWay here (step :: steps) inner after result := by
      intro next hopened hnext
      obtain ⟨result, after, hmade, hway⟩ := ih hsteps hnext
      refine ⟨result, after, hmade, ?_, ?_, fun hclear hshort => ?_⟩
      · rw [hsplit] at hopened ⊢
        exact hopened.trans hway.opened
      · rw [hsplit]
        exact hway.reached
      · refine hway.clear (fun front content hfront hfile => ?_)
          (List.forall_mem_cons.mp hshort).2
        rw [hopened.files, List.append_assoc] at hfile
        exact hclear (step :: front) content (by simpa using hfront) hfile
    rw [makeSteps, h.get?_graft, hentries]
    simp only [if_neg (Ne.symm hstep)]
    by_cases hlong : isTooLong step = true
    · refine ⟨.error .nameTooLong, inner, by rw [if_pos hlong], .refl _ _, fun hok => ?_, ?_⟩
      · cases hok
      · intro _ hshort
        have hstepShort := (List.forall_mem_cons.mp hshort).1
        rw [hlong] at hstepShort
        cases hstepShort
    · rw [if_neg hlong]
      have hname := Entries.get?_concat hentries step
      rcases hlookup : entries.lookup step with _ | (content | old)
      · have hway : here ++ [step] <+: here ++ step :: steps := by simp
        obtain ⟨hopened, hnext⟩ := Opened.of_set hway hentries hlookup
        simp only [h.put_graft, List.append_assoc]
        exact hmore _ hopened hnext
      · refine ⟨.error _, inner, rfl, .refl _ _, fun hok => ?_, fun hclear _ => ?_⟩
        · cases hok
        · have hfile : inner.kind? (here ++ [step]) = some (.file content) :=
            Entries.kind?_eq_file_iff.mpr (hname.trans hlookup)
          exact absurd hfile (hclear [step] content (by simp))
      · have hnext : inner.kind? (here ++ [step]) = some .directory :=
          Entries.kind?_eq_directory_iff.mpr ⟨old, hname.trans hlookup⟩
        simp only [List.append_assoc]
        exact hmore inner (.refl _ _) hnext

/-- Directories that are there need not be made. -/
theorem makeSteps_append_of_walk {there : List String} (ys : List String) :
    ∀ {xs here : List String},
    disk.walk here xs = .ok there → (∃ inner, disk.root.get? there = some (.directory inner)) →
      disk.makeSteps here (xs ++ ys) = disk.makeSteps there ys
  | [], here, h, _ => by
      cases h
      rfl
  | x :: xs, here, h, hthere => by
      obtain ⟨entries, hentries, hstep⟩ := walk_cons_eq_ok_iff.mp h
      rw [List.cons_append, makeSteps, hentries]
      by_cases hup : x = Path.up
      · rw [if_pos hup] at hstep
        simp only [if_pos hup]
        exact makeSteps_append_of_walk ys hstep hthere
      · rw [if_neg hup] at hstep
        obtain ⟨hlong, -, hmore⟩ := hstep
        have hnext : ∃ inner, entries.lookup x = some (.directory inner) := by
          simp only [← Entries.get?_concat hentries]
          cases xs with
          | nil =>
            cases hmore
            exact hthere
          | cons y rest =>
            obtain ⟨inner, hinner, -⟩ := walk_cons_eq_ok_iff.mp hmore
            exact ⟨inner, hinner⟩
        obtain ⟨inner, hinner⟩ := hnext
        simp only [if_neg hup, hlong, hinner, Bool.false_eq_true, if_false]
        exact makeSteps_append_of_walk ys hmore hthere

/-- The directories that a file lies in are made on the way to it, unless the text of the path is
one that no file system takes. -/
theorem makeDirectories_graft (h : disk.EmptyAt root base) (hpath : isContained path = true)
    (inner : Entries) :
    ∃ result after, (disk.graft base inner).makeDirectories (Path.parent (Path.join root path)) =
        (result, disk.graft base after) ∧
      (MakesWay [] (Path.steps path).dropLast inner after result ∨
        after = inner ∧ pathFault? (Path.join root path) ≠ none ∧
          ∃ fault, result = .error fault) := by
  obtain ⟨habsolute, hup⟩ := isContained_absolute_up hpath
  have hroot : (disk.graft base inner).walk (disk.start root) (Path.steps root) = .ok base := by
    have hwalk := h.walk_append inner []
    rwa [List.append_nil] at hwalk
  have hbase : ∃ old, (disk.graft base inner).root.get? base = some (.directory old) := by
    have hget := h.get?_graft inner []
    rw [List.append_nil] at hget
    exact ⟨inner, hget⟩
  rcases makeDirectories_parent (disk.graft base inner) (Path.join root path) with
    hmake | ⟨hfault, fault, hmake⟩
  · rw [hmake, start_join _ habsolute, Path.steps_join habsolute]
    rcases List.eq_nil_or_concat (Path.steps path) with hnil | ⟨front, name, hsteps⟩
    · -- the path leads to the directory itself, and what that lies in is there
      refine ⟨.ok (), inner, ?_, .inl ⟨.refl _ _, fun _ => ?_, fun _ _ => rfl⟩⟩
      · rw [hnil, List.append_nil]
        rcases List.eq_nil_or_concat (Path.steps root) with hnone | ⟨xs, x, hxs⟩
        · rw [hnone, List.dropLast_nil, makeSteps]
        · rw [hxs, List.concat_eq_append] at hroot ⊢
          obtain ⟨middle, hmiddle, hlast⟩ := exists_walk_of_append hroot
          obtain ⟨entries, hentries, -⟩ := walk_cons_eq_ok_iff.mp hlast
          have hmade := makeSteps_append_of_walk [] hmiddle ⟨entries, hentries⟩
          rw [List.append_nil] at hmade
          rw [List.dropLast_concat]
          exact hmade
      · rw [hnil]
        rfl
    · rw [List.concat_eq_append] at hsteps
      have hfront : Path.up ∉ front := fun hmem => hup (by simp [hsteps, hmem])
      obtain ⟨result, after, hmade, hway⟩ :=
        makeSteps_graft h hfront (Entries.kind?_nil inner)
      refine ⟨result, after, ?_, .inl ?_⟩
      · rw [hsteps, ← List.append_assoc, List.dropLast_concat]
        rw [List.append_nil] at hmade
        rw [← hmade]
        exact makeSteps_append_of_walk front hroot hbase
      · rwa [hsteps, List.dropLast_concat]
  · exact ⟨.error fault, inner, hmake, .inr ⟨rfl, hfault, fault, rfl⟩⟩

/-! ## 3. Files -/

/-- The text is in the file at a place, all other files are as they were, and no directory is new
but those that the file lies in. -/
structure Stored (place : List String) (text : String) (before after : Entries) : Prop where
  files : ∀ location content, after.kind? location = some (.file content) ↔
    if location = place then content = .text text
    else before.kind? location = some (.file content)
  directories : ∀ location, after.kind? location = some .directory →
    before.kind? location = some .directory ∨ location <+: place ∧ location ≠ place

/-- A write fails, or it puts the file where the steps of the path lead. -/
theorem writeText_graft (h : disk.EmptyAt root base) (hpath : isContained path = true)
    (inner : Entries) (content : String) :
    (∃ fault, (disk.graft base inner).writeText (Path.join root path) content =
        (.error fault, disk.graft base inner)) ∨
      ∃ front name entries, Path.steps path = front ++ [name] ∧
        inner.get? front = some (.directory entries) ∧
        (∀ old, entries.lookup name ≠ some (.directory old)) ∧
        (disk.graft base inner).writeText (Path.join root path) content =
          (.ok (), disk.graft base
            (inner.modify (·.set name (.file (.text content))) front)) := by
  obtain ⟨habsolute, hup⟩ := isContained_absolute_up hpath
  rw [writeText]
  rcases htarget : (disk.graft base inner).target (Path.join root path) with
    fault | ⟨location, name⟩
  · exact .inl ⟨fault, rfl⟩
  · right
    obtain ⟨-, hfile, -, ⟨front, hsteps, hwalk⟩, entries, hentries, hfree⟩ := target_eq_ok htarget
    rw [Path.namesDirectory_join habsolute] at hfile
    obtain ⟨below, last, hbelow, -⟩ := Path.exists_steps_eq_concat hfile
    rw [Path.steps_join habsolute, hbelow, ← List.append_assoc] at hsteps
    obtain ⟨rfl, hlast⟩ := List.append_inj' hsteps rfl
    obtain rfl := List.singleton_inj.mp hlast
    rw [start_join _ habsolute] at hwalk
    have hlocation : location = base ++ below := by
      have hdown : (disk.graft base inner).walk base below = .ok location :=
        (h.walk_append inner below).symm.trans hwalk
      rw [eq_follow_of_walk hdown, Path.follow_of_not_mem]
      exact fun hmem => hup (by simp [hbelow, hmem])
    subst hlocation
    rw [h.get?_graft] at hentries
    refine ⟨below, last, entries, hbelow, hentries, hfree, ?_⟩
    simp only [h.put_graft]

theorem Stored.of_set {front : List String} {name : String} {entries before : Entries}
    (text : String) (hopened : Opened front before inner)
    (hentries : inner.get? front = some (.directory entries))
    (hfree : ∀ old, entries.lookup name ≠ some (.directory old)) :
    Stored (front ++ [name]) text before
      (inner.modify (·.set name (.file (.text text))) front) := by
  have hnew : ∀ old, Node.file (.text text) = .directory old → old = [] := by
    intro old hold
    cases hold
  have hkind (location : List String) := Entries.kind?_modify_set hnew location hentries hfree
  refine ⟨fun location content => ?_, fun location hdirectory => ?_⟩
  · rw [hkind]
    split
    · simp [Node.kind, eq_comm]
    · exact hopened.files location content
  · rw [hkind] at hdirectory
    split at hdirectory
    · cases hdirectory
    · rename_i hne
      refine (hopened.directories location hdirectory).imp_right fun hpre => ⟨?_, hne⟩
      exact hpre.trans (List.prefix_append front [name])

/-- A file that is written at a contained path changes nothing but what the directory holds, and if
it is written, that by this one file. -/
theorem writeFile_graft (h : disk.EmptyAt root base) (hpath : isContained path = true)
    (inner : Entries) (content : String) :
    ∃ result after, Project.writeFile (disk.graft base inner) (Path.join root path) content =
        (result, disk.graft base after) ∧
      ((∃ fault, result = .error fault ∧ Opened (Path.steps path).dropLast inner after) ∨
        result = .ok () ∧ Stored (Path.steps path) content inner after) := by
  obtain ⟨result, after, hmade, hway⟩ := makeDirectories_graft h hpath inner
  have hopened : Opened (Path.steps path).dropLast inner after := by
    rcases hway with hway | ⟨rfl, -⟩
    · exact hway.opened
    · exact .refl _ _
  rw [Project.writeFile, hmade]
  rcases result with fault | ⟨⟩
  · exact ⟨_, after, rfl, .inl ⟨fault, rfl, hopened⟩⟩
  · rcases writeText_graft h hpath after content with
      ⟨fault, hwrite⟩ | ⟨front, name, entries, hsteps, hentries, hfree, hwrite⟩
    · exact ⟨_, after, hwrite, .inl ⟨fault, rfl, hopened⟩⟩
    · refine ⟨_, _, hwrite, .inr ⟨rfl, ?_⟩⟩
      rw [hsteps, List.dropLast_concat] at hopened
      rw [hsteps]
      exact .of_set content hopened hentries hfree

end Disk

/-! ## 4. The last write -/

/-- What the last of some writes puts at a location. -/
def lastWritten (writes : List (List String × String)) (location : List String) : Option String :=
  writes.reverse.lookup location

theorem lastWritten_concat (writes : List (List String × String)) (place : List String)
    (text : String) (location : List String) :
    lastWritten (writes ++ [(place, text)]) location =
      if location = place then some text else lastWritten writes location := by
  rw [lastWritten, List.reverse_concat, List.lookup_cons]
  by_cases h : location = place
  · rw [if_pos h, beq_iff_eq.mpr h]
  · rw [if_neg h, beq_eq_false_iff_ne.mpr h]
    rfl

theorem isSome_lastWritten_iff {writes : List (List String × String)} {location : List String} :
    (lastWritten writes location).isSome ↔ ∃ write ∈ writes, write.1 = location := by
  simp only [lastWritten, List.lookup_isSome_iff, List.mem_reverse, beq_iff_eq]
  exact ⟨fun ⟨write, hwrite, heq⟩ => ⟨write, hwrite, heq.symm⟩,
    fun ⟨write, hwrite, heq⟩ => ⟨write, hwrite, heq.symm⟩⟩

/-- The files of a directory are those that were written, each with the text of the last write to
it. -/
def HoldsFiles (writes : List (List String × String)) (inner : Entries) : Prop :=
  ∀ location content, inner.kind? location = some (.file content) ↔
    ∃ text, lastWritten writes location = some text ∧ content = .text text

namespace HoldsFiles

variable {writes : List (List String × String)}

theorem nil : HoldsFiles [] [] := by
  intro location content
  rcases location with _ | ⟨name, more⟩
  · simp [Entries.kind?_nil, lastWritten]
  · simp [Entries.kind?_empty_cons, lastWritten]

theorem file_of_mem (h : HoldsFiles writes inner) {place : List String}
    (hplace : ∃ write ∈ writes, write.1 = place) :
    ∃ content, inner.kind? place = some (.file content) := by
  obtain ⟨text, htext⟩ := Option.isSome_iff_exists.mp (isSome_lastWritten_iff.mpr hplace)
  exact ⟨.text text, (h place _).mpr ⟨text, htext, rfl⟩⟩

theorem store {place : List String} {text : String} {after : Entries} (h : HoldsFiles writes inner)
    (hstored : Disk.Stored place text inner after) :
    HoldsFiles (writes ++ [(place, text)]) after := by
  intro location content
  rw [hstored.files, lastWritten_concat]
  split
  · simp
  · exact h location content

theorem opened {way : List String} {after : Entries} (h : HoldsFiles writes inner)
    (hopened : Disk.Opened way inner after) : HoldsFiles writes after := fun location content =>
  (hopened.files location content).trans (h location content)

end HoldsFiles

namespace Disk

/-! ## 5. Limits -/

/-- A path that passes no limit of a disk: it can be taken, and no name in it is too long. -/
structure WithinLimits (path : String) : Prop where
  taken : pathFault? path = none
  short : ∀ step ∈ Path.steps path, isTooLong step = false

instance (path : String) : Decidable (WithinLimits path) :=
  decidable_of_iff (pathFault? path = none ∧ ∀ step ∈ Path.steps path, isTooLong step = false)
    ⟨fun ⟨taken, short⟩ => ⟨taken, short⟩, fun ⟨taken, short⟩ => ⟨taken, short⟩⟩

theorem isTooLong_of_walk : ∀ {steps here there : List String},
    disk.walk here steps = .ok there → ∀ step ∈ steps, isTooLong step = false
  | [], _, _, _ => by simp
  | step :: steps, here, there, h => by
      obtain ⟨entries, -, hstep⟩ := walk_cons_eq_ok_iff.mp h
      rw [List.forall_mem_cons]
      by_cases hup : step = Path.up
      · rw [if_pos hup] at hstep
        exact ⟨by rw [hup]; decide, isTooLong_of_walk hstep⟩
      · rw [if_neg hup] at hstep
        obtain ⟨hlong, -, hmore⟩ := hstep
        exact ⟨hlong, isTooLong_of_walk hmore⟩

theorem withinLimits_of_find {node : Node} (h : disk.find path = .ok node) :
    WithinLimits path := by
  obtain ⟨hfault, location, hwalk, -⟩ := find_eq_ok h
  exact ⟨hfault, isTooLong_of_walk hwalk⟩

theorem withinLimits_of_writeFile {content : String} {left : Disk}
    (h : Project.writeFile disk path content = (.ok (), left)) : WithinLimits path := by
  obtain ⟨made, -, hwrite⟩ := andThen_eq_ok_iff.mp h
  rw [writeText] at hwrite
  rcases htarget : made.target path with fault | ⟨location, name⟩
  · rw [htarget] at hwrite
    cases hwrite
  · obtain ⟨hfault, -, hlong, ⟨front, hsteps, hwalk⟩, -⟩ := target_eq_ok htarget
    refine ⟨hfault, ?_⟩
    rw [hsteps, List.forall_mem_append, List.forall_mem_singleton]
    exact ⟨isTooLong_of_walk hwalk, hlong⟩

theorem WithinLimits.short_of_join (h : WithinLimits (Path.join root path))
    (hpath : isContained path = true) : ∀ step ∈ Path.steps path, isTooLong step = false := by
  have hshort := h.short
  rw [Path.steps_join (isContained_absolute_up hpath).1, List.forall_mem_append] at hshort
  exact hshort.2

/-- A file can be put in a directory that is there, unless its name is that of a directory. -/
theorem target_graft (h : disk.EmptyAt root base) (hpath : isContained path = true)
    (hlimits : WithinLimits (Path.join root path)) (hfile : Path.namesDirectory path = false)
    {front : List String} {name : String} {entries : Entries}
    (hsteps : Path.steps path = front ++ [name])
    (hentries : inner.get? front = some (.directory entries))
    (hfree : ∀ old, entries.lookup name ≠ some (.directory old)) :
    (disk.graft base inner).target (Path.join root path) = .ok (base ++ front, name) := by
  obtain ⟨habsolute, hup⟩ := isContained_absolute_up hpath
  have hshort := hlimits.short_of_join hpath
  rw [hsteps, List.forall_mem_append, List.forall_mem_singleton] at hshort
  obtain ⟨hfront, hname⟩ := hshort
  have hdown : Path.up ∉ front := fun hmem => hup (by simp [hsteps, hmem])
  have hsome : (inner.get? front).isSome := by rw [hentries]; rfl
  have hwalk : (disk.graft base inner).walk (base ++ []) front = .ok (base ++ ([] ++ front)) :=
    (h.walk_graft_eq_ok_iff hdown (by rfl)).mpr ⟨rfl, hfront, hsome⟩
  rw [List.append_nil, List.nil_append] at hwalk
  have hall : Path.steps (Path.join root path) = (Path.steps root ++ front) ++ [name] := by
    rw [Path.steps_join habsolute, hsteps, List.append_assoc]
  have hthere : (disk.graft base inner).walk (disk.start root) (Path.steps root ++ front) =
      .ok (base ++ front) := (h.walk_append inner front).trans hwalk
  have hstart : (disk.graft base inner).start (Path.join root path) = disk.start root :=
    start_join _ habsolute
  have hnamed : Path.namesDirectory (Path.join root path) = false := by
    rw [Path.namesDirectory_join habsolute, hfile]
  rw [target, hlimits.taken, Path.endsInHere_of_file hnamed, hall, List.getLast?_concat,
    List.dropLast_concat, hstart]
  simp only [hthere, bind, Except.bind, h.get?_graft, hentries, hname, hnamed]
  rcases hlookup : entries.lookup name with _ | (content | old)
  · rfl
  · rfl
  · exact absurd hlookup (hfree old)

/-- Where nothing is in the way, a file is written if its path passes no limit. -/
theorem writeFile_graft_clear (h : disk.EmptyAt root base) (hpath : isContained path = true)
    (hlimits : WithinLimits (Path.join root path)) (hfile : Path.namesDirectory path = false)
    (hclear : ∀ front content, front <+: (Path.steps path).dropLast →
      inner.kind? front ≠ some (.file content))
    (hplace : inner.kind? (Path.steps path) ≠ some .directory) (content : String) :
    (Project.writeFile (disk.graft base inner) (Path.join root path) content).1 = .ok () := by
  obtain ⟨front, name, hsteps, -⟩ := Path.exists_steps_eq_concat hfile
  obtain ⟨result, after, hmade, hway⟩ := makeDirectories_graft h hpath inner
  rw [Project.writeFile, hmade]
  rcases hway with hway | ⟨-, hfault, -⟩
  · have hshort : ∀ step ∈ (Path.steps path).dropLast, isTooLong step = false := fun step hstep =>
      hlimits.short_of_join hpath step (List.dropLast_subset _ hstep)
    obtain rfl := hway.clear (by simpa using hclear) hshort
    have hreached := hway.reached rfl
    rw [hsteps, List.dropLast_concat] at hreached
    obtain ⟨entries, hentries⟩ := Entries.kind?_eq_directory_iff.mp hreached
    have hfree : ∀ old, entries.lookup name ≠ some (.directory old) := by
      intro old hold
      have hnew : after.kind? (Path.steps path) = some .directory := by
        rw [hsteps]
        exact Entries.kind?_eq_directory_iff.mpr
          ⟨old, (Entries.get?_concat hentries name).trans hold⟩
      rcases hway.opened.directories _ hnew with hbefore | hpre
      · exact hplace hbefore
      · rw [hsteps, List.dropLast_concat, List.nil_append] at hpre
        have hlength := hpre.length_le
        rw [List.length_append, List.length_singleton] at hlength
        omega
    simp only [andThen, writeText, target_graft h hpath hlimits hfile hsteps hentries hfree]
  · exact absurd hlimits.taken hfault

/-! ## 6. Reading -/

/-- What is found at a contained path is what the entries hold at its steps. -/
theorem get?_of_find_graft (h : disk.EmptyAt root base) (hpath : isContained path = true)
    {node : Node} (hfind : (disk.graft base inner).find (Path.join root path) = .ok node) :
    inner.get? (Path.steps path) = some node := by
  obtain ⟨habsolute, hup⟩ := isContained_absolute_up hpath
  have hstart : (disk.graft base inner).start root = disk.start root := rfl
  obtain ⟨-, location, hwalk, hnode⟩ := find_eq_ok hfind
  rw [start_join _ habsolute, Path.steps_join habsolute, hstart, h.walk_append] at hwalk
  have hdown : (disk.graft base inner).walk (base ++ []) (Path.steps path) = .ok location := by
    rw [List.append_nil]
    exact hwalk
  obtain ⟨rfl, -, -⟩ := (h.walk_graft_eq_ok_iff hup (by rfl)).mp hdown
  rwa [h.get?_graft, List.nil_append] at hnode

/-- A file that the entries hold at the steps of a contained path is found, if no limit is passed.
-/
theorem find_graft_file (h : disk.EmptyAt root base) (hpath : isContained path = true)
    (hlimits : WithinLimits (Path.join root path)) (hfile : Path.namesDirectory path = false)
    {content : Content} (hcontent : inner.kind? (Path.steps path) = some (.file content)) :
    (disk.graft base inner).find (Path.join root path) = .ok (.file content) := by
  obtain ⟨habsolute, hup⟩ := isContained_absolute_up hpath
  have hget := Entries.kind?_eq_file_iff.mp hcontent
  have hsome : (inner.get? (Path.steps path)).isSome := by rw [hget]; rfl
  have hwalk : (disk.graft base inner).walk (base ++ []) (Path.steps path) =
      .ok (base ++ ([] ++ Path.steps path)) :=
    (h.walk_graft_eq_ok_iff hup (by rfl)).mpr ⟨rfl, hlimits.short_of_join hpath, hsome⟩
  rw [List.append_nil, List.nil_append, ← h.walk_append inner] at hwalk
  have hstart : (disk.graft base inner).start root = disk.start root := rfl
  rw [find, hlimits.taken, start_join _ habsolute, Path.steps_join habsolute, hstart, hwalk]
  simp only [bind, Except.bind, h.get?_graft, hget, Path.namesDirectory_join habsolute, hfile]
  rfl

end Disk

end GuidedSynthesis
