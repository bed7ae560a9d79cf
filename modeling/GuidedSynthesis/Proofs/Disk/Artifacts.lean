import GuidedSynthesis.Artifact
import GuidedSynthesis.Proofs.Disk.Graft
/-!
Artifacts lie with the generated sources, one for each declaration.

Whatever the name of a declaration is, the path of its artifact is refused or leads below the
directory of the generated sources. It is refused if and only if the name has a piece `..` with a
slash after it: the suffix makes a file of any last piece (`pathFor_eq`).

Let the project be empty at first, and let artifacts be stored in sequence, under names that are
identifiers. Each is stored, unless its path passes a limit of the disk. What is loaded in the end
is what was stored last, and there are no files but the artifacts (`store_law`).

## How the proof goes

An identifier has no slash, so its artifact is one file of the directory, and the file tells the
identifier (`place_injective`). What the project holds is an invariant of the sequence (`Keeps`):
one call keeps it (`persist_graft`), and so do all of them, by induction (`persistAll_graft`). The
files are then a map from identifiers to texts (`lastWritten_writeOf`).
-/

namespace GuidedSynthesis

namespace Artifact

variable {disk : Disk} {root symbol : String} {base : List String} {inner : Entries}

/-! ## 1. The path of an artifact -/

/-- What follows the name of a declaration in the name of its artifact. -/
def suffix : String := "_np_generated.bal"

/-- The name of an artifact is none that ends in another character. -/
theorem append_suffix_ne (name : String) {other : String}
    (h : other.toList.getLast? ≠ some 'l') : name ++ suffix ≠ other := by
  rintro rfl
  have hlast : suffix.toList.getLast? = some 'l' := by decide
  rw [String.toList_append, List.getLast?_append, hlast] at h
  exact h rfl

theorem isIdle_append_suffix (name : String) : Path.isIdle (name ++ suffix) = false := by
  rw [Path.isIdle, Bool.or_eq_false_iff, decide_eq_false_iff_not, decide_eq_false_iff_not]
  exact ⟨append_suffix_ne name (by decide), append_suffix_ne name (by decide)⟩

theorem artifactPath_eq (symbol : String) :
    artifactPath symbol = generatedDirectory ++ "/" ++ (symbol ++ suffix) := by
  rw [artifactPath, String.append_assoc, suffix]

/-- The suffix goes with the last piece of the name. -/
theorem pieces_artifactPath {front : List String} {last : String}
    (h : Path.pieces symbol = front ++ [last]) :
    Path.pieces (artifactPath symbol) = generatedDirectory :: (front ++ [last ++ suffix]) := by
  have hdirectory : Path.pieces generatedDirectory = [generatedDirectory] := by decide
  rw [artifactPath_eq, Path.pieces_append_slash, hdirectory,
    Path.pieces_append_of_not_mem (by decide) h, List.singleton_append]

theorem isContained_artifactPath_iff (symbol : String) :
    isContained (artifactPath symbol) = true ↔ Path.up ∉ (Path.pieces symbol).dropLast := by
  obtain ⟨front, last, h⟩ := Path.exists_pieces_eq_concat symbol
  have hhead : (artifactPath symbol).toList.head? = some 'g' := by
    rw [artifactPath_eq, String.append_assoc, String.toList_append]
    rfl
  have hne : artifactPath symbol ≠ "" := by
    intro hempty
    rw [hempty] at hhead
    cases hhead
  have hdirectory : Path.up ≠ generatedDirectory := by decide
  have hlast : Path.up ≠ last ++ suffix := (append_suffix_ne last (by decide)).symm
  rw [isContained_iff, pieces_artifactPath h, h, List.dropLast_concat, hhead]
  simp [hne, hdirectory, hlast]

/-- The artifact is a file below the directory, whatever its declaration is called. -/
theorem exists_steps_artifactPath (symbol : String) :
    ∃ below, below ≠ [] ∧ Path.steps (artifactPath symbol) = generatedDirectory :: below := by
  obtain ⟨front, last, h⟩ := Path.exists_pieces_eq_concat symbol
  have hdirectory : Path.isIdle generatedDirectory = false := by decide
  refine ⟨(front ++ [last ++ suffix]).filter (!Path.isIdle ·), ?_, ?_⟩
  · simp [List.filter_append, isIdle_append_suffix]
  · rw [Path.steps, pieces_artifactPath h]
    simp [hdirectory]

theorem namesDirectory_artifactPath (symbol : String) :
    Path.namesDirectory (artifactPath symbol) = false := by
  obtain ⟨front, last, h⟩ := Path.exists_pieces_eq_concat symbol
  rw [Path.namesDirectory, pieces_artifactPath h, ← List.cons_append, List.getLast?_concat]
  simp [isIdle_append_suffix, append_suffix_ne last (by decide : Path.up.toList.getLast? ≠ _)]

theorem pathFor_eq (root symbol : String) :
    pathFor root symbol =
      if Path.up ∈ (Path.pieces symbol).dropLast then
        .error (.invalidSourcePath (artifactPath symbol))
      else .ok (Path.join root (artifactPath symbol)) := by
  rw [pathFor, checkedPath]
  by_cases h : Path.up ∈ (Path.pieces symbol).dropLast
  · have hrefused : isContained (artifactPath symbol) = false := by
      rw [← Bool.not_eq_true, isContained_artifactPath_iff]
      exact not_not_intro h
    rw [if_pos h, hrefused]
    rfl
  · rw [if_neg h, (isContained_artifactPath_iff symbol).mpr h]
    rfl

/-- A path that is not refused leads below the directory of the generated sources. -/
theorem leadsBelow_of_pathFor {path : String} (h : pathFor root symbol = .ok path) :
    ∃ below, below ≠ [] ∧ Path.LeadsBelow (Path.join root generatedDirectory) path below := by
  rw [pathFor_eq] at h
  split at h
  · cases h
  · rename_i hup
    obtain rfl := Except.ok.inj h
    obtain ⟨below, hne, hbelow⟩ := exists_steps_artifactPath symbol
    obtain ⟨habsolute, hdown⟩ :=
      isContained_absolute_up ((isContained_artifactPath_iff symbol).mpr hup)
    have hdirectory : Path.isAbsolute generatedDirectory = false := by decide
    have hsteps : Path.steps generatedDirectory = [generatedDirectory] := by decide
    refine ⟨below, hne, Path.leadsBelow_of_steps ?_ ?_ fun hmem => hdown ?_⟩
    · rw [Path.steps_join habsolute, Path.steps_join hdirectory, hbelow, hsteps,
        List.append_assoc, List.singleton_append]
    · rw [Path.isAbsolute_join habsolute, Path.isAbsolute_join hdirectory]
    · rw [hbelow]
      exact List.mem_cons_of_mem _ hmem

/-! ## 2. Identifiers -/

theorem isIdentifierPart_of_mem {name : String} {c : Char} (h : isIdentifier name = true)
    (hc : c ∈ name.toList) : c.toNat = 0x27 ∨ isIdentifierPart c = true := by
  have hplain : ∀ chars, isPlainIdentifier chars = true →
      ∀ c ∈ chars, isIdentifierPart c = true := by
    intro chars hchars c hc
    rcases chars with _ | ⟨first, rest⟩
    · cases hchars
    · rw [isPlainIdentifier, Bool.and_eq_true, List.all_eq_true] at hchars
      obtain ⟨hfirst, hrest⟩ := hchars
      rcases List.mem_cons.mp hc with rfl | hc
      · rw [isIdentifierPart, hfirst, Bool.true_or]
      · exact hrest c hc
  rw [isIdentifier] at h
  split at h
  · cases h
  · rename_i first rest hname
    rw [hname] at hc
    split at h
    · rename_i hquote
      rcases List.mem_cons.mp hc with rfl | hc
      · exact .inl hquote
      · exact .inr (hplain rest h c hc)
    · exact .inr (hplain (first :: rest) h c hc)

theorem pieces_of_isIdentifier (h : isIdentifier symbol = true) :
    Path.pieces symbol = [symbol] := by
  refine Path.pieces_of_not_mem fun hslash => ?_
  rcases isIdentifierPart_of_mem h hslash with hquote | hpart
  · exact absurd hquote (by decide)
  · exact absurd hpart (by decide)

/-- Where the artifact of an identifier lies in the project. -/
def place (symbol : String) : List String := [generatedDirectory, symbol ++ suffix]

theorem place_injective : Function.Injective place := by
  intro symbol other h
  have hname : symbol ++ suffix = other ++ suffix := by simpa [place] using h
  rw [← String.toList_inj, String.toList_append, String.toList_append] at hname
  exact String.toList_inj.mp (List.append_cancel_right hname)

theorem steps_artifactPath (h : isIdentifier symbol = true) :
    Path.steps (artifactPath symbol) = place symbol := by
  have hsymbol : Path.pieces symbol = [] ++ [symbol] := pieces_of_isIdentifier h
  have hpieces : Path.pieces (artifactPath symbol) = place symbol := pieces_artifactPath hsymbol
  have hdirectory : Path.isIdle generatedDirectory = false := by decide
  rw [Path.steps, hpieces, place]
  simp [hdirectory, isIdle_append_suffix]

theorem not_mem_dropLast_pieces (h : isIdentifier symbol = true) :
    Path.up ∉ (Path.pieces symbol).dropLast := by
  rw [pieces_of_isIdentifier h]
  exact List.not_mem_nil

/-! ## 3. One call -/

/-- A call writes the file, and its failures are those of the disk. -/
theorem persist_cases {path : String} (h : pathFor root symbol = .ok path) (disk : Disk)
    (code : String) :
    (∃ left, Project.writeFile disk path code = (.ok (), left) ∧
        persist root disk symbol code = (.ok path, left)) ∨
      ∃ fault left context, Project.writeFile disk path code = (.error fault, left) ∧
        persist root disk symbol code = (.error (.withContext context (.io fault)), left) := by
  unfold persist
  rw [h, Project.writeFile]
  simp only
  rcases disk.makeDirectories (Path.parent path) with ⟨fault | ⟨⟩, made⟩
  · exact .inr ⟨fault, made, _, rfl, rfl⟩
  · simp only [Disk.andThen]
    rcases made.writeText path code with ⟨fault | ⟨⟩, left⟩
    · exact .inr ⟨fault, left, _, rfl, rfl⟩
    · exact .inl ⟨left, rfl, rfl⟩

/-- Does the artifact of a declaration have a path that passes no limit of the disk? -/
abbrev Fits (root symbol : String) : Prop :=
  Disk.WithinLimits (Path.join root (artifactPath symbol))

/-- What is written for a declaration, and where. -/
def writeOf (call : String × String) : List String × String := (place call.1, call.2)

/-- The result of a call: the path of the artifact, or a failure of the disk if that does not take
the path. -/
def Answered (root : String) (call : String × String) (result : Result String) : Prop :=
  if Fits root call.1 then result = .ok (Path.join root (artifactPath call.1))
  else ∃ context fault, result = .error (.withContext context (.io fault))

/-- The project holds the artifacts that were stored, and nothing else. -/
structure Keeps (stored : List (String × String)) (inner : Entries) : Prop where
  files : HoldsFiles (stored.map writeOf) inner
  directories : ∀ location, inner.kind? location = some .directory →
    location <+: [generatedDirectory]

namespace Keeps

variable {stored : List (String × String)}

theorem nil : Keeps [] [] where
  files := .nil
  directories := fun location h => by
    rcases location with _ | ⟨name, more⟩
    · exact List.nil_prefix
    · rw [Entries.kind?_empty_cons] at h
      cases h

/-- A file that is held lies in the directory. -/
theorem exists_of_file (h : Keeps stored inner) {location : List String} {content : Content}
    (hfile : inner.kind? location = some (.file content)) : ∃ symbol, location = place symbol := by
  obtain ⟨text, htext, -⟩ := (h.files location content).mp hfile
  obtain ⟨write, hwrite, rfl⟩ := isSome_lastWritten_iff.mp (Option.isSome_of_eq_some htext)
  obtain ⟨call, -, rfl⟩ := List.mem_map.mp hwrite
  exact ⟨call.1, rfl⟩

theorem opened (h : Keeps stored inner) {after : Entries}
    (hopened : Disk.Opened [generatedDirectory] inner after) : Keeps stored after where
  files := h.files.opened hopened
  directories := fun location hlocation =>
    (hopened.directories location hlocation).elim (h.directories location) id

theorem store (h : Keeps stored inner) {after : Entries} {symbol code : String}
    (hstored : Disk.Stored (place symbol) code inner after) :
    Keeps (stored ++ [(symbol, code)]) after where
  files := by
    rw [List.map_append]
    exact h.files.store hstored
  directories := fun location hlocation => by
    rcases hstored.directories location hlocation with hold | ⟨hpre, hne⟩
    · exact h.directories location hold
    · have hconcat : location <+: [generatedDirectory].concat (symbol ++ suffix) := hpre
      exact (List.prefix_concat_iff.mp hconcat).resolve_left hne

/-- Nothing is in the way of an artifact. -/
theorem writeFile_ok (h : Keeps stored inner) (hempty : disk.EmptyAt root base)
    (hsymbol : isIdentifier symbol = true) (hfits : Fits root symbol) (code : String) :
    (Project.writeFile (disk.graft base inner) (Path.join root (artifactPath symbol)) code).1 =
      .ok () := by
  have hpath := (isContained_artifactPath_iff symbol).mpr (not_mem_dropLast_pieces hsymbol)
  have hfile := namesDirectory_artifactPath symbol
  refine Disk.writeFile_graft_clear hempty hpath hfits hfile ?_ ?_ code
  · intro front content hfront hfile
    obtain ⟨other, rfl⟩ := h.exists_of_file hfile
    have hlength := hfront.length_le
    rw [steps_artifactPath hsymbol] at hlength
    simp [place] at hlength
  · intro hdirectory
    have hlength := (h.directories _ hdirectory).length_le
    rw [steps_artifactPath hsymbol] at hlength
    simp [place] at hlength

end Keeps

/-- One call changes nothing but what the project holds, and that by the artifact if it fits. -/
theorem persist_graft (h : disk.EmptyAt root base) {stored : List (String × String)}
    (hkeeps : Keeps stored inner) (hsymbol : isIdentifier symbol = true) (code : String) :
    ∃ result after, persist root (disk.graft base inner) symbol code =
        (result, disk.graft base after) ∧
      Answered root (symbol, code) result ∧
      Keeps (stored ++ [(symbol, code)].filter (Fits root ·.1)) after := by
  have hup := not_mem_dropLast_pieces hsymbol
  have hpath := (isContained_artifactPath_iff symbol).mpr hup
  have hfor : pathFor root symbol = .ok (Path.join root (artifactPath symbol)) := by
    rw [pathFor_eq, if_neg hup]
  obtain ⟨result, after, hwrite, hresult⟩ := Disk.writeFile_graft h hpath inner code
  rw [steps_artifactPath hsymbol] at hresult
  rcases persist_cases hfor (disk.graft base inner) code with
    ⟨left, hdone, hpersist⟩ | ⟨fault, left, context, hfailed, hpersist⟩
  · obtain ⟨rfl, rfl⟩ := Prod.mk.inj (hwrite.symm.trans hdone)
    have hfits : Fits root symbol := Disk.withinLimits_of_writeFile hdone
    rcases hresult with ⟨_, hfault, -⟩ | ⟨-, hstored⟩
    · cases hfault
    · refine ⟨_, after, hpersist, ?_, ?_⟩
      · rw [Answered, if_pos hfits]
      · rw [List.filter_cons_of_pos (by simpa using hfits), List.filter_nil]
        exact hkeeps.store hstored
  · obtain ⟨rfl, rfl⟩ := Prod.mk.inj (hwrite.symm.trans hfailed)
    have hfits : ¬Fits root symbol := fun hfits => by
      have hok := hkeeps.writeFile_ok h hsymbol hfits code
      rw [hfailed] at hok
      cases hok
    rcases hresult with ⟨_, -, hopened⟩ | ⟨hok, -⟩
    · refine ⟨_, after, hpersist, ?_, ?_⟩
      · rw [Answered, if_neg hfits]
        exact ⟨context, fault, rfl⟩
      · rw [List.filter_cons_of_neg (by simpa using hfits), List.filter_nil, List.append_nil]
        exact hkeeps.opened hopened
    · cases hok

/-! ## 4. All calls -/

/-- Stores artifacts one after the other, and goes on after a failure; the results are in the order
of the calls. -/
def persistAll (root : String) (disk : Disk) :
    List (String × String) → List (Result String) × Disk
  | [] => ([], disk)
  | (symbol, code) :: more =>
    let (result, next) := persist root disk symbol code
    let (results, left) := persistAll root next more
    (result :: results, left)

/-- The calls that store an artifact. -/
def stored (root : String) (calls : List (String × String)) : List (String × String) :=
  calls.filter (Fits root ·.1)

theorem persistAll_graft (h : disk.EmptyAt root base) {calls : List (String × String)} :
    ∀ {before : List (String × String)} {inner : Entries},
      (∀ call ∈ calls, isIdentifier call.1 = true) → Keeps before inner →
      ∃ results after, persistAll root (disk.graft base inner) calls =
          (results, disk.graft base after) ∧
        List.Forall₂ (Answered root) calls results ∧ Keeps (before ++ stored root calls) after := by
  induction calls with
  | nil =>
    intro before inner _ hkeeps
    refine ⟨[], inner, rfl, .nil, ?_⟩
    rwa [stored, List.filter_nil, List.append_nil]
  | cons call calls ih =>
    obtain ⟨symbol, code⟩ := call
    intro before inner hcalls hkeeps
    rw [List.forall_mem_cons] at hcalls
    obtain ⟨hsymbol, hcalls⟩ := hcalls
    obtain ⟨result, next, hpersist, hanswered, hnext⟩ := persist_graft h hkeeps hsymbol code
    obtain ⟨results, after, hrest, hresults, hafter⟩ := ih hcalls hnext
    refine ⟨result :: results, after, ?_, .cons hanswered hresults, ?_⟩
    · rw [persistAll, hpersist]
      simp only [hrest]
    · rw [List.append_assoc, stored, ← List.filter_append, List.singleton_append] at hafter
      exact hafter

/-! ## 5. What is loaded -/

theorem lookup_writeOf (calls : List (String × String)) (symbol : String) :
    (calls.map writeOf).lookup (place symbol) = calls.lookup symbol := by
  induction calls with
  | nil => rfl
  | cons call calls ih =>
    obtain ⟨other, code⟩ := call
    rw [List.map_cons, writeOf, List.lookup_cons, List.lookup_cons, ih]
    by_cases h : symbol = other
    · rw [h, beq_self_eq_true, beq_self_eq_true]
    · have hplace : place symbol ≠ place other := fun heq => h (place_injective heq)
      rw [beq_eq_false_iff_ne.mpr h, beq_eq_false_iff_ne.mpr hplace]

/-- The last write to the file of an identifier is the last call for it. -/
theorem lastWritten_writeOf (calls : List (String × String)) (symbol : String) :
    lastWritten (calls.map writeOf) (place symbol) = calls.reverse.lookup symbol := by
  rw [lastWritten, ← List.map_reverse, lookup_writeOf]

/-- What is loaded for a name is what was last written where the name leads. -/
theorem load_graft (h : disk.EmptyAt root base) {calls : List (String × String)}
    (hkeeps : Keeps calls inner) (hup : Path.up ∉ (Path.pieces symbol).dropLast) :
    load root (disk.graft base inner) symbol =
      .ok (if Fits root symbol then
        lastWritten (calls.map writeOf) (Path.steps (artifactPath symbol)) else none) := by
  have hpath := (isContained_artifactPath_iff symbol).mpr hup
  have hfor : pathFor root symbol = .ok (Path.join root (artifactPath symbol)) := by
    rw [pathFor_eq, if_neg hup]
  simp only [load, hfor, bind, Except.bind]
  rcases hfind : (disk.graft base inner).find (Path.join root (artifactPath symbol)) with
    fault | node
  · -- nothing is found, so nothing that fits was written there
    have hnone : (if Fits root symbol then
        lastWritten (calls.map writeOf) (Path.steps (artifactPath symbol)) else none) = none := by
      split
      · rename_i hfits
        by_contra hsome
        obtain ⟨text, htext⟩ := Option.ne_none_iff_exists'.mp hsome
        have hfile := (hkeeps.files _ _).mpr ⟨text, htext, rfl⟩
        rw [Disk.find_graft_file h hpath hfits (namesDirectory_artifactPath symbol) hfile] at hfind
        cases hfind
      · rfl
    rw [Disk.exists?, hfind, hnone]
    rfl
  · have hfits : Fits root symbol := Disk.withinLimits_of_find hfind
    have hget := Disk.get?_of_find_graft h hpath hfind
    rcases node with content | entries
    · obtain ⟨text, htext, rfl⟩ :=
        (hkeeps.files _ _).mp (Entries.kind?_eq_file_iff.mpr hget)
      rw [Disk.exists?, Disk.readText, hfind, if_pos hfits, htext]
      rfl
    · -- the directories are those that the artifacts lie in
      have hlength :=
        (hkeeps.directories _ (Entries.kind?_eq_directory_iff.mpr ⟨entries, hget⟩)).length_le
      obtain ⟨below, hne, hbelow⟩ := exists_steps_artifactPath symbol
      rw [hbelow, List.length_cons, List.length_singleton] at hlength
      have hpos := List.length_pos_iff.mpr hne
      omega

/-! ## 6. The law of the store -/

/-- What becomes of the artifacts that are stored in an empty project. -/
structure StoreLaw (root : String) (disk : Disk) (base : List String)
    (calls : List (String × String)) : Prop where
  /-- Each call gives the path of its artifact, unless the disk does not take that path. -/
  answered : List.Forall₂ (Answered root) calls (persistAll root disk calls).1
  /-- What is loaded is what was stored last, if anything was. -/
  loaded : ∀ symbol, isIdentifier symbol = true →
    load root (persistAll root disk calls).2 symbol =
      .ok ((stored root calls).reverse.lookup symbol)
  /-- A name that is no identifier is taken for the file that it leads to. -/
  loadedElse : ∀ symbol, Path.up ∉ (Path.pieces symbol).dropLast →
    load root (persistAll root disk calls).2 symbol =
      .ok (if Fits root symbol then
        lastWritten ((stored root calls).map writeOf) (Path.steps (artifactPath symbol)) else none)
  /-- The files of the project are the artifacts. -/
  files : ∀ location content,
    (persistAll root disk calls).2.root.kind? (base ++ location) = some (.file content) ↔
      ∃ symbol text, (stored root calls).reverse.lookup symbol = some text ∧
        location = [generatedDirectory, symbol ++ suffix] ∧ content = .text text
  /-- Outside the project nothing changes. -/
  elsewhere : ∀ location, ¬base <+: location →
    (persistAll root disk calls).2.root.kind? location = disk.root.kind? location

theorem storeLaw_of_emptyAt (h : disk.EmptyAt root base) {calls : List (String × String)}
    (hcalls : ∀ call ∈ calls, isIdentifier call.1 = true) : StoreLaw root disk base calls := by
  obtain ⟨results, after, hrun, hanswered, hkeeps⟩ := persistAll_graft h hcalls Keeps.nil
  rw [h.graft_nil] at hrun
  rw [List.nil_append] at hkeeps
  refine ⟨?_, fun symbol hsymbol => ?_, fun symbol hup => ?_, fun location content => ?_, ?_⟩
  · rw [hrun]
    exact hanswered
  · rw [hrun, load_graft h hkeeps (not_mem_dropLast_pieces hsymbol), steps_artifactPath hsymbol,
      lastWritten_writeOf]
    split
    · rfl
    · rename_i hfits
      -- what does not fit was not stored
      refine congrArg _ (Eq.symm (List.lookup_eq_none_iff.mpr fun call hcall => ?_))
      rw [List.mem_reverse, stored, List.mem_filter, decide_eq_true_iff] at hcall
      rw [bne_iff_ne]
      rintro rfl
      exact hfits hcall.2
  · rw [hrun, load_graft h hkeeps hup]
  · have hkind : (disk.graft base after).root.kind? (base ++ location) = after.kind? location := by
      rw [Entries.kind?, h.get?_graft, Entries.kind?]
    rw [hrun, hkind]
    constructor
    · intro hfile
      obtain ⟨symbol, rfl⟩ := hkeeps.exists_of_file hfile
      obtain ⟨text, htext, rfl⟩ := (hkeeps.files _ _).mp hfile
      rw [lastWritten_writeOf] at htext
      exact ⟨symbol, text, htext, rfl, rfl⟩
    · rintro ⟨symbol, text, htext, rfl, rfl⟩
      refine (hkeeps.files _ _).mpr ⟨text, ?_, rfl⟩
      rw [← htext, ← lastWritten_writeOf]
      rfl
  · intro location hlocation
    rw [hrun]
    exact Entries.kind?_modify_outside h.empty hlocation

/-- The path of an artifact is refused or leads below the directory of the generated sources, and is
refused only for a piece `..` of the name with a slash after it. In a project that was empty, what
is stored under identifiers is kept apart, and is loaded as it was stored last. -/
theorem store_law (root : String) :
    (∀ symbol, (pathFor root symbol = .error (.invalidSourcePath (artifactPath symbol)) ↔
          Path.up ∈ (Path.pieces symbol).dropLast) ∧
        (Path.up ∉ (Path.pieces symbol).dropLast →
          ∃ path below, pathFor root symbol = .ok path ∧ below ≠ [] ∧
            Path.LeadsBelow (Path.join root generatedDirectory) path below)) ∧
      ∀ (disk : Disk) (base : List String) (calls : List (String × String)),
        disk.EmptyAt root base → (∀ call ∈ calls, isIdentifier call.1 = true) →
          StoreLaw root disk base calls := by
  refine ⟨fun symbol => ⟨?_, fun hup => ?_⟩, fun disk base calls hempty hcalls =>
    storeLaw_of_emptyAt hempty hcalls⟩
  · rw [pathFor_eq]
    by_cases h : Path.up ∈ (Path.pieces symbol).dropLast <;> simp [h]
  · have hfor := pathFor_eq root symbol
    rw [if_neg hup] at hfor
    obtain ⟨below, hne, hbelow⟩ := leadsBelow_of_pathFor hfor
    exact ⟨_, below, hfor, hne, hbelow⟩

/-! An identifier that is stored twice, one with a quote, and names that are none. -/

def emptyProject : Disk := ⟨[("srv", .directory [("p", .directory [])])], []⟩

def threeCalls : List (String × String) := [("f", "1"), ("'g", "2"), ("f", "3")]

theorem store_law_of_three :
    pathFor "/srv/p" "a/../f" =
        .error (.invalidSourcePath "generated/a/../f_np_generated.bal") ∧
      emptyProject.EmptyAt "/srv/p" ["srv", "p"] ∧
      (∀ call ∈ threeCalls, isIdentifier call.1 = true) ∧
      List.Forall₂ (Answered "/srv/p") threeCalls
        (persistAll "/srv/p" emptyProject threeCalls).1 ∧
      load "/srv/p" (persistAll "/srv/p" emptyProject threeCalls).2 "f" = .ok (some "3") ∧
      load "/srv/p" (persistAll "/srv/p" emptyProject threeCalls).2 "'g" = .ok (some "2") ∧
      load "/srv/p" (persistAll "/srv/p" emptyProject threeCalls).2 "h" = .ok none ∧
      load "/srv/p" (persistAll "/srv/p" emptyProject threeCalls).2 "./f" = .ok (some "3") := by
  have hempty : emptyProject.EmptyAt "/srv/p" ["srv", "p"] := ⟨by decide, rfl⟩
  have hcalls : ∀ call ∈ threeCalls, isIdentifier call.1 = true := by decide
  obtain ⟨hpath, hstore⟩ := store_law "/srv/p"
  have hlaw := hstore emptyProject ["srv", "p"] threeCalls hempty hcalls
  have hstored : stored "/srv/p" threeCalls = threeCalls := by decide +kernel
  have hloaded (symbol : String) := hlaw.loaded symbol
  rw [hstored] at hloaded
  refine ⟨(hpath "a/../f").1.mpr (by decide), hempty, hcalls, hlaw.answered, ?_, ?_, ?_, ?_⟩
  · exact hloaded "f" (by decide)
  · exact hloaded "'g" (by decide)
  · exact hloaded "h" (by decide)
  · rw [hlaw.loadedElse "./f" (by decide), hstored]
    decide +kernel

end Artifact

end GuidedSynthesis
