import GuidedSynthesis.Disk
import Mathlib.Data.List.DropRight
import Mathlib.Data.List.Induction
/-!
Paths that are put together and taken apart.

A path is cut at its slashes and nowhere else (`pieces_append_slash`, `intercalate_pieces`). So the
steps of a path below another one are the steps of the other one and then its own (`steps_join`),
whether or not there is a slash where they meet, and it starts where the other one starts
(`isAbsolute_join`). The parent of a path is a text that the path starts with (`parent_isPrefix`) and
has the same steps but the last (`steps_parent`). So to make the directories that a file lies in is
to make those of all its steps but the last (`makeDirectories_parent`).
-/

namespace GuidedSynthesis

namespace Text

theorem pieces_eq_splitOn (separator : Char) (s : List Char) :
    pieces separator s = s.splitOn separator := by
  induction s with
  | nil => rfl
  | cons c s ih =>
    rw [pieces, List.splitOn_cons_eq_if_modifyHead, ih]
    by_cases h : c = separator
    · simp [h]
    · obtain ⟨piece, more, hsplit⟩ :=
        List.exists_cons_of_ne_nil (List.splitOn_ne_nil separator s)
      simp [h, hsplit]

theorem not_mem_of_mem_pieces {separator : Char} {s piece : List Char}
    (h : piece ∈ pieces separator s) : separator ∉ piece := by
  induction s generalizing piece with
  | nil => simp_all [pieces]
  | cons c s ih =>
    rw [pieces] at h
    split at h
    · rcases List.mem_cons.mp h with rfl | h
      · exact List.not_mem_nil
      · exact ih h
    · rename_i hc
      split at h
      · rename_i first more hpieces
        rw [hpieces] at ih
        rcases List.mem_cons.mp h with rfl | h
        · have hfirst := ih List.mem_cons_self
          simp [Ne.symm hc, hfirst]
        · exact ih (List.mem_cons_of_mem _ h)
      · simp_all [Ne.symm hc]

end Text

namespace Path

/-! ## 1. Pieces -/

theorem pieces_ne_nil (path : String) : pieces path ≠ [] := by
  simp [pieces, Text.pieces_eq_splitOn]

theorem exists_pieces_eq_concat (path : String) :
    ∃ front last, pieces path = front ++ [last] := by
  rcases List.eq_nil_or_concat (pieces path) with hnil | ⟨front, last, h⟩
  · exact absurd hnil (pieces_ne_nil path)
  · exact ⟨front, last, by rw [h, List.concat_eq_append]⟩

theorem pieces_append_slash (front rest : String) :
    pieces (front ++ "/" ++ rest) = pieces front ++ pieces rest := by
  simp [pieces, Text.pieces_eq_splitOn, String.toList_append, List.splitOn_append_cons_self]

theorem pieces_of_not_mem {name : String} (h : '/' ∉ name.toList) : pieces name = [name] := by
  simp [pieces, Text.pieces_eq_splitOn, List.splitOn_eq_singleton h]

theorem slash_not_mem_of_mem_pieces {path piece : String} (h : piece ∈ pieces path) :
    '/' ∉ piece.toList := by
  obtain ⟨chars, hchars, rfl⟩ := List.mem_map.mp h
  rw [String.toList_ofList]
  exact Text.not_mem_of_mem_pieces hchars

theorem intercalate_pieces (path : String) : "/".intercalate (pieces path) = path := by
  rw [← String.toList_inj, String.toList_intercalate, pieces, List.map_map]
  have hmap : String.toList ∘ String.ofList = id := funext fun _ => String.toList_ofList
  rw [hmap, List.map_id, Text.pieces_eq_splitOn]
  exact List.intercalate_splitOn '/'

theorem pieces_intercalate {ps : List String} (hne : ps ≠ []) (h : ∀ p ∈ ps, '/' ∉ p.toList) :
    pieces ("/".intercalate ps) = ps := by
  induction ps with
  | nil => exact absurd rfl hne
  | cons p ps ih =>
    have hp := pieces_of_not_mem (h p List.mem_cons_self)
    by_cases hps : ps = []
    · rw [hps, String.intercalate_singleton, hp]
    · rw [String.intercalate_cons_of_ne_nil hps, pieces_append_slash, hp,
        ih hps fun q hq => h q (List.mem_cons_of_mem p hq), List.singleton_append]

/-- A text without slash that is put after a path is part of its last piece. -/
theorem pieces_append_of_not_mem {path suffix last : String} {front : List String}
    (hsuffix : '/' ∉ suffix.toList) (h : pieces path = front ++ [last]) :
    pieces (path ++ suffix) = front ++ [last ++ suffix] := by
  have hjoin : "/".intercalate (front ++ [last ++ suffix]) =
      "/".intercalate (front ++ [last]) ++ suffix := by
    by_cases hfront : front = []
    · simp [hfront]
    · rw [String.intercalate_append_of_ne_nil hfront (by simp),
        String.intercalate_append_of_ne_nil hfront (by simp), String.intercalate_singleton,
        String.intercalate_singleton, ← String.append_assoc]
  have hfree : ∀ p ∈ front ++ [last ++ suffix], '/' ∉ p.toList := by
    have hpieces : ∀ p ∈ front ++ [last], '/' ∉ p.toList := fun p hp =>
      slash_not_mem_of_mem_pieces (h ▸ hp)
    rw [List.forall_mem_append, List.forall_mem_singleton] at hpieces ⊢
    obtain ⟨hfront, hlast⟩ := hpieces
    refine ⟨hfront, ?_⟩
    rw [String.toList_append, List.mem_append, not_or]
    exact ⟨hlast, hsuffix⟩
  rw [← pieces_intercalate (by simp) hfree, hjoin, ← h, intercalate_pieces]

/-! ## 2. Steps -/

theorem steps_append_slash (front rest : String) :
    steps (front ++ "/" ++ rest) = steps front ++ steps rest := by
  rw [steps, pieces_append_slash, List.filter_append]
  rfl

/-- Below another path stand the pieces of the path, after pieces that lead where the other path
does. -/
theorem exists_pieces_join (root : String) {path : String} (h : isAbsolute path = false) :
    ∃ front, pieces (join root path) = front ++ pieces path ∧
      front.filter (!isIdle ·) = steps root := by
  rw [join, if_neg (by simp [h])]
  split
  · rename_i hroot
    rcases hroot with rfl | hslash
    · refine ⟨[], ?_, by decide⟩
      rw [String.empty_append, List.nil_append]
    · obtain ⟨chars, hchars⟩ := List.getLast?_eq_some_iff.mp hslash
      -- the slash at the end of the root is the one that divides it from the path
      have hroot : root = String.ofList chars ++ "/" ++ "" := by
        rw [← String.toList_inj, hchars]
        simp [String.toList_append]
      have hjoin : root ++ path = String.ofList chars ++ "/" ++ path := by
        rw [hroot, String.append_empty]
      refine ⟨pieces (String.ofList chars), ?_, ?_⟩
      · rw [hjoin, pieces_append_slash]
      · rw [hroot, steps_append_slash]
        exact (List.append_nil _).symm
  · exact ⟨pieces root, pieces_append_slash root path, rfl⟩

theorem steps_join {root path : String} (h : isAbsolute path = false) :
    steps (join root path) = steps root ++ steps path := by
  obtain ⟨front, hpieces, hfront⟩ := exists_pieces_join root h
  rw [steps, hpieces, List.filter_append, hfront]
  rfl

theorem namesDirectory_join {root path : String} (h : isAbsolute path = false) :
    namesDirectory (join root path) = namesDirectory path := by
  obtain ⟨front, hpieces, -⟩ := exists_pieces_join root h
  rw [namesDirectory, hpieces, List.getLast?_append_of_ne_nil _ (pieces_ne_nil path),
    namesDirectory]

/-- The last piece of a path that does not ask for a directory leads somewhere, and not up. -/
theorem exists_pieces_of_file {path : String} (h : namesDirectory path = false) :
    ∃ front piece, pieces path = front ++ [piece] ∧ isIdle piece = false ∧ piece ≠ up := by
  obtain ⟨front, piece, hfront⟩ := exists_pieces_eq_concat path
  rw [namesDirectory, hfront, List.getLast?_concat, Bool.or_eq_false_iff,
    decide_eq_false_iff_not] at h
  exact ⟨front, piece, hfront, h.1, h.2⟩

/-- A path that does not ask for a directory has a last step, and that is no step up. -/
theorem exists_steps_eq_concat {path : String} (h : namesDirectory path = false) :
    ∃ front name, steps path = front ++ [name] ∧ name ≠ up := by
  obtain ⟨front, piece, hfront, hidle, hup⟩ := exists_pieces_of_file h
  refine ⟨front.filter (!isIdle ·), piece, ?_, hup⟩
  rw [steps, hfront, List.filter_append]
  simp [hidle]

theorem endsInHere_of_file {path : String} (h : namesDirectory path = false) :
    endsInHere path = false := by
  obtain ⟨front, piece, hfront, hidle, -⟩ := exists_pieces_of_file h
  obtain ⟨hempty, hpoint⟩ := Bool.or_eq_false_iff.mp hidle
  rw [decide_eq_false_iff_not] at hempty hpoint
  simp [endsInHere, hfront, hempty, hpoint]

theorem isAbsolute_join {root path : String} (h : isAbsolute path = false) :
    isAbsolute (join root path) = isAbsolute root := by
  have hhead : ∀ text : String, root ≠ "" → isAbsolute (root ++ text) = isAbsolute root := by
    intro text hne
    obtain ⟨c, rest, hchars⟩ := List.exists_cons_of_ne_nil
      (fun hnil => hne (String.toList_eq_nil_iff.mp hnil) : root.toList ≠ [])
    simp [isAbsolute, String.toList_append, hchars]
  rw [join, if_neg (by simp [h])]
  by_cases hroot : root = ""
  · rw [if_pos (.inl hroot), hroot, String.empty_append, h]
    decide
  · split
    · exact hhead path hroot
    · rw [String.append_assoc]
      exact hhead ("/" ++ path) hroot

/-! ## 3. The parent -/

theorem filter_withoutIdleEnd (ps : List String) :
    (withoutIdleEnd ps).filter (!isIdle ·) = ps.filter (!isIdle ·) := by
  change (ps.rdropWhile isIdle).filter _ = _
  induction ps using List.reverseRecOn with
  | nil => rfl
  | append_singleton ps p ih =>
    by_cases hp : isIdle p = true
    · rw [List.rdropWhile_concat_pos _ _ _ hp, ih]
      simp [hp]
    · rw [List.rdropWhile_concat_neg _ _ _ hp]

theorem filter_dropLast_withoutIdleEnd (ps : List String) :
    (withoutIdleEnd ps).dropLast.filter (!isIdle ·) = (ps.filter (!isIdle ·)).dropLast := by
  change (ps.rdropWhile isIdle).dropLast.filter _ = _
  induction ps using List.reverseRecOn with
  | nil => rfl
  | append_singleton ps p ih =>
    by_cases hp : isIdle p = true
    · rw [List.rdropWhile_concat_pos _ _ _ hp, ih]
      simp [hp]
    · rw [List.rdropWhile_concat_neg _ _ _ hp, List.dropLast_concat]
      simp [hp]

/-- The pieces of the parent of a path. -/
def parentPieces (path : String) : List String :=
  withoutIdleEnd (withoutIdleEnd (pieces path)).dropLast

theorem parentPieces_isPrefix (path : String) : parentPieces path <+: pieces path := by
  have houter : parentPieces path <+: (withoutIdleEnd (pieces path)).dropLast :=
    List.rdropWhile_prefix ..
  have hinner : withoutIdleEnd (pieces path) <+: pieces path := List.rdropWhile_prefix ..
  exact (houter.trans (List.dropLast_prefix _)).trans hinner

theorem steps_parent (path : String) : steps (parent path) = (steps path).dropLast := by
  have hfilter : (parentPieces path).filter (!isIdle ·) = (steps path).dropLast := by
    rw [parentPieces, filter_withoutIdleEnd, filter_dropLast_withoutIdleEnd]
    rfl
  by_cases hnil : parentPieces path = []
  · have hparent : parent path = "" := by
      rw [parent, ← parentPieces, hnil, String.intercalate_nil]
    rw [hparent, ← hfilter, hnil]
    decide
  · have hslash : ∀ p ∈ parentPieces path, '/' ∉ p.toList := fun p hp =>
      slash_not_mem_of_mem_pieces ((parentPieces_isPrefix path).subset hp)
    rw [← hfilter, steps, parent, ← parentPieces, pieces_intercalate hnil hslash]

theorem parent_isPrefix (path : String) : (parent path).toList <+: path.toList := by
  obtain ⟨rest, hrest⟩ := parentPieces_isPrefix path
  have hpath : "/".intercalate (parentPieces path ++ rest) = path := by
    rw [hrest, intercalate_pieces]
  rw [parent, ← parentPieces]
  by_cases hnil : parentPieces path = []
  · simp [hnil]
  · by_cases hrest' : rest = []
    · rw [hrest', List.append_nil] at hpath
      exact ⟨[], by rw [List.append_nil, hpath]⟩
    · rw [String.intercalate_append_of_ne_nil hnil hrest'] at hpath
      refine ⟨("/" ++ "/".intercalate rest).toList, ?_⟩
      rw [← String.toList_append, ← String.append_assoc, hpath]

theorem isAbsolute_parent {path : String} (h : parent path ≠ "") :
    isAbsolute (parent path) = isAbsolute path := by
  obtain ⟨c, chars, hchars⟩ := List.exists_cons_of_ne_nil
    (fun hnil => h (String.toList_eq_nil_iff.mp hnil) : (parent path).toList ≠ [])
  obtain ⟨rest, hrest⟩ := parent_isPrefix path
  rw [isAbsolute, isAbsolute, ← hrest, hchars]
  rfl

end Path

namespace Disk

theorem start_join {root path : String} (disk : Disk) (h : Path.isAbsolute path = false) :
    disk.start (Path.join root path) = disk.start root := by
  rw [start, start, Path.isAbsolute_join h]

/-- If a path can be taken, its parent can. -/
theorem pathFault?_parent {path : String} (h : pathFault? path = none)
    (hparent : Path.parent path ≠ "") : pathFault? (Path.parent path) = none := by
  obtain ⟨rest, hrest⟩ := Path.parent_isPrefix path
  have hpath : path = Path.parent path ++ String.ofList rest := by
    rw [← String.toList_inj, String.toList_append, String.toList_ofList, hrest]
  rw [pathFault?] at h ⊢
  split at h
  · cases h
  · rename_i hnul
    split at h
    · cases h
    · split at h
      · cases h
      · rename_i hlong
        have hnul' : ¬(Path.parent path).toList.contains (Char.ofNat 0) = true := by
          rw [← hrest, List.contains_iff_mem, List.mem_append, not_or] at hnul
          rw [List.contains_iff_mem]
          exact hnul.1
        have hlong' : isPathTooLong (Path.parent path) = false := by
          rw [hpath, isPathTooLong, String.utf8ByteSize_append] at hlong
          simp only [isPathTooLong, decide_eq_true_eq, decide_eq_false_iff_not] at hlong ⊢
          omega
        rw [if_neg hnul', if_neg hparent, hlong', if_neg Bool.false_ne_true]

/-- To make the directories that a file lies in is to make those of its steps but the last, unless
the path is one that no file system takes. -/
theorem makeDirectories_parent (disk : Disk) (path : String) :
    disk.makeDirectories (Path.parent path) =
        disk.makeSteps (disk.start path) (Path.steps path).dropLast ∨
      pathFault? path ≠ none ∧
        ∃ fault, disk.makeDirectories (Path.parent path) = (.error fault, disk) := by
  by_cases hparent : Path.parent path = ""
  · left
    have hsteps : (Path.steps path).dropLast = [] := by
      rw [← Path.steps_parent, hparent]
      decide
    rw [hsteps, makeDirectories, if_pos hparent, makeSteps]
  · rw [makeDirectories, if_neg hparent]
    cases hfault : pathFault? (Path.parent path) with
    | none =>
      left
      rw [Path.steps_parent, start, Path.isAbsolute_parent hparent, start]
    | some fault =>
      right
      refine ⟨fun hpath => ?_, fault, rfl⟩
      rw [pathFault?_parent hpath hparent] at hfault
      cases hfault

end Disk

end GuidedSynthesis
