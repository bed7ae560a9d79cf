import GuidedSynthesis.Proofs.Library.Fetches
/-!
What is gathered from the answers of a catalog.

An answer may leave out libraries that were asked for, repeat them or hold others. Whatever the
answers are, a gathering holds each requested library that is in one of them, once and as the first
answer has it, in the order of the request (`gather_exact`). It fails if a fetch fails, with the
failure of that fetch.

## How the proof goes

A gathering that succeeds has an answer for each large library and, if there are small ones, one
more for all of them (`mapM_batches_eq_ok_iff`). In their concatenation every requested name is
looked up; that gives what the statement asks for (`gathered_ofAnswers`), and nothing else does
(`Gathered.unique`): two contexts that hold the same libraries in one order are the same.
-/

namespace GuidedSynthesis

namespace LibraryContext

variable {catalog : Catalog} {names : List String} {threshold : Nat}

/-! ## 1. The answers to a request -/

/-- The answers for the large libraries of a request, in its order, and that for the small ones. -/
structure Answered (catalog : Catalog) (names : List String) (threshold : Nat)
    (large : List (List LibraryDescriptor)) (small : List LibraryDescriptor) : Prop where
  alone : List.Forall₂ (fun name answer => catalog.fetch [name] = .ok answer)
    (largeNames catalog.sizeHint threshold names) large
  /-- Without small libraries nothing is fetched for them. -/
  together : if smallNames catalog.sizeHint threshold names = [] then small = []
    else catalog.fetch (smallNames catalog.sizeHint threshold names) = .ok small

theorem forall₂_concat_left_iff {α β : Type} {R : α → β → Prop} {xs : List α} {x : α}
    {zs : List β} :
    List.Forall₂ R (xs ++ [x]) zs ↔ ∃ ys y, List.Forall₂ R xs ys ∧ R x y ∧ zs = ys ++ [y] := by
  constructor
  · intro h
    have hreverse := List.forall₂_reverse_iff.mpr h
    rw [List.reverse_concat, List.forall₂_cons_left_iff] at hreverse
    obtain ⟨y, ys, hy, hys, heq⟩ := hreverse
    refine ⟨ys.reverse, y, ?_, hy, ?_⟩
    · rw [← List.forall₂_reverse_iff, List.reverse_reverse]
      exact hys
    · rw [← List.reverse_reverse zs, heq, List.reverse_cons]
  · rintro ⟨ys, y, hys, hy, rfl⟩
    exact List.rel_append hys (.cons hy .nil)

/-- The answers to the fetches of a request, one after the other. -/
theorem mapM_batches_eq_ok_iff {answered : List LibraryDescriptor} :
    (∃ answers, (batches catalog.sizeHint threshold names).mapM catalog.fetch = .ok answers ∧
      answers.flatten = answered) ↔
    ∃ large small, Answered catalog names threshold large small ∧
      large.flatten ++ small = answered := by
  simp only [mapM_eq_ok_iff, batches_eq]
  by_cases hnone : smallNames catalog.sizeHint threshold names = []
  · rw [if_pos hnone, List.append_nil]
    simp only [List.forall₂_map_left_iff]
    constructor
    · rintro ⟨large, hlarge, hanswered⟩
      refine ⟨large, [], ⟨hlarge, ?_⟩, by rw [List.append_nil, hanswered]⟩
      rw [if_pos hnone]
    · rintro ⟨large, small, ⟨hlarge, hsmall⟩, hanswered⟩
      rw [if_pos hnone] at hsmall
      exact ⟨large, hlarge, by rw [← hanswered, hsmall, List.append_nil]⟩
  · rw [if_neg hnone]
    simp only [forall₂_concat_left_iff, List.forall₂_map_left_iff]
    constructor
    · rintro ⟨_, ⟨large, small, hlarge, hsmall, rfl⟩, hanswered⟩
      refine ⟨large, small, ⟨hlarge, ?_⟩, by rw [← hanswered, List.flatten_concat]⟩
      rw [if_neg hnone]
      exact hsmall
    · rintro ⟨large, small, ⟨hlarge, hsmall⟩, hanswered⟩
      rw [if_neg hnone] at hsmall
      exact ⟨_, ⟨large, small, hlarge, hsmall, rfl⟩, by rw [← hanswered, List.flatten_concat]⟩

/-! ## 2. What is held of the answers -/

/-- The context of a request for which the catalog has answered, whatever it has answered. -/
structure Gathered (names : List String) (answered : List LibraryDescriptor)
    (context : LibraryContext) : Prop where
  /-- Held are the requested libraries that are in an answer. -/
  held : ∀ name, name ∈ context.names ↔ name ∈ names ∧ ∃ d ∈ answered, d.name = name
  /-- Of each the first descriptor counts. -/
  first : ∀ d ∈ context.libraries, ∃ before after, answered = before ++ d :: after ∧
    ∀ other ∈ before, other.name ≠ d.name
  /-- They stand in the order of the request. -/
  order : context.names.Pairwise fun a b => names.idxOf a < names.idxOf b
  once : context.names.Nodup

theorem gathered_ofAnswers (names : List String) (answers : List (List LibraryDescriptor)) :
    Gathered names answers.flatten (ofAnswers names answers) := by
  have hname {name : String} {d : LibraryDescriptor}
      (h : answers.flatten.find? (·.name = name) = some d) : d.name = name := by
    simpa using List.find?_some h
  have hnames : (ofAnswers names answers).names = (distinctNames names).filter fun name =>
      (answers.flatten.find? (·.name = name)).isSome := names_filterMap hname _
  refine ⟨?_, ?_, ?_, ?_⟩
  · intro name
    rw [hnames, List.mem_filter, mem_distinctNames, List.find?_isSome]
    simp only [decide_eq_true_eq]
  · intro d hd
    obtain ⟨name, -, hfind⟩ := List.mem_filterMap.mp hd
    rw [← hname hfind] at hfind
    exact find?_key_eq_some_iff.mp hfind
  · rw [hnames]
    exact (pairwise_distinctNames names).filter _
  · rw [hnames]
    exact (nodup_distinctNames names).filter _

theorem Gathered.mem {answered : List LibraryDescriptor} {a b : LibraryContext}
    (ha : Gathered names answered a) (hb : Gathered names answered b) {d : LibraryDescriptor}
    (hd : d ∈ a.libraries) : d ∈ b.libraries := by
  have hheld := (hb.held d.name).mpr ((ha.held d.name).mp (List.mem_map_of_mem hd))
  obtain ⟨other, hother, hname⟩ := List.mem_map.mp hheld
  have hfirst := find?_key_eq_some_iff.mpr (ha.first d hd)
  have hsecond := find?_key_eq_some_iff.mpr (hb.first other hother)
  rw [hname, hfirst] at hsecond
  exact Option.some.inj hsecond ▸ hother

/-- The answers determine what is gathered. -/
theorem Gathered.unique {answered : List LibraryDescriptor} {a b : LibraryContext}
    (ha : Gathered names answered a) (hb : Gathered names answered b) : a = b := by
  have hperm : a.libraries.Perm b.libraries :=
    (List.perm_ext_iff_of_nodup (.of_map _ ha.once) (.of_map _ hb.once)).mpr
      fun _ => ⟨ha.mem hb, hb.mem ha⟩
  have horder {c : LibraryContext} (hc : Gathered names answered c) :
      c.libraries.Pairwise fun d e => names.idxOf d.name < names.idxOf e.name := by
    have h := hc.order
    rwa [LibraryContext.names, List.pairwise_map] at h
  have heq : a.libraries = b.libraries :=
    hperm.eq_of_pairwise (fun _ _ _ _ hlt hgt => absurd hgt (Nat.lt_asymm hlt))
      (horder ha) (horder hb)
  exact congrArg LibraryContext.mk heq

/-! ## 3. Gathering -/

theorem gather_eq_ok_iff {context : LibraryContext} :
    gather catalog names threshold = .ok context ↔ ∃ large small,
      Answered catalog names threshold large small ∧
        Gathered names (large.flatten ++ small) context := by
  have hgather : gather catalog names threshold = .ok context ↔
      ∃ answers, (batches catalog.sizeHint threshold names).mapM catalog.fetch = .ok answers ∧
        Gathered names answers.flatten context := by
    rw [gather]
    cases (batches catalog.sizeHint threshold names).mapM catalog.fetch with
    | error failure => simp [Except.map]
    | ok answers =>
      simp only [Except.map, Except.ok.injEq, exists_eq_left']
      constructor
      · rintro rfl
        exact gathered_ofAnswers names answers
      · exact (gathered_ofAnswers names answers).unique
  rw [hgather]
  constructor
  · rintro ⟨answers, hanswers, hgathered⟩
    obtain ⟨large, small, hanswered, heq⟩ := mapM_batches_eq_ok_iff.mp ⟨answers, hanswers, rfl⟩
    exact ⟨large, small, hanswered, heq ▸ hgathered⟩
  · rintro ⟨large, small, hanswered, hgathered⟩
    obtain ⟨answers, hanswers, heq⟩ := mapM_batches_eq_ok_iff.mpr ⟨large, small, hanswered, rfl⟩
    exact ⟨answers, hanswers, heq ▸ hgathered⟩

theorem gather_eq_error_iff {failure : Failure} :
    gather catalog names threshold = .error failure ↔ ∃ before batch after,
      batches catalog.sizeHint threshold names = before ++ batch :: after ∧
        (∀ other ∈ before, ∃ answer, catalog.fetch other = .ok answer) ∧
        catalog.fetch batch = .error failure := by
  rw [← mapM_eq_error_iff, gather]
  cases (batches catalog.sizeHint threshold names).mapM catalog.fetch <;> simp [Except.map]

/-- What is gathered from any catalog. A context is gathered exactly when every fetch succeeds, and
it is the one that the answers determine: those for the large libraries in the order of the request,
and after them that for the small ones. Otherwise the failure is that of the first fetch that
fails. -/
theorem gather_exact (catalog : Catalog) (names : List String) (threshold : Nat) :
    ((∃ context, gather catalog names threshold = .ok context) ↔
      ∀ batch ∈ batches catalog.sizeHint threshold names,
        ∃ answer, catalog.fetch batch = .ok answer) ∧
    (∀ context, gather catalog names threshold = .ok context ↔ ∃ large small,
      Answered catalog names threshold large small ∧
        Gathered names (large.flatten ++ small) context) ∧
    ∀ failure, gather catalog names threshold = .error failure ↔ ∃ before batch after,
      batches catalog.sizeHint threshold names = before ++ batch :: after ∧
        (∀ other ∈ before, ∃ answer, catalog.fetch other = .ok answer) ∧
        catalog.fetch batch = .error failure := by
  refine ⟨exists_gather_eq_ok_iff, ?_, ?_⟩
  · intro context
    exact gather_eq_ok_iff
  · intro failure
    exact gather_eq_error_iff

/-- Whatever it is asked for, each answer describes three libraries, and one of them twice. -/
def untidy : Catalog where
  sizeHint name := if name = "int" then 0 else 9
  fetch batch := .ok
    [⟨"int", "from " ++ ", ".intercalate batch, []⟩, ⟨"xml", "", []⟩, ⟨"float", "", []⟩,
      ⟨"xml", "again", []⟩]

/-- The large library is fetched first, so the small one is described by its answer. -/
example : gather untidy ["int", "array", "int", "xml"] 5 =
    .ok ⟨[⟨"int", "from array", []⟩, ⟨"xml", "", []⟩]⟩ := rfl

end LibraryContext

end GuidedSynthesis
