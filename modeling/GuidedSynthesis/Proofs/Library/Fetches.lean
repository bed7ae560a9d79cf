import GuidedSynthesis.Proofs.Failure.Attempts
import GuidedSynthesis.Proofs.Library.Gathering
import Mathlib.Data.List.Nodup
/-!
Which fetches a gathering makes.

Each requested name stands in one fetch and stands there once, however often it was asked for. A
large library is fetched on its own; the others are fetched together and last, in the order in which
they were asked for (`started_law`). If none of these fetches fails something is gathered, and it
rests on them and on no other.

## How the proof goes

The fetches are those of the large names, one each, and then the small names if there are any
(`batches_eq`). That every name stands in them once was shown before (`flatten_batches_perm`); the
order of the distinct names is that of their first occurrences (`pairwise_distinctNames`). As long
as no fetch fails, all of them are started (`started_of_ok`).
-/

namespace GuidedSynthesis

/-! ## 1. The order of a request -/

theorem distinctNames_cons (name : String) (names : List String) :
    distinctNames (name :: names) = name :: (distinctNames names).filter (· ∉ [name]) :=
  distinctNames_append [name] names

/-- The distinct names stand in the order of their first occurrences. -/
theorem pairwise_distinctNames (names : List String) :
    (distinctNames names).Pairwise fun a b => names.idxOf a < names.idxOf b := by
  induction names with
  | nil => exact .nil
  | cons name names ih =>
    have hother : ∀ b ∈ (distinctNames names).filter (· ∉ [name]), name ≠ b := by
      intro b hb heq
      exact of_decide_eq_true (List.mem_filter.mp hb).2 (List.mem_singleton.mpr heq.symm)
    rw [distinctNames_cons, List.pairwise_cons]
    constructor
    · intro b hb
      rw [List.idxOf_cons_self, List.idxOf_cons_ne names (hother b hb)]
      exact Nat.succ_pos _
    · refine (ih.filter _).imp_of_mem fun {a b} ha hb hlt => ?_
      rw [List.idxOf_cons_ne names (hother a ha), List.idxOf_cons_ne names (hother b hb)]
      exact Nat.succ_lt_succ hlt

/-! ## 2. The fetches of a request -/

/-- The requested names of libraries that are fetched on their own. -/
def largeNames (sizeHint : String → Nat) (threshold : Nat) (names : List String) : List String :=
  (distinctNames names).filter fun name => threshold ≤ sizeHint name

/-- The requested names of libraries that are fetched together. -/
def smallNames (sizeHint : String → Nat) (threshold : Nat) (names : List String) : List String :=
  (distinctNames names).filter fun name => sizeHint name < threshold

variable {sizeHint : String → Nat} {threshold : Nat} {names : List String} {name : String}

theorem mem_largeNames :
    name ∈ largeNames sizeHint threshold names ↔ name ∈ names ∧ threshold ≤ sizeHint name := by
  rw [largeNames, List.mem_filter, mem_distinctNames, decide_eq_true_eq]

theorem mem_smallNames :
    name ∈ smallNames sizeHint threshold names ↔ name ∈ names ∧ sizeHint name < threshold := by
  rw [smallNames, List.mem_filter, mem_distinctNames, decide_eq_true_eq]

theorem batches_eq (sizeHint : String → Nat) (threshold : Nat) (names : List String) :
    batches sizeHint threshold names =
      (largeNames sizeHint threshold names).map ([·]) ++
        if smallNames sizeHint threshold names = [] then []
        else [smallNames sizeHint threshold names] := by
  have hsmall : (distinctNames names).filter (fun name => !decide (threshold ≤ sizeHint name)) =
      smallNames sizeHint threshold names := by
    refine List.filter_congr fun name _ => ?_
    rw [← decide_not, decide_eq_decide, Nat.not_le]
  simp only [batches, List.partition_eq_filter_filter, Function.comp_def, hsmall,
    List.isEmpty_iff]
  rfl

/-- The fetches of a request in the order in which they are started. -/
structure FetchLaw (sizeHint : String → Nat) (threshold : Nat) (names : List String)
    (fetches : List (List String)) : Prop where
  /-- Every requested name is fetched once, and no other name is. -/
  once : ∀ name, fetches.flatten.count name = if name ∈ names then 1 else 0
  /-- A large library is fetched on its own. -/
  alone : ∀ fetch ∈ fetches, ∀ name ∈ fetch, threshold ≤ sizeHint name → fetch = [name]
  /-- All others are fetched by one fetch, which is the last. -/
  together : ∀ fetch ∈ fetches, ∀ name ∈ fetch, sizeHint name < threshold →
    fetches.getLast? = some fetch ∧ ∀ other ∈ names, sizeHint other < threshold → other ∈ fetch
  /-- Names that are fetched together stand in the order of the request. -/
  order : ∀ fetch ∈ fetches, fetch.Pairwise fun a b => names.idxOf a < names.idxOf b
  nonempty : ∀ fetch ∈ fetches, fetch ≠ []
  /-- For no name nothing is fetched. -/
  nothing : names = [] → fetches = []

theorem count_flatten_batches (sizeHint : String → Nat) (threshold : Nat) (names : List String)
    (name : String) :
    (batches sizeHint threshold names).flatten.count name = if name ∈ names then 1 else 0 := by
  rw [(flatten_batches_perm sizeHint threshold names).count_eq]
  by_cases h : name ∈ names
  · rw [if_pos h]
    exact List.count_eq_one_of_mem (nodup_distinctNames names) (mem_distinctNames.mpr h)
  · rw [if_neg h]
    exact List.count_eq_zero_of_not_mem fun hm => h (mem_distinctNames.mp hm)

theorem mem_batches {fetch : List String} :
    fetch ∈ batches sizeHint threshold names ↔
      (∃ name ∈ names, threshold ≤ sizeHint name ∧ fetch = [name]) ∨
      fetch = smallNames sizeHint threshold names ∧ fetch ≠ [] := by
  rw [batches_eq, List.mem_append, List.mem_map]
  refine or_congr ?_ ?_
  · simp only [mem_largeNames, and_assoc, eq_comm]
  · split
    · rename_i hnone
      simp only [List.not_mem_nil, false_iff, not_and, not_not, hnone]
      exact id
    · rename_i hsome
      rw [List.mem_singleton]
      exact (and_iff_left_of_imp fun h => h ▸ hsome).symm

theorem fetchLaw_batches (sizeHint : String → Nat) (threshold : Nat) (names : List String) :
    FetchLaw sizeHint threshold names (batches sizeHint threshold names) := by
  refine ⟨count_flatten_batches sizeHint threshold names, ?_, ?_, ?_, ?_, ?_⟩
  · intro fetch hfetch name hname hlarge
    rcases mem_batches.mp hfetch with ⟨other, -, -, rfl⟩ | ⟨rfl, -⟩
    · rw [List.mem_singleton.mp hname]
    · exact absurd (mem_smallNames.mp hname).2 (Nat.not_lt.mpr hlarge)
  · intro fetch hfetch name hname hsmall
    rcases mem_batches.mp hfetch with ⟨other, -, hlarge, rfl⟩ | ⟨rfl, hsome⟩
    · rw [List.mem_singleton.mp hname] at hsmall
      exact absurd hsmall (Nat.not_lt.mpr hlarge)
    · refine ⟨?_, fun other hother hlt => mem_smallNames.mpr ⟨hother, hlt⟩⟩
      rw [batches_eq, if_neg hsome, List.getLast?_append]
      rfl
  · intro fetch hfetch
    rcases mem_batches.mp hfetch with ⟨other, -, -, rfl⟩ | ⟨rfl, -⟩
    · exact List.pairwise_singleton _ _
    · exact (pairwise_distinctNames names).filter _
  · intro fetch hfetch
    rcases mem_batches.mp hfetch with ⟨other, -, -, rfl⟩ | ⟨-, hsome⟩
    · exact List.cons_ne_nil _ _
    · exact hsome
  · rintro rfl
    rfl

/-! ## 3. The fetches that are started -/

namespace LibraryContext

variable {catalog : Catalog} {fetch : List String → Result (List LibraryDescriptor)}

/-- As long as no fetch fails, all are started. -/
theorem started_of_ok {fetches : List (List String)}
    (h : ∀ batch ∈ fetches, ∃ answer, fetch batch = .ok answer) : started fetch fetches = fetches := by
  induction fetches with
  | nil => rfl
  | cons batch fetches ih =>
    obtain ⟨⟨answer, hanswer⟩, hrest⟩ := List.forall_mem_cons.mp h
    simp only [started, hanswer, ih hrest]

/-- Fetches that are not started do not count. -/
theorem mapM_congr_started {other : List String → Result (List LibraryDescriptor)}
    {fetches : List (List String)} (h : ∀ batch ∈ started fetch fetches, other batch = fetch batch) :
    fetches.mapM other = fetches.mapM fetch := by
  induction fetches with
  | nil => rfl
  | cons batch fetches ih =>
    rw [mapM_cons_eq, mapM_cons_eq]
    cases hbatch : fetch batch with
    | error failure =>
      simp only [started, hbatch, List.mem_singleton, forall_eq] at h
      rw [h]
    | ok answer =>
      simp only [started, hbatch, List.forall_mem_cons] at h
      rw [h.1, ih h.2]

theorem exists_gather_eq_ok_iff :
    (∃ context, gather catalog names threshold = .ok context) ↔
      ∀ batch ∈ batches catalog.sizeHint threshold names,
        ∃ answer, catalog.fetch batch = .ok answer := by
  rw [← exists_mapM_eq_ok_iff, gather]
  cases (batches catalog.sizeHint threshold names).mapM catalog.fetch <;> simp [Except.map]

/-- The fetches of a gathering in which none fails. Then something is gathered, and that rests on
these fetches alone, and on each of them: if one of them failed, nothing would be gathered. -/
theorem started_law (catalog : Catalog) (names : List String) (threshold : Nat)
    (h : ∀ batch ∈ batches catalog.sizeHint threshold names,
      ∃ answer, catalog.fetch batch = .ok answer) :
    FetchLaw catalog.sizeHint threshold names
      (started catalog.fetch (batches catalog.sizeHint threshold names)) ∧
    (∃ context, gather catalog names threshold = .ok context) ∧
    (∀ fetch : List String → Result (List LibraryDescriptor),
      (∀ batch ∈ started catalog.fetch (batches catalog.sizeHint threshold names),
        fetch batch = catalog.fetch batch) →
      gather ⟨catalog.sizeHint, fetch⟩ names threshold = gather catalog names threshold) ∧
    ∀ batch ∈ started catalog.fetch (batches catalog.sizeHint threshold names),
      ∀ (fetch : List String → Result (List LibraryDescriptor)) (failure : Failure),
        fetch batch = .error failure →
        ¬ ∃ context, gather ⟨catalog.sizeHint, fetch⟩ names threshold = .ok context := by
  refine ⟨?_, exists_gather_eq_ok_iff.mpr h, ?_, ?_⟩
  · rw [started_of_ok h]
    exact fetchLaw_batches catalog.sizeHint threshold names
  · intro fetch hagree
    simp only [gather, mapM_congr_started hagree]
  · intro batch hbatch fetch failure hfails hgathered
    rw [started_of_ok h] at hbatch
    obtain ⟨answer, hanswer⟩ := exists_gather_eq_ok_iff.mp hgathered batch hbatch
    exact nomatch hfails.symm.trans hanswer

/-- A library at the threshold is fetched on its own; one that is unknown counts as small. -/
theorem started_law_of_shelf :
    (∀ batch ∈ batches shelf.toCatalog.sizeHint 1 ["array", "xml", "int", "array"],
      ∃ answer, shelf.toCatalog.fetch batch = .ok answer) ∧
    FetchLaw shelf.toCatalog.sizeHint 1 ["array", "xml", "int", "array"]
      [["array"], ["xml", "int"]] ∧
    ∃ context, gather shelf.toCatalog ["array", "xml", "int", "array"] 1 = .ok context := by
  have hok : ∀ batch ∈ batches shelf.toCatalog.sizeHint 1 ["array", "xml", "int", "array"],
      ∃ answer, shelf.toCatalog.fetch batch = .ok answer :=
    fun batch _ => ⟨shelf.fetch batch, rfl⟩
  obtain ⟨hfetches, hgathered, -⟩ :=
    started_law shelf.toCatalog ["array", "xml", "int", "array"] 1 hok
  exact ⟨hok, hfetches, hgathered⟩

end LibraryContext

end GuidedSynthesis
