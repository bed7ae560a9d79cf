import GuidedSynthesis.Library
import Mathlib.Data.List.Perm.Basic
/-!
What is gathered from a catalog in memory.

A gathering cuts its request into fetches by the sizes that the catalog gives for its libraries. For
a catalog in memory nothing of that is to be seen: what is gathered are the descriptors of the
distinct names (`gather_hinting`). So a name that is asked for again adds nothing, and one gathering
for two requests is two gatherings, merged (`gather_in_memory`).

## How the proof goes

Each distinct name stands in exactly one fetch (`flatten_batches_perm`), and whatever the fetches
are, their answers hold the descriptor of a name exactly when a fetch names it (`find?_fetch`). From
there on it is about lists: the distinct names of two requests are those of the first and the new
ones of the second (`distinctNames_append`), and a name that the catalog knows is new among the
names if and only if its descriptor is new among the descriptors (`merge_lookedUp`).
-/

namespace GuidedSynthesis

/-! ## 1. Names and fetches -/

theorem mem_distinctNames {name : String} {names : List String} :
    name ∈ distinctNames names ↔ name ∈ names := by
  have h : name ∈ (distinctNames names).map id ↔ name ∈ names.map id ∧ name ∉ [] :=
    mem_keys_firstsFrom
  rwa [List.map_id, List.map_id, and_iff_left List.not_mem_nil] at h

theorem nodup_distinctNames (names : List String) : (distinctNames names).Nodup := by
  have h := nodup_firstsFrom id [] names
  rwa [List.map_id] at h

/-- Of a second request the names count that the first one does not have. -/
theorem distinctNames_append (names more : List String) :
    distinctNames (names ++ more) =
      distinctNames names ++ (distinctNames more).filter (· ∉ names) := by
  rw [distinctNames, firstsBy_append, List.map_id]
  rfl

/-- Names that were asked for add nothing, wherever they are repeated. -/
theorem distinctNames_repeat {names again : List String} (h : ∀ name ∈ again, name ∈ names)
    (rest : List String) :
    distinctNames (names ++ again ++ rest) = distinctNames (names ++ rest) := by
  have hagain : (distinctNames again).filter (· ∉ names) = [] := by
    rw [List.filter_eq_nil_iff]
    intro name hname
    rw [decide_eq_true_eq, not_not]
    exact h name (mem_distinctNames.mp hname)
  have hmem (name : String) : name ∈ names ++ again ↔ name ∈ names := by
    rw [List.mem_append]
    exact ⟨Or.rec id (h name), .inl⟩
  rw [distinctNames_append, distinctNames_append names again, hagain, List.append_nil,
    distinctNames_append names rest]
  simp only [hmem]

/-- Every distinct name stands in one fetch. -/
theorem flatten_batches_perm (sizeHint : String → Nat) (threshold : Nat) (names : List String) :
    (batches sizeHint threshold names).flatten.Perm (distinctNames names) := by
  let large (name : String) : Bool := threshold ≤ sizeHint name
  have hflatten : (batches sizeHint threshold names).flatten =
      (distinctNames names).filter large ++ (distinctNames names).filter (!large ·) := by
    rw [batches, List.partition_eq_filter_filter]
    simp only [List.flatten_append, ← List.flatMap_def, List.flatMap_singleton']
    rw [List.append_cancel_left_eq]
    split
    · rename_i hempty
      exact (List.isEmpty_iff.mp hempty).symm
    · exact List.flatten_singleton
  rw [hflatten]
  exact List.filter_append_perm large _

/-! ## 2. Catalogs in memory -/

namespace StaticCatalog

/-- The catalog with any sizes for its libraries. -/
def hinting (c : StaticCatalog) (sizeHint : String → Nat) : Catalog :=
  { c.toCatalog with sizeHint }

/-- The descriptor is the last one of its name. -/
def Holds (c : StaticCatalog) (name : String) (d : LibraryDescriptor) : Prop :=
  ∃ before after, c.descriptors = before ++ d :: after ∧ d.name = name ∧
    ∀ other ∈ after, other.name ≠ name

theorem find?_eq_some_iff {c : StaticCatalog} {name : String} {d : LibraryDescriptor} :
    c.find? name = some d ↔ c.Holds name d := by
  rw [find?, List.find?_eq_some_iff_append, Holds]
  constructor
  · rintro ⟨hname, after, before, hreverse, hafter⟩
    refine ⟨before.reverse, after.reverse, ?_, of_decide_eq_true hname, ?_⟩
    · rw [← List.reverse_reverse c.descriptors, hreverse]
      simp
    · intro other hother
      simpa using hafter other (List.mem_reverse.mp hother)
  · rintro ⟨before, after, hdescriptors, hname, hafter⟩
    refine ⟨decide_eq_true hname, after.reverse, before.reverse, ?_, ?_⟩
    · rw [hdescriptors]
      simp
    · intro other hother
      simpa using hafter other (List.mem_reverse.mp hother)

theorem name_of_find? {c : StaticCatalog} {name : String} {d : LibraryDescriptor}
    (h : c.find? name = some d) : d.name = name := by
  obtain ⟨_, _, -, hname, -⟩ := find?_eq_some_iff.mp h
  exact hname

/-- What a fetch says of a name is what the catalog holds, if the fetch names it. -/
theorem find?_fetch (c : StaticCatalog) (names : List String) (name : String) :
    (c.fetch names).find? (·.name = name) = if name ∈ names then c.find? name else none := by
  induction names with
  | nil => rfl
  | cons first names ih =>
    rw [fetch, List.filterMap_cons]
    cases hfirst : c.find? first with
    | none =>
      by_cases heq : name = first
      · subst heq
        rw [if_pos List.mem_cons_self, hfirst]
        show (c.fetch names).find? _ = none
        rw [ih, hfirst, ite_self]
      · simp only [List.mem_cons, heq, false_or]
        exact ih
    | some d =>
      have hname := name_of_find? hfirst
      by_cases heq : name = first
      · subst heq
        rw [if_pos List.mem_cons_self, hfirst]
        exact List.find?_cons_of_pos (decide_eq_true hname)
      · have hother : ¬ decide (d.name = name) = true := by
          rw [decide_eq_true_eq, hname]
          exact fun h => heq h.symm
        simp only [List.mem_cons, heq, false_or]
        rw [← ih]
        exact List.find?_cons_of_neg hother

end StaticCatalog

/-! ## 3. Gathering -/

namespace LibraryContext

/-- Where each name is looked up, what is found bears the names that are known. -/
theorem names_filterMap {find : String → Option LibraryDescriptor}
    (h : ∀ {name d}, find name = some d → d.name = name) (names : List String) :
    (names.filterMap find).map LibraryDescriptor.name =
      names.filter fun name => (find name).isSome := by
  induction names with
  | nil => rfl
  | cons name names ih =>
    rw [List.filterMap_cons]
    cases hfind : find name with
    | none => rw [List.filter_cons_of_neg (by simp [hfind]), ← ih]
    | some d =>
      rw [List.filter_cons_of_pos (by simp [hfind]), List.map_cons, ih, h hfind]

/-- The descriptors of the distinct names, in the order of the request. -/
def lookedUp (c : StaticCatalog) (names : List String) : LibraryContext :=
  ⟨(distinctNames names).filterMap c.find?⟩

theorem names_lookedUp (c : StaticCatalog) (names : List String) :
    (lookedUp c names).names = (distinctNames names).filter fun name => (c.find? name).isSome :=
  names_filterMap StaticCatalog.name_of_find? (distinctNames names)

theorem nodup_names_lookedUp (c : StaticCatalog) (names : List String) :
    (lookedUp c names).names.Nodup := by
  rw [names_lookedUp]
  exact (nodup_distinctNames names).filter _

/-- How the request is cut into fetches is not to be seen. -/
theorem gather_hinting (c : StaticCatalog) (sizeHint : String → Nat) (names : List String)
    (threshold : Nat) : gather (c.hinting sizeHint) names threshold = .ok (lookedUp c names) := by
  have hanswers : (batches sizeHint threshold names).mapM (c.hinting sizeHint).fetch =
      .ok ((batches sizeHint threshold names).map c.fetch) :=
    List.mapM_pure (m := Result) (f := c.fetch)
  have hfetched : ((batches sizeHint threshold names).map c.fetch).flatten =
      c.fetch (batches sizeHint threshold names).flatten := List.filterMap_flatten.symm
  have hgathered : gather (c.hinting sizeHint) names threshold =
      .ok (ofAnswers names ((batches sizeHint threshold names).map c.fetch)) := by
    show ((batches sizeHint threshold names).mapM (c.hinting sizeHint).fetch).map _ = _
    rw [hanswers]
    rfl
  rw [hgathered, ofAnswers, hfetched, lookedUp, Except.ok.injEq, mk.injEq]
  refine List.filterMap_congr fun name hname => ?_
  have hnamed := (flatten_batches_perm sizeHint threshold names).mem_iff.mpr hname
  rw [StaticCatalog.find?_fetch, if_pos hnamed]

/-- The descriptors of two requests are those of the first and those of the second, merged. -/
theorem merge_lookedUp (c : StaticCatalog) (names more : List String) :
    (lookedUp c names).merge (lookedUp c more) = lookedUp c (names ++ more) := by
  have hnew :
      firstsFrom LibraryDescriptor.name (lookedUp c names).names (lookedUp c more).libraries =
        ((distinctNames more).filter (· ∉ names)).filterMap c.find? := by
    rw [firstsFrom_eq_filter, firstsBy_of_nodup (nodup_names_lookedUp c more)]
    show ((distinctNames more).filterMap c.find?).filter _ = _
    rw [List.filter_filterMap, List.filterMap_filter]
    refine List.filterMap_congr fun name _ => ?_
    cases hfind : c.find? name with
    | none => simp
    | some d =>
      have hknown : d.name ∈ (lookedUp c names).names ↔ name ∈ names := by
        rw [names_lookedUp, StaticCatalog.name_of_find? hfind, List.mem_filter, hfind,
          mem_distinctNames]
        exact and_iff_left rfl
      rw [Option.filter_some]
      simp only [hknown]
  rw [merge, hnew, lookedUp, lookedUp, distinctNames_append, List.filterMap_append]

/-- What is gathered from a catalog in memory, whatever sizes it gives for its libraries and
whatever the thresholds are: the last descriptor of each distinct name in the order of the request.
Names that are asked for again add nothing, and what is gathered for two requests at once is what is
gathered for the one and for the other, merged. -/
theorem gather_in_memory (c : StaticCatalog) (names : List String) :
    (∀ name d, c.find? name = some d ↔ c.Holds name d) ∧
    (∀ sizeHint threshold, gather (c.hinting sizeHint) names threshold =
      .ok ⟨(distinctNames names).filterMap c.find?⟩) ∧
    (∀ again rest sizeHint threshold, (∀ name ∈ again, name ∈ names) →
      gather (c.hinting sizeHint) (names ++ again ++ rest) threshold =
        gather (c.hinting sizeHint) (names ++ rest) threshold) ∧
    ∀ more sizeHint sizeHint₁ sizeHint₂ threshold threshold₁ threshold₂, ∃ first second,
      gather (c.hinting sizeHint₁) names threshold₁ = .ok first ∧
      gather (c.hinting sizeHint₂) more threshold₂ = .ok second ∧
      gather (c.hinting sizeHint) (names ++ more) threshold = .ok (first.merge second) := by
  refine ⟨fun _ _ => StaticCatalog.find?_eq_some_iff, ?_, ?_, ?_⟩
  · intro sizeHint threshold
    exact gather_hinting c sizeHint names threshold
  · intro again rest sizeHint threshold hagain
    rw [gather_hinting, gather_hinting, lookedUp, lookedUp, distinctNames_repeat hagain]
  · intro more sizeHint sizeHint₁ sizeHint₂ threshold threshold₁ threshold₂
    refine ⟨lookedUp c names, lookedUp c more, gather_hinting .., gather_hinting .., ?_⟩
    rw [gather_hinting, merge_lookedUp]

/-- Two libraries, of which one is described twice. -/
def shelf : StaticCatalog :=
  ⟨[⟨"int", "old", []⟩, ⟨"array", "", [.string "push"]⟩, ⟨"int", "new", []⟩]⟩

/-- Known and unknown names are asked for again. -/
theorem gather_in_memory_of_shelf :
    (∀ name ∈ ["int", "xml"], name ∈ ["array", "xml", "int"]) ∧
    gather (shelf.hinting fun _ => 7) (["array", "xml", "int"] ++ ["int", "xml"] ++ []) 3 =
      .ok ⟨[⟨"array", "", [.string "push"]⟩, ⟨"int", "new", []⟩]⟩ := by
  obtain ⟨-, hlooked, hrepeat, -⟩ := gather_in_memory shelf ["array", "xml", "int"]
  have hagain : ∀ name ∈ ["int", "xml"], name ∈ ["array", "xml", "int"] := by decide
  refine ⟨hagain, (hrepeat ["int", "xml"] [] (fun _ => 7) 3 hagain).trans ?_⟩
  rw [List.append_nil, hlooked]
  rfl

end LibraryContext

end GuidedSynthesis
