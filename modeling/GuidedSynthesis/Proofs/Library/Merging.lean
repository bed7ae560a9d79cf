import GuidedSynthesis.Proofs.Library.Answers
/-!
Contexts that are gathered and merged.

Whatever is gathered, from whatever catalogs, and however it is merged, no two libraries of a context
have one name; and every context of which this is true can be gathered (`reachable_iff`). For such
contexts merging is associative, the empty context leaves the others as they are on either side, and
a context that is merged with itself does not change (`reachable_monoid`). A merge does not touch its
first context: of a name that both have, the description is that of the first.

## How the proof goes

What a merge adds is what the second context has under new names, so the names stay apart
(`nodup_names_merge`), and a name is looked up in the first context and then in the second
(`find?_merge`). Two merges leave out what either of them leaves out, in whatever order they are made
(`firstsFrom_firstsFrom`).
-/

namespace GuidedSynthesis

namespace LibraryContext

/-- The contexts that come from the empty one by gathering and merging. -/
inductive Reachable : LibraryContext → Prop
  | empty : Reachable empty
  | gather {catalog : Catalog} {names : List String} {threshold : Nat} {context : LibraryContext}
      (gathered : gather catalog names threshold = .ok context) : Reachable context
  | merge {a b : LibraryContext} (first : Reachable a) (second : Reachable b) :
      Reachable (a.merge b)

/-- The description of a library. -/
def find? (c : LibraryContext) (name : String) : Option LibraryDescriptor :=
  c.libraries.find? (·.name = name)

/-! ## 1. Names -/

theorem names_merge (a b : LibraryContext) : (a.merge b).names =
    a.names ++ (firstsFrom LibraryDescriptor.name a.names b.libraries).map LibraryDescriptor.name :=
  List.map_append

/-- The names of a merge are those of both contexts. -/
theorem mem_names_merge {a b : LibraryContext} {name : String} :
    name ∈ (a.merge b).names ↔ name ∈ a.names ∨ name ∈ b.names := by
  rw [names_merge, List.mem_append, mem_keys_firstsFrom]
  constructor
  · rintro (ha | ⟨hb, -⟩)
    · exact .inl ha
    · exact .inr hb
  · intro h
    by_cases ha : name ∈ a.names
    · exact .inl ha
    · exact .inr ⟨h.resolve_left ha, ha⟩

theorem nodup_names_merge {a : LibraryContext} (h : a.names.Nodup) (b : LibraryContext) :
    (a.merge b).names.Nodup := by
  rw [names_merge]
  refine h.append (nodup_firstsFrom _ _ _) fun name ha hb => ?_
  exact (mem_keys_firstsFrom.mp hb).2 ha

theorem nodup_names_gather {catalog : Catalog} {names : List String} {threshold : Nat}
    {context : LibraryContext} (h : gather catalog names threshold = .ok context) :
    context.names.Nodup := by
  obtain ⟨_, _, -, hgathered⟩ := gather_eq_ok_iff.mp h
  exact hgathered.once

theorem Reachable.nodup {c : LibraryContext} (h : Reachable c) : c.names.Nodup := by
  induction h with
  | empty => exact List.nodup_nil
  | gather gathered => exact nodup_names_gather gathered
  | merge _ _ first _ => exact nodup_names_merge first _

/-! ## 2. Contexts that can be gathered -/

/-- A catalog of which no name repeats has each description under its name. -/
theorem find?_of_nodup {descriptors : List LibraryDescriptor}
    (h : (descriptors.map LibraryDescriptor.name).Nodup) {d : LibraryDescriptor}
    (hd : d ∈ descriptors) : (StaticCatalog.mk descriptors).find? d.name = some d := by
  obtain ⟨before, after, rfl⟩ := List.append_of_mem hd
  rw [List.map_append, List.map_cons, List.nodup_append, List.nodup_cons] at h
  obtain ⟨-, ⟨hnew, -⟩, -⟩ := h
  refine StaticCatalog.find?_eq_some_iff.mpr ⟨before, after, rfl, rfl, fun other hother hname => ?_⟩
  exact hnew (hname ▸ List.mem_map_of_mem hother)

/-- A context of which no name repeats is gathered from the catalog of its own libraries. -/
theorem gather_of_nodup {c : LibraryContext} (h : c.names.Nodup) (sizeHint : String → Nat)
    (threshold : Nat) :
    gather ((StaticCatalog.mk c.libraries).hinting sizeHint) c.names threshold = .ok c := by
  have hnames : distinctNames c.names = c.names := firstsBy_of_nodup (by rwa [List.map_id])
  have hfound : c.names.filterMap (StaticCatalog.mk c.libraries).find? = c.libraries := by
    rw [names, List.filterMap_map]
    refine (List.filterMap_congr fun d hd => ?_).trans List.filterMap_some
    exact find?_of_nodup h hd
  rw [gather_hinting, lookedUp, hnames, hfound]

/-- The reachable contexts are those of which no name repeats. -/
theorem reachable_iff {c : LibraryContext} : Reachable c ↔ c.names.Nodup :=
  ⟨Reachable.nodup, fun h => .gather (gather_of_nodup h (fun _ => 0) 0)⟩

/-! ## 3. Merging -/

theorem merge_of_nodup (a : LibraryContext) {b : LibraryContext} (h : b.names.Nodup) :
    (a.merge b).libraries = a.libraries ++ b.libraries.filter (·.name ∉ a.names) := by
  rw [merge, firstsFrom_eq_filter, firstsBy_of_nodup h]

theorem merge_assoc (a b c : LibraryContext) : (a.merge b).merge c = a.merge (b.merge c) := by
  have hnames (name : String) :
      name ∈ (a.merge b).names ↔ name ∈ b.names ++ (a.names ++ b.names) := by
    rw [mem_names_merge, List.mem_append, List.mem_append]
    exact ⟨.inr, Or.rec .inr id⟩
  calc (a.merge b).merge c
      = ⟨(a.merge b).libraries ++
          firstsFrom LibraryDescriptor.name (b.names ++ (a.names ++ b.names)) c.libraries⟩ := by
        rw [← firstsFrom_congr hnames]
        rfl
    _ = a.merge (b.merge c) := by
        simp only [merge, List.append_assoc, firstsFrom_append, firstsFrom_firstsFrom, names]

theorem merge_empty (a : LibraryContext) : a.merge empty = a :=
  congrArg mk (List.append_nil a.libraries)

/-- A context can be merged into the empty one without loss if and only if no name repeats. -/
theorem empty_merge_eq_iff {a : LibraryContext} : empty.merge a = a ↔ a.names.Nodup := by
  constructor
  · intro h
    have hnone : empty.names.Nodup := List.nodup_nil
    rw [← h]
    exact nodup_names_merge hnone a
  · intro h
    exact congrArg mk (firstsBy_of_nodup h)

theorem merge_self (a : LibraryContext) : a.merge a = a := by
  have hnone : firstsFrom LibraryDescriptor.name a.names a.libraries = [] := by
    rw [List.eq_nil_iff_forall_not_mem]
    intro d hd
    have hd' := (firstsFrom_sublist LibraryDescriptor.name a.names a.libraries).subset hd
    exact not_mem_of_mem_firstsFrom hd (List.mem_map_of_mem hd')
  rw [merge, hnone, List.append_nil]

/-- A name is looked up in the first context and, if it is not there, in the second. -/
theorem find?_merge (a b : LibraryContext) (name : String) :
    (a.merge b).find? name = (a.find? name).or (b.find? name) := by
  simp only [find?, merge, List.find?_append, find?_firstsFrom]
  by_cases hname : name ∈ a.names
  · have hfound : (a.libraries.find? (·.name = name)).isSome := by
      rw [List.find?_isSome]
      obtain ⟨d, hd, hdname⟩ := List.mem_map.mp hname
      exact ⟨d, hd, decide_eq_true hdname⟩
    rw [Option.or_of_isSome hfound, Option.or_of_isSome hfound]
  · rw [if_neg hname]

/-- Whatever has been gathered and merged, a context has each name once; and of such contexts merging
makes a monoid in which every one is idempotent. A merge begins with its first context as it is, and
goes on with what the second one has under other names, so that a name which both have keeps its
description in the first. -/
theorem reachable_monoid :
    (∀ c, Reachable c ↔ c.names.Nodup) ∧
    (∀ a b c, Reachable a → Reachable b → Reachable c →
      (a.merge b).merge c = a.merge (b.merge c)) ∧
    (∀ a, Reachable a → empty.merge a = a ∧ a.merge empty = a ∧ a.merge a = a) ∧
    ∀ a b, Reachable a → Reachable b →
      a.libraries <+: (a.merge b).libraries ∧
      (a.merge b).libraries = a.libraries ++ b.libraries.filter (·.name ∉ a.names) ∧
      ∀ name, (a.merge b).find? name = (a.find? name).or (b.find? name) := by
  refine ⟨fun _ => reachable_iff, ?_, ?_, ?_⟩
  · intro a b c _ _ _
    exact merge_assoc a b c
  · intro a ha
    exact ⟨empty_merge_eq_iff.mpr ha.nodup, merge_empty a, merge_self a⟩
  · intro a b _ hb
    exact ⟨List.prefix_append _ _, merge_of_nodup a hb.nodup, find?_merge a b⟩

/-- What is gathered from `shelf`. -/
def shelved : LibraryContext := ⟨[⟨"array", "", [.string "push"]⟩, ⟨"int", "new", []⟩]⟩

/-- What is gathered from `untidy`; one library is on the shelf too. -/
def described : LibraryContext := ⟨[⟨"int", "from xml", []⟩, ⟨"xml", "", []⟩]⟩

/-- Two catalogs that describe one library differently. -/
theorem reachable_monoid_of_shelf :
    Reachable shelved ∧ Reachable described ∧
    (shelved.merge described).merge shelved = shelved.merge (described.merge shelved) ∧
    empty.merge described = described ∧ described.merge described = described ∧
    (shelved.merge described).libraries = shelved.libraries ++ [⟨"xml", "", []⟩] ∧
    (shelved.merge described).find? "int" = some ⟨"int", "new", []⟩ := by
  obtain ⟨-, hassoc, hunit, hmerge⟩ := reachable_monoid
  have hshelf : gather shelf.toCatalog ["array", "xml", "int"] 3 = .ok shelved := rfl
  have huntidy : gather untidy ["int", "xml"] 5 = .ok described := rfl
  have hs : Reachable shelved := .gather hshelf
  have hd : Reachable described := .gather huntidy
  obtain ⟨hempty, -, hself⟩ := hunit described hd
  obtain ⟨-, hlibraries, hfind⟩ := hmerge shelved described hs hd
  exact ⟨hs, hd, hassoc _ _ _ hs hd hs, hempty, hself, hlibraries.trans rfl, (hfind "int").trans rfl⟩

end LibraryContext

end GuidedSynthesis
