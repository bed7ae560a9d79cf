import GuidedSynthesis.Proofs.Disk.Written
/-!
What stands where in a directory.

`Entries.get?` follows a location name by name (`get?_cons`), so it can be followed in two parts
(`get?_append`). A location holds a file, a directory or nothing (`kind?`), and two directories that
agree on that have the same files. When a file or an empty directory is put where there is no
directory, only that location changes (`kind?_modify_set`).

A change below a location is a change of the directory there: two of them one after the other are
one (`modify_modify`), to put back what was there is to change nothing (`modify_self`), and to take
away a name that has just been added is too (`remove_set`).
-/

namespace GuidedSynthesis

namespace Node

/-- What is at a location below a node; the empty location is the node itself. -/
def get? : Node → List String → Option Node
  | .directory entries, location => Entries.get? entries location
  | .file content, location => if location.isEmpty then some (.file content) else none

end Node

/-- What can stand at a location. -/
inductive Kind where
  | file (content : Content)
  | directory
  deriving DecidableEq, Repr

def Node.kind : Node → Kind
  | .file content => .file content
  | .directory _ => .directory

namespace Entries

variable {entries inner : Entries}

/-! ## 1. Locations -/

theorem get?_cons (entries : Entries) (name : String) (more : List String) :
    entries.get? (name :: more) = (entries.lookup name).bind (·.get? more) := by
  rw [get?]
  rcases entries.lookup name with _ | (_ | _) <;> rfl

theorem get?_append (ys : List String) : ∀ (xs : List String) (entries : Entries),
    entries.get? (xs ++ ys) = (entries.get? xs).bind (·.get? ys)
  | [], _ => rfl
  | x :: xs, entries => by
      rw [List.cons_append, get?_cons, get?_cons]
      rcases entries.lookup x with _ | (content | inner)
      · rfl
      · cases xs with
        | nil => rfl
        | cons _ _ => rfl
      · exact get?_append ys xs inner

/-- What stands below a location stands in a directory. -/
theorem exists_directory_of_isSome {here more : List String} {name : String}
    (h : (entries.get? (here ++ name :: more)).isSome) :
    ∃ inner : Entries, entries.get? here = some (.directory inner) ∧
      (inner.lookup name).isSome := by
  rw [get?_append] at h
  rcases hhere : entries.get? here with _ | (content | inner)
  · rw [hhere] at h
    exact absurd h (by simp)
  · rw [hhere] at h
    exact absurd h (by simp [Node.get?])
  · refine ⟨inner, rfl, ?_⟩
    rw [hhere, Option.bind_some, Node.get?, get?_cons] at h
    rcases hname : inner.lookup name with _ | node
    · rw [hname] at h
      exact absurd h (by simp)
    · rfl

theorem get?_concat {here : List String} (h : entries.get? here = some (.directory inner))
    (name : String) : entries.get? (here ++ [name]) = inner.lookup name := by
  rw [get?_append, h, Option.bind_some, Node.get?, get?_cons]
  rcases inner.lookup name with _ | (_ | _) <;> rfl

/-! ## 2. Kinds -/

/-- What stands at a location, without what a directory there holds. -/
def kind? (entries : Entries) (location : List String) : Option Kind :=
  (entries.get? location).map Node.kind

theorem kind?_nil (entries : Entries) : entries.kind? [] = some .directory := rfl

theorem kind?_eq_directory_iff {location : List String} :
    entries.kind? location = some .directory ↔
      ∃ inner, entries.get? location = some (.directory inner) := by
  rw [kind?]
  rcases entries.get? location with _ | (_ | _) <;> simp [Node.kind]

theorem kind?_eq_file_iff {location : List String} {content : Content} :
    entries.kind? location = some (.file content) ↔
      entries.get? location = some (.file content) := by
  rw [kind?]
  rcases entries.get? location with _ | (_ | _) <;> simp [Node.kind]

theorem kind?_empty_cons (name : String) (more : List String) :
    kind? [] (name :: more) = none := rfl

theorem kind?_cons_directory {name : String} (h : entries.lookup name = some (.directory inner))
    (more : List String) : entries.kind? (name :: more) = inner.kind? more := by
  rw [kind?, get?_cons_directory h, kind?]

theorem kind?_cons_congr {other : Entries} {name : String}
    (h : entries.lookup name = other.lookup name) (more : List String) :
    entries.kind? (name :: more) = other.kind? (name :: more) := by
  rw [kind?, kind?, get?_cons, get?_cons, h]

/-- Below what is no directory stands nothing. -/
theorem kind?_cons_cons_eq_none {name next : String} {more : List String}
    (h : ∀ inner, entries.lookup name ≠ some (.directory inner)) :
    entries.kind? (name :: next :: more) = none := by
  rw [kind?, get?_cons]
  rcases hname : entries.lookup name with _ | (content | inner)
  · rfl
  · rfl
  · exact absurd hname (h inner)

/-- Below a file stands nothing. -/
theorem kind?_below_file {location more : List String} {content : Content}
    (h : entries.kind? location = some (.file content)) (hmore : more ≠ []) :
    entries.kind? (location ++ more) = none := by
  obtain ⟨name, rest, rfl⟩ := List.exists_cons_of_ne_nil hmore
  rw [kind?, get?_append, kind?_eq_file_iff.mp h]
  rfl

/-! ## 3. Changes -/

theorem kind?_set {name : String} {node : Node}
    (hnode : ∀ inner, node = .directory inner → inner = [])
    (hfree : ∀ inner, entries.lookup name ≠ some (.directory inner)) (location : List String) :
    (entries.set name node).kind? location =
      if location = [name] then some node.kind else entries.kind? location := by
  have hset (other : String) := lookup_set entries name other node
  rcases location with _ | ⟨first, rest⟩
  · rw [if_neg (by simp), kind?_nil, kind?_nil]
  · by_cases hfirst : first = name
    · subst hfirst
      have hnode' : (entries.set first node).lookup first = some node := by rw [hset, if_pos rfl]
      rcases rest with _ | ⟨next, more⟩
      · rw [if_pos rfl, kind?, get?_cons, hnode']
        rcases node with _ | _ <;> rfl
      · rw [if_neg (by simp), kind?_cons_cons_eq_none hfree]
        rcases node with content | inner
        · exact kind?_cons_cons_eq_none fun inner hinner => by simp [hnode'] at hinner
        · rw [kind?_cons_directory hnode', hnode inner rfl, kind?_empty_cons]
    · rw [if_neg (by simp [hfirst])]
      exact kind?_cons_congr (by rw [hset, if_neg hfirst]) rest

/-- A change at a location is not to be seen outside it. -/
theorem kind?_modify_outside {f : Entries → Entries} :
    ∀ {here location : List String} {entries inner : Entries},
      entries.get? here = some (.directory inner) → ¬here <+: location →
      (entries.modify f here).kind? location = entries.kind? location
  | [], location, _, _, _, h => absurd List.nil_prefix h
  | step :: here, location, entries, inner, hhere, h => by
      obtain ⟨middle, hlookup, hmiddle⟩ := lookup_of_get?_directory hhere
      have hset (other : String) :=
        lookup_set entries step other (.directory (middle.modify f here))
      rw [modify, hlookup]
      rcases location with _ | ⟨first, rest⟩
      · rw [kind?_nil, kind?_nil]
      · by_cases hfirst : first = step
        · subst hfirst
          have hstep := hset first
          rw [if_pos rfl] at hstep
          have hrest : ¬here <+: rest := fun hpre => h (List.cons_prefix_cons.mpr ⟨rfl, hpre⟩)
          rw [kind?_cons_directory hstep, kind?_cons_directory hlookup,
            kind?_modify_outside hmiddle hrest]
        · exact kind?_cons_congr (by rw [hset, if_neg hfirst]) rest

theorem kind?_append {here : List String} (h : entries.get? here = some (.directory inner))
    (below : List String) : entries.kind? (here ++ below) = inner.kind? below := by
  rw [kind?, get?_append, h]
  rfl

theorem kind?_modify_append {here : List String} (h : entries.get? here = some (.directory inner))
    (f : Entries → Entries) (below : List String) :
    (entries.modify f here).kind? (here ++ below) = (f inner).kind? below := by
  rw [kind?, get?_modify below h, kind?]

/-- A file or an empty directory that is put where there is no directory changes nothing elsewhere.
-/
theorem kind?_modify_set {here : List String} {name : String} {node : Node}
    (hnode : ∀ inner, node = .directory inner → inner = []) (location : List String)
    (h : entries.get? here = some (.directory inner))
    (hfree : ∀ old, inner.lookup name ≠ some (.directory old)) :
    (entries.modify (·.set name node) here).kind? location =
      if location = here ++ [name] then some node.kind else entries.kind? location := by
  by_cases hpre : here <+: location
  · obtain ⟨below, rfl⟩ := hpre
    rw [kind?_modify_append h, kind?_set hnode hfree, kind?_append h]
    simp only [List.append_cancel_left_eq]
  · rw [kind?_modify_outside h hpre, if_neg]
    rintro rfl
    exact hpre (List.prefix_append here [name])

/-- What is put under a name is not to be seen under others. -/
theorem kind?_modify_set_outside {here location : List String} {name : String}
    (h : entries.get? here = some (.directory inner)) (node : Node)
    (hlocation : ¬here ++ [name] <+: location) :
    (entries.modify (·.set name node) here).kind? location = entries.kind? location := by
  by_cases hpre : here <+: location
  · obtain ⟨below, rfl⟩ := hpre
    rw [kind?_modify_append h, kind?_append h]
    rcases below with _ | ⟨first, rest⟩
    · rw [kind?_nil, kind?_nil]
    · have hfirst : first ≠ name := by
        rintro rfl
        exact hlocation (by simp)
      exact kind?_cons_congr (by rw [lookup_set, if_neg hfirst]) rest
  · exact kind?_modify_outside h hpre

theorem set_set (entries : Entries) (name : String) (node node' : Node) :
    (entries.set name node).set name node' = entries.set name node' := by
  induction entries with
  | nil => simp [set]
  | cons entry entries ih =>
    obtain ⟨n, old⟩ := entry
    by_cases hn : n = name <;> simp [set, hn, ih]

theorem set_self {name : String} {node : Node} (h : entries.lookup name = some node) :
    entries.set name node = entries := by
  induction entries with
  | nil => cases h
  | cons entry entries ih =>
    obtain ⟨n, old⟩ := entry
    rw [lookup_cons] at h
    by_cases hn : n = name
    · rw [if_pos hn.symm, Option.some.injEq] at h
      rw [set, if_pos hn, h]
    · rw [if_neg (Ne.symm hn)] at h
      rw [set, if_neg hn, ih h]

/-- To take away a name that was added is to change nothing. -/
theorem remove_set {name : String} (h : entries.lookup name = none) (node : Node) :
    (entries.set name node).remove name = entries := by
  induction entries with
  | nil => simp [set, remove]
  | cons entry entries ih =>
    obtain ⟨n, old⟩ := entry
    rw [lookup_cons] at h
    by_cases hn : n = name
    · rw [if_pos hn.symm] at h
      cases h
    · rw [if_neg (Ne.symm hn)] at h
      have hrest := ih h
      rw [remove] at hrest ⊢
      rw [set, if_neg hn, List.filter_cons_of_pos (by simp [hn]), hrest]

theorem modify_modify {f g : Entries → Entries} (below : List String) :
    ∀ {location : List String} {entries inner : Entries},
      entries.get? location = some (.directory inner) →
      (entries.modify f location).modify g (location ++ below) =
        entries.modify (fun e => (f e).modify g below) location
  | [], entries, inner, _ => rfl
  | name :: location, entries, inner, h => by
      obtain ⟨middle, hlookup, hmiddle⟩ := lookup_of_get?_directory h
      have hset : (entries.set name (.directory (middle.modify f location))).lookup name =
          some (.directory (middle.modify f location)) := by rw [lookup_set, if_pos rfl]
      rw [modify, hlookup, List.cons_append]
      simp only [modify, hset, hlookup]
      rw [set_set, modify_modify below hmiddle]

/-- A change that leaves the directory at the location as it is changes nothing. -/
theorem modify_self {f : Entries → Entries} : ∀ {location : List String} {entries inner : Entries},
    entries.get? location = some (.directory inner) → f inner = inner →
      entries.modify f location = entries
  | [], entries, inner, h, hf => by
      cases h
      exact hf
  | name :: location, entries, inner, h, hf => by
      obtain ⟨middle, hlookup, hmiddle⟩ := lookup_of_get?_directory h
      rw [modify, hlookup]
      simp only
      rw [modify_self hmiddle hf, set_self hlookup]

/-- An empty directory can become any. -/
theorem Grows.of_nil (entries : Entries) : Grows [] entries := by
  intro location inner h
  rcases location with _ | ⟨name, more⟩
  · cases h
    exact ⟨entries, rfl, fun name hname => absurd hname (by simp)⟩
  · cases h

end Entries

end GuidedSynthesis
