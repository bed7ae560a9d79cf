import GuidedSynthesis.Json.Record
/-!
What the text of a record gives.

A service's answer is a record of which one field counts, in the text of another record, and so on.
`Document.Gives` says when such a record gives its field a value, and `Document.Spells` when the
value is a text. The lemmas say that the decoders take a value exactly when it is given, whatever
they do about a field that is left out.
-/

namespace GuidedSynthesis.Json

/-- A record gives its one field a value: under the name, which stands there once, or by position,
where nothing else may stand. -/
inductive Document.Gives : Document → String → Document → Prop
  | named {fields : List (List Piece × Document)} {read : List (String × Document)} {name : String}
      {value : Document} (keys : keys? fields = some read)
      (once : read.filter (·.1 = name) = [(name, value)]) : Gives (.object fields) name value
  | positional {name : String} {value : Document} : Gives (.array [value]) name value

/-- A string that stands for a text. -/
def Document.Spells (document : Document) (text : String) : Prop :=
  ∃ pieces, document = .string pieces ∧ stringOf? pieces = some text

theorem decode?_eq_some_iff {α : Type} {decode : Decoder α} {text : String} {a : α} :
    decode? decode text = some a ↔
      ∃ document, Document.ofChars? text.toList = some document ∧
        decode maxDepth document = some a := by
  unfold decode?
  exact Option.bind_eq_some_iff

/-! ## Fields -/

namespace Document

variable {record value : Document} {name : String} {depth inner : Nat}

/-- The slot of the one field of a record. -/
def slot? (name : String) (depth : Nat) : Document → Option Slot
  | .array [] => some .cut
  | .array [value] => some (.given depth value)
  | .object fields => (keys? fields).bind (namedSlot depth · name)
  | _ => none

theorem slots?_singleton (record : Document) (name : String) (depth : Nat) :
    record.slots? [name] (depth + 1) = (record.slot? name depth).map ([·]) := by
  cases record with
  | array items =>
    cases items with
    | nil => rfl
    | cons item items => cases items <;> rfl
  | object fields =>
    simp only [slots?, slot?, Option.bind_eq_bind]
    cases keys? fields with
    | none => rfl
    | some read =>
      simp only [Option.bind_some, List.mapM_cons, List.mapM_nil]
      cases namedSlot depth read name <;> rfl
  | _ => rfl

theorem namedSlot_eq_given_iff {fields : List (String × Document)} :
    namedSlot depth fields name = some (.given inner value) ↔
      depth = inner ∧ fields.filter (·.1 = name) = [(name, value)] := by
  unfold namedSlot
  constructor
  · intro h
    split at h
    · exact nomatch h
    · rename_i key given hone
      have hkey : (key, given) ∈ fields.filter (·.1 = name) := by
        rw [hone]
        exact List.mem_singleton_self _
      have hname : key = name := of_decide_eq_true (List.mem_filter.mp hkey).2
      cases h
      exact ⟨rfl, by rw [hone, hname]⟩
    · exact nomatch h
  · rintro ⟨rfl, hone⟩
    rw [hone]

theorem slot?_eq_given_iff :
    record.slot? name depth = some (.given inner value) ↔
      depth = inner ∧ record.Gives name value := by
  constructor
  · intro h
    unfold slot? at h
    split at h
    · exact nomatch h
    · cases h
      exact ⟨rfl, .positional⟩
    · obtain ⟨read, hkeys, hslot⟩ := Option.bind_eq_some_iff.mp h
      obtain ⟨hdepth, honce⟩ := namedSlot_eq_given_iff.mp hslot
      exact ⟨hdepth, .named hkeys honce⟩
    · exact nomatch h
  · rintro ⟨rfl, hgives⟩
    cases hgives with
    | named keys once =>
      exact Option.bind_eq_some_iff.mpr ⟨_, keys, namedSlot_eq_given_iff.mpr ⟨rfl, once⟩⟩
    | positional => rfl

end Document

namespace Slot

variable {α : Type} {slot : Slot} {decode : Decoder α} {a : α}

theorem optional_eq_some_some_iff (hnull : ∀ depth, decode depth .null = none) :
    slot.optional decode = some (some a) ↔
      ∃ depth value, slot = .given depth value ∧ decode depth value = some a := by
  constructor
  · intro h
    unfold optional at h
    split at h
    · exact nomatch h
    · rename_i depth value _
      obtain ⟨b, hvalue, hb⟩ := Option.map_eq_some_iff.mp h
      cases hb
      exact ⟨depth, value, rfl, hvalue⟩
    · exact nomatch h
    · exact nomatch h
  · rintro ⟨depth, value, rfl, hvalue⟩
    have hgiven : optional decode (.given depth value) = (decode depth value).map some := by
      cases value with
      | null => exact nomatch (hnull depth).symm.trans hvalue
      | _ => rfl
    rw [hgiven, hvalue]
    rfl

theorem orDefault_eq_some_iff {default : α} (hne : default ≠ a) :
    slot.orDefault default decode = some a ↔
      ∃ depth value, slot = .given depth value ∧ decode depth value = some a := by
  cases slot with
  | given depth value =>
    constructor
    · exact fun h => ⟨depth, value, rfl, h⟩
    · rintro ⟨_, _, hgiven, h⟩
      cases hgiven
      exact h
  | missing =>
    refine ⟨fun h => absurd (Option.some.inj h) hne, ?_⟩
    rintro ⟨_, _, hgiven, -⟩
    exact nomatch hgiven
  | cut =>
    refine ⟨fun h => absurd (Option.some.inj h) hne, ?_⟩
    rintro ⟨_, _, hgiven, -⟩
    exact nomatch hgiven

end Slot

namespace Decoder

variable {α : Type} {depth : Nat} {value : Document}

theorem text_eq_some_iff {s : String} : text depth value = some s ↔ value.Spells s := by
  unfold text
  constructor
  · intro h
    split at h
    · exact ⟨_, rfl, h⟩
    · exact nomatch h
  · rintro ⟨pieces, rfl, h⟩
    exact h

theorem nullable_eq_some_some_iff {decode : Decoder α} {a : α}
    (hnull : decode depth .null = none) :
    nullable decode depth value = some (some a) ↔ decode depth value = some a := by
  unfold nullable
  split
  · rw [hnull]
    exact ⟨nofun, nofun⟩
  · simp only [Option.map_eq_some_iff, Option.some.injEq, exists_eq_right]

/-- A record of one field is read as something for which the field has to have a value exactly when
the record gives it such a value. -/
theorem field_eq_some_iff {record : Document} {name : String} {read : Slot → Option α} {a : α}
    {Reads : Nat → Document → Prop}
    (hread : ∀ slot, read slot = some a ↔
      ∃ inner value, slot = .given inner value ∧ Reads inner value) :
    (do
      let [slot] ← record.slots? [name] (depth + 1) | none
      read slot) = some a ↔ ∃ value, record.Gives name value ∧ Reads depth value := by
  rw [Document.slots?_singleton, Option.bind_eq_bind, Option.bind_map, Option.bind_eq_some_iff]
  constructor
  · rintro ⟨slot, hslot, h⟩
    obtain ⟨inner, value, rfl, hvalue⟩ := (hread slot).mp h
    obtain ⟨rfl, hgives⟩ := Document.slot?_eq_given_iff.mp hslot
    exact ⟨value, hgives, hvalue⟩
  · rintro ⟨value, hgives, hvalue⟩
    exact ⟨_, Document.slot?_eq_given_iff.mpr ⟨rfl, hgives⟩,
      (hread _).mpr ⟨depth, value, rfl, hvalue⟩⟩

/-- A record of one text that may be left out has a text exactly when it is given. -/
theorem optionalText_eq_some_iff {record : Document} {name s : String} :
    (do
      let [slot] ← record.slots? [name] (depth + 1) | none
      slot.optional text) = some (some s) ↔ ∃ value, record.Gives name value ∧ value.Spells s := by
  have hread (slot : Slot) : slot.optional text = some (some s) ↔
      ∃ inner value, slot = .given inner value ∧ text inner value = some s :=
    Slot.optional_eq_some_some_iff fun _ => rfl
  simp only [field_eq_some_iff hread, text_eq_some_iff]

theorem isSome_mapM_iff {decode : Document → Option α} {items : List Document} :
    (items.mapM decode).isSome = true ↔ ∀ item ∈ items, (decode item).isSome = true := by
  induction items with
  | nil => exact ⟨fun _ _ hitem => (nomatch hitem), fun _ => rfl⟩
  | cons item items ih =>
    rw [List.forall_mem_cons, ← ih, List.mapM_cons]
    cases decode item with
    | none => exact ⟨nofun, fun h => nomatch h.1⟩
    | some a =>
      cases items.mapM decode with
      | none => exact ⟨nofun, fun h => nomatch h.2⟩
      | some more => exact ⟨fun _ => ⟨rfl, rfl⟩, fun _ => rfl⟩

/-- An array is read with a first item when it has one, and all the others are read as well. -/
theorem list_eq_some_cons_iff {decode : Decoder α} {a : α} :
    (∃ more, list decode (depth + 1) value = some (a :: more)) ↔
      ∃ first rest, value = .array (first :: rest) ∧ decode depth first = some a ∧
        ∀ item ∈ rest, (decode depth item).isSome = true := by
  constructor
  · rintro ⟨more, h⟩
    cases value with
    | array items =>
      cases items with
      | nil => exact nomatch h
      | cons first rest =>
        simp only [list, List.mapM_cons] at h
        obtain ⟨b, hfirst, h⟩ := Option.bind_eq_some_iff.mp h
        obtain ⟨others, hrest, h⟩ := Option.bind_eq_some_iff.mp h
        cases h
        exact ⟨first, rest, rfl, hfirst,
          isSome_mapM_iff.mp (Option.isSome_iff_exists.mpr ⟨more, hrest⟩)⟩
    | _ => exact nomatch h
  · rintro ⟨first, rest, rfl, hfirst, hrest⟩
    obtain ⟨more, hmore⟩ := Option.isSome_iff_exists.mp (isSome_mapM_iff.mpr hrest)
    refine ⟨more, ?_⟩
    simp only [list, List.mapM_cons, hfirst, hmore]
    rfl

end Decoder

/-- A text is read as an array with a first item exactly when it is a record that gives its field
such an array. A field that is left out stands for an array without items. -/
theorem decode?_listField_iff {α : Type} {text name : String} {decode : Decoder α} {a : α} :
    (∃ more, decode? (fun depth document => do
      let [slot] ← document.slots? [name] depth | none
      slot.orDefault [] (.list decode)) text = some (a :: more)) ↔
      ∃ document first rest, Document.ofChars? text.toList = some document ∧
        document.Gives name (.array (first :: rest)) ∧
        decode (maxDepth - 2) first = some a ∧
        ∀ item ∈ rest, (decode (maxDepth - 2) item).isSome = true := by
  have hread (more : List α) (slot : Slot) :
      slot.orDefault [] (.list decode) = some (a :: more) ↔
        ∃ inner value, slot = .given inner value ∧
          Decoder.list decode inner value = some (a :: more) :=
    Slot.orDefault_eq_some_iff (List.cons_ne_nil a more).symm
  simp only [decode?_eq_some_iff]
  constructor
  · rintro ⟨more, document, hdocument, h⟩
    obtain ⟨value, hgives, hvalue⟩ := (Decoder.field_eq_some_iff (hread more)).mp h
    obtain ⟨first, rest, rfl, hfirst, hrest⟩ := Decoder.list_eq_some_cons_iff.mp ⟨more, hvalue⟩
    exact ⟨document, first, rest, hdocument, hgives, hfirst, hrest⟩
  · rintro ⟨document, first, rest, hdocument, hgives, hfirst, hrest⟩
    obtain ⟨more, hvalue⟩ := Decoder.list_eq_some_cons_iff.mpr ⟨first, rest, rfl, hfirst, hrest⟩
    have h := (Decoder.field_eq_some_iff (hread more)).mpr ⟨_, hgives, hvalue⟩
    exact ⟨more, document, hdocument, h⟩

/-! ## Fields that are left out -/

theorem lookup_cons_field (name key : String) (value : Json) (fields : List (String × Json)) :
    ((key, value) :: fields).lookup name =
      if name = key then some value else fields.lookup name := by
  rw [List.lookup_cons]
  by_cases hname : name = key
  · rw [if_pos hname, beq_iff_eq.mpr hname]
  · rw [if_neg hname, beq_eq_false_iff_ne.mpr hname]

/-- Inserting a field changes the look-up of its own key alone. -/
theorem lookup_insertField (name key : String) (value : Json) (fields : List (String × Json)) :
    (insertField key value fields).lookup name =
      if name = key then some value else fields.lookup name := by
  induction fields with
  | nil => exact lookup_cons_field name key value []
  | cons field fields ih =>
    obtain ⟨k, v⟩ := field
    rw [insertField]
    by_cases hkey : key = k
    · subst hkey
      rw [if_pos rfl, lookup_cons_field, lookup_cons_field]
      split <;> rfl
    · rw [if_neg hkey]
      by_cases hlt : key < k
      · rw [if_pos hlt, lookup_cons_field]
      · rw [if_neg hlt, lookup_cons_field, lookup_cons_field, ih]
        by_cases hname : name = key
        · rw [if_pos hname, if_pos hname, if_neg (hname ▸ hkey)]
        · rw [if_neg hname, if_neg hname]

theorem lookup_sortFields_eq_none_iff {fields : List (String × Json)} {name : String} :
    (sortFields fields).lookup name = none ↔ ∀ field ∈ fields, field.1 ≠ name := by
  have hfold (sorted : List (String × Json)) :
      (fields.foldl (fun sorted field => insertField field.1 field.2 sorted) sorted).lookup name =
        none ↔ sorted.lookup name = none ∧ ∀ field ∈ fields, field.1 ≠ name := by
    induction fields generalizing sorted with
    | nil => simp
    | cons field fields ih =>
      rw [List.foldl_cons, ih, lookup_insertField, List.forall_mem_cons]
      by_cases hname : name = field.1
      · simp [hname]
      · simp [hname, Ne.symm hname]
  exact (hfold []).trans (and_iff_right rfl)

/-- The keys of an object are readable when its values are, and they are the same. -/
theorem exists_keys?_of_fields? {depth : Nat} {fields : List (List Piece × Document)}
    {read : List (String × Json)} (h : Document.fields? depth fields = some read) :
    ∃ keyed, keys? fields = some keyed ∧ keyed.map Prod.fst = read.map Prod.fst := by
  induction fields generalizing read with
  | nil =>
    cases h
    exact ⟨[], rfl, rfl⟩
  | cons field fields ih =>
    obtain ⟨pieces, item⟩ := field
    rw [Document.fields?] at h
    obtain ⟨key, hkey, h⟩ := Option.bind_eq_some_iff.mp h
    obtain ⟨value, -, h⟩ := Option.bind_eq_some_iff.mp h
    obtain ⟨more, hmore, h⟩ := Option.bind_eq_some_iff.mp h
    cases h
    obtain ⟨keyed, hkeyed, hsame⟩ := ih hmore
    refine ⟨(key, item) :: keyed, ?_, ?_⟩
    · simp only [keys?, hkey, hkeyed, Option.bind_eq_bind, Option.bind_some]
    · rw [List.map_cons, List.map_cons, hsame]

/-- An object that has another field, and this one not, leaves the field out. -/
theorem Document.slot?_eq_missing {document : Document} {depth : Nat} {value field : Json}
    {other name : String} (h : document.value? depth = some value)
    (hother : value.get? other = some field) (hname : value.get? name = none) (inner : Nat) :
    document.slot? name inner = some .missing := by
  cases document with
  | object fields =>
    cases depth with
    | zero => exact nomatch h
    | succ depth =>
      obtain ⟨read, hread, rfl⟩ := Option.map_eq_some_iff.mp h
      obtain ⟨keyed, hkeyed, hsame⟩ := exists_keys?_of_fields? hread
      have hnone : keyed.filter (·.1 = name) = [] := by
        rw [List.filter_eq_nil_iff]
        intro entry hentry hkey
        have hread : entry.1 ∈ read.map Prod.fst := hsame ▸ List.mem_map_of_mem hentry
        obtain ⟨field, hfield, hfst⟩ := List.mem_map.mp hread
        exact lookup_sortFields_eq_none_iff.mp hname field hfield
          (hfst.trans (of_decide_eq_true hkey))
      rw [slot?, hkeyed, Option.bind_some, namedSlot, hnone]
  | array items =>
    cases depth with
    | zero => exact nomatch h
    | succ depth =>
      obtain ⟨values, -, rfl⟩ := Option.map_eq_some_iff.mp h
      exact nomatch hother
  | null | bool =>
    cases h
    exact nomatch hother
  | numeral | string =>
    obtain ⟨_, -, rfl⟩ := Option.map_eq_some_iff.mp h
    exact nomatch hother

end GuidedSynthesis.Json
