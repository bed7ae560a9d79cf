import GuidedSynthesis.Outcome
import GuidedSynthesis.Proofs.Json.Reading
import GuidedSynthesis.Proofs.Json.Record
import GuidedSynthesis.Request
/-!
What is written in JSON is read again.

Sources, requests and diagnostics are read from their compact text as they were, whatever their
strings hold and wherever their ranges are. So are the code of an answer and the outcome of a run, if
the helper functions that came along are an array that fits below a record: at most 126 containers
deep, and its numbers whole (`ofText?_textOf`).

## How the proof goes

The compact text of a value is read as one document (`Document.ofChars?_compact`), so it is enough
that the decoder of a type takes the document of what is written for a value as that value
(`Decoder.Takes`). This is proved along the parts of a type. Texts, numbers, constants and free-form
values come first, then a list and a value that may be left out, given what is known of their parts.
The fields of a record have different names, so each of them is found (`Document.slots?_ofJson`), and
the record is taken when its fields are (`Decoder.takes_object`).
-/

namespace GuidedSynthesis

namespace Json

variable {α : Type} {depth : Nat}

/-- What is written for a value has whole numbers only, and its document is taken as the value where
so many containers may still be opened. -/
structure Decoder.Takes (decode : Decoder α) (depth : Nat) (j : Json) (a : α) : Prop where
  integral : Integral j
  decoded : decode depth (.ofJson j) = some a

theorem Decoder.Takes.decode?_render {decode : Decoder α} {j : Json} {a : α}
    (h : decode.Takes maxDepth j a) : decode? decode j.render = some a := by
  rw [decode?, render, String.toList_ofList, Document.ofChars?_compact h.integral]
  exact h.decoded

/-! ## 1. Parts -/

namespace Decoder

theorem takes_text (depth : Nat) (s : String) : text.Takes depth (.string s) s :=
  ⟨.string s, stringOf?_piecesOf s⟩

theorem takes_below {bound n : Nat} (h : n < bound) (hbound : bound ≤ Nat.pow 2 64) (depth : Nat) :
    (below bound).Takes depth (.ofNat n) n := by
  refine ⟨.whole n, ?_⟩
  have hword : Nat.pow 2 64 = 0x10000000000000000 := rfl
  have hfits : Fits n := ⟨by omega, by omega⟩
  simp only [ofNat, Document.ofJson, below, number?_ofInt hfits, h, if_true]

theorem takes_word32 (depth : Nat) (n : UInt32) : word32.Takes depth (.ofNat n.toNat) n := by
  obtain ⟨hintegral, hdecoded⟩ := takes_below n.toNat_lt (by decide) depth
  refine ⟨hintegral, ?_⟩
  rw [word32, hdecoded, Option.map_some, UInt32.ofNat_toNat]

theorem takes_any {j : Json} (h : j.Portable depth) : any.Takes depth j j :=
  ⟨h.integral, h.value?_ofJson⟩

theorem takes_constant {constants : List (String × α)} {name : String} {a : α}
    (h : constants.lookup name = some a) (depth : Nat) :
    (constant constants).Takes depth (.string name) a := by
  refine ⟨.string name, ?_⟩
  simp only [Document.ofJson, constant, stringOf?_piecesOf, Option.bind_eq_bind, Option.bind_some, h]

end Decoder

theorem Document.ofItems_eq_map (items : List Json) : ofItems items = items.map ofJson := by
  induction items with
  | nil => rfl
  | cons item items ih => rw [ofItems, ih, List.map_cons]

/-- When every item is read, so are all of them. -/
theorem mapM_map_eq_some {β γ : Type} {f : α → β} {read : β → Option γ} {g : α → γ} {items : List α}
    (h : ∀ a ∈ items, read (f a) = some (g a)) : (items.map f).mapM read = some (items.map g) := by
  induction items with
  | nil => rfl
  | cons a items ih =>
    obtain ⟨ha, hitems⟩ := List.forall_mem_cons.mp h
    rw [List.map_cons, List.mapM_cons, ha, ih hitems]
    rfl

theorem Decoder.takes_list {decode : Decoder α} {f : α → Json} {items : List α}
    (h : ∀ a ∈ items, decode.Takes depth (f a) a) :
    (list decode).Takes (depth + 1) (.array (items.map f)) items := by
  constructor
  · exact .array (List.forall_mem_map.mpr fun a ha => (h a ha).integral)
  · have hread := mapM_map_eq_some (g := id) fun a ha => (h a ha).decoded
    rw [Document.ofJson, Document.ofItems_eq_map, List.map_map]
    exact hread.trans (congrArg some (List.map_id items))

/-- A value that may be left out is taken unless what is written for it is `null`. -/
theorem Decoder.takes_nullable {decode : Decoder α} {f : α → Json} {value : Option α}
    (hnull : ∀ a ∈ value, Document.ofJson (f a) ≠ .null)
    (h : ∀ a ∈ value, decode.Takes depth (f a) a) :
    (nullable decode).Takes depth (.ofOption f value) value := by
  cases value with
  | none => exact ⟨.null, rfl⟩
  | some a =>
    obtain ⟨hintegral, hdecoded⟩ := h a rfl
    refine ⟨hintegral, ?_⟩
    rw [ofOption, nullable.eq_2 _ _ _ (hnull a rfl), hdecoded]
    rfl

/-! ## 2. Records -/

theorem Slot.optional_given (decode : Decoder α) (depth : Nat) (value : Document) :
    (given depth value).optional decode = decode.nullable depth value := by
  cases value <;> rfl

theorem keys?_ofFields (fields : List (String × Json)) :
    keys? (Document.ofFields fields) =
      some (fields.map fun field => (field.1, Document.ofJson field.2)) := by
  induction fields with
  | nil => rfl
  | cons field fields ih =>
    simp only [Document.ofFields, keys?, stringOf?_piecesOf, ih, Option.bind_eq_bind,
      Option.bind_some, List.map_cons]

/-- Where all keys differ, a key belongs to one field. -/
theorem filter_key_eq_singleton {fields : List (String × Document)} {field : String × Document}
    (hkeys : (fields.map Prod.fst).Nodup) (h : field ∈ fields) :
    fields.filter (·.1 = field.1) = [field] := by
  induction fields with
  | nil => exact nomatch h
  | cons first fields ih =>
    rw [List.map_cons, List.nodup_cons] at hkeys
    obtain ⟨hfirst, hkeys⟩ := hkeys
    obtain rfl | h := List.mem_cons.mp h
    · have hrest : fields.filter (·.1 = field.1) = [] := by
        rw [List.filter_eq_nil_iff]
        intro other hother hkey
        exact hfirst (of_decide_eq_true hkey ▸ List.mem_map_of_mem hother)
      rw [List.filter_cons_of_pos (by simp), hrest]
    · have hne : first.1 ≠ field.1 := fun hkey => hfirst (hkey ▸ List.mem_map_of_mem h)
      rw [List.filter_cons_of_neg (by simpa using hne), ih hkeys h]

/-- Every field of a record that is written is found under its name. -/
theorem Document.slots?_ofJson {fields : List (String × Json)}
    (hkeys : (fields.map Prod.fst).Nodup) :
    (Document.ofJson (.object fields)).slots? (fields.map Prod.fst) (depth + 1) =
      some (fields.map fun field => .given depth (.ofJson field.2)) := by
  have hread : ((fields.map fun field => (field.1, ofJson field.2)).map Prod.fst).Nodup := by
    rwa [List.map_map]
  rw [ofJson, slots?, keys?_ofFields]
  refine mapM_map_eq_some fun field hfield => ?_
  exact namedSlot_eq_given_iff.mpr
    ⟨rfl, filter_key_eq_singleton hread (List.mem_map_of_mem hfield)⟩

/-- A record is taken when its fields, found under their names, are. -/
theorem Decoder.takes_object {decode : Decoder α} {names : List String}
    {read : List Slot → Option α} {fields : List (String × Json)} {a : α}
    (hdecode : ∀ document, decode (depth + 1) document =
      (document.slots? names (depth + 1)).bind read)
    (hnames : fields.map Prod.fst = names) (hdistinct : names.Nodup)
    (hintegral : ∀ field ∈ fields, Integral field.2)
    (hread : read (fields.map fun field => .given depth (.ofJson field.2)) = some a) :
    decode.Takes (depth + 1) (.object fields) a := by
  subst hnames
  refine ⟨.object hintegral, ?_⟩
  rw [hdecode, Document.slots?_ofJson hdistinct]
  exact hread

end Json

open Json Json.Decoder

/-! ## 3. Sources and requests -/

theorem SourceFile.takes_toJson (depth : Nat) (f : SourceFile) :
    Takes decode (depth + 1) f.toJson f := by
  have hpath := takes_text depth f.path
  have hcontent := takes_text depth f.content
  refine takes_object (fun _ => rfl) rfl (by decide) ?_ ?_
  · simp [hpath.integral, hcontent.integral]
  · simp [Slot.required, hpath.decoded, hcontent.decoded]

theorem SourceSet.takes_toJson (depth : Nat) (s : SourceSet) :
    Takes decode (depth + 2) s.toJson s := by
  have hfiles := takes_list fun f (_ : f ∈ s.files) => SourceFile.takes_toJson depth f
  refine ⟨hfiles.integral, ?_⟩
  rw [decode, toJson, hfiles.decoded]
  rfl

theorem ModuleDescriptor.takes_toJson (depth : Nat) (m : ModuleDescriptor) :
    Takes decode (depth + 1) m.toJson m := by
  have horganization := takes_text depth m.organization
  have hname := takes_text depth m.name
  have hversion := takes_text depth m.version
  refine takes_object (fun _ => rfl) rfl (by decide) ?_ ?_
  · simp [horganization.integral, hname.integral, hversion.integral]
  · simp [Slot.required, horganization.decoded, hname.decoded, hversion.decoded]

theorem GenerationRequest.takes_toJson (depth : Nat) (r : GenerationRequest) :
    Takes decode (depth + 3) r.toJson r := by
  have hannotated := takes_text (depth + 2) r.annotatedSymbol
  have hgenerated := takes_text (depth + 2) r.generatedSymbol
  have hprompt := takes_text (depth + 2) r.prompt
  have hfiles := SourceSet.takes_toJson depth r.contextFiles
  have htarget := ModuleDescriptor.takes_toJson (depth + 1) r.targetModule
  refine takes_object (fun _ => rfl) rfl (by decide) ?_ ?_
  · simp [hannotated.integral, hgenerated.integral, hprompt.integral, hfiles.integral,
      htarget.integral]
  · simp [Slot.required, hannotated.decoded, hgenerated.decoded, hprompt.decoded, hfiles.decoded,
      htarget.decoded]

/-! ## 4. Diagnostics -/

theorem Position.takes_toJson (depth : Nat) (p : Position) :
    Takes decode (depth + 1) p.toJson p := by
  have hline := takes_word32 depth p.line
  have hoffset := takes_word32 depth p.offset
  refine takes_object (fun _ => rfl) rfl (by decide) ?_ ?_
  · simp [hline.integral, hoffset.integral]
  · simp [Slot.required, hline.decoded, hoffset.decoded]

theorem Range.takes_toJson (depth : Nat) (r : Range) : Takes decode (depth + 2) r.toJson r := by
  have hstart := Position.takes_toJson depth r.start
  have hstop := Position.takes_toJson depth r.stop
  refine takes_object (fun _ => rfl) rfl (by decide) ?_ ?_
  · simp [hstart.integral, hstop.integral]
  · simp [Slot.required, hstart.decoded, hstop.decoded]

theorem SourceLocation.takes_toJson (depth : Nat) (l : SourceLocation) :
    Takes decode (depth + 3) l.toJson l := by
  have hdocument := takes_text (depth + 2) l.document
  have hrange := Range.takes_toJson depth l.range
  refine takes_object (fun _ => rfl) rfl (by decide) ?_ ?_
  · simp [hdocument.integral, hrange.integral]
  · simp [Slot.required, hdocument.decoded, hrange.decoded]

theorem Diagnostic.takes_toJson (depth : Nat) (d : Diagnostic) :
    Takes decode (depth + 4) d.toJson d := by
  have hmessage := takes_text (depth + 3) d.message
  have hlocation := takes_nullable (f := SourceLocation.toJson) (fun l (_ : l ∈ d.location) => nofun)
    fun l _ => SourceLocation.takes_toJson depth l
  refine takes_object (fun _ => rfl) rfl (by decide) ?_ ?_
  · simp [hmessage.integral, hlocation.integral]
  · simp [Slot.required, Slot.optional_given, hmessage.decoded, hlocation.decoded]

theorem Severity.takes_toJson (depth : Nat) (s : Severity) : Takes decode depth s.toJson s :=
  takes_constant (by cases s <;> rfl) depth

theorem HostDiagnostic.takes_toJson (depth : Nat) (d : HostDiagnostic) :
    Takes decode (depth + 3) d.toJson d := by
  have hseverity := Severity.takes_toJson (depth + 2) d.severity
  have hmessage := takes_text (depth + 2) d.message
  have hdocument := takes_nullable (f := .string) (fun s (_ : s ∈ d.document) => nofun)
    fun s _ => takes_text (depth + 2) s
  have hrange := takes_nullable (f := Range.toJson) (fun r (_ : r ∈ d.range) => nofun)
    fun r _ => Range.takes_toJson depth r
  refine takes_object (fun _ => rfl) rfl (by decide) ?_ ?_
  · simp [hseverity.integral, hmessage.integral, hdocument.integral, hrange.integral]
  · simp [Slot.required, Slot.optional_given, hseverity.decoded, hmessage.decoded,
      hdocument.decoded, hrange.decoded]

/-! ## 5. Code and outcomes -/

/-- Helper functions that fit below a record: there are none, or they are an array in which at most
126 containers are open at once and all numbers are whole. -/
def Carried (functions : Option Json) : Prop :=
  ∀ value ∈ functions, value.isArray = true ∧ value.Portable 126

theorem takes_functions {functions : Option Json} (h : Carried functions) :
    Takes (nullable .any) 126 (.ofOption id functions) functions := by
  -- Helper functions that are `null` would be read as none; an array is never `null`.
  refine takes_nullable (fun value hvalue => ?_) fun value hvalue => takes_any (h value hvalue).2
  cases value with
  | array items => exact nofun
  | _ => exact nomatch (h _ hvalue).1

theorem GeneratedCode.takes_toJson {g : GeneratedCode} (h : Carried g.auxiliaryFunctions) :
    Takes decode 127 g.toJson g := by
  have hcode := takes_text 126 g.code
  have hfunctions := takes_functions h
  refine takes_object (fun _ => rfl) rfl (by decide) ?_ ?_
  · simp [hcode.integral, hfunctions.integral]
  · simp [Slot.required, Slot.optional_given, hcode.decoded, hfunctions.decoded]

theorem GenerationOutcome.takes_toJson {o : GenerationOutcome} (h : Carried o.auxiliaryFunctions)
    (hattempts : o.repairAttempts < Nat.pow 2 64) : Takes decode 127 o.toJson o := by
  have hcode := takes_text 126 o.code
  have hfunctions := takes_functions h
  have hcount := takes_below hattempts (Nat.le_refl _) 126
  have hremaining := takes_list fun d (_ : d ∈ o.remaining) => Diagnostic.takes_toJson 121 d
  refine takes_object (fun _ => rfl) rfl (by decide) ?_ ?_
  · simp [hcode.integral, hfunctions.integral, hcount.integral, hremaining.integral]
  · simp [Slot.required, Slot.optional_given, hcode.decoded, hfunctions.decoded, hcount.decoded,
      hremaining.decoded]

/-! ## 6. Texts -/

/-- A value is read from its compact text as it was: sources, requests and the two kinds of
diagnostics whatever they hold, the code of an answer and the outcome of a run if the helper
functions fit below a record and the attempts fit 64 bits. -/
theorem ofText?_textOf :
    (∀ s : SourceSet, ofText? (textOf s) = some s) ∧
    (∀ r : GenerationRequest, ofText? (textOf r) = some r) ∧
    (∀ d : Diagnostic, ofText? (textOf d) = some d) ∧
    (∀ d : HostDiagnostic, ofText? (textOf d) = some d) ∧
    (∀ g : GeneratedCode, Carried g.auxiliaryFunctions → ofText? (textOf g) = some g) ∧
    ∀ o : GenerationOutcome, Carried o.auxiliaryFunctions → o.repairAttempts < Nat.pow 2 64 →
      ofText? (textOf o) = some o := by
  refine ⟨fun s => ?_, fun r => ?_, fun d => ?_, fun d => ?_, fun g hg => ?_, fun o ho hattempts => ?_⟩
  · exact (SourceSet.takes_toJson 125 s).decode?_render
  · exact (GenerationRequest.takes_toJson 124 r).decode?_render
  · exact (Diagnostic.takes_toJson 123 d).decode?_render
  · exact (HostDiagnostic.takes_toJson 124 d).decode?_render
  · exact (GeneratedCode.takes_toJson hg).decode?_render
  · exact (GenerationOutcome.takes_toJson ho hattempts).decode?_render

/-! An outcome that goes to the limits. -/

/-- A text in so many arrays. -/
def nested : Nat → Json
  | 0 => .string "\"\\ \x00\x08\n\x1f\x7f é 😀"
  | depth + 1 => .array [nested depth]

theorem portable_nested (depth : Nat) : (nested depth).Portable depth := by
  induction depth with
  | zero => exact .string _
  | succ depth ih => exact .array (List.forall_mem_singleton.mpr ih)

/-- Helper functions 126 deep, the largest count of attempts, and a diagnostic at the last place. -/
def deepOutcome : GenerationOutcome :=
  ⟨"\"\\\r\n\x1b", some (nested 126), 0xffffffffffffffff,
    [.errorAt "main.bal" ⟨⟨0, 0⟩, ⟨0xffffffff, 0xffffffff⟩⟩ "\t"]⟩

theorem ofText?_textOf_deepOutcome :
    Carried deepOutcome.auxiliaryFunctions ∧ deepOutcome.repairAttempts < Nat.pow 2 64 ∧
      ofText? (textOf deepOutcome) = some deepOutcome := by
  have hcarried : Carried deepOutcome.auxiliaryFunctions := by
    rintro _ ⟨⟩
    exact ⟨rfl, portable_nested 126⟩
  have hattempts : deepOutcome.repairAttempts < Nat.pow 2 64 := by decide
  obtain ⟨-, -, -, -, -, houtcome⟩ := ofText?_textOf
  exact ⟨hcarried, hattempts, houtcome deepOutcome hcarried hattempts⟩

/-! One array more is too deep below a record. -/

example : ((Document.ofJson (nested 127)).value? 126).isNone = true := by decide +kernel

end GuidedSynthesis
