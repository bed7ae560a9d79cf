import GuidedSynthesis.Project
import GuidedSynthesis.Proofs.Toml.Strings
/-!
What the manifest of a project says.

The manifest of every module is the text `Project.manifestText`, whatever the names in the module
are, and to read that text is to have the organization, the name and the version back
(`parse?_manifestText`).

## How the proof goes

The manifest is a header and three fields, each on a line of its own. A header is read in one step
of the reader of lines (`readLines_header`) and so is a field whose value is a string
(`readLines_field`), each in front of any rest; the keys are bare, and the strings are read back by
`readString_stringText`.
-/

namespace GuidedSynthesis

namespace Toml

/-! ## 1. Keys -/

/-- A key that needs no quotation marks. -/
def IsBare (key : String) : Prop := key ≠ "" ∧ key.toList.all isBareKeyChar = true

instance (key : String) : Decidable (IsBare key) := inferInstanceAs (Decidable (_ ∧ _))

theorem ne_of_isBareKeyChar {c d : Char} (hc : isBareKeyChar c = true)
    (hd : isBareKeyChar d = false) : c ≠ d := by
  rintro rfl
  exact Bool.false_ne_true (hd.symm.trans hc)

theorem skipSpaces_bare {c : Char} (hc : isBareKeyChar c = true) (text : List Char) :
    skipSpaces (c :: text) = c :: text := by
  have hspace : c ≠ ' ' := ne_of_isBareKeyChar hc (by decide)
  have htab : c ≠ '\t' := ne_of_isBareKeyChar hc (by decide)
  exact List.dropWhile_cons_of_neg (by simp [isSpace, hspace, htab])

theorem IsBare.forall_mem {key : String} (h : IsBare key) :
    ∀ c ∈ key.toList, isBareKeyChar c = true := List.all_eq_true.mp h.2

theorem IsBare.exists_cons {key : String} (h : IsBare key) :
    ∃ c more, key.toList = c :: more ∧ isBareKeyChar c = true := by
  obtain ⟨c, more, hkey⟩ := List.exists_cons_of_ne_nil (mt String.toList_eq_nil_iff.mp h.1)
  exact ⟨c, more, hkey, h.forall_mem c (hkey ▸ List.mem_cons_self)⟩

/-- A bare key is read up to the first character that is none of its own. -/
theorem readSimpleKey_bare {key : String} (h : IsBare key) {d : Char}
    (hd : isBareKeyChar d = false) (rest : List Char) :
    readSimpleKey (key.toList ++ d :: rest) = some (key, d :: rest) := by
  have htake : (key.toList ++ d :: rest).takeWhile isBareKeyChar = key.toList := by
    rw [List.takeWhile_append_of_pos h.forall_mem, List.takeWhile_cons_of_neg (by simp [hd]),
      List.append_nil]
  have hdrop : (key.toList ++ d :: rest).dropWhile isBareKeyChar = d :: rest := by
    rw [List.dropWhile_append_of_pos h.forall_mem, List.dropWhile_cons_of_neg (by simp [hd])]
  obtain ⟨c, more, hkey, hc⟩ := h.exists_cons
  have hquote : c ≠ '"' := ne_of_isBareKeyChar hc (by decide)
  have hmark : c ≠ apostrophe := ne_of_isBareKeyChar hc (by decide)
  have hne : key.toList.isEmpty = false := by
    rw [hkey]
    rfl
  rw [hkey, List.cons_append] at htake hdrop ⊢
  rw [readSimpleKey, if_neg hmark, htake, hdrop, ← hkey]
  · show (if key.toList.isEmpty = true then none else some (String.ofList key.toList, d :: rest)) = _
    rw [hne, String.ofList_toList]
    rfl
  · exact hquote

/-- A key of one part. Blanks may follow it, and then no further part. -/
theorem readKey_bare {key : String} (h : IsBare key) {d e : Char} {rest after : List Char}
    (hd : isBareKeyChar d = false) (hskip : skipSpaces (d :: rest) = e :: after) (he : e ≠ '.') :
    readKey (key.toList ++ d :: rest) = some ([key], e :: after) := by
  have hspaces : skipSpaces (key.toList ++ d :: rest) = key.toList ++ d :: rest := by
    obtain ⟨c, more, hkey, hc⟩ := h.exists_cons
    rw [hkey, List.cons_append, skipSpaces_bare hc]
  have hparts (fuel : Nat) :
      readKeyParts (fuel + 1) (key.toList ++ d :: rest) = some ([key], e :: after) := by
    rw [readKeyParts, hspaces, readSimpleKey_bare h hd]
    simp only [bind, Option.bind, hskip]
    split
    · exact absurd (List.cons.inj ‹_›).1 he
    · rfl
  rw [readKey, hparts]
  rfl

/-! ## 2. Lines -/

theorem endsString_newline (rest : List Char) : EndsString ('\n' :: rest) := by
  constructor <;> (rintro _ ⟨⟩; decide)

theorem exists_delimited_cons (mark : Char) (isMulti startsNewLine : Bool) (body : List Char) :
    ∃ more, delimited mark isMulti startsNewLine body = mark :: more := by
  cases isMulti <;> exact ⟨_, rfl⟩

/-- A string starts with a quotation mark or an apostrophe. -/
theorem exists_stringText_cons (s : List Char) :
    ∃ c more, stringText s = c :: more ∧ (c = '"' ∨ c = apostrophe) := by
  have hform (c : Char) (isMulti startsNewLine : Bool) (body : List Char)
      (hc : c = '"' ∨ c = apostrophe) : ∃ d more, delimited c isMulti startsNewLine body = d :: more ∧
        (d = '"' ∨ d = apostrophe) := by
    obtain ⟨more, hmore⟩ := exists_delimited_cons c isMulti startsNewLine body
    exact ⟨c, more, hmore, hc⟩
  simp only [stringText]
  repeat' split
  all_goals first
    | exact hform _ _ _ _ (.inl rfl)
    | exact hform _ _ _ _ (.inr rfl)

/-- A string is read as a value. -/
theorem readValue_stringText (s : List Char) {rest : List Char} (hrest : EndsString rest)
    (depth fuel : Nat) :
    readValue depth (fuel + 1) (stringText s ++ rest) = some (.string (String.ofList s), rest) := by
  have hread := readString_stringText s hrest
  obtain ⟨c, more, htext, hc⟩ := exists_stringText_cons s
  rw [htext, List.cons_append] at hread ⊢
  have hne : c ≠ 't' ∧ c ≠ 'f' ∧ c ≠ '[' ∧ c ≠ '\x7b' := by obtain rfl | rfl := hc <;> decide
  obtain ⟨htrue, hfalse, harray, htable⟩ := hne
  rw [readValue, if_pos (by simpa using hc), hread]
  · rfl
  · exact fun _ h => absurd h htrue
  · exact fun _ h => absurd h hfalse
  · exact harray
  · exact htable

theorem afterLine?_newline (rest : List Char) : afterLine? ('\n' :: rest) = some rest := rfl

/-- A header on a line of its own. -/
theorem readLines_header {name : String} (h : IsBare name) {d opened : Draft}
    (hopen : d.openTable [name] false = some opened) (fuel : Nat) (rest : List Char) :
    readLines (fuel + 1) d ('[' :: (name.toList ++ ']' :: '\n' :: rest)) =
      readLines fuel opened rest := by
  have hkey : readKey (name.toList ++ ']' :: '\n' :: rest) = some ([name], ']' :: '\n' :: rest) :=
    readKey_bare h (by decide) rfl (by decide)
  have hskip (text : List Char) : skipSpaces ('[' :: text) = '[' :: text := rfl
  rw [readLines, hskip]
  split
  · contradiction
  · -- a second bracket would be the first character of the name
    obtain ⟨c, more, hname, hc⟩ := h.exists_cons
    rename_i heq
    rw [hname] at heq
    exact absurd (List.cons.inj (List.cons.inj heq).2).1 (ne_of_isBareKeyChar hc (by decide))
  · obtain ⟨-, rfl⟩ := List.cons.inj ‹_›
    simp only [hkey, hopen, bind, Option.bind]
    rfl
  · rename_i hno heq
    obtain ⟨rfl, rfl⟩ := List.cons.inj heq
    exact (hno rfl).elim

/-- A field on a line of its own. -/
theorem readLines_field {key : String} (h : IsBare key) {value : List Char} {d added : Draft}
    (hadd : d.add [key] (.string (String.ofList value)) = some added) (fuel : Nat)
    (rest : List Char) :
    readLines (fuel + 1) d (key.toList ++ ' ' :: '=' :: ' ' :: (stringText value ++ '\n' :: rest)) =
      readLines fuel added rest := by
  have hkey : readKey (key.toList ++ ' ' :: '=' :: ' ' :: (stringText value ++ '\n' :: rest)) =
      some ([key], '=' :: ' ' :: (stringText value ++ '\n' :: rest)) :=
    readKey_bare h (by decide) rfl (by decide)
  have hspaces : skipSpaces (' ' :: (stringText value ++ '\n' :: rest)) =
      stringText value ++ '\n' :: rest := by
    obtain ⟨c, more, htext, hc⟩ := exists_stringText_cons value
    rw [htext]
    obtain rfl | rfl := hc <;> rfl
  obtain ⟨c, more, hname, hc⟩ := h.exists_cons
  have hbracket : c ≠ '[' := ne_of_isBareKeyChar hc (by decide)
  have hfirst : ¬(decide (c = '#') || decide (c = '\n') || decide (c = '\r')) = true := by
    have hcomment : c ≠ '#' := ne_of_isBareKeyChar hc (by decide)
    have hline : c ≠ '\n' := ne_of_isBareKeyChar hc (by decide)
    have hreturn : c ≠ '\r' := ne_of_isBareKeyChar hc (by decide)
    simp [hcomment, hline, hreturn]
  rw [hname, List.cons_append] at hkey ⊢
  rw [readLines, skipSpaces_bare hc]
  split
  · contradiction
  · exact absurd (List.cons.inj ‹_›).1 hbracket
  · exact absurd (List.cons.inj ‹_›).1 hbracket
  · obtain ⟨rfl, rfl⟩ := List.cons.inj ‹_›
    rw [if_neg hfirst]
    simp only [hkey, bind, Option.bind, after?, if_true, hspaces,
      readValue_stringText value (endsString_newline rest), hadd, afterLine?_newline]

end Toml

namespace Project

/-! ## 3. The manifest -/

/-- A line of a manifest. -/
def manifestLine (key value : String) : String :=
  key ++ " = " ++ String.ofList (Toml.stringText value.toList) ++ "\n"

/-- The text of the manifest of a module. -/
def manifestText (module : ModuleDescriptor) : String :=
  "[package]\n" ++ (manifestLine "org" module.organization ++ manifestLine "name" module.name ++
    manifestLine "version" module.version)

/-- What a manifest says of a module. -/
def manifestTable (module : ModuleDescriptor) : Toml :=
  .table [("package", .table [("org", .string module.organization),
    ("name", .string module.name), ("version", .string module.version)])]

theorem manifest_eq (module : ModuleDescriptor) : manifest module = .ok (manifestText module) := by
  have hline (key value : String) :
      Toml.fieldLine? (key, .string value) = some (manifestLine key value) := rfl
  have hjoin (a b c : String) : String.join [a, b, c] = a ++ b ++ c := by simp [String.join]
  have hheader : "[" ++ "package" ++ "]\n" = "[package]\n" := rfl
  have hsection : Toml.sectionText? ("package", [("org", .string module.organization),
      ("name", .string module.name), ("version", .string module.version)]) =
      some (manifestText module) := by
    rw [Toml.sectionText?, manifestText]
    simp only [List.mapM_cons, List.mapM_nil, hline, pure, bind, Option.bind, Option.map, hjoin,
      hheader]
  rw [manifest, Toml.render?]
  simp only [List.mapM_cons, List.mapM_nil, hsection, pure, bind, Option.bind, Option.map,
    String.intercalate_singleton]

theorem toList_manifestLine (key value : String) : (manifestLine key value).toList =
    key.toList ++ ' ' :: '=' :: ' ' :: (Toml.stringText value.toList ++ ['\n']) := by
  simp [manifestLine, String.toList_append]

/-- The manifest of a module says what the module is. -/
theorem parse?_manifestText (module : ModuleDescriptor) :
    Toml.parse? (manifestText module) = some (manifestTable module) := by
  have hheader : "[package]\n".toList = '[' :: ("package".toList ++ [']', '\n']) := rfl
  have hchars : (manifestText module).toList = '[' :: ("package".toList ++ ']' :: '\n' ::
      ("org".toList ++ ' ' :: '=' :: ' ' :: (Toml.stringText module.organization.toList ++ '\n' ::
      ("name".toList ++ ' ' :: '=' :: ' ' :: (Toml.stringText module.name.toList ++ '\n' ::
      ("version".toList ++ ' ' :: '=' :: ' ' :: (Toml.stringText module.version.toList ++
        '\n' :: []))))))) := by
    rw [manifestText, String.toList_append, String.toList_append, String.toList_append, hheader]
    simp only [toList_manifestLine, List.append_assoc, List.cons_append, List.nil_append]
  have hskip : Toml.skipMark (manifestText module).toList = (manifestText module).toList := by
    rw [hchars]
    rfl
  -- there are four lines, and no text has fewer characters than lines
  have hlines : 4 ≤ (manifestText module).toList.length := by
    rw [hchars]
    simp only [List.length_cons, List.length_append]
    omega
  obtain ⟨fuel, hfuel⟩ := Nat.exists_eq_add_of_le' hlines
  rw [Toml.parse?]
  simp only [hskip, hfuel]
  rw [hchars, Toml.readLines_header (by decide) rfl, Toml.readLines_field (by decide) rfl,
    Toml.readLines_field (by decide) rfl, Toml.readLines_field (by decide) rfl]
  simp only [String.ofList_toList]
  rfl

end Project

end GuidedSynthesis
