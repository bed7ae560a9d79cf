import GuidedSynthesis.Answer
import GuidedSynthesis.Proofs.Text.Search
/-!
The block of code in an answer.

`code?_fenced` says three things. Code that is put between fences is found again up to the blanks
around it, whatever the code holds, as long as the text before has no opening fence, the text after
has no closing one and does not go on with the closing one. There is no block only where there is no
opening fence or no closing fence after the first one. And a block lies between the first opening
fence and the last closing fence of the whole answer.

The closing fence is how the opening fence starts and consists of one character only, so both may
stand across the place where two texts meet. For the opening fence it helps that it has no border;
for the closing fence what follows it decides (`not_infix_of_ticks`).
-/

namespace GuidedSynthesis.Answer

open Text (StandsAt FirstAt LastAt)

/-! ## 1. The fences -/

/-- The character of which fences are made. -/
def tick : List Char := "`".toList

theorem unbordered_openingFence : Text.Unbordered openingFence := by decide

theorem closingFence_ne_nil : closingFence ≠ [] := by decide

/-- A closing fence and what comes after it hold no other closing fence if the latter holds none and
does not start with a tick. -/
theorem not_infix_of_ticks {after : List Char} (hafter : ¬ closingFence <:+: after)
    (htick : ¬ tick <+: after) : ¬ closingFence <:+: closingFence.tail ++ after := by
  rw [List.infix_append_iff]
  rintro (hinside | hlater | ⟨left, right, heq, hleft, hright⟩)
  · exact absurd hinside.length_le (by decide)
  · exact hafter hlater
  · -- the part of the fence that stands in the text after it consists of ticks
    have hshort : left.length ≤ 2 := hleft.length_le
    match left, hshort, heq with
    | [], _, heq => exact hafter (heq ▸ hright.isInfix)
    | [_], _, heq =>
      obtain ⟨-, rfl⟩ := List.cons.inj heq
      exact htick ((List.prefix_append tick tick).trans hright)
    | [_, _], _, heq =>
      obtain ⟨-, heq⟩ := List.cons.inj heq
      obtain ⟨-, rfl⟩ := List.cons.inj heq
      exact htick hright
    | _ :: _ :: _ :: _, hshort, _ => simp at hshort

/-! ## 2. Blocks -/

/-- How fences stand in a text, and the block that there is accordingly. -/
inductive Fenced : List Char → Option (List Char) → Prop where
  | unopened {text : List Char} (absent : ¬ openingFence <:+: text) : Fenced text none
  | unclosed {before rest : List Char}
      (opens : FirstAt openingFence (before ++ openingFence ++ rest) before.length)
      (absent : ¬ closingFence <:+: rest) : Fenced (before ++ openingFence ++ rest) none
  | closed {before code after : List Char}
      (opens : FirstAt openingFence
        (before ++ openingFence ++ (code ++ closingFence ++ after)) before.length)
      (closes : LastAt closingFence (code ++ closingFence ++ after) code.length) :
      Fenced (before ++ openingFence ++ (code ++ closingFence ++ after)) (some (Text.trim code))

theorem fenced_block? (text : List Char) : Fenced text (block? text) := by
  rw [block?]
  match hfirst : Text.splitFirst? openingFence text with
  | none => exact .unopened (Text.splitFirst?_eq_none_iff.mp hfirst)
  | some (before, rest) =>
    obtain ⟨rfl, hopens⟩ := Text.splitFirst?_eq_some_iff.mp hfirst
    simp only [Option.bind_eq_bind, Option.bind_some]
    match hlast : Text.splitLast? closingFence rest with
    | none => exact .unclosed hopens (Text.splitLast?_eq_none_iff.mp hlast)
    | some (code, after) =>
      obtain ⟨rfl, hcloses⟩ := (Text.splitLast?_eq_some_iff closingFence_ne_nil).mp hlast
      exact .closed hopens hcloses

theorem block?_of_closed {before code after : List Char}
    (opens : FirstAt openingFence
      (before ++ openingFence ++ (code ++ closingFence ++ after)) before.length)
    (closes : LastAt closingFence (code ++ closingFence ++ after) code.length) :
    block? (before ++ openingFence ++ (code ++ closingFence ++ after)) = some (Text.trim code) := by
  have hfirst := Text.splitFirst?_eq_some_iff.mpr ⟨rfl, opens⟩
  have hlast := (Text.splitLast?_eq_some_iff closingFence_ne_nil).mpr ⟨rfl, closes⟩
  simp only [block?, hfirst, hlast, Option.bind_eq_bind, Option.bind_some]

/-- A fenced code is found, whatever it holds itself. -/
theorem block?_fenced {before after : List Char} (hbefore : ¬ openingFence <:+: before)
    (hafter : ¬ closingFence <:+: after) (htick : ¬ tick <+: after) (code : List Char) :
    block? (before ++ openingFence ++ (code ++ closingFence ++ after)) = some (Text.trim code) :=
  block?_of_closed (Text.firstAt_of_unbordered unbordered_openingFence hbefore _)
    (Text.lastAt_of_not_infix (not_infix_of_ticks hafter htick) closingFence_ne_nil code)

theorem block?_eq_none_iff {text : List Char} : block? text = none ↔
    (∀ i, ¬ StandsAt openingFence text i) ∨
      ∃ i, FirstAt openingFence text i ∧
        ∀ j, i + openingFence.length ≤ j → ¬ StandsAt closingFence text j := by
  have hfenced := fenced_block? text
  generalize block? text = block at hfenced
  cases hfenced with
  | unopened absent => exact iff_of_true rfl (.inl fun i hi => absent hi.isInfix)
  | @unclosed before rest opens absent =>
    refine iff_of_true rfl (.inr ⟨before.length, opens, ?_⟩)
    intro j hj hcloses
    rw [← List.length_append] at hj
    exact absent ((Text.standsAt_append_iff _ hj).mp hcloses).isInfix
  | @closed before code after opens closes =>
    refine iff_of_false (by simp) ?_
    rintro (hnone | ⟨i, hi, hnone⟩)
    · exact hnone _ opens.1
    · obtain rfl := opens.eq hi
      refine hnone _ ?_ (closes.append_left (before ++ openingFence)).1
      rw [List.length_append]
      exact Nat.le_add_right _ _

/-- The block is what lies between the first opening fence and the last closing fence, and these
are in the text in this order. -/
theorem exists_of_block?_eq_some {text block : List Char} (h : block? text = some block) :
    ∃ i j, FirstAt openingFence text i ∧ LastAt closingFence text j ∧
      i + openingFence.length ≤ j ∧ j + closingFence.length ≤ text.length ∧
      block = Text.trim ((text.take j).drop (i + openingFence.length)) := by
  have hfenced := fenced_block? text
  rw [h] at hfenced
  cases hfenced with
  | @closed before code after opens closes =>
    have hlast := closes.append_left (before ++ openingFence)
    refine ⟨_, _, opens, hlast, ?_, hlast.1.add_length_le closingFence_ne_nil, ?_⟩
    · rw [List.length_append]
      exact Nat.le_add_right _ _
    · have hslice : ((before ++ openingFence ++ (code ++ closingFence ++ after)).take
          ((before ++ openingFence).length + code.length)).drop
          (before.length + openingFence.length) = code := by
        rw [List.append_assoc code, List.take_length_add_append, List.take_left,
          ← List.length_append, List.drop_left]
      rw [hslice]

/-! ## 3. Answers -/

theorem code?_eq_none_iff {text : String} : code? text = none ↔ block? text.toList = none := by
  rw [code?, Option.map_eq_none_iff]

/-- Code between fences is found again, whatever the code is, if no opening fence comes before and
no closing fence after it. There is no code just if there is no opening fence, or no closing fence
that starts where the first opening fence ends or later. And code is found between the first opening
fence and the last closing fence, which are in the text and in this order. -/
theorem code?_fenced :
    (∀ before code after : String, ¬ openingFence <:+: before.toList →
      ¬ closingFence <:+: after.toList → ¬ tick <+: after.toList →
      code? (before ++ "```ballerina" ++ code ++ "```" ++ after) = some (Text.trimmed code)) ∧
    (∀ text : String, code? text = none ↔
      (∀ i, ¬ StandsAt openingFence text.toList i) ∨
        ∃ i, FirstAt openingFence text.toList i ∧
          ∀ j, i + openingFence.length ≤ j → ¬ StandsAt closingFence text.toList j) ∧
    ∀ text code : String, code? text = some code →
      ∃ i j, FirstAt openingFence text.toList i ∧ LastAt closingFence text.toList j ∧
        i + openingFence.length ≤ j ∧ j + closingFence.length ≤ text.toList.length ∧
        code = Text.trimmed
          (String.ofList ((text.toList.take j).drop (i + openingFence.length))) := by
  refine ⟨?_, ?_, ?_⟩
  · intro before code after hbefore hafter htick
    have htext : (before ++ "```ballerina" ++ code ++ "```" ++ after).toList =
        before.toList ++ openingFence ++ (code.toList ++ closingFence ++ after.toList) := by
      simp only [String.toList_append, List.append_assoc]
      rfl
    rw [code?, htext, block?_fenced hbefore hafter htick]
    rfl
  · intro text
    rw [code?_eq_none_iff, block?_eq_none_iff]
  · intro text code h
    obtain ⟨block, hblock, rfl⟩ := Option.map_eq_some_iff.mp h
    obtain ⟨i, j, hopens, hcloses, hle, hlength, rfl⟩ := exists_of_block?_eq_some hblock
    refine ⟨i, j, hopens, hcloses, hle, hlength, ?_⟩
    rw [Text.trimmed, String.toList_ofList]

/-- A code with fences in it and a tick at its end, after a tick and before more ticks. -/
theorem code?_fenced_of_ticks :
    ¬ openingFence <:+: "So: `".toList ∧ ¬ closingFence <:+: " or ``x``.".toList ∧
      ¬ tick <+: " or ``x``.".toList ∧
      code? ("So: `" ++ "```ballerina" ++ "\nx ``` y\n```ballerina z`" ++ "```" ++ " or ``x``.") =
        some "x ``` y\n```ballerina z`" := by
  have hbefore : ¬ openingFence <:+: "So: `".toList := by decide
  have hafter : ¬ closingFence <:+: " or ``x``.".toList := by decide
  have htick : ¬ tick <+: " or ``x``.".toList := by decide
  have htrimmed : Text.trimmed "\nx ``` y\n```ballerina z`" = "x ``` y\n```ballerina z`" := by
    decide
  have hcode := code?_fenced.1 _ "\nx ``` y\n```ballerina z`" _ hbefore hafter htick
  rw [htrimmed] at hcode
  exact ⟨hbefore, hafter, htick, hcode⟩

end GuidedSynthesis.Answer
