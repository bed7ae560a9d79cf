import GuidedSynthesis.Failure
/-!
What contexts make of a failure.

Every failure is a cause in contexts, and it is that in one way only (`eq_inContexts_iff`). Contexts
do not touch what a failure is: its category and the answers to `isFatal` and `isConnection` are
those of the cause. They are written in front of the cause's text, the outermost first. And the
three ways to sort failures agree: what is fatal is what is of the category `configuration`, and
what came from the network is what is of the category `connection` (`classification_law`).

## How the proof goes

What is made of a failure in a context is made of what stands in the context, so by induction on the
failure all of it goes back to the cause (`eq_of_cause`); for the text the induction is on the list
of contexts (`message_inContexts`). That the ways to sort agree is settled constructor by
constructor, where a context has nothing to say.
-/

namespace GuidedSynthesis.Failure

/-! ## 1. Cause and contexts -/

/-- The failure inside all contexts. -/
def cause : Failure → Failure
  | withContext _ inner => inner.cause
  | failure => failure

/-- The contexts around a failure's cause, the outermost first. -/
def contexts : Failure → List String
  | withContext context inner => context :: inner.contexts
  | _ => []

/-- A failure put into contexts; the first one is the outermost. -/
def inContexts (contexts : List String) (failure : Failure) : Failure :=
  contexts.foldr withContext failure

/-- A failure without context. -/
def IsBare (failure : Failure) : Prop := ∀ context inner, failure ≠ withContext context inner

theorem inContexts_contexts (f : Failure) : inContexts f.contexts f.cause = f := by
  induction f with
  | withContext context inner ih =>
    show withContext context (inContexts inner.contexts inner.cause) = withContext context inner
    rw [ih]
  | _ => rfl

theorem isBare_cause (f : Failure) : f.cause.IsBare := by
  induction f with
  | withContext _ _ ih => exact ih
  | _ => exact fun _ _ => nofun

theorem IsBare.cause_eq {f : Failure} (h : f.IsBare) : f.cause = f := by
  cases f with
  | withContext context inner => exact absurd rfl (h context inner)
  | _ => rfl

theorem IsBare.contexts_eq {f : Failure} (h : f.IsBare) : f.contexts = [] := by
  cases f with
  | withContext context inner => exact absurd rfl (h context inner)
  | _ => rfl

theorem cause_inContexts (contexts : List String) (f : Failure) :
    (inContexts contexts f).cause = f.cause := by
  induction contexts with
  | nil => rfl
  | cons context contexts ih => exact ih

theorem contexts_inContexts (contexts : List String) (f : Failure) :
    (inContexts contexts f).contexts = contexts ++ f.contexts := by
  induction contexts with
  | nil => rfl
  | cons context contexts ih => exact congrArg (context :: ·) ih

/-- A failure is taken apart into contexts and a bare failure in one way only. -/
theorem eq_inContexts_iff {f inner : Failure} {contexts : List String} :
    inner.IsBare ∧ f = inContexts contexts inner ↔ inner = f.cause ∧ contexts = f.contexts := by
  constructor
  · rintro ⟨hbare, rfl⟩
    rw [cause_inContexts, contexts_inContexts, hbare.cause_eq, hbare.contexts_eq, List.append_nil]
    exact ⟨rfl, rfl⟩
  · rintro ⟨rfl, rfl⟩
    exact ⟨isBare_cause f, (inContexts_contexts f).symm⟩

/-! ## 2. What contexts leave and what they add -/

/-- What every context hands on is told by the cause. -/
theorem eq_of_cause {α : Type} {view : Failure → α}
    (hview : ∀ context inner, view (withContext context inner) = view inner) (f : Failure) :
    view f = view f.cause := by
  induction f with
  | withContext context inner ih => exact (hview context inner).trans ih
  | _ => rfl

theorem message_inContexts (contexts : List String) (f : Failure) :
    (inContexts contexts f).message = String.join (contexts.map (· ++ ": ")) ++ f.message := by
  induction contexts with
  | nil => simp [inContexts]
  | cons context contexts ih =>
    calc (inContexts (context :: contexts) f).message
        = context ++ ": " ++ (inContexts contexts f).message := rfl
      _ = context ++ ": " ++ (String.join (contexts.map (· ++ ": ")) ++ f.message) := by rw [ih]
      _ = String.join ((context :: contexts).map (· ++ ": ")) ++ f.message := by
        rw [List.map_cons, String.join_cons, ← String.append_assoc]

/-! ## 3. The three ways to sort failures -/

theorem Category.name_eq_iff {a b : Category} : a.name = b.name ↔ a = b := by
  cases a <;> cases b <;> decide

theorem isFatal_iff (f : Failure) : f.isFatal = true ↔ f.category = .configuration := by
  induction f with
  | withContext _ _ ih => exact ih
  | _ => simp [isFatal, category]

theorem isConnection_iff (f : Failure) : f.isConnection = true ↔ f.category = .connection := by
  induction f with
  | withContext _ _ ih => exact ih
  | _ => simp [isConnection, category]

/-- A failure is contexts around a cause, in one way only. It is sorted as its cause is; what is
fatal is what is named a configuration error and what came from the network is what is named a
connection error; and its text is the contexts, the outermost first and each with a colon and a
blank after it, and then the text of the cause. -/
theorem classification_law (f : Failure) :
    (∀ contexts inner, inner.IsBare ∧ f = inContexts contexts inner ↔
      inner = f.cause ∧ contexts = f.contexts) ∧
    f.category = f.cause.category ∧
    f.isFatal = f.cause.isFatal ∧
    f.isConnection = f.cause.isConnection ∧
    (f.isFatal = true ↔ f.category.name = "ConfigurationError") ∧
    (f.isConnection = true ↔ f.category.name = "ConnectionError") ∧
    f.message = String.join (f.contexts.map (· ++ ": ")) ++ f.cause.message := by
  refine ⟨fun _ _ => eq_inContexts_iff, ?_, ?_, ?_, ?_, ?_, ?_⟩
  · exact eq_of_cause (fun _ _ => rfl) f
  · exact eq_of_cause (fun _ _ => rfl) f
  · exact eq_of_cause (fun _ _ => rfl) f
  · exact (isFatal_iff f).trans Category.name_eq_iff.symm
  · exact (isConnection_iff f).trans Category.name_eq_iff.symm
  · rw [← message_inContexts, inContexts_contexts]

end GuidedSynthesis.Failure
