import GuidedSynthesis.Proofs.Selection.Choice
import GuidedSynthesis.Resolver
/-!
The service is chosen once.

A resolver is asked for the service again and again, and what a call finds may be another each time:
the variables, and whether there is a client. Until a choice succeeds, every call gives what the
choice gives at that moment, and a failure leaves the resolver as it was made. The first choice that
succeeds is kept. Every later call gives that service, whatever it finds, and asks for no variable
(`get_after_calls`).

## How the proof goes

A resolver that holds a service keeps it, and any other keeps what it can choose (`next_eq`). So by
induction on the calls it holds the first service that could be chosen at any of them (`after_eq`).
That a call which asks for nothing cannot be swayed by the variables is a special case of
`get_congr`: no call is swayed by variables that it does not ask for.
-/

namespace GuidedSynthesis

namespace Resolver

/-! ## 1. Variables that are asked for -/

/-- No call is swayed by variables that it does not ask for. -/
theorem get_congr (r : Resolver) {environment other : Environment} (clients : Clients)
    (h : ∀ name ∈ r.asked environment, other name = environment name) :
    r.get other clients = r.get environment clients := by
  unfold get
  cases hresolved : r.resolved with
  | some service => rfl
  | none =>
    have hasked : r.asked environment = Selection.asked environment := by
      simp [asked, isResolved, hresolved]
    rw [hasked] at h
    have hchoice : Selection.ofEnvironment other = Selection.ofEnvironment environment :=
      Selection.ofEnvironment_congr fun name hname => Environment.present?_congr (h name hname)
    simp only [choose, hchoice]

/-! ## 2. Calls -/

/-- What a call for the service finds. -/
structure Moment where
  environment : Environment
  clients : Clients

/-- What the choice would be at a moment. -/
def choiceAt (r : Resolver) (m : Moment) : Result Service := r.choose m.environment m.clients

/-- The call at a moment. -/
def getAt (r : Resolver) (m : Moment) : Result Service × Resolver := r.get m.environment m.clients

/-- The resolver after a call at each of some moments. -/
def after (r : Resolver) (calls : List Moment) : Resolver :=
  calls.foldl (fun r m => (r.getAt m).2) r

/-- No service can be chosen at a moment. -/
def FailsAt (r : Resolver) (m : Moment) : Prop := ∃ failure, r.choiceAt m = .error failure

/-- The first service that can be chosen at some moments. -/
def firstChoice? (r : Resolver) (calls : List Moment) : Option Service :=
  calls.findSome? fun m => (r.choiceAt m).toOption

variable {r : Resolver} {m : Moment} {calls : List Moment} {service : Service}

/-- The choice does not rest on the service that is held. -/
theorem firstChoice?_resolved (r : Resolver) (resolved : Option Service)
    (calls : List Moment) : ({ r with resolved } : Resolver).firstChoice? calls =
      r.firstChoice? calls := rfl

theorem firstChoice?_of_fails (h : ∀ m ∈ calls, r.FailsAt m) : r.firstChoice? calls = none := by
  refine List.findSome?_eq_none_iff.mpr fun m hm => ?_
  obtain ⟨failure, hfails⟩ := h m hm
  rw [hfails]
  rfl

theorem firstChoice?_of_first {start rest : List Moment} (hstart : ∀ m ∈ start, r.FailsAt m)
    (hfirst : r.choiceAt m = .ok service) :
    r.firstChoice? (start ++ m :: rest) = some service := by
  have hnone := firstChoice?_of_fails hstart
  unfold firstChoice? at hnone ⊢
  rw [List.findSome?_append, hnone, Option.none_or, List.findSome?_cons_of_isSome] <;>
    simp [hfirst, Except.toOption]

theorem isSome_firstChoice?_iff :
    (r.firstChoice? calls).isSome = true ↔ ∃ m ∈ calls, ∃ service, r.choiceAt m = .ok service := by
  rw [firstChoice?, List.isSome_findSome?, List.any_eq_true]
  refine exists_congr fun m => and_congr_right fun _ => ?_
  cases r.choiceAt m <;> simp [Except.toOption]

/-- A call keeps the service that is held; if there is none, it keeps what it can choose. -/
theorem next_eq (r : Resolver) (m : Moment) :
    (r.getAt m).2 = { r with resolved := r.resolved.or (r.choiceAt m).toOption } := by
  obtain ⟨settings, prompts, resolved⟩ := r
  cases resolved with
  | some service => rfl
  | none =>
    unfold getAt get choiceAt
    cases choose _ m.environment m.clients <;> rfl

/-- After some calls the resolver holds what it held before or, if that is nothing, the first
service that could be chosen. -/
theorem after_eq (r : Resolver) (calls : List Moment) :
    r.after calls = { r with resolved := r.resolved.or (r.firstChoice? calls) } := by
  induction calls generalizing r with
  | nil =>
    show r = _
    rw [firstChoice?, List.findSome?_nil, Option.or_none]
  | cons m calls ih =>
    show ((r.getAt m).2).after calls = _
    rw [ih, next_eq, firstChoice?_resolved, Option.or_assoc]
    congr 2
    simp only [firstChoice?, List.findSome?_cons]
    cases (r.choiceAt m).toOption <;> rfl

/-! ## 3. The law of a call -/

/-- What holds of a call that a resolver gets after some others, when it was `fresh` before all of
them. -/
structure OnceLaw (fresh : Resolver) (earlier : List Moment) (now : Moment) : Prop where
  /-- A choice that fails is the result, and leaves the resolver as it was made. -/
  failed : (∀ m ∈ earlier, fresh.FailsAt m) → ∀ failure, fresh.choiceAt now = .error failure →
    (fresh.after earlier).getAt now = (.error failure, fresh)
  /-- The first choice that succeeds is the result, and is kept. -/
  chosen : (∀ m ∈ earlier, fresh.FailsAt m) → ∀ service, fresh.choiceAt now = .ok service →
    (fresh.after earlier).getAt now = (.ok service, { fresh with resolved := some service })
  /-- What was chosen first is the result of every later call, and the call asks for nothing. -/
  kept : ∀ start first rest service, earlier = start ++ first :: rest →
    (∀ m ∈ start, fresh.FailsAt m) → fresh.choiceAt first = .ok service →
    (fresh.after earlier).getAt now = (.ok service, { fresh with resolved := some service }) ∧
      (fresh.after earlier).asked now.environment = []
  isResolved : (fresh.after earlier).isResolved = true ↔
    ∃ m ∈ earlier, ∃ service, fresh.choiceAt m = .ok service
  /-- What a call does not ask for does not sway it. -/
  consulted : ∀ environment : Environment,
    (∀ name ∈ (fresh.after earlier).asked now.environment,
      environment name = now.environment name) →
    (fresh.after earlier).getAt { now with environment } = (fresh.after earlier).getAt now

theorem getAt_of_unresolved (h : r.resolved = none) :
    r.getAt m = (r.choiceAt m, { r with resolved := (r.choiceAt m).toOption }) := by
  have hnext := next_eq r m
  rw [h, Option.none_or] at hnext
  refine Prod.ext ?_ hnext
  unfold getAt get choiceAt
  rw [h]
  cases r.choose m.environment m.clients <;> rfl

theorem getAt_of_resolved (h : r.resolved = some service) : r.getAt m = (.ok service, r) := by
  unfold getAt get
  rw [h]

/-- The law of every call on a resolver, whatever is found at this call and at those before it. -/
theorem get_after_calls (settings : Settings) (prompts : Prompts) (earlier : List Moment)
    (now : Moment) : OnceLaw ⟨settings, prompts, none⟩ earlier now := by
  have hafter := after_eq ⟨settings, prompts, none⟩ earlier
  rw [Option.none_or] at hafter
  refine ⟨?_, ?_, ?_, ?_, ?_⟩
  · intro hfails failure hnow
    rw [hafter, firstChoice?_of_fails hfails, getAt_of_unresolved rfl, hnow]
    rfl
  · intro hfails service hnow
    rw [hafter, firstChoice?_of_fails hfails, getAt_of_unresolved rfl, hnow]
    rfl
  · rintro start first rest service rfl hstart hfirst
    rw [hafter, firstChoice?_of_first hstart hfirst]
    exact ⟨getAt_of_resolved rfl, rfl⟩
  · rw [hafter]
    exact isSome_firstChoice?_iff
  · intro environment hagree
    exact get_congr _ now.clients hagree

/-- No variable is set, then one, then another that would win if nothing had been chosen. -/
example :
    let nothing : Moment := ⟨fun _ => none, .all⟩
    let openai : Moment :=
      ⟨fun name => if name = Selection.openaiToken then some "a" else none, .all⟩
    let anthropic : Moment := ⟨fun _ => some "b", .all⟩
    let r : Resolver := .ofSettings .default
    [r.getAt nothing, (r.after [nothing]).getAt openai,
        (r.after [nothing, openai]).getAt anthropic].map
      (fun call => (call.1.toOption.map Service.kind, call.2.isResolved)) =
    [(none, false), (some .openai, true), (some .openai, true)] := by
  decide

end Resolver

end GuidedSynthesis
