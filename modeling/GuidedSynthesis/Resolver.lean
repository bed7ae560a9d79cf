import GuidedSynthesis.Selection
/-!
A resolver chooses the model service when it is first needed and keeps it from then on.

A choice that fails, be it for the variables or for want of a client, leaves no trace, so the next
attempt sees the variables as they are then; after one that succeeds the variables are not asked for
again.
-/

namespace GuidedSynthesis

structure Resolver where
  settings : Settings
  prompts : Prompts
  /-- The service that was chosen. -/
  resolved : Option Service
  deriving DecidableEq, Repr

namespace Resolver

/-- A resolver with the bundled library reference. -/
def ofSettings (settings : Settings) : Resolver := ⟨settings, Prompts.bundled, none⟩

def withPrompts (r : Resolver) (prompts : Prompts) : Resolver := { r with prompts }

/-- Limits the library reference to the named libraries; no name at all keeps it as it is. -/
def withLibraries (r : Resolver) (catalog : Catalog) (names : List String) : Result Resolver :=
  if names.isEmpty then .ok r
  else
    (Prompts.ofCatalog catalog names r.settings.largeLibraryThreshold.toNat).map r.withPrompts

/-- Has the service been chosen? -/
def isResolved (r : Resolver) : Bool := r.resolved.isSome

/-- The service that the variables choose now, if there is a client for it. -/
def choose (r : Resolver) (environment : Environment) (clients : Clients := .all) :
    Result Service := do
  let selection ← Selection.ofEnvironment environment
  clients.check r.settings.timeoutMillis
  .ok (selection.service r.settings r.prompts)

/-- The service, chosen now if it has not been chosen before. -/
def get (r : Resolver) (environment : Environment) (clients : Clients := .all) :
    Result Service × Resolver :=
  match r.resolved with
  | some service => (.ok service, r)
  | none =>
    match r.choose environment clients with
    | .error failure => (.error failure, r)
    | .ok service => (.ok service, { r with resolved := some service })

/-- The names that `get` asks for. -/
def asked (r : Resolver) (environment : Environment) : List String :=
  if r.isResolved then [] else Selection.asked environment

def inspect (r : Resolver) : Inspection :=
  .record "ProviderFactory"
    [("resolved", .option (fun service => .word service.kind.tag) r.resolved)] true

end Resolver

end GuidedSynthesis
