import GuidedSynthesis.Diagnostic
/-!
What comes out of a generation: the code of one answer, and the outcome of a whole run.
-/

namespace GuidedSynthesis

/-- The code of an answer, with the descriptions of helper functions that came along with it. -/
structure GeneratedCode where
  code : String
  auxiliaryFunctions : Option Json
  deriving Repr

namespace GeneratedCode

/-- Another code with the same helper functions. -/
def withCode (g : GeneratedCode) (code : String) : GeneratedCode := { g with code }

def toJson (g : GeneratedCode) : Json :=
  .object [("code", .string g.code), ("auxiliaryFunctions", .ofOption id g.auxiliaryFunctions)]

def decode : Json.Decoder GeneratedCode := fun depth document => do
  let [code, auxiliary] ← document.slots? ["code", "auxiliaryFunctions"] depth | none
  some ⟨← code.required .text, ← auxiliary.optional .any⟩

instance : Json.Codec GeneratedCode := ⟨toJson, decode⟩

end GeneratedCode

/-- How far the repair has come: the repairs made and the diagnostics of the last validation. -/
structure RetryState where
  attempt : Nat
  diagnostics : List Diagnostic
  deriving DecidableEq, Repr

namespace RetryState

def start : RetryState := ⟨0, []⟩

def observe (s : RetryState) (diagnostics : List Diagnostic) : RetryState := { s with diagnostics }

/-- Counts a repair. -/
def advance (s : RetryState) : RetryState := { s with attempt := s.attempt + 1 }

/-- How many repairs may still be made. -/
def repairsLeft (s : RetryState) (ceiling : Nat) : Nat := ceiling - s.attempt

/-- May another repair be made? -/
def canRepair (s : RetryState) (ceiling : Nat) : Bool := s.attempt < ceiling

theorem canRepair_iff (s : RetryState) (ceiling : Nat) :
    s.canRepair ceiling = true ↔ 0 < s.repairsLeft ceiling := by
  simp only [canRepair, repairsLeft, decide_eq_true_eq]
  omega

end RetryState

/-- The result of a run that was not broken off. -/
structure GenerationOutcome where
  /-- The code of the last validation. -/
  code : String
  auxiliaryFunctions : Option Json
  repairAttempts : Nat
  /-- The diagnostics of the last validation. -/
  remaining : List Diagnostic
  deriving Repr

namespace GenerationOutcome

/-- The last validation found nothing. -/
def converged (o : GenerationOutcome) : Bool := o.remaining.isEmpty

def toJson (o : GenerationOutcome) : Json :=
  .object [("code", .string o.code), ("auxiliaryFunctions", .ofOption id o.auxiliaryFunctions),
    ("repairAttempts", .ofNat o.repairAttempts),
    ("remainingDiagnostics", .array (o.remaining.map Diagnostic.toJson))]

def decode : Json.Decoder GenerationOutcome := fun depth document => do
  let [code, auxiliary, attempts, remaining] ← document.slots?
    ["code", "auxiliaryFunctions", "repairAttempts", "remainingDiagnostics"] depth | none
  some ⟨← code.required .text, ← auxiliary.optional .any,
    ← attempts.required (.below (Nat.pow 2 64)), ← remaining.required (.list Diagnostic.decode)⟩

instance : Json.Codec GenerationOutcome := ⟨toJson, decode⟩

end GenerationOutcome

end GuidedSynthesis
