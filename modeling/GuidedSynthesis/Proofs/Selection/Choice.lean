import GuidedSynthesis.Proofs.Text.Trim
import GuidedSynthesis.Selection
/-!
Which service the variables choose.

A variable counts as set when it is not blank, and what counts is its value without the blanks
around it (`present?_eq_some_iff`). The services come in a fixed order. The first one for which any
variable is set is the one that is chosen, or the choice fails for want of its other variables or of
a URL; it never falls through to a later service (`choice_law`).

## How the proof goes

The choice looks at no variable that it does not ask for, and of those only at what counts
(`ofEnvironment_congr`). The two groups, one of four variables and one of two, are decided alike:
either a variable is not set (`groupOutcome_incomplete`), or all are and the URL decides
(`groupOutcome_given`).
-/

namespace GuidedSynthesis

/-! ## 1. What counts of a variable -/

theorem Environment.present?_eq_some_iff {environment : Environment} {name value : String} :
    environment.present? name = some value ↔
      ∃ raw, environment name = some raw ∧ Text.IsCore raw.toList value.toList ∧ value ≠ "" := by
  have htrimmed (raw : String) : Text.trimmed raw = value ↔ Text.IsCore raw.toList value.toList := by
    rw [← Text.trim_eq_iff, Text.trimmed, ← String.toList_inj, String.toList_ofList]
  rw [Environment.present?, Option.filter_eq_some_iff]
  simp only [Option.map_eq_some_iff, htrimmed, decide_eq_true_eq]
  constructor
  · rintro ⟨⟨raw, hraw, hcore⟩, hvalue⟩
    exact ⟨raw, hraw, hcore, hvalue⟩
  · rintro ⟨raw, hraw, hcore, hvalue⟩
    exact ⟨⟨raw, hraw, hcore⟩, hvalue⟩

theorem Environment.present?_congr {environment other : Environment} {name : String}
    (h : other name = environment name) : other.present? name = environment.present? name := by
  simp only [Environment.present?, h]

namespace Selection

section Asked

variable {environment other : Environment}

theorem anyPresent_congr {names : List String}
    (h : ∀ name ∈ names, other.present? name = environment.present? name) :
    anyPresent other names = anyPresent environment names := by
  induction names with
  | nil => rfl
  | cons name names ih =>
    have hname := h name List.mem_cons_self
    have hrest := ih fun n hn => h n (List.mem_cons_of_mem _ hn)
    simp only [anyPresent, List.any_cons] at hrest ⊢
    rw [hname, hrest]

theorem missing_congr {names : List String}
    (h : ∀ name ∈ names, other.present? name = environment.present? name) :
    missing other names = missing environment names := by
  refine List.filter_congr fun name hname => ?_
  rw [h name hname]

theorem azure_congr (h : ∀ name ∈ azureNames, other.present? name = environment.present? name) :
    azure other = azure environment := by
  simp only [azure, incomplete, missing_congr h, h azureToken (by simp [azureNames]),
    h azureDeploymentId (by simp [azureNames]), h azureApiVersion (by simp [azureNames]),
    h azureServiceUrl (by simp [azureNames])]

theorem codeService_congr
    (h : ∀ name ∈ copilotNames, other.present? name = environment.present? name) :
    codeService other = codeService environment := by
  simp only [codeService, incomplete, missing_congr h, h copilotUrl (by simp [copilotNames]),
    h copilotToken (by simp [copilotNames])]

/-- The choice rests on what counts of the variables that are asked for, and on nothing else. -/
theorem ofEnvironment_congr
    (h : ∀ name ∈ asked environment, other.present? name = environment.present? name) :
    ofEnvironment other = ofEnvironment environment := by
  have htoken := h anthropicToken List.mem_cons_self
  unfold ofEnvironment
  rw [htoken]
  cases hanthropic : environment.present? anthropicToken with
  | some token => rfl
  | none =>
    simp only [asked, hanthropic, List.mem_cons, List.mem_append, forall_eq_or_imp] at h
    obtain ⟨-, h⟩ := h
    have hazure : ∀ name ∈ azureNames, other.present? name = environment.present? name :=
      fun name hname => h name (.inl hname)
    simp only [anyPresent_congr hazure, azure_congr hazure]
    split
    · rfl
    · rename_i hnone
      rw [if_neg hnone] at h
      rw [h openaiToken (.inr List.mem_cons_self)]
      cases hpresent : environment.present? openaiToken with
      | some token => rfl
      | none =>
        have hcopilot : ∀ name ∈ copilotNames, other.present? name = environment.present? name := by
          intro name hname
          refine h name (.inr ?_)
          rw [hpresent]
          exact List.mem_cons_of_mem _ hname
        simp only [anyPresent_congr hcopilot, codeService_congr hcopilot]

/-- All variables, in the order in which they are asked for. -/
def allNames : List String := anthropicToken :: azureNames ++ openaiToken :: copilotNames

theorem asked_prefix_allNames (environment : Environment) : asked environment <+: allNames := by
  unfold asked
  split
  · exact ⟨azureNames ++ openaiToken :: copilotNames, rfl⟩
  · split
    · exact ⟨openaiToken :: copilotNames, rfl⟩
    · split
      · exact ⟨copilotNames, rfl⟩
      · exact ⟨[], rfl⟩

end Asked

/-! ## 2. Groups -/

/-- What comes of a group of variables. The failure for want of variables names those that are not
set, and a group in which all are set fails only if what it gives as a URL is none. -/
inductive GroupOutcome (environment : Environment) (service : String) (names : List String)
    (urlName : String) (choice : (String → String) → Selection) : Result Selection → Prop where
  | incomplete {lacking : List String} (nonempty : lacking ≠ []) (order : lacking.Sublist names)
      (exact : ∀ name, name ∈ lacking ↔ name ∈ names ∧ environment.present? name = none) :
      GroupOutcome environment service names urlName choice
        (.error (.configuration (.incomplete service lacking)))
  | noUrl {value : String → String} {fault : Url.Fault}
      (given : ∀ name ∈ names, environment.present? name = some (value name))
      (refused : Url.parse? (value urlName) = .error fault) :
      GroupOutcome environment service names urlName choice
        (.error (.configuration (.invalidUrl urlName fault)))
  | chosen {value : String → String} {url : Url}
      (given : ∀ name ∈ names, environment.present? name = some (value name))
      (parsed : Url.parse? (value urlName) = .ok url) :
      GroupOutcome environment service names urlName choice (.ok (choice value))

section Groups

variable {environment : Environment} {service urlName : String} {names : List String}
  {choice : (String → String) → Selection}

theorem groupOutcome_incomplete (h : ∃ name ∈ names, environment.present? name = none) :
    GroupOutcome environment service names urlName choice
      (.error (Selection.incomplete service environment names)) := by
  obtain ⟨name, hname, hnone⟩ := h
  have hmissing (name : String) : name ∈ missing environment names ↔
      name ∈ names ∧ environment.present? name = none := by
    rw [missing, List.mem_filter, Option.isNone_iff_eq_none]
  refine .incomplete ?_ List.filter_sublist hmissing
  exact List.ne_nil_of_mem ((hmissing name).mpr ⟨hname, hnone⟩)

theorem groupOutcome_given {value : String → String}
    (given : ∀ name ∈ names, environment.present? name = some (value name)) :
    GroupOutcome environment service names urlName choice (do
      checkUrl urlName (value urlName)
      .ok (choice value)) := by
  cases hparse : Url.parse? (value urlName) with
  | ok url =>
    have hcheck : checkUrl urlName (value urlName) = .ok () := by rw [checkUrl, hparse]
    rw [hcheck]
    exact .chosen given hparse
  | error fault =>
    have hcheck : checkUrl urlName (value urlName) =
        .error (.configuration (.invalidUrl urlName fault)) := by rw [checkUrl, hparse]
    rw [hcheck]
    exact .noUrl given hparse

/-- In a group all variables are set, or one is not. -/
theorem given_or_lacking (environment : Environment) (names : List String) :
    (∃ value : String → String, ∀ name ∈ names, environment.present? name = some (value name)) ∨
      ∃ name ∈ names, environment.present? name = none := by
  by_cases h : ∃ name ∈ names, environment.present? name = none
  · exact .inr h
  · refine .inl ⟨fun name => (environment.present? name).getD "", fun name hname => ?_⟩
    cases hpresent : environment.present? name with
    | none => exact absurd ⟨name, hname, hpresent⟩ h
    | some value => simp only [hpresent, Option.getD_some]

/-- The deployment that the group of four describes. -/
def ofAzure (value : String → String) : Selection :=
  .azureOpenai (value azureToken)
    ⟨value azureServiceUrl, value azureDeploymentId, value azureApiVersion⟩

/-- The code service that the group of two describes. -/
def ofCopilot (value : String → String) : Selection :=
  .copilot (value copilotUrl) (value copilotToken)

theorem groupOutcome_azure (environment : Environment) :
    GroupOutcome environment "Azure OpenAI" azureNames azureServiceUrl ofAzure
      (azure environment) := by
  rcases given_or_lacking environment azureNames with ⟨value, given⟩ | lacking
  · have hazure : azure environment = (do
        checkUrl azureServiceUrl (value azureServiceUrl)
        .ok (ofAzure value)) := by
      simp only [azure, given azureToken (by simp [azureNames]),
        given azureDeploymentId (by simp [azureNames]), given azureApiVersion (by simp [azureNames]),
        given azureServiceUrl (by simp [azureNames]), ofAzure]
    rw [hazure]
    exact groupOutcome_given given
  · have hazure : azure environment = .error (incomplete "Azure OpenAI" environment azureNames) := by
      unfold azure
      split
      · rename_i h₁ h₂ h₃ h₄
        simp [azureNames, h₁, h₂, h₃, h₄] at lacking
      · rfl
    rw [hazure]
    exact groupOutcome_incomplete lacking

theorem groupOutcome_codeService (environment : Environment) :
    GroupOutcome environment "Ballerina Copilot" copilotNames copilotUrl ofCopilot
      (codeService environment) := by
  rcases given_or_lacking environment copilotNames with ⟨value, given⟩ | lacking
  · have hservice : codeService environment = (do
        checkUrl copilotUrl (value copilotUrl)
        .ok (ofCopilot value)) := by
      simp only [codeService, given copilotUrl (by simp [copilotNames]),
        given copilotToken (by simp [copilotNames]), ofCopilot]
    rw [hservice]
    exact groupOutcome_given given
  · have hservice : codeService environment =
        .error (incomplete "Ballerina Copilot" environment copilotNames) := by
      unfold codeService
      split
      · rename_i h₁ h₂
        simp [copilotNames, h₁, h₂] at lacking
      · rfl
    rw [hservice]
    exact groupOutcome_incomplete lacking

end Groups

/-! ## 3. The choice -/

theorem anyPresent_iff {environment : Environment} {names : List String} :
    anyPresent environment names = true ↔ ∃ name ∈ names, environment.present? name ≠ none := by
  simp only [anyPresent, List.any_eq_true, Option.isSome_iff_ne_none]

/-- What the variables choose. -/
structure ChoiceLaw (environment : Environment) : Prop where
  /-- What counts of a variable is its value without the blanks around it, if that is not empty. -/
  counts : ∀ name value, environment.present? name = some value ↔
    ∃ raw, environment name = some raw ∧ Text.IsCore raw.toList value.toList ∧ value ≠ ""
  anthropic : ∀ token, environment.present? anthropicToken = some token →
    ofEnvironment environment = .ok (.anthropic token)
  /-- Any variable of the group of four leads to its service or to a failure. -/
  azure : environment.present? anthropicToken = none →
    (∃ name ∈ azureNames, environment.present? name ≠ none) →
    GroupOutcome environment "Azure OpenAI" azureNames azureServiceUrl ofAzure
      (ofEnvironment environment)
  openai : environment.present? anthropicToken = none →
    (∀ name ∈ azureNames, environment.present? name = none) →
    ∀ token, environment.present? openaiToken = some token →
    ofEnvironment environment = .ok (.openai token)
  /-- Any variable of the group of two leads to its service or to a failure. -/
  copilot : environment.present? anthropicToken = none →
    (∀ name ∈ azureNames, environment.present? name = none) →
    environment.present? openaiToken = none →
    (∃ name ∈ copilotNames, environment.present? name ≠ none) →
    GroupOutcome environment "Ballerina Copilot" copilotNames copilotUrl ofCopilot
      (ofEnvironment environment)
  nothing : (∀ name ∈ allNames, environment.present? name = none) →
    ofEnvironment environment = .error (.configuration .noService)
  /-- Of all variables only what counts of them matters. -/
  unswayed : ∀ other : Environment,
    (∀ name ∈ allNames, other.present? name = environment.present? name) →
    ofEnvironment other = ofEnvironment environment
  /-- Variables of services that come later than the first one for which any is set do not matter at
  all: they are not asked for. -/
  precedence : ∀ other : Environment,
    (∀ name ∈ asked environment, other.present? name = environment.present? name) →
    ofEnvironment other = ofEnvironment environment

theorem choice_law (environment : Environment) : ChoiceLaw environment := by
  have hnone {names : List String} (h : ∀ name ∈ names, environment.present? name = none) :
      ¬ anyPresent environment names = true := by
    rw [anyPresent_iff]
    rintro ⟨name, hname, hpresent⟩
    exact hpresent (h name hname)
  refine ⟨?_, ?_, ?_, ?_, ?_, ?_, ?_, ?_⟩
  · intro name value
    exact Environment.present?_eq_some_iff
  · intro token htoken
    simp only [ofEnvironment, htoken]
  · intro htoken hazure
    simp only [ofEnvironment, htoken, anyPresent_iff.mpr hazure, if_true]
    exact groupOutcome_azure environment
  · intro htoken hazure token hopenai
    simp only [ofEnvironment, htoken, if_neg (hnone hazure), hopenai]
  · intro htoken hazure hopenai hcopilot
    simp only [ofEnvironment, htoken, if_neg (hnone hazure), hopenai, anyPresent_iff.mpr hcopilot,
      if_true]
    exact groupOutcome_codeService environment
  · intro h
    simp only [allNames, List.cons_append, List.mem_cons, List.mem_append, forall_eq_or_imp] at h
    obtain ⟨htoken, h⟩ := h
    have hazure : ∀ name ∈ azureNames, environment.present? name = none :=
      fun name hname => h name (.inl hname)
    have hcopilot : ∀ name ∈ copilotNames, environment.present? name = none :=
      fun name hname => h name (.inr (.inr hname))
    simp only [ofEnvironment, htoken, if_neg (hnone hazure), h openaiToken (.inr (.inl rfl)),
      if_neg (hnone hcopilot)]
  · intro other h
    exact ofEnvironment_congr fun name hname =>
      h name ((asked_prefix_allNames environment).subset hname)
  · intro other h
    exact ofEnvironment_congr h

/-- Two of four variables are set, and a later service has its token. -/
example : ofEnvironment (fun name =>
      if name = azureToken then some " key " else if name = azureApiVersion then some "v1"
      else if name = azureDeploymentId then some "  " else if name = openaiToken then some "sk"
      else none) =
    .error (.configuration (.incomplete "Azure OpenAI" [azureDeploymentId, azureServiceUrl])) := by
  rfl

end Selection

end GuidedSynthesis
