/-
Research over external providers: the cheapest first, within a budget of calls,
sources, tokens, cost and time.
-/
import Mathlib.Algebra.BigOperators.Group.List.Basic
import Mathlib.Algebra.Order.Ring.Rat
import Mathlib.Data.Finset.Basic
import Mathlib.Data.List.Sort
import Mathlib.Algebra.Order.Monoid.Unbundled.WithTop
import ShemaPlatform.Errors
import ShemaPlatform.PyText

namespace ShemaPlatform

/-- Seconds, possibly `inf`. -/
abbrev Seconds := WithTop ℚ

structure ResearchBudget where
  providerCalls : ℤ
  sourceCount : ℤ
  tokenBudget : ℤ
  apiCostLimit : ℚ
  timeBudgetSeconds : Seconds
  valid : 0 ≤ providerCalls ∧ 0 ≤ sourceCount ∧ 0 ≤ tokenBudget ∧ 0 ≤ timeBudgetSeconds ∧
    0 ≤ apiCostLimit

def ResearchBudget.new (providerCalls sourceCount tokenBudget : ℤ) (apiCostLimit : ℚ)
    (timeBudgetSeconds : Seconds) : Except Failure ResearchBudget :=
  if hcounts : 0 ≤ providerCalls ∧ 0 ≤ sourceCount ∧ 0 ≤ tokenBudget ∧
      0 ≤ timeBudgetSeconds then
    if hcost : 0 ≤ apiCostLimit then
      .ok ⟨providerCalls, sourceCount, tokenBudget, apiCostLimit, timeBudgetSeconds,
        hcounts.1, hcounts.2.1, hcounts.2.2.1, hcounts.2.2.2, hcost⟩
    else .error (.valueError "api_cost_limit must be finite and non-negative")
  else .error (.valueError "research budget values cannot be negative")

structure ProviderCapability where
  providerId : String
  sourceClass : String
  coverage : Finset String
  costPerCall : ℚ
  maxRequestsPerSecond : ℚ
  estimatedTokensPerCall : ℤ := 0
  estimatedLatencySeconds : Seconds := 0
  healthy : Bool := true
  valid : PyText.blank providerId = false ∧ PyText.blank sourceClass = false ∧
    0 ≤ costPerCall ∧ 0 < maxRequestsPerSecond ∧ 0 ≤ estimatedTokensPerCall ∧
    0 ≤ estimatedLatencySeconds

/-- What a provider has found and what it has used. -/
structure ProviderResult where
  providerId : String
  sourceClass : String
  claims : List String
  sourceRefs : List String
  confidence : ℚ
  cost : ℚ
  latencySeconds : ℚ
  tokens : ℤ := 0
  valid : PyText.blank providerId = false ∧ PyText.blank sourceClass = false ∧
    (0 ≤ confidence ∧ confidence ≤ 1) ∧ (0 ≤ cost ∧ 0 ≤ latencySeconds ∧ 0 ≤ tokens) ∧
    (∀ ref ∈ sourceRefs, PyText.blank ref = false) ∧ (claims ≠ [] → sourceRefs ≠ [])

/-- What a provider is asked. -/
structure ResearchQuery where
  query : String
  maxSources : ℤ
  timeoutSeconds : Seconds

/-- The readings of the monotonic clock, and what the provider at each place of the
waterfall answers or raises. -/
structure ResearchWorld where
  monotonic : ℕ → ℚ
  research : ℕ → ProviderCapability → ResearchQuery → Except Failure ProviderResult
  forward : Monotone monotonic

theorem ResearchWorld.forward_still : Monotone fun _ : ℕ => (0 : ℚ) :=
  monotone_const

namespace ProviderGateway

def allows (allowedSourceClasses : Option (Finset String)) (sourceClass : String) : Bool :=
  allowedSourceClasses.all fun classes => sourceClass ∈ classes

/-- The healthy providers of a topic in the order of their declared cost. -/
def select (providers : List ProviderCapability) (topic : String)
    (allowedSourceClasses : Option (Finset String)) : List ProviderCapability :=
  (providers.filter fun capability => capability.healthy && topic ∈ capability.coverage &&
    allows allowedSourceClasses capability.sourceClass).insertionSort
      fun first second => first.costPerCall ≤ second.costPerCall

/-- What the budget still has. -/
structure Remaining where
  calls : ℤ
  sources : ℤ
  tokens : ℤ
  cost : ℚ

def Remaining.ofBudget (budget : ResearchBudget) : Remaining :=
  ⟨budget.providerCalls, budget.sourceCount, budget.tokenBudget, budget.apiCostLimit⟩

def Remaining.spend (remaining : Remaining) (result : ProviderResult) : Remaining :=
  ⟨remaining.calls - 1, remaining.sources - result.sourceRefs.length,
    remaining.tokens - result.tokens, remaining.cost - result.cost⟩

/-- What becomes of the result of a call. -/
inductive Fate where
  | kept | discarded | raised
deriving DecidableEq

/-- A call with what the provider has reported. -/
structure Call where
  capability : ProviderCapability
  reply : Except Failure ProviderResult
  fate : Fate

/-- The cost that was reported. -/
def Call.cost (call : Call) : ℚ :=
  match call.reply with
  | .ok result => result.cost
  | .error _ => 0

/-- The calls that were made, and what `research` returns or raises. -/
structure Answer where
  calls : List Call
  outcome : Except Failure (List ProviderResult)

def Answer.after (call : Call) (answer : Answer) : Answer :=
  { answer with calls := call :: answer.calls }

/-- The checks of a result that raise. -/
def inspect (allowedSourceClasses : Option (Finset String))
    (capability : ProviderCapability) (maxSources : ℤ) (result : ProviderResult) :
    Except Failure Unit := do
  require (result.providerId == capability.providerId)
    (.valueError "provider result has mismatched provider_id")
  require (result.sourceClass == capability.sourceClass)
    (.valueError "provider result has mismatched source_class")
  require (allows allowedSourceClasses result.sourceClass)
    (.valueError "provider result uses a prohibited source class")
  require (decide (result.sourceRefs.length ≤ maxSources))
    (.valueError "provider exceeded requested source limit")

/-- The checks before a call that skip the provider. -/
def affords (remaining : Remaining) (remainingTime : Seconds)
    (capability : ProviderCapability) : Bool :=
  decide (capability.costPerCall ≤ remaining.cost) &&
    decide (capability.estimatedTokensPerCall ≤ remaining.tokens) &&
    decide (capability.estimatedLatencySeconds ≤ remainingTime)

/-- The checks after a call that drop its result. -/
def fits (remaining : Remaining) (remainingTime : Seconds) (result : ProviderResult) :
    Bool :=
  decide (result.cost ≤ remaining.cost) && decide (result.tokens ≤ remaining.tokens) &&
    decide ((result.latencySeconds : Seconds) ≤ remainingTime)

section Waterfall

variable (world : ResearchWorld) (query : String)
  (allowedSourceClasses : Option (Finset String)) (deadline : Seconds)

/-- The time that is left when the provider at this place comes to its turn. -/
def remainingTime (place : ℕ) : Seconds :=
  deadline.map fun deadline => deadline - world.monotonic (place + 1)

/-- The loop of `research`, from a place of the selection on. -/
def waterfall : ℕ → List ProviderCapability → Remaining → List ProviderResult → Answer
  | _, [], _, results => ⟨[], .ok results⟩
  | place, capability :: rest, remaining, results =>
      let remainingTime := remainingTime world deadline place
      if remaining.calls ≤ 0 ∨ remaining.sources ≤ 0 ∨ remainingTime ≤ 0 then
        ⟨[], .ok results⟩
      else if affords remaining remainingTime capability then
        let maxSources := min remaining.sources 10
        match world.research place capability ⟨query, maxSources, remainingTime⟩ with
        | .error error => ⟨[⟨capability, .error error, .raised⟩], .error error⟩
        | .ok result =>
            match inspect allowedSourceClasses capability maxSources result with
            | .error error => ⟨[⟨capability, .ok result, .raised⟩], .error error⟩
            | .ok () =>
                if fits remaining remainingTime result then
                  (waterfall (place + 1) rest (remaining.spend result)
                    (results ++ [result])).after ⟨capability, .ok result, .kept⟩
                else
                  -- nothing is counted for a result that is dropped
                  (waterfall (place + 1) rest remaining results).after
                    ⟨capability, .ok result, .discarded⟩
      else waterfall (place + 1) rest remaining results

end Waterfall

def research (world : ResearchWorld) (query topic : String)
    (providers : List ProviderCapability) (budget : ResearchBudget)
    (allowedSourceClasses : Option (Finset String)) : Answer :=
  waterfall world query allowedSourceClasses
    (budget.timeBudgetSeconds.map fun seconds => world.monotonic 0 + seconds) 0
    (select providers topic allowedSourceClasses) (.ofBudget budget) []

end ProviderGateway

end ShemaPlatform
