/-
What research spends of its budget, whatever the providers answer.
-/
import Mathlib.Algebra.Order.BigOperators.Group.List
import Mathlib.Tactic.Linarith
import ShemaPlatform.Research

namespace ShemaPlatform

namespace ProviderGateway

/-- The results of the calls that were kept. -/
def keptResults (calls : List Call) : List ProviderResult :=
  calls.filterMap fun call => if call.fate = .kept then call.reply.toOption else none

/-- The bounds that a budget promises. -/
structure Within (budget : ResearchBudget) (allowedSourceClasses : Option (Finset String))
    (answer : Answer) : Prop where
  calls : (answer.calls.length : ℤ) ≤ budget.providerCalls
  cost : (∀ call ∈ answer.calls, ∀ result, call.reply = .ok result →
      result.cost ≤ call.capability.costPerCall) →
    (answer.calls.map Call.cost).sum ≤ budget.apiCostLimit
  tokens : ∀ results, answer.outcome = .ok results →
    (results.map ProviderResult.tokens).sum ≤ budget.tokenBudget
  sources : ∀ results, answer.outcome = .ok results →
    (results.map fun result => (result.sourceRefs.length : ℤ)).sum ≤ budget.sourceCount
  classes : ∀ results, answer.outcome = .ok results → ∀ result ∈ results,
    allows allowedSourceClasses result.sourceClass = true

/-- What the whole budget would afford. -/
def callable (budget : ResearchBudget) (capability : ProviderCapability) : Bool :=
  affords (.ofBudget budget) budget.timeBudgetSeconds capability

/-- The budget pays for every provider that it affords, one after the other. -/
def Covers (budget : ResearchBudget) (selected : List ProviderCapability) : Prop :=
  budget.providerCalls = 0 ∨ budget.sourceCount = 0 ∨ budget.timeBudgetSeconds = 0 ∨
    (((selected.filter (callable budget)).length : ℤ) ≤ budget.providerCalls ∧
      ((selected.filter (callable budget)).map ProviderCapability.costPerCall).sum ≤
        budget.apiCostLimit)

section Loop

variable {world : ResearchWorld} {query : String}
  {allowedSourceClasses : Option (Finset String)} {deadline : Seconds}

theorem inspect_eq_ok {capability : ProviderCapability} {maxSources : ℤ}
    {result : ProviderResult} :
    inspect allowedSourceClasses capability maxSources result = .ok () ↔
      result.providerId = capability.providerId ∧
        result.sourceClass = capability.sourceClass ∧
        allows allowedSourceClasses result.sourceClass = true ∧
        (result.sourceRefs.length : ℤ) ≤ maxSources := by
  simp only [inspect, bind_eq_ok, require_eq_ok, beq_iff_eq, decide_eq_true_eq,
    exists_const]

/-- What happens at a place of the waterfall. -/
inductive Turn (world : ResearchWorld) (query : String)
    (allowedSourceClasses : Option (Finset String)) (deadline : Seconds) (place : ℕ)
    (capability : ProviderCapability) (rest : List ProviderCapability)
    (remaining : Remaining) (results : List ProviderResult) : Answer → Prop where
  | stopped : Turn world query allowedSourceClasses deadline place capability rest remaining
      results ⟨[], .ok results⟩
  | skipped : Turn world query allowedSourceClasses deadline place capability rest remaining
      results (waterfall world query allowedSourceClasses deadline (place + 1) rest remaining
        results)
  | raised (reply : Except Failure ProviderResult) (error : Failure)
      (hcalls : 0 < remaining.calls)
      (hafford : affords remaining (remainingTime world deadline place) capability = true) :
      Turn world query allowedSourceClasses deadline place capability rest remaining results
        ⟨[⟨capability, reply, .raised⟩], .error error⟩
  | discarded (result : ProviderResult) (hcalls : 0 < remaining.calls)
      (hafford : affords remaining (remainingTime world deadline place) capability = true) :
      Turn world query allowedSourceClasses deadline place capability rest remaining results
        ((waterfall world query allowedSourceClasses deadline (place + 1) rest remaining
          results).after ⟨capability, .ok result, .discarded⟩)
  | kept (result : ProviderResult) (hcalls : 0 < remaining.calls)
      (hafford : affords remaining (remainingTime world deadline place) capability = true)
      (hsources : (result.sourceRefs.length : ℤ) ≤ remaining.sources)
      (hcost : result.cost ≤ remaining.cost) (htokens : result.tokens ≤ remaining.tokens)
      (hallowed : allows allowedSourceClasses result.sourceClass = true) :
      Turn world query allowedSourceClasses deadline place capability rest remaining results
        ((waterfall world query allowedSourceClasses deadline (place + 1) rest
          (remaining.spend result) (results ++ [result])).after
            ⟨capability, .ok result, .kept⟩)

variable (world query allowedSourceClasses deadline) in
theorem waterfall_cons (place : ℕ) (capability : ProviderCapability)
    (rest : List ProviderCapability) (remaining : Remaining)
    (results : List ProviderResult) :
    Turn world query allowedSourceClasses deadline place capability rest remaining results
      (waterfall world query allowedSourceClasses deadline place (capability :: rest)
        remaining results) := by
  rw [waterfall]
  by_cases hstop : remaining.calls ≤ 0 ∨ remaining.sources ≤ 0 ∨
      remainingTime world deadline place ≤ 0
  · rw [if_pos hstop]
    exact .stopped
  · rw [if_neg hstop]
    simp only [not_or, not_le] at hstop
    by_cases hafford : affords remaining (remainingTime world deadline place) capability = true
    · rw [if_pos hafford]
      dsimp only
      cases hreply : world.research place capability
          ⟨query, min remaining.sources 10, remainingTime world deadline place⟩ with
      | error error => exact .raised _ _ hstop.1 hafford
      | ok result =>
          simp only
          cases hinspect : inspect allowedSourceClasses capability
              (min remaining.sources 10) result with
          | error error => exact .raised (.ok result) error hstop.1 hafford
          | ok checked =>
              obtain ⟨_, _, hallowed, hsources⟩ := inspect_eq_ok.mp hinspect
              simp only
              by_cases hfits : fits remaining (remainingTime world deadline place) result = true
              · rw [if_pos hfits]
                simp only [fits, Bool.and_eq_true, decide_eq_true_eq] at hfits
                exact .kept result hstop.1 hafford (hsources.trans (min_le_left _ _))
                  hfits.1.1 hfits.1.2 hallowed
              · rw [if_neg hfits]
                exact .discarded result hstop.1 hafford
    · rw [if_neg hafford]
      exact .skipped

/-- What the calls that are still made leave of what remained. -/
structure Spends (allowedSourceClasses : Option (Finset String)) (remaining : Remaining)
    (results : List ProviderResult) (answer : Answer) : Prop where
  outcome : ∀ kept, answer.outcome = .ok kept → kept = results ++ keptResults answer.calls
  tokens : 0 ≤ remaining.tokens →
    ((keptResults answer.calls).map ProviderResult.tokens).sum ≤ remaining.tokens
  sources : 0 ≤ remaining.sources →
    ((keptResults answer.calls).map fun result => (result.sourceRefs.length : ℤ)).sum ≤
      remaining.sources
  classes : ∀ result ∈ keptResults answer.calls,
    allows allowedSourceClasses result.sourceClass = true
  calls : 0 ≤ remaining.calls → (∀ call ∈ answer.calls, call.fate ≠ .discarded) →
    (answer.calls.length : ℤ) ≤ remaining.calls
  cost : 0 ≤ remaining.cost → (∀ call ∈ answer.calls, call.fate ≠ .discarded) →
    (∀ call ∈ answer.calls, ∀ result, call.reply = .ok result →
      result.cost ≤ call.capability.costPerCall) →
    (answer.calls.map Call.cost).sum ≤ remaining.cost

theorem spends_none (remaining : Remaining) (results : List ProviderResult) :
    Spends allowedSourceClasses remaining results ⟨[], .ok results⟩ := by
  constructor
  · rintro kept h
    rw [← Except.ok.inj h]
    exact (List.append_nil results).symm
  · exact id
  · exact id
  · simp [keptResults]
  · exact fun h _ => h
  · exact fun h _ _ => h

theorem waterfall_spends (selected : List ProviderCapability) (place : ℕ)
    (remaining : Remaining) (results : List ProviderResult) :
    Spends allowedSourceClasses remaining results
      (waterfall world query allowedSourceClasses deadline place selected remaining
        results) := by
  induction selected generalizing place remaining results with
  | nil => exact spends_none remaining results
  | cons capability rest ih =>
      generalize hanswer : waterfall world query allowedSourceClasses deadline place
        (capability :: rest) remaining results = answer
      have hturn := waterfall_cons world query allowedSourceClasses deadline place capability
        rest remaining results
      rw [hanswer] at hturn
      cases hturn with
      | stopped => exact spends_none remaining results
      | skipped => exact ih (place + 1) remaining results
      | raised reply error hcalls hafford =>
          constructor
          · rintro kept h
            cases h
          · exact id
          · exact id
          · simp [keptResults]
          · exact fun _ _ => hcalls
          · intro hcost _ hdeclared
            simp only [affords, Bool.and_eq_true, decide_eq_true_eq] at hafford
            rw [List.map_singleton, List.sum_singleton]
            cases reply with
            | error raised => exact hcost
            | ok result =>
                exact (hdeclared _ List.mem_cons_self result rfl).trans hafford.1.1
      | discarded result hcalls hafford =>
          have h := ih (place + 1) remaining results
          constructor
          · exact h.outcome
          · exact h.tokens
          · exact h.sources
          · exact h.classes
          · exact fun _ hkept => absurd rfl (hkept _ List.mem_cons_self)
          · exact fun _ hkept => absurd rfl (hkept _ List.mem_cons_self)
      | kept result hcalls hafford hsources hcost htokens hallowed =>
          have h := ih (place + 1) (remaining.spend result) (results ++ [result])
          generalize waterfall world query allowedSourceClasses deadline (place + 1) rest
            (remaining.spend result) (results ++ [result]) = later at h ⊢
          have hlist : ∀ answer : Answer, keptResults
              (answer.after ⟨capability, .ok result, .kept⟩).calls =
                result :: keptResults answer.calls := fun _ => rfl
          constructor
          · intro kept hkept
            rw [h.outcome kept hkept, hlist, List.append_assoc]
            rfl
          · intro hpositive
            have := h.tokens (by simp only [Remaining.spend]; omega)
            simp only [Remaining.spend] at this
            rw [hlist, List.map_cons, List.sum_cons]
            omega
          · intro hpositive
            have := h.sources (by simp only [Remaining.spend]; omega)
            simp only [Remaining.spend] at this
            rw [hlist, List.map_cons, List.sum_cons]
            omega
          · rw [hlist, List.forall_mem_cons]
            exact ⟨hallowed, h.classes⟩
          · intro _ hfates
            have := h.calls (by simp only [Remaining.spend]; omega)
              fun call hcall => hfates call (List.mem_cons_of_mem _ hcall)
            simp only [Remaining.spend] at this
            simp only [Answer.after, List.length_cons]
            omega
          · intro _ hfates hdeclared
            have := h.cost (by simp only [Remaining.spend]; linarith)
              (fun call hcall => hfates call (List.mem_cons_of_mem _ hcall))
              fun call hcall => hdeclared call (List.mem_cons_of_mem _ hcall)
            simp only [Remaining.spend] at this
            simp only [Answer.after, List.map_cons, List.sum_cons, Call.cost]
            linarith

theorem waterfall_stopped {place : ℕ} {selected : List ProviderCapability}
    {remaining : Remaining} {results : List ProviderResult}
    (hstop : remaining.calls ≤ 0 ∨ remaining.sources ≤ 0 ∨
      remainingTime world deadline place ≤ 0) :
    waterfall world query allowedSourceClasses deadline place selected remaining results =
      ⟨[], .ok results⟩ := by
  cases selected with
  | nil => rfl
  | cons capability rest => rw [waterfall, if_pos hstop]

/-- Whatever is called is affordable with the whole budget. -/
theorem calls_sublist {budget : ResearchBudget}
    (htime : ∀ place, remainingTime world deadline place ≤ budget.timeBudgetSeconds)
    (selected : List ProviderCapability) (place : ℕ) {remaining : Remaining}
    (results : List ProviderResult) (htokens : remaining.tokens ≤ budget.tokenBudget)
    (hcost : remaining.cost ≤ budget.apiCostLimit) :
    ((waterfall world query allowedSourceClasses deadline place selected remaining
      results).calls.map Call.capability).Sublist (selected.filter (callable budget)) := by
  have hcallable : ∀ {place : ℕ} {remaining : Remaining} {capability : ProviderCapability},
      remaining.tokens ≤ budget.tokenBudget → remaining.cost ≤ budget.apiCostLimit →
      affords remaining (remainingTime world deadline place) capability = true →
      callable budget capability = true := by
    intro place remaining capability htokens hcost hafford
    rw [callable]
    simp only [affords, Bool.and_eq_true, decide_eq_true_eq] at hafford ⊢
    exact ⟨⟨hafford.1.1.trans hcost, hafford.1.2.trans htokens⟩,
      hafford.2.trans (htime place)⟩
  induction selected generalizing place remaining results with
  | nil => exact List.Sublist.refl _
  | cons capability rest ih =>
      generalize hanswer : waterfall world query allowedSourceClasses deadline place
        (capability :: rest) remaining results = answer
      have hturn := waterfall_cons world query allowedSourceClasses deadline place capability
        rest remaining results
      rw [hanswer] at hturn
      rw [List.filter_cons]
      cases hturn with
      | stopped => exact List.nil_sublist _
      | skipped =>
          have h := ih (place + 1) results htokens hcost
          split_ifs
          · exact h.cons _
          · exact h
      | raised reply error hcalls hafford =>
          rw [if_pos (hcallable htokens hcost hafford)]
          exact (List.nil_sublist _).cons_cons _
      | discarded result hcalls hafford =>
          rw [if_pos (hcallable htokens hcost hafford)]
          exact (ih (place + 1) results htokens hcost).cons_cons _
      | kept result hcalls hafford hsources hless hfewer hallowed =>
          rw [if_pos (hcallable htokens hcost hafford)]
          have hused := result.valid.2.2.2.1
          refine (ih (place + 1) _ ?_ ?_).cons_cons _
          · simp only [Remaining.spend]
            omega
          · simp only [Remaining.spend]
            linarith

end Loop

section Wasteful

variable (budget : ResearchBudget)

/-- A result that uses more tokens than the budget has and costs what was declared. -/
def oversized (capability : ProviderCapability) : ProviderResult where
  providerId := capability.providerId
  sourceClass := capability.sourceClass
  claims := []
  sourceRefs := []
  confidence := 0
  cost := capability.costPerCall
  latencySeconds := 0
  tokens := budget.tokenBudget + 1
  valid := by
    have htokens := budget.valid.2.2.1
    have hcost := capability.valid.2.2.1
    refine ⟨capability.valid.1, capability.valid.2.1, by norm_num, ⟨hcost, le_refl _, ?_⟩,
      by simp, by simp⟩
    omega

/-- Every provider answers at once with a result that is dropped. -/
def wasteful : ResearchWorld where
  monotonic _ := 0
  research _ capability _ := .ok (oversized budget capability)
  forward := ResearchWorld.forward_still

theorem waterfall_wasteful {query : String} {allowedSourceClasses : Option (Finset String)}
    (hcalls : 0 < budget.providerCalls) (hsources : 0 < budget.sourceCount)
    (htime : 0 < budget.timeBudgetSeconds) (selected : List ProviderCapability)
    (hallowed : ∀ capability ∈ selected,
      allows allowedSourceClasses capability.sourceClass = true) (place : ℕ)
    (results : List ProviderResult) :
    waterfall (wasteful budget) query allowedSourceClasses budget.timeBudgetSeconds place
        selected (.ofBudget budget) results =
      ⟨(selected.filter (callable budget)).map fun capability =>
        ⟨capability, .ok (oversized budget capability), .discarded⟩, .ok results⟩ := by
  have hleft : ∀ place, remainingTime (wasteful budget) budget.timeBudgetSeconds place =
      budget.timeBudgetSeconds := by
    intro place
    rw [remainingTime]
    cases budget.timeBudgetSeconds using WithTop.recTopCoe with
    | top => rfl
    | coe seconds => simp [wasteful]
  induction selected generalizing place with
  | nil => rfl
  | cons capability rest ih =>
      have hrest := ih (fun other hother => hallowed other (List.mem_cons_of_mem _ hother))
        (place + 1)
      have hanswer : ∀ request, (wasteful budget).research place capability request =
          .ok (oversized budget capability) := fun _ => rfl
      have hinspect : inspect allowedSourceClasses capability
          (min (Remaining.ofBudget budget).sources 10) (oversized budget capability) =
          .ok () := by
        rw [inspect_eq_ok]
        refine ⟨rfl, rfl, hallowed capability List.mem_cons_self, ?_⟩
        simp only [oversized, Remaining.ofBudget, List.length_nil, Nat.cast_zero]
        omega
      have hdropped : fits (.ofBudget budget) budget.timeBudgetSeconds
          (oversized budget capability) = false := by
        simp [fits, Remaining.ofBudget, oversized]
      rw [waterfall, hleft, List.filter_cons]
      have hgoes : ¬ ((Remaining.ofBudget budget).calls ≤ 0 ∨
          (Remaining.ofBudget budget).sources ≤ 0 ∨ budget.timeBudgetSeconds ≤ 0) := by
        simp only [not_or, not_le]
        exact ⟨hcalls, hsources, htime⟩
      rw [if_neg hgoes]
      change (if callable budget capability = true then _ else _) = _
      by_cases hcallable : callable budget capability = true
      · rw [if_pos hcallable, if_pos hcallable]
        simp only [hanswer, hinspect, hdropped, Bool.false_eq_true, ↓reduceIte]
        rw [hrest]
        rfl
      · rw [if_neg hcallable, if_neg hcallable, hrest]

end Wasteful

section Research

variable {query topic : String} {providers : List ProviderCapability}
  {budget : ResearchBudget} {allowedSourceClasses : Option (Finset String)}

theorem allows_of_mem_select {capability : ProviderCapability}
    (h : capability ∈ select providers topic allowedSourceClasses) :
    allows allowedSourceClasses capability.sourceClass = true := by
  rw [select, List.mem_insertionSort, List.mem_filter, Bool.and_eq_true] at h
  exact h.2.2

theorem remainingTime_le (world : ResearchWorld) (place : ℕ) :
    remainingTime world (budget.timeBudgetSeconds.map fun seconds =>
      world.monotonic 0 + seconds) place ≤ budget.timeBudgetSeconds := by
  have hforward := world.forward (Nat.zero_le (place + 1))
  rw [remainingTime]
  cases budget.timeBudgetSeconds using WithTop.recTopCoe with
  | top => exact le_top
  | coe seconds =>
      simp only [WithTop.map_coe, WithTop.coe_le_coe]
      linarith

theorem within_of_calls {world : ResearchWorld}
    (hcalls : ((research world query topic providers budget
      allowedSourceClasses).calls.length : ℤ) ≤ budget.providerCalls)
    (hcost : (∀ call ∈ (research world query topic providers budget
        allowedSourceClasses).calls, ∀ result, call.reply = .ok result →
          result.cost ≤ call.capability.costPerCall) →
      ((research world query topic providers budget allowedSourceClasses).calls.map
        Call.cost).sum ≤ budget.apiCostLimit) :
    Within budget allowedSourceClasses
      (research world query topic providers budget allowedSourceClasses) := by
  have h : Spends allowedSourceClasses (.ofBudget budget) []
      (research world query topic providers budget allowedSourceClasses) :=
    waterfall_spends _ _ _ _
  constructor
  · exact hcalls
  · exact hcost
  · intro results hresults
    rw [h.outcome results hresults]
    exact h.tokens budget.valid.2.2.1
  · intro results hresults
    rw [h.outcome results hresults]
    exact h.sources budget.valid.2.1
  · intro results hresults
    rw [h.outcome results hresults]
    exact h.classes

/-- The budget holds whenever no result is dropped after its call; and it holds whatever
the providers do exactly when it pays for all the providers that it affords. -/
theorem research_within (query topic : String) (providers : List ProviderCapability)
    (budget : ResearchBudget) (allowedSourceClasses : Option (Finset String)) :
    (∀ world, (∀ call ∈ (research world query topic providers budget
        allowedSourceClasses).calls, call.fate ≠ .discarded) →
      Within budget allowedSourceClasses
        (research world query topic providers budget allowedSourceClasses)) ∧
    ((∀ world, Within budget allowedSourceClasses
        (research world query topic providers budget allowedSourceClasses)) ↔
      Covers budget (select providers topic allowedSourceClasses)) := by
  constructor
  · intro world hfates
    have h : Spends allowedSourceClasses (.ofBudget budget) []
        (research world query topic providers budget allowedSourceClasses) :=
      waterfall_spends _ _ _ _
    exact within_of_calls (h.calls budget.valid.1 hfates)
      (h.cost budget.valid.2.2.2.2 hfates)
  constructor
  · intro hwithin
    by_cases hcalls : budget.providerCalls = 0
    · exact Or.inl hcalls
    by_cases hsources : budget.sourceCount = 0
    · exact Or.inr (Or.inl hsources)
    by_cases htime : budget.timeBudgetSeconds = 0
    · exact Or.inr (Or.inr (Or.inl htime))
    have hvalid := budget.valid
    have hanswer : research (wasteful budget) query topic providers budget
        allowedSourceClasses = ⟨((select providers topic allowedSourceClasses).filter
          (callable budget)).map fun capability =>
            ⟨capability, .ok (oversized budget capability), .discarded⟩, .ok []⟩ := by
      have hdeadline : (budget.timeBudgetSeconds.map fun seconds =>
          (wasteful budget).monotonic 0 + seconds) = budget.timeBudgetSeconds := by
        cases budget.timeBudgetSeconds using WithTop.recTopCoe with
        | top => rfl
        | coe seconds => simp [wasteful]
      rw [research, hdeadline]
      exact waterfall_wasteful budget (by omega) (by omega)
        (lt_of_le_of_ne hvalid.2.2.2.1 (Ne.symm htime)) _
        (fun capability h => allows_of_mem_select h) 0 []
    have h := hwithin (wasteful budget)
    rw [hanswer] at h
    refine Or.inr (Or.inr (Or.inr ⟨?_, ?_⟩))
    · simpa using h.calls
    · have hspent := h.cost ?_
      · rw [List.map_map] at hspent
        exact hspent
      · intro call hcall result hreply
        obtain ⟨capability, _, rfl⟩ := List.mem_map.mp hcall
        rw [← Except.ok.inj hreply]
        exact le_refl _
  · intro hcovers world
    have hstopped : (budget.providerCalls ≤ 0 ∨ budget.sourceCount ≤ 0 ∨
        remainingTime world (budget.timeBudgetSeconds.map fun seconds =>
          world.monotonic 0 + seconds) 0 ≤ 0) →
        Within budget allowedSourceClasses
          (research world query topic providers budget allowedSourceClasses) := by
      intro hstop
      have hnone : research world query topic providers budget allowedSourceClasses =
          ⟨[], .ok []⟩ := waterfall_stopped hstop
      apply within_of_calls
      · rw [hnone]
        exact budget.valid.1
      · rw [hnone]
        exact fun _ => budget.valid.2.2.2.2
    rcases hcovers with hcalls | hsources | htime | ⟨hlength, hsum⟩
    · exact hstopped (Or.inl hcalls.le)
    · exact hstopped (Or.inr (Or.inl hsources.le))
    · exact hstopped (Or.inr (Or.inr ((remainingTime_le world 0).trans htime.le)))
    · have hsublist : ((research world query topic providers budget
          allowedSourceClasses).calls.map Call.capability).Sublist
            ((select providers topic allowedSourceClasses).filter (callable budget)) :=
        calls_sublist (remainingTime_le world) _ 0 [] (le_refl _) (le_refl _)
      apply within_of_calls
      · have hle := hsublist.length_le
        rw [List.length_map] at hle
        exact (Int.ofNat_le.mpr hle).trans hlength
      · intro hdeclared
        have hreported : ∀ call ∈ (research world query topic providers budget
            allowedSourceClasses).calls, call.cost ≤ call.capability.costPerCall := by
          intro call hcall
          rw [Call.cost]
          split
          · exact hdeclared call hcall _ (by assumption)
          · exact call.capability.valid.2.2.1
        have hpositive : ∀ cost ∈ ((select providers topic allowedSourceClasses).filter
            (callable budget)).map ProviderCapability.costPerCall, 0 ≤ cost := by
          intro cost hcost
          obtain ⟨capability, _, rfl⟩ := List.mem_map.mp hcost
          exact capability.valid.2.2.1
        have hpaid := (hsublist.map ProviderCapability.costPerCall).sum_le_sum hpositive
        rw [List.map_map] at hpaid
        exact ((List.sum_le_sum hreported).trans hpaid).trans hsum

/-- A provider of one source class, which costs nothing. -/
def sampleCapability (providerId : String) (hid : PyText.blank providerId = false) :
    ProviderCapability where
  providerId := providerId
  sourceClass := "registry"
  coverage := {"company"}
  costPerCall := 0
  maxRequestsPerSecond := 1
  valid := ⟨hid, by decide, by norm_num, by norm_num, by norm_num, le_refl _⟩

/-- A budget of one call. -/
def oneCall : ResearchBudget where
  providerCalls := 1
  sourceCount := 10
  tokenBudget := 100
  apiCostLimit := 1
  timeBudgetSeconds := ⊤
  valid := ⟨by norm_num, by norm_num, by norm_num, le_top, by norm_num⟩

/-- A call whose result has too many tokens is not counted, and a second one follows. -/
theorem second_call :
    ¬ ∀ (world : ResearchWorld) (query topic : String) (providers : List ProviderCapability)
      (budget : ResearchBudget) (allowedSourceClasses : Option (Finset String)),
      Within budget allowedSourceClasses
        (research world query topic providers budget allowedSourceClasses) := by
  intro h
  have hcalls := (h (wasteful oneCall) "profile" "company"
    [sampleCapability "first" (by decide), sampleCapability "second" (by decide)]
    oneCall none).calls
  revert hcalls
  decide +kernel

end Research

end ProviderGateway

end ShemaPlatform
