/-
Which source classes evidence is kept of: those that a route requires are there, and none
that it prohibits, unless its rules contradict each other.
-/
import ShemaPlatform.Intelligence

namespace ShemaPlatform

open Calendar ReadCommitted ReadCommitted.Prog
open ProviderGateway (keptResults waterfall Remaining affords fits inspect)

namespace ResearchRoute

variable {route : ResearchRoute} {sourceClass : String}

theorem isProhibited_iff : route.isProhibited sourceClass = true ↔
    ∃ rule ∈ route.rules, rule.sourceClass = sourceClass ∧ rule.requirement = .prohibited := by
  simp [isProhibited]

/-- No class is both allowed and prohibited, or else nothing is ever kept of this route. -/
def Consistent (route : ResearchRoute) : Prop :=
  (∃ sourceClass ∈ route.requiredSourceClasses, PyText.blank sourceClass = true) ∨
    ∀ sourceClass ∈ route.allowedSourceClasses, PyText.blank sourceClass = false →
      route.isProhibited sourceClass = false

end ResearchRoute

namespace IntelligenceService

/-- The source classes of a route are enforced in a run. -/
structure Enforced (route : ResearchRoute) (kept : List ProviderResult) (rows : EvidenceRows)
    (ran : Ran) : Prop where
  required : (∃ result record, ran.StoresFrom result record) →
    ∀ sourceClass ∈ route.requiredSourceClasses, ∃ result ∈ kept,
      result.sourceClass = sourceClass
  prohibited : ∀ result record, ran.StoresFrom result record →
    route.isProhibited result.sourceClass = false
  stored : ∀ key record, ran.rows.get key = some record →
    rows.get key = some record ∨ ∃ result, ran.StoresFrom result record
  raised : ∀ error, ran.outcome = .error error → ran.rows = rows

section Holds

variable {policy : ResearchRoutingPolicy} {world : IntelligenceWorld}
  {request : IntelligenceRequest} {rows : EvidenceRows} {run : IntelligenceRun}
  {route : ResearchRoute}

theorem length_evidence (h : Prepared policy world request run) :
    (claimsOf run.results).length = run.evidence.length :=
  (materialize_made h.evidence).length_eq

/-- A record of a run is of one of its results. -/
theorem storesFrom_of_mem {ran : Ran} (h : Returned policy world request rows ran run)
    (hran : ran.outcome = .ok run) {record : CounterpartyCheck.Evidence}
    (hmem : record ∈ run.evidence) : ∃ result, ran.StoresFrom result record := by
  obtain ⟨place, hplace⟩ := List.mem_iff_getElem?.mp hmem
  obtain ⟨hlt, _⟩ := List.getElem?_eq_some_iff.mp hplace
  rw [← length_evidence h.toPrepared] at hlt
  exact ⟨((claimsOf run.results)[place]).1, run, place, ((claimsOf run.results)[place]).2, hran,
    hplace, List.getElem?_eq_getElem hlt, h.stored record hmem⟩

theorem mem_results {ran : Ran} {result : ProviderResult} {record : CounterpartyCheck.Evidence}
    (hran : ran.outcome = .ok run) (h : ran.StoresFrom result record) :
    result ∈ run.results := by
  obtain ⟨stored, place, claim, hstored, _, hclaim, _⟩ := h
  obtain rfl := Except.ok.inj (hran.symm.trans hstored)
  have hmem := List.mem_of_getElem? hclaim
  rw [claimsOf, List.mem_flatMap] at hmem
  obtain ⟨found, hfound, hentry⟩ := hmem
  obtain ⟨_, _, hsame⟩ := List.mem_map.mp hentry
  rw [← (Prod.mk.inj hsame).1]
  exact hfound

/-- What is covered has a result of every class that is required. -/
theorem covered_iff {results : List ProviderResult} : missing route results = ∅ ↔
    ∀ sourceClass ∈ route.requiredSourceClasses, ∃ result ∈ results,
      result.sourceClass = sourceClass := by
  rw [missing, Finset.sdiff_eq_empty_iff_subset]
  constructor
  · intro h sourceClass hrequired
    have hmem := h hrequired
    rw [List.mem_toFinset, List.mem_map] at hmem
    exact hmem
  · intro h sourceClass hrequired
    rw [List.mem_toFinset, List.mem_map]
    exact h sourceClass hrequired

/-- Along a consistent route the source classes are enforced. -/
theorem enforced_of_consistent (hconsistent : route.Consistent)
    (hroute : policy.route world.repr request.companyType request.depth = .ok route) :
    Enforced route (keptResults (researched world request route).calls) rows
      (IntelligenceService.run policy world request rows) := by
  have hreturned : ∀ {run : IntelligenceRun},
      (IntelligenceService.run policy world request rows).outcome = .ok run →
        Returned policy world request rows
            (IntelligenceService.run policy world request rows) run ∧
          run.route = route ∧
          run.results = keptResults (researched world request route).calls ∧
          ∀ result ∈ run.results, result.sourceClass ∈ route.allowedSourceClasses := by
    intro run hrun
    have hdone := run_eq_ok hrun
    have hsame := Except.ok.inj (hdone.route.symm.trans hroute)
    have houtcome := hdone.outcome
    rw [hsame] at houtcome
    exact ⟨hdone, hsame, results_kept houtcome⟩
  have hcovered : ∀ {run : IntelligenceRun},
      (IntelligenceService.run policy world request rows).outcome = .ok run →
        ∀ sourceClass ∈ route.requiredSourceClasses, ∃ result ∈ run.results,
          result.sourceClass = sourceClass := by
    intro run hrun
    obtain ⟨hdone, hsame, _⟩ := hreturned hrun
    have hempty := hdone.covered
    rw [hsame] at hempty
    exact covered_iff.mp hempty
  constructor
  · rintro ⟨result, record, run, place, claim, hrun, _⟩
    rw [← (hreturned hrun).2.2.1]
    exact hcovered hrun
  · intro result record hstores
    obtain ⟨run, place, claim, hrun, _⟩ := id hstores
    have hmem := mem_results hrun hstores
    rcases hconsistent with ⟨sourceClass, hrequired, hblank⟩ | hclear
    · -- nothing is of a class without a name
      obtain ⟨other, _, hclass⟩ := hcovered hrun sourceClass hrequired
      rw [← hclass, other.valid.2.1] at hblank
      cases hblank
    · exact hclear _ ((hreturned hrun).2.2.2 result hmem) result.valid.2.1
  · intro key record hrecord
    cases hrun : (IntelligenceService.run policy world request rows).outcome with
    | error error =>
        rw [run_eq_error hrun] at hrecord
        exact Or.inl hrecord
    | ok run =>
        obtain ⟨hdone, _⟩ := hreturned hrun
        rcases hdone.only key record hrecord with hold | hmem
        · exact Or.inl hold
        · exact Or.inr (storesFrom_of_mem hdone hrun hmem)
  · exact fun error hraised => run_eq_error hraised

end Holds

section Fails

/-- A provider of a source class that costs nothing and always answers. -/
def offering (topic providerId sourceClass : String) (hid : PyText.blank providerId = false) :
    ProviderCapability where
  providerId := providerId
  sourceClass := if PyText.blank sourceClass then "registry" else sourceClass
  coverage := {topic}
  costPerCall := 0
  maxRequestsPerSecond := 1
  valid := by
    refine ⟨hid, ?_, by norm_num, by norm_num, by norm_num, le_refl _⟩
    split
    · decide
    · rename_i hblank
      exact Bool.eq_false_iff.mpr hblank

/-- What such a provider reports: a claim, or nothing. -/
def reported (capability : ProviderCapability) : ProviderResult where
  providerId := capability.providerId
  sourceClass := capability.sourceClass
  claims := if capability.providerId = "claimant" then ["claim"] else []
  sourceRefs := if capability.providerId = "claimant" then ["source"] else []
  confidence := 1
  cost := 0
  latencySeconds := 0
  valid := by
    refine ⟨capability.valid.1, capability.valid.2.1, by norm_num, by norm_num, ?_, ?_⟩
    · intro ref hmem
      split at hmem
      · rw [List.mem_singleton.mp hmem]
        decide
      · cases hmem
    · intro hclaims
      split
      · exact List.cons_ne_nil _ _
      · rename_i hother
        rw [if_neg hother] at hclaims
        exact absurd rfl hclaims

/-- Everybody answers at once. -/
def prompt : ResearchWorld where
  monotonic _ := 0
  research _ capability _ := .ok (reported capability)
  forward := ResearchWorld.forward_still

/-- Costs nothing and takes no time. -/
structure Free (allowed : Option (Finset String)) (capability : ProviderCapability) : Prop where
  cost : capability.costPerCall = 0
  tokens : capability.estimatedTokensPerCall = 0
  latency : capability.estimatedLatencySeconds = 0
  allowed : ProviderGateway.allows allowed capability.sourceClass = true

theorem length_reported (capability : ProviderCapability) :
    ((reported capability).sourceRefs.length : ℤ) ≤ 1 := by
  simp only [reported]
  split <;> simp

/-- A budget with a call and a source for everybody keeps what everybody reports. -/
theorem waterfall_prompt {query : String} {allowed : Option (Finset String)}
    (selected : List ProviderCapability) (hfree : ∀ capability ∈ selected, Free allowed capability)
    (place : ℕ) {remaining : Remaining} (results : List ProviderResult)
    (hcalls : (selected.length : ℤ) ≤ remaining.calls)
    (hsources : (selected.length : ℤ) ≤ remaining.sources)
    (hcost : 0 ≤ remaining.cost) (htokens : 0 ≤ remaining.tokens) :
    (waterfall prompt query allowed ⊤ place selected remaining results).outcome =
      .ok (results ++ selected.map reported) := by
  induction selected generalizing place remaining results with
  | nil => rw [List.map_nil, List.append_nil, waterfall]
  | cons capability rest ih =>
      rw [List.length_cons, Nat.cast_add, Nat.cast_one] at hcalls hsources
      obtain ⟨hfirst, hrest⟩ := List.forall_mem_cons.mp hfree
      have hgoes : ¬ (remaining.calls ≤ 0 ∨ remaining.sources ≤ 0 ∨
          ProviderGateway.remainingTime prompt ⊤ place ≤ 0) := by
        simp only [not_or, not_le]
        refine ⟨by omega, by omega, WithTop.coe_lt_top 0⟩
      have hafford : affords remaining (ProviderGateway.remainingTime prompt ⊤ place)
          capability = true := by
        simp only [affords, hfirst.cost, hfirst.tokens, hfirst.latency, Bool.and_eq_true,
          decide_eq_true_eq]
        exact ⟨⟨hcost, htokens⟩, le_top⟩
      have hlength := length_reported capability
      have hinspect : inspect allowed capability (min remaining.sources 10)
          (reported capability) = .ok () := by
        rw [ProviderGateway.inspect_eq_ok]
        exact ⟨rfl, rfl, hfirst.allowed, le_trans hlength (by omega)⟩
      have hfits : fits remaining (ProviderGateway.remainingTime prompt ⊤ place)
          (reported capability) = true := by
        rw [fits, Bool.and_eq_true, Bool.and_eq_true, decide_eq_true_iff, decide_eq_true_iff,
          decide_eq_true_iff]
        exact ⟨⟨hcost, htokens⟩, le_top⟩
      have hanswers : ∀ question, prompt.research place capability question =
          .ok (reported capability) := fun _ => rfl
      rw [waterfall, if_neg hgoes, if_pos hafford]
      simp only [hanswers, hinspect, hfits, if_true, ProviderGateway.Answer.after]
      have hlater := @ih hrest (place + 1) (remaining.spend (reported capability))
        (results ++ [reported capability])
        (by simp only [Remaining.spend]; omega) (by simp only [Remaining.spend]; omega)
        (by simpa [Remaining.spend, reported] using hcost)
        (by simpa [Remaining.spend, reported] using htokens)
      rw [List.append_assoc] at hlater
      exact hlater

theorem claimant_named : PyText.blank "claimant" = false := by decide

theorem provider_named : PyText.blank "provider" = false := by decide

variable (route : ResearchRoute) (sourceClass : String)

/-- A provider with a claim, of this source class, and one of every class that is required. -/
def offered : List ProviderCapability :=
  offering (companyTopic route.companyType) "claimant" sourceClass claimant_named ::
    (sortedClasses route.requiredSourceClasses).map fun required =>
      offering (companyTopic route.companyType) "provider" required provider_named

/-- A budget for all of them. -/
def ample : ResearchBudget where
  providerCalls := (offered route sourceClass).length
  sourceCount := (offered route sourceClass).length
  tokenBudget := 0
  apiCostLimit := 0
  timeBudgetSeconds := ⊤
  valid := ⟨Int.natCast_nonneg _, Int.natCast_nonneg _, le_refl _, le_top, le_refl _⟩

def offeringRequest : IntelligenceRequest where
  subjectRef := "subject"
  companyType := route.companyType
  depth := route.depth
  query := "query"
  providers := offered route sourceClass
  budget := ample route sourceClass

/-- A database in which nothing goes wrong. -/
def offeringWorld : IntelligenceWorld where
  research := prompt
  now := 0
  evidenceId _ := "evidence"
  repr := id
  raises _ := none

variable {route sourceClass}

theorem sourceClass_offering (topic : String) {providerId : String}
    (hid : PyText.blank providerId = false) (h : PyText.blank sourceClass = false) :
    (offering topic providerId sourceClass hid).sourceClass = sourceClass := by
  exact if_neg (Bool.eq_false_iff.mp h)

theorem route_offering (repr : String → String) :
    ResearchRoutingPolicy.route ⟨[route]⟩ repr route.companyType route.depth = .ok route := by
  simp [ResearchRoutingPolicy.route]

theorem required_allowed (h : sourceClass ∈ route.requiredSourceClasses) :
    sourceClass ∈ route.allowedSourceClasses := by
  simp only [ResearchRoute.requiredSourceClasses, ResearchRoute.allowedSourceClasses,
    List.mem_toFinset, List.mem_map, List.mem_filter, decide_eq_true_eq] at h ⊢
  obtain ⟨rule, ⟨hrule, hrequired⟩, hclass⟩ := h
  refine ⟨rule, ⟨hrule, ?_⟩, hclass⟩
  rw [hrequired]
  decide

theorem free_offered (hallowed : sourceClass ∈ route.allowedSourceClasses)
    (hnamed : PyText.blank sourceClass = false)
    (hrequired : ∀ required ∈ route.requiredSourceClasses, PyText.blank required = false) :
    ∀ capability ∈ offered route sourceClass,
      Free (some route.allowedSourceClasses) capability ∧ capability.healthy = true ∧
        companyTopic route.companyType ∈ capability.coverage := by
  have hoffering : ∀ {providerId offeredClass : String} (hid : PyText.blank providerId = false),
      offeredClass ∈ route.allowedSourceClasses → PyText.blank offeredClass = false →
        Free (some route.allowedSourceClasses)
            (offering (companyTopic route.companyType) providerId offeredClass hid) ∧
          (offering (companyTopic route.companyType) providerId offeredClass
            hid).healthy = true ∧
          companyTopic route.companyType ∈
            (offering (companyTopic route.companyType) providerId offeredClass hid).coverage := by
    intro providerId offeredClass hid hmem hblank
    refine ⟨⟨rfl, rfl, rfl, ?_⟩, rfl, Finset.mem_singleton_self _⟩
    rw [sourceClass_offering _ hid hblank, ProviderGateway.allows, Option.all_some]
    exact decide_eq_true hmem
  intro capability hcapability
  rcases List.mem_cons.mp hcapability with rfl | hlater
  · exact hoffering claimant_named hallowed hnamed
  · obtain ⟨required, hmem, rfl⟩ := List.mem_map.mp hlater
    have hmem := mem_sortedClasses.mp hmem
    exact hoffering provider_named (required_allowed hmem) (hrequired required hmem)

theorem select_offered (hallowed : sourceClass ∈ route.allowedSourceClasses)
    (hnamed : PyText.blank sourceClass = false)
    (hrequired : ∀ required ∈ route.requiredSourceClasses, PyText.blank required = false) :
    ProviderGateway.select (offered route sourceClass) (companyTopic route.companyType)
      (some route.allowedSourceClasses) = offered route sourceClass := by
  have hoffered := free_offered hallowed hnamed hrequired
  have hfilter : (offered route sourceClass).filter (fun capability => capability.healthy &&
      decide (companyTopic route.companyType ∈ capability.coverage) &&
      ProviderGateway.allows (some route.allowedSourceClasses) capability.sourceClass) =
        offered route sourceClass := by
    apply List.filter_eq_self.mpr
    intro capability hcapability
    obtain ⟨hfree, hhealthy, hcovers⟩ := hoffered capability hcapability
    rw [hhealthy, hfree.allowed, decide_eq_true hcovers]
    rfl
  rw [ProviderGateway.select, hfilter]
  apply List.Pairwise.insertionSort_eq
  apply List.pairwise_of_forall_mem_list
  intro first hfirst second hsecond
  rw [(hoffered first hfirst).1.cost, (hoffered second hsecond).1.cost]

/-- Everything that is offered is kept. -/
theorem researched_offered (hallowed : sourceClass ∈ route.allowedSourceClasses)
    (hnamed : PyText.blank sourceClass = false)
    (hrequired : ∀ required ∈ route.requiredSourceClasses, PyText.blank required = false) :
    (researched offeringWorld (offeringRequest route sourceClass) route).outcome =
      .ok ((offered route sourceClass).map reported) := by
  have hfree := fun capability hmem =>
    (free_offered hallowed hnamed hrequired capability hmem).1
  have hselect := select_offered hallowed hnamed hrequired
  have hall := @waterfall_prompt "query" _ (offered route sourceClass) hfree 0
    (.ofBudget (ample route sourceClass)) [] (le_refl _) (le_refl _) (le_refl _) (le_refl _)
  rw [List.nil_append] at hall
  rw [researched, ProviderGateway.research]
  change (waterfall prompt "query" _ ⊤ 0 (ProviderGateway.select (offered route sourceClass)
    (companyTopic route.companyType) _) _ []).outcome = _
  rw [hselect]
  exact hall

theorem missing_offered
    (hrequired : ∀ required ∈ route.requiredSourceClasses, PyText.blank required = false) :
    missing route ((offered route sourceClass).map reported) = ∅ := by
  apply covered_iff.mpr
  intro required hmem
  have hclass := sourceClass_offering (companyTopic route.companyType) provider_named
    (hrequired required hmem)
  have hoffered : offering (companyTopic route.companyType) "provider" required provider_named ∈
      offered route sourceClass :=
    List.mem_cons_of_mem _ (List.mem_map_of_mem (mem_sortedClasses.mpr hmem))
  exact ⟨_, List.mem_map_of_mem hoffered, hclass⟩

theorem claimsOf_offered : claimsOf ((offered route sourceClass).map reported) =
    [(reported (offering (companyTopic route.companyType) "claimant" sourceClass
      claimant_named), "claim")] := by
  have hquiet : ∀ required : String, (reported (offering (companyTopic route.companyType)
      "provider" required provider_named)).claims = [] := fun _ => rfl
  have hrest : ∀ classes : List String, claimsOf ((classes.map fun required =>
      offering (companyTopic route.companyType) "provider" required
        provider_named).map reported) = [] := by
    intro classes
    simp [claimsOf, hquiet]
  rw [offered, List.map_cons, claimsOf, List.flatMap_cons, ← claimsOf, hrest, List.append_nil]
  rfl

/-- A run that stores the claim of a source class. -/
theorem storesFrom_offered (hallowed : sourceClass ∈ route.allowedSourceClasses)
    (hnamed : PyText.blank sourceClass = false)
    (hrequired : ∀ required ∈ route.requiredSourceClasses, PyText.blank required = false) :
    ∃ record, (IntelligenceService.run ⟨[route]⟩ offeringWorld
      (offeringRequest route sourceClass) []).StoresFrom
        (reported (offering (companyTopic route.companyType) "claimant" sourceClass
          claimant_named)) record := by
  obtain ⟨record, hrecord⟩ : ∃ record, (evidenceFor "subject" 0 "evidence" (reported (offering
      (companyTopic route.companyType) "claimant" sourceClass claimant_named)) "claim").new =
        .ok record := by
    rw [CounterpartyCheck.Evidence.new_isOk]
    have hblanks : PyText.blank "evidence" = false ∧ PyText.blank "subject" = false ∧
        PyText.blank "claim" = false ∧ PyText.blank "source" = false := by decide
    refine ⟨hblanks.1, hblanks.2.1, hblanks.2.2.1, hblanks.2.2.2, ⟨zero_le_one, le_refl _⟩,
      le_refl _, ?_⟩
    intro expiresAt hnever
    cases hnever
  have hid := CounterpartyCheck.Evidence.evidenceId_of_new hrecord
  have hprepared : prepare ⟨[route]⟩ offeringWorld (offeringRequest route sourceClass) =
      .ok ⟨"subject", route, (offered route sourceClass).map reported, [record]⟩ := by
    apply prepare_eq_ok.mpr
    constructor
    · exact (by decide : PyText.blank "subject" = false)
    · rfl
    · exact route_offering id
    · exact researched_offered hallowed hnamed hrequired
    · exact missing_offered hrequired
    · rw [claimsOf_offered, materialize]
      simp only [offeringWorld, offeringRequest, hrecord]
      rfl
  have hstored : (addAll offeringWorld.raises 0 [record]).atomically () [] =
      .ok ((), [⟨record.evidenceId, some record⟩]) := rfl
  have hrun : IntelligenceService.run ⟨[route]⟩ offeringWorld
      (offeringRequest route sourceClass) [] =
        ⟨.ok ⟨"subject", route, (offered route sourceClass).map reported, [record]⟩,
          [⟨record.evidenceId, some record⟩]⟩ := by
    simp only [IntelligenceService.run, hprepared, hstored]
  rw [hrun]
  refine ⟨record, _, 0, "claim", rfl, rfl, ?_, Rows.get_cons_self _ _ _⟩
  rw [claimsOf_offered]
  rfl

end Fails

/-- The source classes of a route are enforced, whatever providers, budget and database do,
exactly if no class is both allowed and prohibited, or one that is required has no name. -/
theorem sources_enforced_iff (route : ResearchRoute) :
    (∀ policy world request rows,
      policy.route world.repr request.companyType request.depth = .ok route →
        Enforced route (keptResults (researched world request route).calls) rows
          (IntelligenceService.run policy world request rows)) ↔ route.Consistent := by
  constructor
  · intro henforced
    by_contra hinconsistent
    simp only [ResearchRoute.Consistent, not_or, not_exists, not_and, not_forall,
      Bool.not_eq_false, Bool.not_eq_true] at hinconsistent
    obtain ⟨hrequired, sourceClass, hallowed, hnamed, hprohibited⟩ := hinconsistent
    obtain ⟨record, hstores⟩ := storesFrom_offered hallowed hnamed hrequired
    have h := (henforced ⟨[route]⟩ offeringWorld (offeringRequest route sourceClass) []
      (route_offering id)).prohibited _ record hstores
    have hclass : (reported (offering (companyTopic route.companyType) "claimant" sourceClass
        claimant_named)).sourceClass = sourceClass :=
      sourceClass_offering (companyTopic route.companyType) claimant_named hnamed
    rw [hclass, hprohibited] at h
    cases h
  · exact fun hconsistent policy world request rows hroute =>
      enforced_of_consistent hconsistent hroute

/-- A route that allows a class by one rule and prohibits it by another. -/
def contradictoryRoute : ResearchRoute where
  companyType := "logistics"
  depth := .r1Identity
  rules := [⟨"official_registry", .required⟩, ⟨"social_profile", .optional⟩,
    ⟨"social_profile", .prohibited⟩]

/-- Its evidence is stored all the same. -/
theorem prohibited_stored :
    ¬ ∀ (route : ResearchRoute) policy world request rows,
      policy.route world.repr request.companyType request.depth = .ok route →
        Enforced route (keptResults (researched world request route).calls) rows
          (IntelligenceService.run policy world request rows) := by
  intro h
  have hallowed : "social_profile" ∈ contradictoryRoute.allowedSourceClasses := by decide
  have hrequired : ∀ required ∈ contradictoryRoute.requiredSourceClasses,
      PyText.blank required = false := by decide
  obtain ⟨record, hstores⟩ := storesFrom_offered hallowed (by decide) hrequired
  have hclear := (h contradictoryRoute ⟨[contradictoryRoute]⟩ offeringWorld
    (offeringRequest contradictoryRoute "social_profile") [] (route_offering id)).prohibited _
      record hstores
  exact absurd hclear (by decide)

end IntelligenceService

end ShemaPlatform
