/-
Routed research: which source classes a company type is researched with, and what is kept
of the providers' claims as evidence.
-/
import Mathlib.Data.Finset.Sort
import Mathlib.Data.String.Basic
import ShemaPlatform.CounterpartyCheck
import ShemaPlatform.ResearchSpending
import ShemaPlatform.Transaction

namespace ShemaPlatform

open Calendar ReadCommitted ReadCommitted.Prog
open CounterpartyCheck (Evidence)
open ProviderGateway (Answer keptResults)

inductive ResearchDepth where
  | r1Identity | r2Context | r3Reputation | r4Deep
deriving DecidableEq

def ResearchDepth.value : ResearchDepth → String
  | .r1Identity => "R1"
  | .r2Context => "R2"
  | .r3Reputation => "R3"
  | .r4Deep => "R4"

inductive SourceRequirement where
  | required | optional | prohibited
deriving DecidableEq

structure SourceRule where
  sourceClass : String
  requirement : SourceRequirement
deriving DecidableEq

structure ResearchRoute where
  companyType : String
  depth : ResearchDepth
  rules : List SourceRule
deriving DecidableEq

namespace ResearchRoute

variable (route : ResearchRoute)

def allowedSourceClasses : Finset String :=
  ((route.rules.filter fun rule => decide (rule.requirement ≠ .prohibited)).map
    SourceRule.sourceClass).toFinset

def requiredSourceClasses : Finset String :=
  ((route.rules.filter fun rule => decide (rule.requirement = .required)).map
    SourceRule.sourceClass).toFinset

def isProhibited (sourceClass : String) : Bool :=
  route.rules.any fun rule =>
    rule.sourceClass == sourceClass && decide (rule.requirement = .prohibited)

end ResearchRoute

/-- `company_type.strip().lower()` -/
def companyTopic (companyType : String) : String :=
  PyText.lower (PyText.strip companyType)

/-- The routes as they are given; of two with one key the later is taken. -/
structure ResearchRoutingPolicy where
  routes : List ResearchRoute

/-- The route of a company type, in which `repr` is that of texts. -/
def ResearchRoutingPolicy.route (policy : ResearchRoutingPolicy) (repr : String → String)
    (companyType : String) (depth : ResearchDepth) : Except Failure ResearchRoute :=
  match policy.routes.reverse.find? fun route =>
      companyTopic route.companyType == companyTopic companyType && route.depth == depth with
  | some route => .ok route
  | none => .error (.keyError
      s!"no research route for company_type={repr companyType} depth={depth.value}")

/-- The keyword arguments of `run`. -/
structure IntelligenceRequest where
  subjectRef : String
  companyType : String
  depth : ResearchDepth
  query : String
  providers : List ProviderCapability
  budget : ResearchBudget

/-- What a run meets outside: the providers and their clock, the time it takes for now, the
`uuid4` ids, the texts of `repr`, and what the database raises at each of its statements, the
last of them the commit. -/
structure IntelligenceWorld where
  research : ResearchWorld
  now : Instant
  evidenceId : ℕ → String
  repr : String → String
  raises : ℕ → Option Failure

structure IntelligenceRun where
  subjectRef : String
  route : ResearchRoute
  results : List ProviderResult
  evidence : List Evidence

abbrev EvidenceRows := Rows fun _ : String => Evidence

abbrev EvidenceTx := Prog Unit (fun _ : String => Evidence) Failure

namespace IntelligenceService

/-- What the database does at a statement. -/
def statement (raises : ℕ → Option Failure) (place : ℕ) : Except Failure Unit :=
  match raises place with
  | some error => .error error
  | none => .ok ()

/-- The transaction of a run: `uow.evidence.add` for each record, and the commit. -/
def addAll (raises : ℕ → Option Failure) : ℕ → List Evidence → EvidenceTx Unit
  | place, [] => lift (statement raises place)
  | place, record :: rest => do
      lift (statement raises place)
      insert record.evidenceId record (.uniqueViolation "evidence_pkey")
      addAll raises (place + 1) rest

/-- The claims of the results, one after the other. -/
def claimsOf (results : List ProviderResult) : List (ProviderResult × String) :=
  results.flatMap fun result => result.claims.map fun claim => (result, claim)

/-- What a claim is recorded as. -/
def evidenceFor (subjectRef : String) (now : Instant) (evidenceId : String)
    (result : ProviderResult) (claim : String) : Evidence where
  evidenceId := evidenceId
  subjectRef := subjectRef
  claim := claim
  sourceRef := result.sourceRefs.head?.getD s!"provider:{result.providerId}"
  observedAt := now
  capturedAt := now
  confidence := result.confidence
  provenance := [("provider", result.providerId), ("source_class", result.sourceClass),
    ("source_refs", ",".intercalate result.sourceRefs)]
  expiresAt := none

def materialize (subjectRef : String) (now : Instant) (evidenceId : ℕ → String) :
    ℕ → List (ProviderResult × String) → Except Failure (List Evidence)
  | _, [] => .ok []
  | place, (result, claim) :: rest => do
      let record ← (evidenceFor subjectRef now (evidenceId place) result claim).new
      let others ← materialize subjectRef now evidenceId (place + 1) rest
      return record :: others

section Run

variable (policy : ResearchRoutingPolicy) (world : IntelligenceWorld)
  (request : IntelligenceRequest)

/-- What the gateway does for a run on this route. -/
def researched (route : ResearchRoute) : Answer :=
  ProviderGateway.research world.research request.query (companyTopic request.companyType)
    request.providers request.budget (some route.allowedSourceClasses)

def sortedClasses (classes : Finset String) : List String :=
  classes.sort (· ≤ ·)

theorem mem_sortedClasses {classes : Finset String} {sourceClass : String} :
    sourceClass ∈ sortedClasses classes ↔ sourceClass ∈ classes :=
  Finset.mem_sort _

def missing (route : ResearchRoute) (results : List ProviderResult) : Finset String :=
  route.requiredSourceClasses \ (results.map ProviderResult.sourceClass).toFinset

/-- Everything before the transaction. -/
def prepare : Except Failure IntelligenceRun := do
  require (!PyText.blank request.subjectRef) (.valueError "subject_ref is required")
  let route ← policy.route world.repr request.companyType request.depth
  let results ← (researched world request route).outcome
  let missing := missing route results
  require (decide (missing = ∅)) (.quarantineRequired
    ("research route missing required source classes: " ++
      ", ".intercalate (missing.sort (· ≤ ·))))
  let evidence ← materialize request.subjectRef world.now world.evidenceId 0 (claimsOf results)
  return ⟨request.subjectRef, route, results, evidence⟩

/-- What `run` returns or raises, with the table that it leaves. -/
structure Ran where
  outcome : Except Failure IntelligenceRun
  rows : EvidenceRows

def run (rows : EvidenceRows) : Ran :=
  match prepare policy world request with
  | .error error => ⟨.error error, rows⟩
  | .ok run =>
      match (addAll world.raises 0 run.evidence).atomically () rows with
      | .error error => ⟨.error error, rows⟩
      | .ok (_, rows') => ⟨.ok run, rows'⟩

end Run

/-- A run has stored this record, made from this result. -/
def Ran.StoresFrom (ran : Ran) (result : ProviderResult) (record : Evidence) : Prop :=
  ∃ (run : IntelligenceRun) (place : ℕ) (claim : String), ran.outcome = .ok run ∧
    run.evidence[place]? = some record ∧
    (claimsOf run.results)[place]? = some (result, claim) ∧
    ran.rows.get record.evidenceId = some record

/-- What a run has that gets as far as its transaction. -/
structure Prepared (policy : ResearchRoutingPolicy) (world : IntelligenceWorld)
    (request : IntelligenceRequest) (run : IntelligenceRun) : Prop where
  subject : PyText.blank request.subjectRef = false
  subjectRef : run.subjectRef = request.subjectRef
  route : policy.route world.repr request.companyType request.depth = .ok run.route
  outcome : (researched world request run.route).outcome = .ok run.results
  covered : missing run.route run.results = ∅
  evidence : materialize request.subjectRef world.now world.evidenceId 0
    (claimsOf run.results) = .ok run.evidence

section Lemmas

variable {policy : ResearchRoutingPolicy} {world : IntelligenceWorld}
  {request : IntelligenceRequest} {run : IntelligenceRun} {rows : EvidenceRows}
  {ran : Ran} {record : Evidence}

theorem prepare_eq_ok : prepare policy world request = .ok run ↔
    Prepared policy world request run := by
  simp only [prepare, bind_eq_ok, require_eq_ok, pure_eq_ok, exists_const, Bool.not_eq_true',
    decide_eq_true_eq]
  constructor
  · rintro ⟨hsubject, route, hroute, results, hresults, hcovered, evidence, hevidence, rfl⟩
    exact ⟨hsubject, rfl, hroute, hresults, hcovered, hevidence⟩
  · rintro ⟨hsubject, href, hroute, hresults, hcovered, hevidence⟩
    obtain ⟨subjectRef, route, results, evidence⟩ := run
    obtain rfl : subjectRef = request.subjectRef := href
    exact ⟨hsubject, route, hroute, results, hresults, hcovered, evidence, hevidence, rfl⟩

/-- Every claim has its record. -/
theorem materialize_made {subjectRef : String} {now : Instant} {evidenceId : ℕ → String}
    {place : ℕ} {claims : List (ProviderResult × String)} {records : List Evidence}
    (h : materialize subjectRef now evidenceId place claims = .ok records) :
    List.Forall₂ (fun entry record => ∃ evidenceId,
      (evidenceFor subjectRef now evidenceId entry.1 entry.2).new = .ok record)
      claims records := by
  induction claims generalizing place records with
  | nil =>
      obtain rfl := Except.ok.inj h
      exact .nil
  | cons entry rest ih =>
      simp only [materialize, bind_eq_ok, pure_eq_ok] at h
      obtain ⟨record, hrecord, others, hothers, rfl⟩ := h
      exact .cons ⟨_, hrecord⟩ (ih hothers)

theorem execute_addAll_cons {raises : ℕ → Option Failure} {place : ℕ} {rest : List Evidence}
    {own own' : EvidenceRows} :
    (addAll raises place (record :: rest)).execute () rows own = .ok ((), own') ↔
      statement raises place = .ok () ∧
        Rows.get (own ++ rows) record.evidenceId = none ∧
        (addAll raises (place + 1) rest).execute () rows
          (⟨record.evidenceId, some record⟩ :: own) = .ok ((), own') := by
  simp only [addAll, execute_bind_eq_ok, execute_lift_eq_ok, execute_insert_eq_ok]
  constructor
  · rintro ⟨_, _, ⟨hstatement, rfl⟩, _, _, ⟨hfree, rfl⟩, hrest⟩
    exact ⟨hstatement, hfree, hrest⟩
  · rintro ⟨hstatement, hfree, hrest⟩
    exact ⟨(), own, ⟨hstatement, rfl⟩, (), _, ⟨hfree, rfl⟩, hrest⟩

/-- A transaction that commits has added each record where there was none, and nothing
else. -/
theorem execute_addAll {raises : ℕ → Option Failure} {place : ℕ} {records : List Evidence}
    {own own' : EvidenceRows}
    (h : (addAll raises place records).execute () rows own = .ok ((), own')) :
    (∀ key row, Rows.get (own ++ rows) key = some row → Rows.get (own' ++ rows) key = some row) ∧
      (∀ record ∈ records, Rows.get (own' ++ rows) record.evidenceId = some record) ∧
      ∀ key row, Rows.get (own' ++ rows) key = some row →
        Rows.get (own ++ rows) key = some row ∨ row ∈ records := by
  induction records generalizing place own with
  | nil =>
      rw [addAll, execute_lift_eq_ok] at h
      obtain ⟨_, rfl⟩ := h
      constructor
      · exact fun _ _ hrow => hrow
      constructor
      · intro record hmem
        cases hmem
      · exact fun _ _ hrow => Or.inl hrow
  | cons record rest ih =>
      obtain ⟨_, hfree, hrest⟩ := execute_addAll_cons.mp h
      obtain ⟨hkeeps, hadds, honly⟩ := ih hrest
      constructor
      · intro key row hrow
        apply hkeeps
        rw [List.cons_append, Rows.get_cons_ne]
        · exact hrow
        · rintro rfl
          cases hfree.symm.trans hrow
      constructor
      · intro added hadded
        rcases List.mem_cons.mp hadded with rfl | hlater
        · exact hkeeps _ _ (Rows.get_cons_self _ _ _)
        · exact hadds added hlater
      · intro key row hrow
        rcases honly key row hrow with hbefore | hmem
        · rw [List.cons_append] at hbefore
          by_cases hkey : record.evidenceId = key
          · subst hkey
            rw [Rows.get_cons_self] at hbefore
            rw [← Option.some.inj hbefore]
            exact Or.inr List.mem_cons_self
          · rw [Rows.get_cons_ne hkey] at hbefore
            exact Or.inl hbefore
        · exact Or.inr (List.mem_cons_of_mem _ hmem)

/-- What a run that returns has done. -/
structure Returned (policy : ResearchRoutingPolicy) (world : IntelligenceWorld)
    (request : IntelligenceRequest) (rows : EvidenceRows) (ran : Ran)
    (run : IntelligenceRun) : Prop extends Prepared policy world request run where
  stored : ∀ record ∈ run.evidence, ran.rows.get record.evidenceId = some record
  only : ∀ key row, ran.rows.get key = some row → rows.get key = some row ∨ row ∈ run.evidence

theorem run_eq_ok (h : (IntelligenceService.run policy world request rows).outcome = .ok run) :
    Returned policy world request rows (IntelligenceService.run policy world request rows)
      run := by
  cases hprepared : prepare policy world request with
  | error error =>
      simp [IntelligenceService.run, hprepared] at h
  | ok prepared =>
      cases hstored : (addAll world.raises 0 prepared.evidence).atomically () rows with
      | error error => simp [IntelligenceService.run, hprepared, hstored] at h
      | ok result =>
          obtain ⟨_, rows'⟩ := result
          simp only [IntelligenceService.run, hprepared, hstored] at h ⊢
          obtain rfl := Except.ok.inj h
          obtain ⟨own, hown, rfl⟩ := atomically_eq_ok.mp hstored
          obtain ⟨_, hadds, honly⟩ := execute_addAll hown
          exact { prepare_eq_ok.mp hprepared with
            stored := hadds
            only := honly }

/-- A run that raises leaves the table as it was. -/
theorem run_eq_error {error : Failure}
    (h : (IntelligenceService.run policy world request rows).outcome = .error error) :
    (IntelligenceService.run policy world request rows).rows = rows := by
  cases hprepared : prepare policy world request with
  | error raised => simp only [IntelligenceService.run, hprepared]
  | ok prepared =>
      cases hstored : (addAll world.raises 0 prepared.evidence).atomically () rows with
      | error raised => simp only [IntelligenceService.run, hprepared, hstored]
      | ok result => simp [IntelligenceService.run, hprepared, hstored] at h

/-- The results of a run are those that the gateway has kept. -/
theorem results_kept {route : ResearchRoute} {results : List ProviderResult}
    (h : (researched world request route).outcome = .ok results) :
    results = keptResults (researched world request route).calls ∧
      ∀ result ∈ results, result.sourceClass ∈ route.allowedSourceClasses := by
  have hspends : ProviderGateway.Spends (some route.allowedSourceClasses) _ []
      (researched world request route) := ProviderGateway.waterfall_spends _ _ _ _
  have hkept := hspends.outcome results h
  rw [List.nil_append] at hkept
  constructor
  · exact hkept
  · intro result hresult
    rw [hkept] at hresult
    have hallowed := hspends.classes result hresult
    rw [ProviderGateway.allows, Option.all_some, decide_eq_true_eq] at hallowed
    exact hallowed

end Lemmas

end IntelligenceService

end ShemaPlatform
