/-
What `research` returns of a page: the claims of the well-formed items, each with its page,
when no item has a page at the registry with a port that cannot be read.
-/
import Mathlib.Data.List.ReduceOption
import ShemaPlatform.RegistryPages

namespace ShemaPlatform

namespace OpenCorporates

open UrlText (NetlocChecks urlsplit)
open Firsts (firstsBy)

variable {checks : NetlocChecks} {items : List JsonValue} {found : List (Option Observation)}
  {observations : List Observation}

/-- The observations of the well-formed items, the first one of each page. -/
def Selects (checks : NetlocChecks) (items : List JsonValue) (observations : List Observation) :
    Prop :=
  ∃ found, List.Forall₂ (fun item observed => ∀ observation : Observation,
      observed = some observation ↔ WellFormed checks item observation) items found ∧
    observations = firstsBy Observation.sourceRef [] found.reduceOption

/-- A claim names what the path of its page names. -/
def Names (checks : NetlocChecks) (claim sourceRef : String) : Prop :=
  ∃ (observation : Observation) (parsed : UrlText.Parts), claim = observation.claim ∧
    urlsplit checks sourceRef.toList = .ok parsed ∧
    parsed.path = companyPath observation.jurisdiction observation.companyNumber

/-- A result that says what the items say. -/
structure Reports (checks : NetlocChecks) (items : List JsonValue) (result : ProviderResult)
    (observations : List Observation) : Prop where
  selected : Selects checks items observations
  claims : result.claims = observations.map Observation.claim
  sourceRefs : result.sourceRefs = observations.map Observation.sourceRef
  aligned : result.claims.length = result.sourceRefs.length
  named : List.Forall₂ (Names checks) result.claims result.sourceRefs
  distinct : result.sourceRefs.Nodup

/-- Such a result is returned. -/
def Exact (checks : NetlocChecks) (items : List JsonValue)
    (answer : Except ResearchFailure ProviderResult) : Prop :=
  ∃ result observations, answer = .ok result ∧ Reports checks items result observations

section Loop

theorem observe_eq_ok {item : JsonValue} {observed : Option Observation}
    (h : observe checks item = .ok observed) (observation : Observation) :
    observed = some observation ↔ WellFormed checks item observation := by
  rw [← observe_eq_some, h, Except.ok.injEq]

/-- Every item is observed when none disrupts the loop. -/
theorem observed_of_quiet (hquiet : ∀ item ∈ items, ¬ Disrupts checks item) :
    ∃ found, List.Forall₂ (fun item observed => observe checks item = .ok observed) items
      found := by
  induction items with
  | nil => exact ⟨[], .nil⟩
  | cons item rest ih =>
      rcases ih fun other hother => hquiet other (List.mem_cons_of_mem item hother) with
        ⟨found, hfound⟩
      cases hitem : observe checks item with
      | error failure =>
          have hdisrupts := observe_error.mp ⟨failure, hitem⟩
          exact absurd hdisrupts (hquiet item List.mem_cons_self)
      | ok observed => exact ⟨observed :: found, .cons hitem hfound⟩

/-- The loop keeps the first observation of each page. -/
theorem collect_observed
    (hfound : List.Forall₂ (fun item observed => observe checks item = .ok observed) items found)
    (page : Page) : ∃ seen, collect checks items page =
      .ok ⟨page.claims ++
          (firstsBy Observation.sourceRef page.seen found.reduceOption).map Observation.claim,
        page.sourceRefs ++
          (firstsBy Observation.sourceRef page.seen found.reduceOption).map Observation.sourceRef,
        seen⟩ := by
  induction hfound generalizing page with
  | nil =>
      use page.seen
      simp [collect, List.reduceOption_nil, firstsBy]
  | @cons item observed items found hitem _ ih =>
      have hstep : collect checks (item :: items) page =
          collect checks items (observed.elim page page.add) := by
        rw [collect, hitem]
        rfl
      rw [hstep]
      cases observed with
      | none =>
          rw [List.reduceOption_cons_of_none]
          exact ih page
      | some observation =>
          rw [List.reduceOption_cons_of_some, firstsBy]
          by_cases hseen : observation.sourceRef ∈ page.seen
          · have hsame : page.add observation = page := if_pos hseen
            rw [if_pos hseen, Option.elim_some, hsame]
            exact ih page
          · have hadd : page.add observation = ⟨page.claims ++ [observation.claim],
                page.sourceRefs ++ [observation.sourceRef], observation.sourceRef :: page.seen⟩ :=
              if_neg hseen
            rcases ih (page.add observation) with ⟨seen, hseen'⟩
            use seen
            rw [if_neg hseen, Option.elim_some, hseen', hadd]
            simp only [List.map_cons, List.append_assoc, List.singleton_append]

/-- A URL whose port cannot be read ends the loop. -/
theorem collect_disrupted {item : JsonValue} (hmem : item ∈ items)
    (hdisrupts : Disrupts checks item) (page : Page) :
    ∃ failure, collect checks items page = .error failure := by
  induction items generalizing page with
  | nil => cases hmem
  | cons first rest ih =>
      cases hfirst : observe checks first with
      | error failure =>
          use failure
          rw [collect, hfirst]
          rfl
      | ok observed =>
          rcases List.mem_cons.mp hmem with rfl | hrest
          · rcases observe_error.mpr hdisrupts with ⟨failure, hfailure⟩
            rw [hfailure] at hfirst
            cases hfirst
          · have hstep : collect checks (first :: rest) page =
                collect checks rest (observed.elim page page.add) := by
              rw [collect, hfirst]
              rfl
            rw [hstep]
            exact ih hrest _

end Loop

section Results

theorem wellFormed_of_selects (h : Selects checks items observations) :
    ∀ observation ∈ observations, ∃ item, WellFormed checks item observation := by
  rcases h with ⟨found, hfound, rfl⟩
  intro observation hmem
  have hsome : some observation ∈ found :=
    List.reduceOption_mem_iff.mp (Firsts.mem_of_mem_firstsBy hmem)
  rcases List.forall₂_iff_get.mp hfound with ⟨hlength, hget⟩
  rcases List.get_of_mem hsome with ⟨place, hplace⟩
  have hplace' : place < items.length := by
    rw [hlength]
    exact place.isLt
  have hitem := hget place hplace' place.isLt observation
  exact ⟨_, hitem.mp hplace⟩

theorem names_of_wellFormed {item : JsonValue} {observation : Observation}
    (h : WellFormed checks item observation) :
    Names checks observation.claim observation.sourceRef := by
  rcases h.page with ⟨url, parsed, hurl, hsplit, hpage⟩
  have hchars := inPath_companyPage hsplit hpage
  rw [h.canonical]
  exact ⟨observation, _, rfl, urlsplit_companyUrl hchars.1 hchars.2, rfl⟩

theorem blank_companyUrl (jurisdiction companyNumber : String) :
    PyText.blank (companyUrl jurisdiction companyNumber) = false := by
  rw [PyText.blank, toList_companyUrl, List.all_append]
  rfl

theorem nodup_sourceRefs (h : Selects checks items observations) :
    (observations.map Observation.sourceRef).Nodup := by
  rcases h with ⟨found, _, rfl⟩
  exact Firsts.nodup_firstsBy _ _ _

/-- The result of a page passes the checks of its constructor. -/
theorem resultOf_selected (configuration : OpenCorporatesConfiguration)
    (h : Selects checks items observations) (seen : List String) :
    ∃ result, resultOf configuration ⟨observations.map Observation.claim,
        observations.map Observation.sourceRef, seen⟩ = .ok result ∧
      Reports checks items result observations := by
  have hnodup := nodup_sourceRefs h
  have hwell := wellFormed_of_selects h
  have hsame : firstsBy id [] (observations.map Observation.sourceRef) =
      observations.map Observation.sourceRef := by
    apply Firsts.firstsBy_eq_self
    · rwa [List.map_id]
    · intro ref _
      exact List.not_mem_nil
  have hrefs : ∀ ref ∈ observations.map Observation.sourceRef, PyText.blank ref = false := by
    intro ref hmem
    rcases List.mem_map.mp hmem with ⟨observation, hobservation, rfl⟩
    rcases hwell observation hobservation with ⟨item, hitem⟩
    rw [hitem.canonical]
    exact blank_companyUrl _ _
  have hclaims : observations.map Observation.claim ≠ [] →
      observations.map Observation.sourceRef ≠ [] := by
    intro hne hnil
    apply hne
    rw [List.map_eq_nil_iff] at hnil ⊢
    exact hnil
  have hnames : List.Forall₂ (Names checks) (observations.map Observation.claim)
      (observations.map Observation.sourceRef) := by
    rw [List.forall₂_map_left_iff, List.forall₂_map_right_iff, List.forall₂_same]
    intro observation hobservation
    rcases hwell observation hobservation with ⟨item, hitem⟩
    exact names_of_wellFormed hitem
  simp only [resultOf, hsame, dif_pos hrefs, dif_pos hclaims]
  constructor
  constructor
  · rfl
  · exact ⟨h, rfl, rfl, hnames.length_eq, hnames, hnodup⟩

end Results

section Replies

variable {configuration : OpenCorporatesConfiguration} {call : ResearchCall} {reply : Reply}
  {requester : ℚ → Except ResearchFailure Reply} {payload : JsonValue}
  {companies : List JsonValue}

/-- The seconds that a call may take. -/
def allowed (configuration : OpenCorporatesConfiguration) (call : ResearchCall) : ℚ :=
  call.timeoutSeconds.elim configuration.timeoutSeconds (min configuration.timeoutSeconds)

/-- The arguments are valid, and there is time for a request. -/
structure Admitted (configuration : OpenCorporatesConfiguration) (call : ResearchCall) :
    Prop where
  query : PyText.strip call.query ≠ ""
  short : (PyText.strip call.query).length ≤ configuration.maxQueryChars
  sources : 1 ≤ call.maxSources
  url : call.urlBytes (PyText.strip call.query) (min call.maxSources 50) ≤
    configuration.maxRequestUrlBytes
  timeout : call.timeoutSeconds.all (fun timeout => decide (0 < timeout)) = true
  delay : call.delay ≤ 0 ∨ call.delay < allowed configuration call
  time : call.elapsed < allowed configuration call

/-- The requester answers with status 200 and a body within the bound. -/
structure Answered (configuration : OpenCorporatesConfiguration)
    (requester : ℚ → Except ResearchFailure Reply) (call : ResearchCall) (reply : Reply) :
    Prop where
  admitted : Admitted configuration call
  answer : requester (allowed configuration call - call.elapsed) = .ok reply
  status : reply.status = 200
  size : reply.size ≤ configuration.maxResponseBytes

theorem demand_true (failure : ResearchFailure) : demand true failure = .ok () :=
  rfl

theorem boundedTimeout_admitted (h : Admitted configuration call) :
    boundedTimeout configuration call = .ok (allowed configuration call - call.elapsed) := by
  have hquery : (PyText.strip call.query != "") = true := bne_iff_ne.mpr h.query
  have htime : 0 < allowed configuration call - call.elapsed := sub_pos.mpr h.time
  have hsources : 0 < call.maxSources := h.sources
  unfold allowed at htime
  have hdelay := h.delay
  unfold allowed at hdelay ⊢
  simp only [boundedTimeout, hquery, decide_eq_true h.short, decide_eq_true hsources,
    decide_eq_true h.url, h.timeout, decide_eq_true hdelay, decide_eq_true htime, demand_true]
  rfl

theorem companiesOf_list (h : (payload.get "results").get "companies" = .list companies) :
    companiesOf payload = .ok companies := by
  cases payload with
  | dict fields =>
      rw [JsonValue.get] at h
      cases hresults : fields.lookup "results" with
      | none =>
          rw [hresults] at h
          cases h
      | some results =>
          rw [hresults, Option.getD_some] at h
          cases results with
          | dict inner =>
              rw [JsonValue.get] at h
              cases hcompanies : inner.lookup "companies" with
              | none =>
                  rw [hcompanies] at h
                  cases h
              | some value =>
                  rw [hcompanies, Option.getD_some] at h
                  simp only [companiesOf, field, hresults, hcompanies, h, bind, Except.bind,
                    Option.getD_some]
                  rfl
          | null => cases h
          | bool flag => cases h
          | int number => cases h
          | real number => cases h
          | text value => cases h
          | list items => cases h
  | null => cases h
  | bool flag => cases h
  | int number => cases h
  | real number => cases h
  | text value => cases h
  | list items => cases h

/-- What becomes of a body that is read. -/
theorem research_of_loaded (h : Answered configuration requester call reply)
    (hbody : reply.loaded = .ok payload)
    (hcompanies : (payload.get "results").get "companies" = .list companies) :
    research checks configuration requester call =
      collect checks (companies.take (min call.maxSources 50).toNat) ⟨[], [], []⟩ >>=
        resultOf configuration := by
  have hstatus : (reply.status == 200) = true := beq_iff_eq.mpr h.status
  have hload : loadBody reply = .ok payload := by
    rw [loadBody, hbody]
  rw [research, boundedTimeout_admitted h.admitted]
  simp only [bind, Except.bind, h.answer, readReply, decide_eq_true h.size, hstatus, demand_true,
    hload, companiesOf_list hcompanies]

theorem research_of_unread (h : Answered configuration requester call reply)
    (hbody : reply.loaded = .error .other) :
    research checks configuration requester call = .error .other := by
  have hstatus : (reply.status == 200) = true := beq_iff_eq.mpr h.status
  have hload : loadBody reply = .error .other := by
    rw [loadBody, hbody]
  rw [research, boundedTimeout_admitted h.admitted]
  simp only [bind, Except.bind, h.answer, readReply, decide_eq_true h.size, hstatus, demand_true,
    hload]

end Replies

/-- The claims of a page are exactly those of its well-formed items when the body can be read
and no item up to the requested number has a URL at the registry with an unreadable port. -/
theorem research_exact_iff (checks : NetlocChecks) (configuration : OpenCorporatesConfiguration)
    (requester : ℚ → Except ResearchFailure Reply) (call : ResearchCall) (reply : Reply)
    (payload : JsonValue) (companies : List JsonValue)
    (hanswered : Answered configuration requester call reply)
    (hbody : reply.loaded = .ok payload ∨ reply.loaded = .error .other)
    (hcompanies : (payload.get "results").get "companies" = .list companies) :
    Exact checks (companies.take (min call.maxSources 50).toNat)
        (research checks configuration requester call) ↔
      reply.loaded = .ok payload ∧
        ∀ item ∈ companies.take (min call.maxSources 50).toNat, ¬ Disrupts checks item := by
  constructor
  · rintro ⟨result, observations, hresult, _⟩
    rcases hbody with hbody | hbody
    · constructor
      · exact hbody
      · intro item hmem hdisrupts
        rcases collect_disrupted hmem hdisrupts ⟨[], [], []⟩ with ⟨failure, hfailure⟩
        rw [research_of_loaded hanswered hbody hcompanies, hfailure] at hresult
        cases hresult
    · rw [research_of_unread hanswered hbody] at hresult
      cases hresult
  · rintro ⟨hloaded, hquiet⟩
    rcases observed_of_quiet hquiet with ⟨found, hfound⟩
    have hselects : Selects checks (companies.take (min call.maxSources 50).toNat)
        (firstsBy Observation.sourceRef [] found.reduceOption) := by
      use found
      constructor
      · exact hfound.imp fun item observed hitem => observe_eq_ok hitem
      · rfl
    rcases collect_observed hfound ⟨[], [], []⟩ with ⟨seen, hcollect⟩
    rcases resultOf_selected configuration hselects seen with ⟨result, hresult, hreports⟩
    use result, firstsBy Observation.sourceRef [] found.reduceOption
    constructor
    · rw [research_of_loaded hanswered hloaded hcompanies, hcollect]
      exact hresult
    · exact hreports

section Samples

/-- Checks that every network location passes. -/
def lenientChecks : NetlocChecks :=
  ⟨fun _ => true, fun _ => true⟩

theorem defaults_bounded : ((0 : ℚ) < 5 ∧ (5 : ℚ) ≤ 30) ∧
    ((0 : ℤ) < 1048576 ∧ (1048576 : ℤ) ≤ 4194304) ∧ ((0 : ℤ) < 1024 ∧ (1024 : ℤ) ≤ 4096) ∧
    ((0 : ℤ) < 8192 ∧ (8192 : ℤ) ≤ 16384) := by
  decide

theorem defaults_priced : (0 : ℚ) ≤ 0 ∧ (0 : ℚ) ≤ 4 / 5 ∧ (4 / 5 : ℚ) ≤ 1 := by
  decide +kernel

/-- The defaults of the configuration. -/
def defaultConfiguration : OpenCorporatesConfiguration :=
  ⟨5, 1048576, 1024, 8192, 0, 4 / 5, defaults_bounded, defaults_priced⟩

def companySearch : ResearchCall :=
  ⟨"company", 10, none, fun _ _ => 100, 0, 0⟩

/-- An item of a company at a URL. -/
def companyItem (url : String) : JsonValue :=
  .dict [("company", .dict [("name", .text "First"), ("company_number", .text "1"),
    ("jurisdiction_code", .text "gb"), ("opencorporates_url", .text url)])]

/-- An item with a slash after its page. -/
def plainItem : JsonValue :=
  companyItem "https://opencorporates.com/companies/gb/1/"

/-- An item whose port is no number. -/
def portItem : JsonValue :=
  companyItem "https://opencorporates.com:abc/companies/gb/2"

def companyPayload (items : List JsonValue) : JsonValue :=
  .dict [("results", .dict [("companies", .list items)])]

def pageReply (items : List JsonValue) : Reply :=
  ⟨200, 1000, .ok (companyPayload items)⟩

theorem companySearch_admitted : Admitted defaultConfiguration companySearch := by
  constructor <;> decide

theorem thousand_bytes : ((1000 : ℕ) : ℤ) ≤ 1048576 := by
  decide

theorem pageReply_answered (items : List JsonValue) : Answered defaultConfiguration
    (fun _ => .ok (pageReply items)) companySearch (pageReply items) where
  admitted := companySearch_admitted
  answer := rfl
  status := rfl
  size := thousand_bytes

theorem plainItem_observed : observe lenientChecks plainItem =
      .ok (some ⟨"https://opencorporates.com/companies/gb/1", "First", "gb", "1", "unknown"⟩) := by
  decide

theorem portItem_raises : observe lenientChecks portItem =
      .error (.valueError "Port could not be cast to integer value") := by
  decide

theorem plainItem_quiet : ∀ item ∈ [plainItem], ¬ Disrupts lenientChecks item := by
  intro item hmem hdisrupts
  rw [List.mem_singleton.mp hmem] at hdisrupts
  rcases observe_error.mpr hdisrupts with ⟨failure, hfailure⟩
  rw [plainItem_observed] at hfailure
  cases hfailure

/-- The claim of one well-formed item is returned. -/
theorem research_exact_iff_one :
    Exact lenientChecks [plainItem] (research lenientChecks defaultConfiguration
      (fun _ => .ok (pageReply [plainItem])) companySearch) :=
  (research_exact_iff lenientChecks defaultConfiguration (fun _ => .ok (pageReply [plainItem]))
    companySearch (pageReply [plainItem]) (companyPayload [plainItem]) [plainItem]
    (pageReply_answered _) (Or.inl rfl) rfl).mpr ⟨rfl, plainItem_quiet⟩

/-- One item with an unreadable port discards the claim of a well-formed one. -/
theorem unreadable_port_discards_page :
    ¬ ∀ (checks : NetlocChecks) (configuration : OpenCorporatesConfiguration)
      (requester : ℚ → Except ResearchFailure Reply) (call : ResearchCall) (reply : Reply)
      (payload : JsonValue) (companies : List JsonValue),
      Answered configuration requester call reply → reply.loaded = .ok payload →
        (payload.get "results").get "companies" = .list companies →
          Exact checks (companies.take (min call.maxSources 50).toNat)
            (research checks configuration requester call) := by
  intro h
  have hexact := h lenientChecks defaultConfiguration
    (fun _ => .ok (pageReply [plainItem, portItem])) companySearch
    (pageReply [plainItem, portItem]) (companyPayload [plainItem, portItem])
    [plainItem, portItem] (pageReply_answered _) rfl rfl
  rcases hexact with ⟨result, observations, hresult, _⟩
  have hdisrupts := observe_error.mp ⟨_, portItem_raises⟩
  have hmem : portItem ∈
      List.take (min companySearch.maxSources 50).toNat [plainItem, portItem] :=
    List.mem_cons_of_mem _ List.mem_cons_self
  rcases collect_disrupted hmem hdisrupts ⟨[], [], []⟩ with ⟨failure, hfailure⟩
  rw [research_of_loaded (pageReply_answered _) rfl rfl, hfailure] at hresult
  cases hresult

end Samples

end OpenCorporates

end ShemaPlatform
