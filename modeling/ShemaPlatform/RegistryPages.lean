/-
Which pages of companies are read exactly: every item is taken or left for what it is, unless
one has a page at the registry with a port that cannot be read.
-/
import Mathlib.Data.Bool.AllAny
import ShemaPlatform.OpenCorporates

namespace ShemaPlatform

namespace OpenCorporates

open UrlText (NetlocChecks urlsplit)

variable {checks : NetlocChecks}

/-- The path of a company's page. -/
def companyPath (jurisdiction companyNumber : String) : List Char :=
  '/' :: ("companies".toList ++ '/' :: (jurisdiction.toList ++ '/' :: companyNumber.toList))

/-- A text that names a segment of a path. -/
def Segment (text : String) : Prop :=
  text ≠ "" ∧ '/' ∉ text.toList

/-- A URL at the registry itself, which may have a port. -/
def AtRegistry (parsed : UrlText.Parts) : Prop :=
  parsed.scheme = "https".toList ∧ parsed.hostname = some "opencorporates.com".toList

/-- A URL of a company's page, with slashes after it or without. -/
structure CompanyPage (parsed : UrlText.Parts) (jurisdiction companyNumber : String) : Prop where
  registry : AtRegistry parsed
  port : parsed.port = .ok none
  query : parsed.query = []
  fragment : parsed.fragment = []
  path : ∃ slashes, parsed.path =
    companyPath jurisdiction companyNumber ++ List.replicate slashes '/'
  jurisdiction : Segment jurisdiction
  companyNumber : Segment companyNumber

/-- A text within its bound, or the default of a missing one. -/
inductive BoundedText (maxChars : ℕ) (default : String) : JsonValue → String → Prop where
  | missing : BoundedText maxChars default .null default
  | given (value : String) (hnamed : PyText.strip value ≠ "")
      (hbound : (PyText.strip value).length ≤ maxChars) :
      BoundedText maxChars default (.text value) (PyText.strip value)

/-- An item that is well formed, and what it says. -/
structure WellFormed (checks : NetlocChecks) (item : JsonValue) (observation : Observation) :
    Prop where
  company : (item.get "company").isDict = true
  page : ∃ url parsed, (item.get "company").get "opencorporates_url" = .text url ∧
    urlsplit checks url.toList = .ok parsed ∧
    CompanyPage parsed observation.jurisdiction observation.companyNumber
  canonical : observation.sourceRef =
    companyUrl observation.jurisdiction observation.companyNumber
  name : BoundedText 512 "" ((item.get "company").get "name") observation.name
  named : observation.name ≠ ""
  jurisdiction : BoundedText 32 "unknown" ((item.get "company").get "jurisdiction_code")
    observation.jurisdiction
  companyNumber : BoundedText 128 "unknown" ((item.get "company").get "company_number")
    observation.companyNumber
  currentStatus : BoundedText 64 "unknown" ((item.get "company").get "current_status")
    observation.currentStatus

/-- A URL at the registry whose port cannot be read. -/
def PortUnreadable (checks : NetlocChecks) (url : String) : Prop :=
  ∃ parsed message, urlsplit checks url.toList = .ok parsed ∧ AtRegistry parsed ∧
    parsed.port = .error message

/-- A company with such a URL. -/
def Disrupts (checks : NetlocChecks) (item : JsonValue) : Prop :=
  (item.get "company").isDict = true ∧
    ∃ url, (item.get "company").get "opencorporates_url" = .text url ∧ PortUnreadable checks url

section Texts

variable {maxChars : ℕ} {default text : String} {value : JsonValue}

theorem boundedObservationText_eq_some :
    boundedObservationText maxChars default value = some text ↔
      BoundedText maxChars default value text := by
  cases value with
  | null =>
      rw [boundedObservationText, Option.some.injEq]
      constructor
      · rintro rfl
        exact .missing
      · intro h
        cases h
        rfl
  | text raw =>
      simp only [boundedObservationText]
      constructor
      · intro h
        split at h
        · cases h
        · rename_i hbad
          rw [not_or, Nat.not_lt] at hbad
          cases h
          exact .given raw hbad.1 hbad.2
      · intro h
        cases h with
        | given _ hnamed hbound =>
            rw [if_neg]
            rw [not_or, Nat.not_lt]
            exact ⟨hnamed, hbound⟩
  | bool flag => exact iff_of_false (by simp [boundedObservationText]) (fun h => by cases h)
  | int number => exact iff_of_false (by simp [boundedObservationText]) (fun h => by cases h)
  | real number => exact iff_of_false (by simp [boundedObservationText]) (fun h => by cases h)
  | list items => exact iff_of_false (by simp [boundedObservationText]) (fun h => by cases h)
  | dict fields => exact iff_of_false (by simp [boundedObservationText]) (fun h => by cases h)

end Texts

section Urls

variable {url ref jurisdiction companyNumber : String} {parsed : UrlText.Parts}

theorem pageOf_eq_some {segments : List (List Char)} : pageOf segments = some ref ↔
    ∃ jurisdiction companyNumber, segments = [[], "companies".toList, jurisdiction, companyNumber] ∧
      jurisdiction ≠ [] ∧ companyNumber ≠ [] ∧
      ref = companyUrl (String.ofList jurisdiction) (String.ofList companyNumber) := by
  unfold pageOf
  split
  · rename_i first companies jurisdiction companyNumber
    simp only [List.cons.injEq, and_true]
    constructor
    · intro h
      split at h
      · cases h
      · rename_i hfine
        rw [not_or, not_or, not_or, not_not, not_not] at hfine
        cases h
        exact ⟨jurisdiction, companyNumber, ⟨hfine.1, hfine.2.1, rfl, rfl⟩, hfine.2.2.1,
          hfine.2.2.2, rfl⟩
    · rintro ⟨jurisdiction', companyNumber', ⟨hfirst, hcompanies, rfl, rfl⟩, hj, hn, rfl⟩
      rw [if_neg]
      rw [not_or, not_or, not_or, not_not, not_not]
      exact ⟨hfirst, hcompanies, hj, hn⟩
  · rename_i hother
    apply iff_of_false
    · intro h
      cases h
    · rintro ⟨jurisdiction, companyNumber, hsegments, _⟩
      exact hother _ _ _ _ hsegments

theorem intercalate_segments (jurisdiction companyNumber : List Char) :
    ['/'].intercalate [[], "companies".toList, jurisdiction, companyNumber] =
      '/' :: ("companies".toList ++ '/' :: (jurisdiction ++ '/' :: companyNumber)) := by
  simp [List.intercalate]

theorem splitOn_companyPath {path jurisdiction companyNumber : List Char} :
    path.splitOn '/' = [[], "companies".toList, jurisdiction, companyNumber] ↔
      path = '/' :: ("companies".toList ++ '/' :: (jurisdiction ++ '/' :: companyNumber)) ∧
        '/' ∉ jurisdiction ∧ '/' ∉ companyNumber := by
  rw [UrlText.splitOn_eq_iff (List.cons_ne_nil _ _), intercalate_segments]
  simp

theorem companyPath_ne_nil : companyPath jurisdiction companyNumber ≠ [] :=
  List.cons_ne_nil _ _

theorem getLast_companyPath (h : Segment companyNumber) :
    (companyPath jurisdiction companyNumber).getLast companyPath_ne_nil ≠ '/' := by
  have hne : companyNumber.toList ≠ [] := by simpa using h.1
  have hsplit : companyPath jurisdiction companyNumber =
      ('/' :: ("companies".toList ++ '/' :: (jurisdiction.toList ++ ['/']))) ++
        companyNumber.toList := by
    simp [companyPath]
  simp only [hsplit, List.getLast_append_of_ne_nil _ hne]
  intro hslash
  apply h.2
  rw [← hslash]
  exact List.getLast_mem hne

/-- The page that a path leads to, when slashes at its end are dropped. -/
theorem pageOf_path {path : List Char} :
    pageOf ((path.rdropWhile (· == '/')).splitOn '/') = some ref ↔
      ∃ jurisdiction companyNumber, (∃ slashes, path =
          companyPath jurisdiction companyNumber ++ List.replicate slashes '/') ∧
        Segment jurisdiction ∧ Segment companyNumber ∧
        ref = companyUrl jurisdiction companyNumber := by
  simp only [pageOf_eq_some, splitOn_companyPath]
  constructor
  · rintro ⟨jurisdiction, companyNumber, ⟨hpath, hj, hn⟩, hj', hn', rfl⟩
    have hcompany : Segment (String.ofList companyNumber) := by
      constructor
      · simpa [String.ext_iff] using hn'
      · rwa [String.toList_ofList]
    use String.ofList jurisdiction, String.ofList companyNumber
    constructor
    · rw [← UrlText.rdropWhile_eq_iff companyPath_ne_nil (getLast_companyPath hcompany), hpath]
      simp [companyPath]
    · constructor
      · constructor
        · simpa [String.ext_iff] using hj'
        · rwa [String.toList_ofList]
      · exact ⟨hcompany, rfl⟩
  · rintro ⟨jurisdiction, companyNumber, hpath, hj, hn, rfl⟩
    rw [← UrlText.rdropWhile_eq_iff companyPath_ne_nil (getLast_companyPath hn)] at hpath
    use jurisdiction.toList, companyNumber.toList
    constructor
    · exact ⟨hpath, hj.2, hn.2⟩
    · constructor
      · simpa using hj.1
      · constructor
        · simpa using hn.1
        · rw [String.ofList_toList, String.ofList_toList]

/-- A canonical page is found exactly for the URLs of companies. -/
theorem canonicalize_eq_some :
    canonicalizeProvenanceUrl checks url = .ok (some ref) ↔
      ∃ parsed jurisdiction companyNumber, urlsplit checks url.toList = .ok parsed ∧
        CompanyPage parsed jurisdiction companyNumber ∧
        ref = companyUrl jurisdiction companyNumber := by
  unfold canonicalizeProvenanceUrl
  cases hsplit : urlsplit checks url.toList with
  | error message => simp
  | ok parsed =>
      simp only [Except.ok.injEq, exists_and_left, exists_eq_left']
      by_cases hregistry : AtRegistry parsed
      · have hhere : ¬ (parsed.scheme ≠ "https".toList ∨
            parsed.hostname ≠ some "opencorporates.com".toList) := by
          rw [not_or, not_not, not_not]
          exact hregistry
        rw [if_neg hhere]
        cases hport : parsed.port with
        | error message =>
            apply iff_of_false
            · simp
            · rintro ⟨jurisdiction, companyNumber, hpage, _⟩
              have hread := hpage.port
              rw [hport] at hread
              cases hread
        | ok port =>
            simp only
            split
            · rename_i hmore
              apply iff_of_false
              · simp
              · rintro ⟨jurisdiction, companyNumber, hpage, _⟩
                have hread := hpage.port
                rw [hport, Except.ok.injEq] at hread
                rcases hmore with hmore | hmore | hmore
                · exact hmore hread
                · exact hmore hpage.query
                · exact hmore hpage.fragment
            · rename_i hplain
              rw [not_or, not_or, not_not, not_not, not_not] at hplain
              rw [Except.ok.injEq, pageOf_path]
              constructor
              · rintro ⟨jurisdiction, companyNumber, hpath, hj, hn, href⟩
                use jurisdiction, companyNumber
                constructor
                · exact ⟨hregistry, hport.trans (congrArg Except.ok hplain.1), hplain.2.1,
                    hplain.2.2, hpath, hj, hn⟩
                · exact href
              · rintro ⟨jurisdiction, companyNumber, hpage, href⟩
                exact ⟨jurisdiction, companyNumber, hpage.path, hpage.jurisdiction,
                  hpage.companyNumber, href⟩
      · have helsewhere : parsed.scheme ≠ "https".toList ∨
            parsed.hostname ≠ some "opencorporates.com".toList := by
          rw [← not_and_or]
          exact hregistry
        rw [if_pos helsewhere]
        apply iff_of_false
        · simp
        · rintro ⟨jurisdiction, companyNumber, hpage, _⟩
          exact hregistry hpage.registry

theorem canonicalize_error :
    (∃ failure, canonicalizeProvenanceUrl checks url = .error failure) ↔
      PortUnreadable checks url := by
  unfold canonicalizeProvenanceUrl PortUnreadable
  cases hsplit : urlsplit checks url.toList with
  | error message => simp
  | ok parsed =>
      simp only [Except.ok.injEq, exists_and_left, exists_eq_left']
      by_cases hregistry : AtRegistry parsed
      · have hhere : ¬ (parsed.scheme ≠ "https".toList ∨
            parsed.hostname ≠ some "opencorporates.com".toList) := by
          rw [not_or, not_not, not_not]
          exact hregistry
        rw [if_neg hhere, and_iff_right hregistry]
        cases hport : parsed.port with
        | error message => simp
        | ok port =>
            simp only
            split
            · simp
            · simp
      · have helsewhere : parsed.scheme ≠ "https".toList ∨
            parsed.hostname ≠ some "opencorporates.com".toList := by
          rw [← not_and_or]
          exact hregistry
        rw [if_pos helsewhere]
        simp [hregistry]

theorem toList_companyUrl (jurisdiction companyNumber : String) :
    (companyUrl jurisdiction companyNumber).toList = "https:".toList ++ ("//".toList ++
      ("opencorporates.com".toList ++ '/' :: ("companies".toList ++ '/' :: (jurisdiction.toList ++
        '/' :: companyNumber.toList)))) := by
  have hstart : "https://opencorporates.com/companies/".toList = "https:".toList ++
      ("//".toList ++ ("opencorporates.com".toList ++ '/' :: ("companies".toList ++ ['/']))) := by
    decide
  have hslash : "/".toList = ['/'] := by decide
  have happend : (companyUrl jurisdiction companyNumber).toList =
      "https://opencorporates.com/companies/".toList ++ jurisdiction.toList ++ "/".toList ++
        companyNumber.toList := by
    unfold companyUrl
    rw [String.toList_append, String.toList_append, String.toList_append]
  rw [happend, hslash, hstart]
  simp only [List.append_assoc, List.cons_append, List.nil_append]

/-- The page of a company is split into the path that it was built with. -/
theorem urlsplit_companyUrl (hj : ∀ c ∈ jurisdiction.toList, UrlText.InPath c)
    (hn : ∀ c ∈ companyNumber.toList, UrlText.InPath c) :
    urlsplit checks (companyUrl jurisdiction companyNumber).toList =
      .ok ⟨"https".toList, "opencorporates.com".toList, companyPath jurisdiction companyNumber,
        [], []⟩ := by
  have hhost : ∀ c ∈ "opencorporates.com".toList, UrlText.InHost c :=
    List.all_iff_forall_prop.mp (by decide)
  have hprefix : ∀ c ∈ "companies".toList ++ ['/'], UrlText.InPath c :=
    List.all_iff_forall_prop.mp (by decide)
  have hpath : ∀ c ∈ "companies".toList ++ '/' :: (jurisdiction.toList ++ '/' ::
      companyNumber.toList), UrlText.InPath c := by
    intro c hc
    simp only [List.mem_append, List.mem_cons] at hc
    rcases hc with hc | rfl | hc | rfl | hc
    · exact hprefix c (List.mem_append_left _ hc)
    · exact hprefix _ (by decide)
    · exact hj c hc
    · exact hprefix _ (by decide)
    · exact hn c hc
  rw [toList_companyUrl]
  exact UrlText.urlsplit_https hhost hpath

theorem inPath_companyPage (hsplit : urlsplit checks url.toList = .ok parsed)
    (hpage : CompanyPage parsed jurisdiction companyNumber) :
    (∀ c ∈ jurisdiction.toList, UrlText.InPath c) ∧
      ∀ c ∈ companyNumber.toList, UrlText.InPath c := by
  have hpath := UrlText.inPath_of_urlsplit hsplit
  rcases hpage.path with ⟨slashes, heq⟩
  rw [heq] at hpath
  constructor
  · intro c hc
    apply hpath
    simp [companyPath, hc]
  · intro c hc
    apply hpath
    simp [companyPath, hc]

theorem provenanceIdentity_companyUrl (hsplit : urlsplit checks url.toList = .ok parsed)
    (hpage : CompanyPage parsed jurisdiction companyNumber) :
    provenanceIdentity checks (companyUrl jurisdiction companyNumber) =
      .ok (some (jurisdiction, companyNumber)) := by
  have hchars := inPath_companyPage hsplit hpage
  have hsegments : (companyPath jurisdiction companyNumber).splitOn '/' =
      [[], "companies".toList, jurisdiction.toList, companyNumber.toList] :=
    splitOn_companyPath.mpr ⟨rfl, hpage.jurisdiction.2, hpage.companyNumber.2⟩
  rw [provenanceIdentity, urlsplit_companyUrl hchars.1 hchars.2]
  simp only [hsegments, identityOf, if_true, String.ofList_toList]

end Urls

section Items

variable {item company : JsonValue} {observation : Observation} {ref : String}
  {identity : String × String}

theorem observationOf_eq_some : observationOf company ref identity = some observation ↔
    observation.sourceRef = ref ∧
      BoundedText 512 "" (company.get "name") observation.name ∧ observation.name ≠ "" ∧
      BoundedText 32 "unknown" (company.get "jurisdiction_code") observation.jurisdiction ∧
      BoundedText 128 "unknown" (company.get "company_number") observation.companyNumber ∧
      BoundedText 64 "unknown" (company.get "current_status") observation.currentStatus ∧
      (observation.jurisdiction, observation.companyNumber) = identity := by
  simp only [observationOf, Option.bind_eq_bind, Option.bind_eq_some_iff,
    boundedObservationText_eq_some]
  constructor
  · rintro ⟨name, hname, jurisdiction, hjurisdiction, number, hnumber, status, hstatus, h⟩
    split at h
    · cases h
    · rename_i hfine
      rw [not_or, not_not] at hfine
      cases h
      exact ⟨rfl, hname, hfine.1, hjurisdiction, hnumber, hstatus, hfine.2⟩
  · rintro ⟨rfl, hname, hnamed, hjurisdiction, hnumber, hstatus, hidentity⟩
    use observation.name
    constructor
    · exact hname
    · use observation.jurisdiction
      constructor
      · exact hjurisdiction
      · use observation.companyNumber
        constructor
        · exact hnumber
        · use observation.currentStatus
          constructor
          · exact hstatus
          · rw [if_neg]
            rw [not_or, not_not]
            exact ⟨hnamed, hidentity⟩

theorem sourceRefOf_eq_some {value : JsonValue} :
    sourceRefOf checks value = .ok (some ref) ↔ ∃ url parsed jurisdiction companyNumber,
      value = .text url ∧ urlsplit checks url.toList = .ok parsed ∧
      CompanyPage parsed jurisdiction companyNumber ∧
      ref = companyUrl jurisdiction companyNumber := by
  cases value with
  | text url =>
      rw [sourceRefOf, canonicalize_eq_some]
      simp only [JsonValue.text.injEq, exists_and_left, exists_eq_left']
  | null => exact iff_of_false (by simp [sourceRefOf]) (by simp)
  | bool flag => exact iff_of_false (by simp [sourceRefOf]) (by simp)
  | int number => exact iff_of_false (by simp [sourceRefOf]) (by simp)
  | real number => exact iff_of_false (by simp [sourceRefOf]) (by simp)
  | list items => exact iff_of_false (by simp [sourceRefOf]) (by simp)
  | dict fields => exact iff_of_false (by simp [sourceRefOf]) (by simp)

theorem sourceRefOf_error {value : JsonValue} :
    (∃ failure, sourceRefOf checks value = .error failure) ↔
      ∃ url, value = .text url ∧ PortUnreadable checks url := by
  cases value with
  | text url =>
      rw [sourceRefOf, canonicalize_error]
      simp only [JsonValue.text.injEq, exists_eq_left']
  | null => exact iff_of_false (by simp [sourceRefOf]) (by simp)
  | bool flag => exact iff_of_false (by simp [sourceRefOf]) (by simp)
  | int number => exact iff_of_false (by simp [sourceRefOf]) (by simp)
  | real number => exact iff_of_false (by simp [sourceRefOf]) (by simp)
  | list items => exact iff_of_false (by simp [sourceRefOf]) (by simp)
  | dict fields => exact iff_of_false (by simp [sourceRefOf]) (by simp)

/-- What the loop makes of a company, when its page is found or not. -/
theorem observe_of_company (hcompany : (item.get "company").isDict = true) :
    observe checks item = sourceRefOf checks ((item.get "company").get "opencorporates_url") >>=
      fun found => found.elim (.ok none) fun sourceRef =>
        provenanceIdentity checks sourceRef >>= fun named => named.elim (.ok none) fun identity =>
          .ok (observationOf (item.get "company") sourceRef identity) := by
  have hdict : ¬ (item.get "company").isDict = false := by simp [hcompany]
  simp only [observe, if_neg hdict]
  apply bind_congr
  intro found
  cases found with
  | none => rfl
  | some sourceRef =>
      apply bind_congr
      intro named
      cases named with
      | none => rfl
      | some identity => rfl

theorem observe_eq_some : observe checks item = .ok (some observation) ↔
    WellFormed checks item observation := by
  by_cases hcompany : (item.get "company").isDict = true
  · rw [observe_of_company hcompany]
    cases hfound : sourceRefOf checks ((item.get "company").get "opencorporates_url") with
    | error failure =>
        apply iff_of_false
        · intro h
          cases h
        · intro h
          rcases h.page with ⟨url, parsed, hurl, hsplit, hpage⟩
          rw [sourceRefOf_eq_some.mpr ⟨url, parsed, _, _, hurl, hsplit, hpage, rfl⟩] at hfound
          cases hfound
    | ok found =>
        cases found with
        | none =>
            apply iff_of_false
            · intro h
              cases h
            · intro h
              rcases h.page with ⟨url, parsed, hurl, hsplit, hpage⟩
              rw [sourceRefOf_eq_some.mpr ⟨url, parsed, _, _, hurl, hsplit, hpage, rfl⟩] at hfound
              cases hfound
        | some sourceRef =>
            rcases sourceRefOf_eq_some.mp hfound with
              ⟨url, parsed, jurisdiction, companyNumber, hurl, hsplit, hpage, rfl⟩
            have hnamed := provenanceIdentity_companyUrl hsplit hpage
            simp only [bind, Except.bind, Option.elim, hnamed, Except.ok.injEq,
              observationOf_eq_some, Prod.mk.injEq]
            constructor
            · rintro ⟨href, hname, hnonempty, hj, hn, hstatus, hjurisdiction, hnumber⟩
              rw [← hjurisdiction, ← hnumber] at hpage href
              exact ⟨hcompany, ⟨url, parsed, hurl, hsplit, hpage⟩, href, hname, hnonempty, hj, hn,
                hstatus⟩
            · intro h
              rcases h.page with ⟨url', parsed', hurl', hsplit', hpage'⟩
              rw [hurl] at hurl'
              cases hurl'
              rw [hsplit] at hsplit'
              cases hsplit'
              have hidentity := provenanceIdentity_companyUrl hsplit hpage'
              rw [sourceRefOf_eq_some.mpr ⟨url, parsed, _, _, hurl, hsplit, hpage', rfl⟩,
                Except.ok.injEq, Option.some.injEq] at hfound
              rw [hfound, hnamed, Except.ok.injEq, Option.some.injEq, Prod.mk.injEq] at hidentity
              exact ⟨h.canonical.trans hfound, h.name, h.named, h.jurisdiction, h.companyNumber,
                h.currentStatus, hidentity.1.symm, hidentity.2.symm⟩
  · apply iff_of_false
    · have hnone : observe checks item = .ok none := by
        rw [observe, if_pos (Bool.eq_false_of_not_eq_true hcompany)]
      simp [hnone]
    · exact fun h => hcompany h.company

/-- The loop is left by an exception only at a URL whose port cannot be read. -/
theorem observe_error : (∃ failure, observe checks item = .error failure) ↔
    Disrupts checks item := by
  by_cases hcompany : (item.get "company").isDict = true
  · rw [observe_of_company hcompany, Disrupts, and_iff_right hcompany, ← sourceRefOf_error]
    cases hfound : sourceRefOf checks ((item.get "company").get "opencorporates_url") with
    | error failure => exact iff_of_true ⟨failure, rfl⟩ ⟨failure, rfl⟩
    | ok found =>
        apply iff_of_false
        · rintro ⟨failure, h⟩
          cases found with
          | none => cases h
          | some sourceRef =>
              rcases sourceRefOf_eq_some.mp hfound with
                ⟨url, parsed, jurisdiction, companyNumber, hurl, hsplit, hpage, rfl⟩
              have hnamed := provenanceIdentity_companyUrl hsplit hpage
              simp only [bind, Except.bind, Option.elim, hnamed] at h
              cases h
        · rintro ⟨failure, h⟩
          cases h
  · apply iff_of_false
    · have hnone : observe checks item = .ok none := by
        rw [observe, if_pos (Bool.eq_false_of_not_eq_true hcompany)]
      simp [hnone]
    · exact fun h => hcompany h.1

end Items

end OpenCorporates

end ShemaPlatform
