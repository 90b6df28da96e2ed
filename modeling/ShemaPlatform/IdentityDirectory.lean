/-
The identity directory: what it makes of a candidate, and what discovery makes of a
search hit.
-/
import ShemaPlatform.Foundation
import ShemaPlatform.Search

namespace ShemaPlatform

inductive Resolution where
  | matched | merge | keepSeparate | quarantine | manualReview
deriving DecidableEq, Repr

namespace Identity

/-- The tax id; an absent one is as good as an empty one. -/
def taxIdText (identity : Identity) : String := identity.taxId.getD ""

def canMerge (identity other : Identity) : Bool :=
  identity.taxIdText != "" && other.taxIdText != "" && identity.taxId == other.taxId

def resolveWith (identity other : Identity) : Resolution :=
  if identity.identityId = other.identityId then .matched
  else if identity.canMerge other then .merge
  else if identity.taxIdText = "" ∨ other.taxIdText = "" then .quarantine
  else .manualReview

end Identity

/-- What `IdentityDirectory.resolve` finds a candidate to be. -/
inductive DirectoryMatch where
  | new | existing | conflict | review
deriving DecidableEq, Repr

structure IdentityResolution where
  matching : DirectoryMatch
  resolution : Resolution
  existingIdentityIds : List String
deriving DecidableEq, Repr

/-- The identities in the order of their registration; a `dict` has each id once. -/
structure IdentityDirectory where
  identities : List Identity
  distinct : (identities.map Identity.identityId).Nodup

namespace IdentityDirectory

theorem empty_distinct : (([] : List Identity).map Identity.identityId).Nodup := List.nodup_nil

def empty : IdentityDirectory := ⟨[], empty_distinct⟩

variable (directory : IdentityDirectory)

def get (identityId : String) : Option Identity :=
  directory.identities.find? fun identity => identity.identityId == identityId

def findByTaxId (taxId : String) : List Identity :=
  let normalizedTaxId := PyText.strip taxId
  if normalizedTaxId = "" then []
  else directory.identities.filter fun identity => identity.taxId == some normalizedTaxId

def resolve (candidate : Identity) : Except Failure IdentityResolution :=
  if candidate.taxIdText = "" then .ok ⟨.review, .quarantine, []⟩
  else
    match directory.findByTaxId candidate.taxIdText with
    | [] => .ok ⟨.new, .keepSeparate, []⟩
    | [existing] =>
        if existing.identityId = candidate.identityId then
          .ok ⟨.existing, .matched, [existing.identityId]⟩
        else .ok ⟨.existing, existing.resolveWith candidate, [existing.identityId]⟩
    | _ => .error (.integrityViolation
        s!"tax_id {candidate.taxIdText} is already assigned to multiple identities")

theorem distinct_append {identities : List Identity} {candidate : Identity}
    (hdistinct : (identities.map Identity.identityId).Nodup)
    (hnew : candidate.identityId ∉ identities.map Identity.identityId) :
    ((identities ++ [candidate]).map Identity.identityId).Nodup := by
  rw [List.map_append, List.nodup_append]
  constructor
  · exact hdistinct
  · constructor
    · exact List.nodup_singleton _
    · intro identityId hold fresh hfresh
      rw [List.map_singleton, List.mem_singleton] at hfresh
      rw [hfresh]
      exact fun hsame => hnew (hsame ▸ hold)

def register (candidate : Identity) : Except Failure IdentityDirectory :=
  if candidate.taxIdText = "" then
    .error (.quarantineRequired "canonical identity registration requires tax_id")
  else if hnew : candidate.identityId ∉ directory.identities.map Identity.identityId then
    if directory.findByTaxId candidate.taxIdText = [] then
      .ok ⟨directory.identities ++ [candidate], distinct_append directory.distinct hnew⟩
    else .error (.integrityViolation "tax_id is already registered")
  else .error (.integrityViolation "identity_id is already registered")

end IdentityDirectory

/-- The arguments of `register_new`, with the id it draws. -/
structure NewIdentity where
  identityId : String
  canonicalName : String
  taxId : String
  registrationId : Option String
deriving DecidableEq

def NewIdentity.candidate (arguments : NewIdentity) : Identity where
  identityId := arguments.identityId
  canonicalName := PyText.strip arguments.canonicalName
  state := .identified
  taxId := some (PyText.strip arguments.taxId)
  registrationId := SearchHit.stripped arguments.registrationId

def IdentityDirectory.registerNew (directory : IdentityDirectory) (arguments : NewIdentity) :
    Except Failure IdentityDirectory :=
  if arguments.candidate.canonicalName = "" then
    .error (.valueError "canonical_name is required")
  else directory.register arguments.candidate

inductive QualificationStatus where
  | qualified | review | rejected
deriving DecidableEq, Repr

structure QualificationInput where
  identityVerified : Bool
  contactAvailable : Bool
  serviceFit : Bool
  evidenceLevel : ℤ
  economicFit : Bool

structure QualificationDecision where
  status : QualificationStatus
  reasons : List String
deriving DecidableEq, Repr

/-- `QualificationService.evaluate` -/
def QualificationInput.evaluate (value : QualificationInput) : QualificationDecision :=
  let unproven := (if value.identityVerified then [] else ["identity_not_verified"]) ++
    (if value.evidenceLevel < 2 then ["insufficient_evidence"] else [])
  if unproven ≠ [] then ⟨.review, unproven⟩
  else if value.contactAvailable && value.serviceFit && value.economicFit then ⟨.qualified, []⟩
  else ⟨.review, (if value.contactAvailable then [] else ["contact_unavailable"]) ++
    (if value.serviceFit then [] else ["service_mismatch"]) ++
    (if value.economicFit then [] else ["economic_fit_not_confirmed"])⟩

structure DiscoveryResult where
  candidateRef : String
  identity : Option Identity
  identityResolution : IdentityResolution
  qualification : QualificationDecision
deriving DecidableEq

/-- The arguments of `DiscoveryService.process`. -/
structure Discovery where
  hit : SearchHit
  evidenceLevel : ℤ
  serviceFit : Bool
  economicFit : Bool

namespace Discovery

variable (discovery : Discovery)

/-- The identity that a hit is taken for. -/
def provisional : Identity where
  identityId := discovery.hit.candidateRef
  canonicalName := discovery.hit.name
  state := .identified
  taxId := discovery.hit.taxId
  registrationId := discovery.hit.registrationId

/-- What a hit without a tax id is taken for. -/
def raw : Identity where
  identityId := discovery.hit.candidateRef
  canonicalName := discovery.hit.name
  state := .raw
  taxId := none
  registrationId := none

/-- The identity of a hit with a tax id, and the directory after it. -/
def identify (directory : IdentityDirectory) (resolution : IdentityResolution) :
    Except Failure (Option Identity × IdentityDirectory) :=
  if resolution.matching = .new then do
    let directory ← directory.register discovery.provisional
    return (some discovery.provisional, directory)
  else return (resolution.existingIdentityIds.head?.bind directory.get, directory)

def outcome (identity : Option Identity) (resolution : IdentityResolution) : DiscoveryResult where
  candidateRef := discovery.hit.candidateRef
  identity := identity
  identityResolution := resolution
  qualification := QualificationInput.evaluate {
    identityVerified := identity.any fun identity =>
      identity.state == .verified || identity.state == .active
    contactAvailable := !discovery.hit.contactRefs.isEmpty
    serviceFit := discovery.serviceFit
    evidenceLevel := discovery.evidenceLevel
    economicFit := discovery.economicFit }

def process (directory : IdentityDirectory) :
    Except Failure (DiscoveryResult × IdentityDirectory) :=
  if discovery.provisional.taxIdText ≠ "" then do
    let resolution ← directory.resolve discovery.provisional
    let (identity, directory) ← discovery.identify directory resolution
    return (discovery.outcome identity resolution, directory)
  else do
    let resolution ← directory.resolve discovery.raw
    return (discovery.outcome none resolution, directory)

end Discovery

end ShemaPlatform
