/-
Bearer tokens: what an `Authorization` header has to be, which signing key and claims its
token needs, which actor they name, and what that actor may do.
-/
import ShemaPlatform.CloudProviders
import ShemaPlatform.Fallible
import ShemaPlatform.PyStrip
import ShemaPlatform.SpacedWords
import ShemaPlatform.WithdrawnKeys

namespace ShemaPlatform

open PatternText

section Permissions

def Permission.members : List Permission :=
  [.commercialActionCreate, .commercialActionSend, .orderCreate, .orderRead, .economicsRead,
    .diagnosticsRead, .searchRun, .discoveryRun, .researchRun, .counterpartyCheck,
    .counterpartyMonitorManage, .counterpartyFavoriteManage, .intelligenceRun,
    .intelligenceProviderActivate, .intelligenceProviderLookup,
    .intelligenceProviderRollback, .aiRun, .publicIntakeReview]

/-- `Permission(item)` -/
def Permission.ofValue (item : String) : Option Permission :=
  Permission.members.find? fun permission => permission.value == item

theorem Permission.ofValue_value (permission : Permission) :
    Permission.ofValue permission.value = some permission := by
  cases permission <;> rfl

@[simp] theorem Permission.ofValue_eq_some {item : String} {permission : Permission} :
    Permission.ofValue item = some permission ↔ permission.value = item := by
  constructor
  · intro hfound
    have hequal : (permission.value == item) = true :=
      @List.find?_some _ (fun permission : Permission => permission.value == item) permission
        Permission.members hfound
    exact beq_iff_eq.mp hequal
  · intro hvalue
    rw [← hvalue, Permission.ofValue_value]

end Permissions

def maxBearerTokenBytes : ℕ := 16384

/-- `_SAFE_ASYMMETRIC_ALGORITHMS` -/
def safeAsymmetricAlgorithms : List String :=
  ["RS256", "RS384", "RS512", "PS256", "PS384", "PS512", "ES256", "ES384", "ES512", "EdDSA"]

/-- What `OIDCConfiguration.__post_init__` accepts, but for the addresses. -/
structure OIDCConfiguration where
  issuer : String
  audience : String
  algorithms : List String
  clockSkewSeconds : ℤ
  actorIdClaim : String
  trustLevelClaim : String
  permissionsClaim : String
  audience_valid : PyText.blank audience = false
  algorithms_valid : algorithms ≠ [] ∧
    ∀ algorithm ∈ algorithms, algorithm ∈ safeAsymmetricAlgorithms
  clockSkew_valid : 0 ≤ clockSkewSeconds
  claims_valid : ∀ name ∈ [actorIdClaim, trustLevelClaim, permissionsClaim],
    PyText.blank name = false

/-- The fields of a JSON object. -/
abbrev JsonFields := List (String × JsonValue)

/-- What `jwt.decode` checks a token against. -/
structure TokenChecks where
  algorithm : String
  audience : String
  issuer : String
  leeway : ℤ
  required : List String
  now : ℚ

/-- The token library: the header of a token, its claims when it passes the checks, and the
algorithm of a key.  Nothing stands for an error that authentication expects. -/
structure TokenLibrary where
  header : String → Option JsonFields
  decode : String → SigningKey → TokenChecks → Option JsonFields
  algorithmName : SigningKey → Option String

structure AuthenticatedActor where
  actorId : String
  trustLevel : ℤ
  permissions : List Permission
  named : PyText.blank actorId = false
  trusted : 0 ≤ trustLevel

/-- How authentication fails: as it should, or with another exception. -/
inductive Unauthenticated where
  | authenticationRequired | raised
deriving DecidableEq, Repr

/-- What `AuthenticatedActor.__post_init__` accepts. -/
def AuthenticatedActor.create (actorId : String) (trustLevel : ℤ)
    (permissions : List Permission) : Except Unauthenticated AuthenticatedActor :=
  if hnamed : PyText.blank actorId = false then
    if htrusted : 0 ≤ trustLevel then
      .ok ⟨actorId, trustLevel, permissions, hnamed, htrusted⟩
    else .error .raised
  else .error .raised

/-- One request: its header, the clock as the keys are looked up, and whether the exception of
a fetch that fails in another way is one that authentication expects. -/
structure AuthenticationCall where
  authorization : Option String
  firstAt : ℚ
  limitedAt : ℚ
  readAt : ℚ
  refreshAt : ℚ
  decodedAt : ℚ
  expected : Bool

/-- The lookup of the key for a token with a header. -/
def AuthenticationCall.signing (call : AuthenticationCall) (header : JsonFields) :
    SigningCall where
  keyId := (header.lookup "kid").bind JsonValue.asText
  firstAt := call.firstAt
  limitedAt := call.limitedAt
  readAt := call.readAt
  refreshAt := call.refreshAt

/-- `_bearer_token` -/
def bearerToken (authorization : Option String) : Option String :=
  match authorization with
  | none => none
  | some text =>
      match words PyText.isSpace (PyText.strip text).toList with
      | [scheme, token] =>
          if PyText.lower (String.ofList scheme) = "bearer" ∧
              (String.ofList token).utf8ByteSize ≤ maxBearerTokenBytes then
            some (String.ofList token)
          else none
      | _ => none

structure OIDCJWTAuthenticator where
  configuration : OIDCConfiguration
  library : TokenLibrary
  client : JwksClient

namespace OIDCJWTAuthenticator

variable (authenticator : OIDCJWTAuthenticator)

/-- `_required_string_claim` -/
def requiredStringClaim (claims : JsonFields) (name : String) :
    Except Unauthenticated String :=
  match claims.lookup name with
  | some (.text value) =>
      if PyText.blank value then .error .authenticationRequired else .ok (PyText.strip value)
  | _ => .error .authenticationRequired

/-- `_trust_level` -/
def trustLevel (claims : JsonFields) : Except Unauthenticated ℤ :=
  match (claims.lookup authenticator.configuration.trustLevelClaim).getD (.int 0) with
  | .int value => if value < 0 then .error .authenticationRequired else .ok value
  | _ => .error .authenticationRequired

/-- What the permissions claim lists. -/
def listed (claims : JsonFields) : Except Unauthenticated (List JsonValue) :=
  match (claims.lookup authenticator.configuration.permissionsClaim).getD (.list []) with
  | .text value => .ok ((words PyText.isSpace value.toList).map fun word =>
      .text (String.ofList word))
  | .list items => .ok items
  | _ => .error .authenticationRequired

def permission (item : JsonValue) : Except Unauthenticated Permission :=
  match item.asText.bind Permission.ofValue with
  | some permission => .ok permission
  | none => .error .authenticationRequired

/-- `_permissions` -/
def permissions (claims : JsonFields) : Except Unauthenticated (List Permission) := do
  let items ← authenticator.listed claims
  items.mapM permission

/-- The actor that some claims name. -/
def claimedActor (claims : JsonFields) : Except Unauthenticated AuthenticatedActor := do
  let actorId ← requiredStringClaim claims authenticator.configuration.actorIdClaim
  let trustLevel ← authenticator.trustLevel claims
  let permissions ← authenticator.permissions claims
  AuthenticatedActor.create actorId trustLevel permissions

/-- The algorithm that a header names, when it may be used. -/
def acceptedAlgorithm (header : JsonFields) : Option String :=
  match header.lookup "alg" with
  | some (.text algorithm) =>
      if algorithm ∈ authenticator.configuration.algorithms ∧
          ((header.lookup "crit").getD .null).truthy = false then some algorithm
      else none
  | _ => none

def checks (algorithm : String) (now : ℚ) : TokenChecks where
  algorithm := algorithm
  audience := authenticator.configuration.audience
  issuer := authenticator.configuration.issuer
  leeway := authenticator.configuration.clockSkewSeconds
  required := ["exp", authenticator.configuration.actorIdClaim]
  now := now

/-- The actor of a token, once its key is known. -/
def verify (token algorithm : String) (key : SigningKey) (now : ℚ) :
    Except Unauthenticated AuthenticatedActor :=
  if ∀ name ∈ authenticator.library.algorithmName key, name = algorithm then
    match authenticator.library.decode token key (authenticator.checks algorithm now) with
    | some claims => authenticator.claimedActor claims
    | none => .error .authenticationRequired
  else .error .authenticationRequired

/-- `authenticate` -/
def authenticate (call : AuthenticationCall) (state : KeyState) :
    Except Unauthenticated AuthenticatedActor × KeyState :=
  match bearerToken call.authorization with
  | none => (.error .authenticationRequired, state)
  | some token =>
      match authenticator.library.header token with
      | none => (.error .authenticationRequired, state)
      | some header =>
          match authenticator.acceptedAlgorithm header with
          | none => (.error .authenticationRequired, state)
          | some algorithm =>
              let found := authenticator.client.signingKey (call.signing header) state
              match found.1 with
              | .ok key => (authenticator.verify token algorithm key call.decodedAt, found.2)
              | .error rejection =>
                  (.error (if rejection.isJwtError || call.expected then .authenticationRequired
                    else .raised), found.2)

/-- The keys that are held after some requests. -/
def after (calls : List AuthenticationCall) : KeyState :=
  calls.foldl (fun state call => (authenticator.authenticate call state).2) .initial

end OIDCJWTAuthenticator

/-- The paths that need no token. -/
def openPaths : List String :=
  ["/", "/request", "/operator", "/max", "/system", "/docs", "/redoc", "/openapi.json",
    "/health/ready", "/v1/public/intake", "/sw.js", "/manifest.webmanifest"]

def openPath (path : String) : Bool :=
  openPaths.contains path || PyText.startsWith path "/web/"

/-- What `AuthenticationMiddleware.dispatch` does with a request: it passes it on without an
actor or with one, answers 503 or 401, or raises. -/
inductive Dispatched where
  | opened
  | admitted (actor : AuthenticatedActor)
  | unavailable
  | authenticationRequired
  | raised

/-- `AuthenticationMiddleware.dispatch` -/
def dispatch (authenticator : Option OIDCJWTAuthenticator) (path : String)
    (call : AuthenticationCall) (state : KeyState) : Dispatched × KeyState :=
  if openPath path then (.opened, state)
  else match authenticator with
    | none => (.unavailable, state)
    | some authenticator =>
        match authenticator.authenticate call state with
        | (.ok actor, after) => (.admitted actor, after)
        | (.error .authenticationRequired, after) => (.authenticationRequired, after)
        | (.error .raised, after) => (.raised, after)

/-- `_require_permission` -/
def requirePermission (actor : AuthenticatedActor) (permission : Permission) :
    Except Failure Unit :=
  RBACAuthorizer.require ⟨[(actor.actorId, actor.permissions)]⟩ actor.actorId permission

section Headers

/-- The header is the word `Bearer`, in any case, and a token, with white space between. -/
def Bears (authorization : Option String) (token : String) : Prop :=
  ∃ text scheme : String, authorization = some text ∧
    Spaced PyText.isSpace [scheme.toList, token.toList] text.toList ∧
    PyText.lower scheme = "bearer" ∧ token.utf8ByteSize ≤ maxBearerTokenBytes

/-- Stripping takes white space off both ends. -/
theorem strip_split (text : String) : ∃ lead trail,
    (∀ c ∈ lead, PyText.isSpace c = true) ∧ (∀ c ∈ trail, PyText.isSpace c = true) ∧
      text.toList = lead ++ (PyText.strip text).toList ++ trail := by
  have htext := @List.takeWhile_append_dropWhile _ PyText.isSpace text.toList
  have hrest := @List.takeWhile_append_dropWhile _ PyText.isSpace
    (text.toList.dropWhile PyText.isSpace).reverse
  refine ⟨text.toList.takeWhile PyText.isSpace,
    ((text.toList.dropWhile PyText.isSpace).reverse.takeWhile PyText.isSpace).reverse, ?_, ?_, ?_⟩
  · intro c hc
    exact List.mem_takeWhile_imp hc
  · intro c hc
    exact List.mem_takeWhile_imp (List.mem_reverse.mp hc)
  · rw [PyText.strip, String.toList_ofList, List.append_assoc, ← List.reverse_append, hrest,
      List.reverse_reverse, htext]

theorem words_strip (text : String) : words PyText.isSpace (PyText.strip text).toList =
    words PyText.isSpace text.toList := by
  obtain ⟨lead, trail, hlead, htrail, hsplit⟩ := strip_split text
  obtain ⟨found, hspaced⟩ := exists_spaced PyText.isSpace (PyText.strip text).toList
  rw [hsplit, List.append_assoc, words_space_append hlead, hspaced.words,
    (hspaced.append_space htrail).words]

theorem bearerToken_eq_some {authorization : Option String} {token : String} :
    bearerToken authorization = some token ↔ Bears authorization token := by
  unfold bearerToken Bears
  cases authorization with
  | none => simp
  | some text =>
      simp only [words_strip]
      constructor
      · intro hbears
        split at hbears
        · rename_i scheme found hwords
          split at hbears
          · rename_i hfits
            obtain rfl := Option.some.inj hbears
            refine ⟨text, String.ofList scheme, rfl, ?_, hfits⟩
            rw [String.toList_ofList, String.toList_ofList]
            exact words_eq_iff.mp hwords
          · cases hbears
        · cases hbears
      · intro hbears
        obtain ⟨_, scheme, htext, hspaced, hfits⟩ := hbears
        obtain rfl := Option.some.inj htext
        simp only [hspaced.words, String.ofList_toList, if_pos hfits]

end Headers

section Claims

open OIDCJWTAuthenticator

variable {authenticator : OIDCJWTAuthenticator} {claims : JsonFields}
  {actor : AuthenticatedActor} {item : JsonValue} {granted : Permission}

/-- The claim lists the names: none when it is absent, the words of a text, or a list. -/
def Lists (claim : Option JsonValue) (names : List String) : Prop :=
  (claim = none ∧ names = []) ∨
    (∃ text : String, claim = some (.text text) ∧
      Spaced PyText.isSpace (names.map String.toList) text.toList) ∨
    claim = some (.list (names.map JsonValue.text))

/-- The claims name the actor, its trust level and exactly its permissions. -/
structure Describes (configuration : OIDCConfiguration) (claims : JsonFields)
    (actor : AuthenticatedActor) : Prop where
  subject : ∃ text, claims.lookup configuration.actorIdClaim = some (.text text) ∧
    actor.actorId = PyText.strip text
  trust : (claims.lookup configuration.trustLevelClaim = none ∧ actor.trustLevel = 0) ∨
    claims.lookup configuration.trustLevelClaim = some (.int actor.trustLevel)
  permissions : Lists (claims.lookup configuration.permissionsClaim)
    (actor.permissions.map Permission.value)

theorem requiredStringClaim_eq_ok {name value : String} :
    requiredStringClaim claims name = .ok value ↔
      ∃ text, claims.lookup name = some (.text text) ∧ PyText.blank text = false ∧
        value = PyText.strip text := by
  unfold requiredStringClaim
  constructor
  · intro hclaim
    split at hclaim
    · rename_i text hlookup
      split at hclaim
      · cases hclaim
      · rename_i hblank
        exact ⟨text, hlookup, by simpa using hblank, (Except.ok.inj hclaim).symm⟩
    · cases hclaim
  · intro hclaim
    obtain ⟨text, hlookup, hblank, rfl⟩ := hclaim
    simp only [hlookup, hblank, Bool.false_eq_true, if_false]

theorem trustLevel_eq_ok {value : ℤ} :
    authenticator.trustLevel claims = .ok value ↔
      ((claims.lookup authenticator.configuration.trustLevelClaim = none ∧ value = 0) ∨
        claims.lookup authenticator.configuration.trustLevelClaim = some (.int value)) ∧
      0 ≤ value := by
  unfold OIDCJWTAuthenticator.trustLevel
  cases claims.lookup authenticator.configuration.trustLevelClaim with
  | none =>
      simp only [Option.getD_none, lt_self_iff_false, if_false, Except.ok.injEq]
      constructor
      · intro hzero
        exact ⟨Or.inl ⟨trivial, hzero.symm⟩, hzero.le⟩
      · intro hvalue
        rcases hvalue.1 with hzero | hclaim
        · exact hzero.2.symm
        · exact absurd hclaim (Option.some_ne_none _).symm
  | some claim =>
      cases claim with
      | int number =>
          simp only [Option.getD_some, Option.some.injEq, JsonValue.int.injEq, reduceCtorEq,
            false_and, false_or]
          constructor
          · intro hvalue
            split at hvalue
            · cases hvalue
            · rename_i hnegative
              obtain rfl := Except.ok.inj hvalue
              exact ⟨rfl, not_lt.mp hnegative⟩
          · intro hvalue
            obtain ⟨rfl, hpositive⟩ := hvalue
            rw [if_neg (not_lt.mpr hpositive)]
      | _ => simp

theorem permission_eq_ok : permission item = .ok granted ↔ item = .text granted.value := by
  unfold permission
  cases item with
  | text name =>
      simp only [JsonValue.asText, Option.bind_some, JsonValue.text.injEq]
      constructor
      · intro hfound
        split at hfound
        · rename_i found hvalue
          obtain rfl := Except.ok.inj hfound
          exact (Permission.ofValue_eq_some.mp hvalue).symm
        · cases hfound
      · intro hname
        rw [hname, Permission.ofValue_value]
  | _ => simp [JsonValue.asText]

theorem mapM_permission {items : List JsonValue} {permissions : List Permission} :
    items.mapM permission = .ok permissions ↔
      items = (permissions.map Permission.value).map JsonValue.text := by
  induction items generalizing permissions with
  | nil =>
      cases permissions with
      | nil => simp [pure, Except.pure]
      | cons first others => simp [pure, Except.pure]
  | cons item others ih =>
      simp only [List.mapM_cons, Fallible.bind_eq_ok, permission_eq_ok, ih, Fallible.pure_eq_ok]
      constructor
      · intro hfound
        obtain ⟨granted, hitem, rest, hothers, rfl⟩ := hfound
        rw [hitem, hothers]
        rfl
      · intro hitems
        cases permissions with
        | nil => cases hitems
        | cons granted rest =>
            obtain ⟨hitem, hothers⟩ := List.cons.inj hitems
            exact ⟨granted, hitem, rest, hothers, rfl⟩

theorem listed_eq_ok {items : List JsonValue} :
    authenticator.listed claims = .ok items ↔
      (claims.lookup authenticator.configuration.permissionsClaim = none ∧ items = []) ∨
      (∃ text : String, claims.lookup authenticator.configuration.permissionsClaim =
          some (.text text) ∧
        items = (words PyText.isSpace text.toList).map fun word => .text (String.ofList word)) ∨
      claims.lookup authenticator.configuration.permissionsClaim = some (.list items) := by
  unfold listed
  cases claims.lookup authenticator.configuration.permissionsClaim with
  | none => simp [eq_comm]
  | some claim =>
      cases claim with
      | text value => simp [eq_comm]
      | list values => simp
      | _ => simp

theorem words_eq_texts {text : String} {names : List String} :
    (names.map JsonValue.text = (words PyText.isSpace text.toList).map fun word =>
      .text (String.ofList word)) ↔
    Spaced PyText.isSpace (names.map String.toList) text.toList := by
  have hnames : ((words PyText.isSpace text.toList).map fun word =>
      JsonValue.text (String.ofList word)) =
      ((words PyText.isSpace text.toList).map String.ofList).map JsonValue.text := by
    rw [List.map_map]
    rfl
  have hinjective : Function.Injective JsonValue.text := fun first second h =>
    JsonValue.text.inj h
  rw [hnames, (List.map_injective_iff.mpr hinjective).eq_iff, ← words_eq_iff]
  constructor
  · intro hwords
    rw [hwords, List.map_map]
    simp
  · intro hwords
    rw [hwords, List.map_map]
    simp

theorem permissions_eq_ok {permissions : List Permission} :
    authenticator.permissions claims = .ok permissions ↔
      Lists (claims.lookup authenticator.configuration.permissionsClaim)
        (permissions.map Permission.value) := by
  simp only [OIDCJWTAuthenticator.permissions, Fallible.bind_eq_ok, mapM_permission,
    exists_eq_right,
    listed_eq_ok, Lists, words_eq_texts, List.map_eq_nil_iff]

theorem create_eq_ok {actorId : String} {trustLevel : ℤ} {permissions : List Permission} :
    AuthenticatedActor.create actorId trustLevel permissions = .ok actor ↔
      actor.actorId = actorId ∧ actor.trustLevel = trustLevel ∧
        actor.permissions = permissions := by
  unfold AuthenticatedActor.create
  constructor
  · intro hcreated
    split at hcreated
    · split at hcreated
      · obtain rfl := Except.ok.inj hcreated
        exact ⟨rfl, rfl, rfl⟩
      · cases hcreated
    · cases hcreated
  · intro hactor
    obtain ⟨rfl, rfl, rfl⟩ := hactor
    rw [dif_pos actor.named, dif_pos actor.trusted]

/-- The claims make an actor exactly when they describe it. -/
theorem claimedActor_eq_ok : authenticator.claimedActor claims = .ok actor ↔
    Describes authenticator.configuration claims actor := by
  simp only [claimedActor, Fallible.bind_eq_ok, requiredStringClaim_eq_ok, trustLevel_eq_ok,
    permissions_eq_ok, create_eq_ok]
  constructor
  · intro hclaimed
    obtain ⟨_, ⟨text, hlookup, _, rfl⟩, _, ⟨htrust, _⟩, _, hlists, hid, rfl, rfl⟩ := hclaimed
    exact ⟨⟨text, hlookup, hid⟩, htrust, hlists⟩
  · intro hdescribes
    obtain ⟨text, hlookup, hid⟩ := hdescribes.subject
    have hnamed := actor.named
    rw [hid, PyText.blank_strip] at hnamed
    exact ⟨_, ⟨text, hlookup, hnamed, rfl⟩, _, ⟨hdescribes.trust, actor.trusted⟩, _,
      hdescribes.permissions, hid, rfl, rfl⟩

end Claims

end ShemaPlatform
