/-
Which requests reach the application, as which actor, and what they may do there, after any
requests before them.
-/
import ShemaPlatform.OIDCAuthentication

namespace ShemaPlatform

namespace OIDCJWTAuthenticator

variable {authenticator : OIDCJWTAuthenticator} {call : AuthenticationCall} {state : KeyState}
  {actor : AuthenticatedActor} {permission : Permission} {header : JsonFields}
  {token algorithm path : String} {key : SigningKey} {now : ℚ}
  {calls : List AuthenticationCall}

/-- A key that the issuer has answered in some set, for the key id that the header names. -/
def Issued (authenticator : OIDCJWTAuthenticator) (header : JsonFields) (key : SigningKey) :
    Prop :=
  ∃ keyId time keys, header.lookup "kid" = some (.text keyId) ∧
    authenticator.client.fetch time = .ok keys ∧ key ∈ keys ∧ key.keyId = keyId

/-- A request stands for an actor: its token has an accepted algorithm and no critical
extension, the key of its id is one of the issuer for this algorithm, and the claims that the
key vouches for describe the actor. -/
def Stands (authenticator : OIDCJWTAuthenticator) (call : AuthenticationCall) (state : KeyState)
    (actor : AuthenticatedActor) : Prop :=
  ∃ token header algorithm key claims, Bears call.authorization token ∧
    authenticator.library.header token = some header ∧
    header.lookup "alg" = some (.text algorithm) ∧
    algorithm ∈ authenticator.configuration.algorithms ∧
    ((header.lookup "crit").getD .null).truthy = false ∧
    (authenticator.client.signingKey (call.signing header) state).1 = .ok key ∧
    authenticator.Issued header key ∧
    (∀ name ∈ authenticator.library.algorithmName key, name = algorithm) ∧
    authenticator.library.decode token key
      (authenticator.checks algorithm call.decodedAt) = some claims ∧
    Describes authenticator.configuration claims actor

section Outcomes

theorem acceptedAlgorithm_eq_some : authenticator.acceptedAlgorithm header = some algorithm ↔
    header.lookup "alg" = some (.text algorithm) ∧
      algorithm ∈ authenticator.configuration.algorithms ∧
      ((header.lookup "crit").getD .null).truthy = false := by
  unfold acceptedAlgorithm
  constructor
  · intro haccepted
    split at haccepted
    · rename_i named hnamed
      split at haccepted
      · rename_i hallowed
        obtain rfl := Option.some.inj haccepted
        exact ⟨hnamed, hallowed⟩
      · cases haccepted
    · cases haccepted
  · intro haccepted
    obtain ⟨hnamed, hallowed⟩ := haccepted
    simp only [hnamed, if_pos hallowed]

theorem verify_eq_ok : authenticator.verify token algorithm key now = .ok actor ↔
    (∀ name ∈ authenticator.library.algorithmName key, name = algorithm) ∧
      ∃ claims, authenticator.library.decode token key (authenticator.checks algorithm now) =
        some claims ∧ Describes authenticator.configuration claims actor := by
  unfold verify
  constructor
  · intro hverified
    split at hverified
    · rename_i halgorithm
      split at hverified
      · rename_i claims hclaims
        exact ⟨halgorithm, claims, hclaims, claimedActor_eq_ok.mp hverified⟩
      · cases hverified
    · cases hverified
  · intro hverified
    obtain ⟨halgorithm, claims, hclaims, hdescribes⟩ := hverified
    simp only [if_pos halgorithm, hclaims, claimedActor_eq_ok.mpr hdescribes]

/-- The token of a request, with its header and algorithm, when its key is looked up. -/
def lookedUp (authenticator : OIDCJWTAuthenticator) (call : AuthenticationCall) :
    Option (String × JsonFields × String) := do
  let token ← bearerToken call.authorization
  let header ← authenticator.library.header token
  let algorithm ← authenticator.acceptedAlgorithm header
  return (token, header, algorithm)

theorem lookedUp_eq_some : authenticator.lookedUp call = some (token, header, algorithm) ↔
    Bears call.authorization token ∧ authenticator.library.header token = some header ∧
      header.lookup "alg" = some (.text algorithm) ∧
      algorithm ∈ authenticator.configuration.algorithms ∧
      ((header.lookup "crit").getD .null).truthy = false := by
  simp only [lookedUp, Option.bind_eq_bind, Option.bind_eq_some_iff, Option.pure_def,
    Option.some.injEq, Prod.mk.injEq, bearerToken_eq_some, acceptedAlgorithm_eq_some]
  constructor
  · intro hlooked
    obtain ⟨_, hbears, _, hheader, _, haccepted, rfl, rfl, rfl⟩ := hlooked
    exact ⟨hbears, hheader, haccepted⟩
  · intro hlooked
    obtain ⟨hbears, hheader, haccepted⟩ := hlooked
    exact ⟨token, hbears, header, hheader, algorithm, haccepted, rfl, rfl, rfl⟩

theorem authenticate_of_lookedUp (hlooked : authenticator.lookedUp call =
    some (token, header, algorithm)) :
    authenticator.authenticate call state =
      (match (authenticator.client.signingKey (call.signing header) state).1 with
        | .ok key => authenticator.verify token algorithm key call.decodedAt
        | .error rejection => .error (if rejection.isJwtError || call.expected then
            .authenticationRequired else .raised),
        (authenticator.client.signingKey (call.signing header) state).2) := by
  obtain ⟨hbears, hheader, haccepted⟩ := lookedUp_eq_some.mp hlooked
  simp only [authenticate, bearerToken_eq_some.mpr hbears, hheader,
    acceptedAlgorithm_eq_some.mpr haccepted]
  split
  · rename_i key hkey
    simp only [hkey]
  · rename_i rejection hrejected
    simp only [hrejected]

theorem authenticate_of_not_lookedUp (hlooked : authenticator.lookedUp call = none) :
    authenticator.authenticate call state = (.error .authenticationRequired, state) := by
  unfold authenticate
  split
  · rfl
  · rename_i token hbears
    split
    · rfl
    · rename_i header hheader
      split
      · rfl
      · rename_i algorithm haccepted
        simp [lookedUp, hbears, hheader, haccepted] at hlooked

/-- An actor is authenticated exactly as a lookup, a key and its claims say. -/
theorem authenticate_eq_ok : (authenticator.authenticate call state).1 = .ok actor ↔
    ∃ token header algorithm key,
      authenticator.lookedUp call = some (token, header, algorithm) ∧
      (authenticator.client.signingKey (call.signing header) state).1 = .ok key ∧
      authenticator.verify token algorithm key call.decodedAt = .ok actor := by
  cases hlooked : authenticator.lookedUp call with
  | none =>
      rw [authenticate_of_not_lookedUp hlooked]
      simp
  | some found =>
      obtain ⟨token, header, algorithm⟩ := found
      rw [authenticate_of_lookedUp hlooked]
      constructor
      · intro hactor
        dsimp only at hactor
        split at hactor
        · rename_i key hkey
          exact ⟨token, header, algorithm, key, rfl, hkey, hactor⟩
        · cases hactor
      · intro hactor
        obtain ⟨_, _, _, key, hsame, hkey, hverified⟩ := hactor
        obtain ⟨rfl, rfl, rfl⟩ : token = _ ∧ header = _ ∧ algorithm = _ := by
          simpa using hsame
        simp only [hkey]
        exact hverified

theorem expected_bind {α β : Type} {first : Except Unauthenticated α}
    {rest : α → Except Unauthenticated β} (hfirst : first ≠ .error .raised)
    (hrest : ∀ value, first = .ok value → rest value ≠ .error .raised) :
    first >>= rest ≠ .error .raised := by
  cases first with
  | ok value => exact hrest value rfl
  | error failure => exact fun hraised => hfirst (congrArg _ (Except.error.inj hraised))

theorem mapM_permission_ne_raised (items : List JsonValue) :
    items.mapM OIDCJWTAuthenticator.permission ≠ .error .raised := by
  induction items with
  | nil => simp [pure, Except.pure]
  | cons item others ih =>
      rw [List.mapM_cons]
      apply expected_bind
      · unfold OIDCJWTAuthenticator.permission
        split
        · simp
        · simp
      · intro granted _
        apply expected_bind ih
        intro rest _
        simp [pure, Except.pure]

theorem permissions_ne_raised {claims : JsonFields} :
    authenticator.permissions claims ≠ .error .raised := by
  apply expected_bind
  · unfold listed
    split
    · simp
    · simp
    · simp
  · intro items _
    exact mapM_permission_ne_raised items

/-- The claims that are read never make the constructor of an actor raise. -/
theorem claimedActor_ne_raised {claims : JsonFields} :
    authenticator.claimedActor claims ≠ .error .raised := by
  apply expected_bind
  · unfold requiredStringClaim
    split
    · split
      · simp
      · simp
    · simp
  · intro actorId hid
    obtain ⟨text, -, hblank, rfl⟩ := requiredStringClaim_eq_ok.mp hid
    apply expected_bind
    · unfold OIDCJWTAuthenticator.trustLevel
      split
      · split
        · simp
        · simp
      · simp
    · intro trustLevel htrust
      have htrusted := (trustLevel_eq_ok.mp htrust).2
      apply expected_bind
      · exact permissions_ne_raised
      · intro permissions _
        rw [← PyText.blank_strip] at hblank
        simp [AuthenticatedActor.create, hblank, htrusted]

theorem verify_ne_raised :
    authenticator.verify token algorithm key now ≠ .error .raised := by
  unfold verify
  split
  · split
    · exact claimedActor_ne_raised
    · simp
  · simp

theorem isJwtError_eq_false {rejection : KeyRejection} :
    rejection.isJwtError = false ↔ rejection = .fetch .other := by
  cases rejection with
  | fetch failure => cases failure <;> simp [KeyRejection.isJwtError]
  | _ => simp [KeyRejection.isJwtError]

/-- An exception other than the expected one is that of a fetch. -/
theorem authenticate_eq_raised : (authenticator.authenticate call state).1 = .error .raised ↔
    call.expected = false ∧ ∃ token header algorithm,
      authenticator.lookedUp call = some (token, header, algorithm) ∧
      (authenticator.client.signingKey (call.signing header) state).1 =
        .error (.fetch .other) := by
  cases hlooked : authenticator.lookedUp call with
  | none =>
      rw [authenticate_of_not_lookedUp hlooked]
      simp
  | some found =>
      obtain ⟨token, header, algorithm⟩ := found
      rw [authenticate_of_lookedUp hlooked]
      cases hanswer : (authenticator.client.signingKey (call.signing header) state).1 with
      | ok key =>
          constructor
          · intro hraised
            exact absurd hraised verify_ne_raised
          · intro hraised
            obtain ⟨-, _, _, _, hsame, hfailed⟩ := hraised
            obtain ⟨rfl, rfl, rfl⟩ : token = _ ∧ header = _ ∧ algorithm = _ := by
              simpa using hsame
            rw [hanswer] at hfailed
            cases hfailed
      | error rejection =>
          constructor
          · intro hraised
            dsimp only at hraised
            split at hraised
            · cases hraised
            · rename_i hother
              rw [Bool.or_eq_true, not_or, Bool.not_eq_true, Bool.not_eq_true] at hother
              obtain rfl := isJwtError_eq_false.mp hother.1
              exact ⟨hother.2, token, header, algorithm, rfl, hanswer⟩
          · intro hraised
            obtain ⟨hexpected, _, _, _, hsame, hfailed⟩ := hraised
            obtain ⟨rfl, rfl, rfl⟩ : token = _ ∧ header = _ ∧ algorithm = _ := by
              simpa using hsame
            rw [hanswer] at hfailed
            obtain rfl := Except.error.inj hfailed
            simp [KeyRejection.isJwtError, hexpected]

theorem authenticate_state : (authenticator.authenticate call state).2 =
    ((authenticator.lookedUp call).map fun looked =>
      (authenticator.client.signingKey (call.signing looked.2.1) state).2).getD state := by
  cases hlooked : authenticator.lookedUp call with
  | none =>
      rw [authenticate_of_not_lookedUp hlooked]
      rfl
  | some found =>
      obtain ⟨token, header, algorithm⟩ := found
      rw [authenticate_of_lookedUp hlooked]
      rfl

end Outcomes

section Runs

/-- The lookups of keys that some requests make. -/
def signings (authenticator : OIDCJWTAuthenticator) (calls : List AuthenticationCall) :
    List SigningCall :=
  calls.filterMap fun call =>
    (authenticator.lookedUp call).map fun looked => call.signing looked.2.1

/-- The keys are held as they are after the lookups. -/
theorem after_eq (authenticator : OIDCJWTAuthenticator) (calls : List AuthenticationCall) :
    authenticator.after calls = authenticator.client.after (authenticator.signings calls) := by
  induction calls using List.reverseRecOn with
  | nil => rfl
  | append_singleton past call ih =>
      have hsignings : authenticator.signings (past ++ [call]) =
          authenticator.signings past ++ authenticator.signings [call] :=
        List.filterMap_append
      rw [after, List.foldl_append, ← after, List.foldl_cons, List.foldl_nil,
        authenticate_state, ih, hsignings]
      cases hlooked : authenticator.lookedUp call with
      | none => simp [signings, hlooked]
      | some found => simp [signings, hlooked, JwksClient.after]

/-- A key that a request gets after any others was issued. -/
theorem issued_of_ok (hkey : (authenticator.client.signingKey (call.signing header)
    (authenticator.after calls)).1 = .ok key) : authenticator.Issued header key := by
  rw [after_eq] at hkey
  have hremembers := JwksClient.remembers_after authenticator.client
    (authenticator.signings calls)
  have hkept := JwksClient.kept_after authenticator.client (authenticator.signings calls)
  obtain ⟨keyId, since, hnamed, time, keys, -, hfetch, hmem, hid⟩ :=
    hremembers.published_of_ok hkept.fetched hkey
  refine ⟨keyId, time, keys, ?_, hfetch, hmem, hid⟩
  simp only [AuthenticationCall.signing, Option.bind_eq_some_iff] at hnamed
  obtain ⟨value, hlookup, htext⟩ := hnamed
  rw [hlookup]
  cases value with
  | text name =>
      obtain rfl := Option.some.inj htext
      rfl
  | _ => cases htext

end Runs

section Requests

theorem requirePermission_eq_ok : requirePermission actor permission = .ok () ↔
    permission ∈ actor.permissions := by
  simp [requirePermission, RBACAuthorizer.require, RBACAuthorizer.isAllowed,
    RBACAuthorizer.subject]

/-- What becomes of a request after some others. -/
structure Admission (authenticator : OIDCJWTAuthenticator) (calls : List AuthenticationCall)
    (path : String) (call : AuthenticationCall) : Prop where
  permitted : ∀ actor permission,
    ((dispatch (some authenticator) path call (authenticator.after calls)).1 =
        .admitted actor ∧ requirePermission actor permission = .ok ()) ↔
      openPath path = false ∧ authenticator.Stands call (authenticator.after calls) actor ∧
        permission ∈ actor.permissions
  raised : (dispatch (some authenticator) path call (authenticator.after calls)).1 = .raised ↔
    openPath path = false ∧ call.expected = false ∧ ∃ token header algorithm,
      authenticator.lookedUp call = some (token, header, algorithm) ∧
      (authenticator.client.signingKey (call.signing header) (authenticator.after calls)).1 =
        .error (.fetch .other)

theorem dispatch_eq_admitted :
    (dispatch (some authenticator) path call state).1 = .admitted actor ↔
      openPath path = false ∧ (authenticator.authenticate call state).1 = .ok actor := by
  unfold dispatch
  cases hopen : openPath path with
  | true => simp
  | false =>
      rcases hresult : authenticator.authenticate call state with ⟨outcome, after⟩
      cases outcome with
      | ok found => simp [hresult]
      | error failure => cases failure <;> simp [hresult]

theorem dispatch_eq_raised :
    (dispatch (some authenticator) path call state).1 = .raised ↔
      openPath path = false ∧
        (authenticator.authenticate call state).1 = .error .raised := by
  unfold dispatch
  cases hopen : openPath path with
  | true => simp
  | false =>
      rcases hresult : authenticator.authenticate call state with ⟨outcome, after⟩
      cases outcome with
      | ok found => simp [hresult]
      | error failure => cases failure <;> simp [hresult]

theorem authenticate_eq_ok_iff_stands :
    (authenticator.authenticate call (authenticator.after calls)).1 = .ok actor ↔
      authenticator.Stands call (authenticator.after calls) actor := by
  rw [authenticate_eq_ok]
  constructor
  · intro hactor
    obtain ⟨token, header, algorithm, key, hlooked, hkey, hverified⟩ := hactor
    obtain ⟨hbears, hheader, hnamed, hallowed, hcritical⟩ := lookedUp_eq_some.mp hlooked
    obtain ⟨halgorithm, claims, hclaims, hdescribes⟩ := verify_eq_ok.mp hverified
    exact ⟨token, header, algorithm, key, claims, hbears, hheader, hnamed, hallowed, hcritical,
      hkey, issued_of_ok hkey, halgorithm, hclaims, hdescribes⟩
  · intro hstands
    obtain ⟨token, header, algorithm, key, claims, hbears, hheader, hnamed, hallowed, hcritical,
      hkey, -, halgorithm, hclaims, hdescribes⟩ := hstands
    exact ⟨token, header, algorithm, key,
      lookedUp_eq_some.mpr ⟨hbears, hheader, hnamed, hallowed, hcritical⟩, hkey,
      verify_eq_ok.mpr ⟨halgorithm, claims, hclaims, hdescribes⟩⟩

end Requests

end OIDCJWTAuthenticator

end ShemaPlatform
