/-
The keys that tokens are signed with: a client that keeps the last set of keys and bounds
the refreshes that unknown key ids force, and the provider in front of it.
-/
import Mathlib.Algebra.Order.Ring.Rat
import ShemaPlatform.PyText

namespace ShemaPlatform

structure SigningKey where
  keyId : String
  material : String
deriving DecidableEq

/-- How a fetch of the key set fails: with an error of the library, or with another one. -/
inductive FetchFailure where
  | connection | other
deriving DecidableEq, Repr

/-- Why a token gets no key. -/
inductive KeyRejection where
  | invalidKeyId
  | rateLimited
  | cooldown
  | noMatch (keyId : String)
  | noSigningKeys
  | fetch (failure : FetchFailure)
deriving DecidableEq, Repr

namespace KeyRejection

/-- A `PyJWTError`. -/
def isJwtError : KeyRejection → Bool
  | .fetch .other => false
  | _ => true

/-- The error of one of the two cooldowns. -/
def isCooldown : KeyRejection → Bool
  | .rateLimited => true
  | .cooldown => true
  | _ => false

end KeyRejection

/-- The last key set, and when it was fetched. -/
structure CachedKeys where
  keys : List SigningKey
  fetchedAt : ℚ
deriving DecidableEq

/-- What client and provider remember; `forced` has the refreshes that were forced, the
newest first. -/
structure KeyState where
  cached : Option CachedKeys
  remembered : List (String × SigningKey)
  nextForcedRefreshAt : ℚ
  lastUnknownKidRefreshAt : ℚ
  forced : List ℚ

def KeyState.initial : KeyState := ⟨none, [], 0, 0, []⟩

/-- The library's client: it keeps the last set for so many seconds.  What the issuer
answers depends on the time, and a failed fetch may drop the former set. -/
structure JwksClient where
  cacheSeconds : ℤ
  cacheSeconds_valid : 0 < cacheSeconds
  fetch : ℚ → Except FetchFailure (List SigningKey)
  dropsOnFailure : Bool

namespace JwksClient

variable (client : JwksClient)

/-- The set that is kept and has not expired. -/
def unexpired (now : ℚ) (state : KeyState) : Option (List SigningKey) :=
  (state.cached.filter fun cached =>
    decide (now ≤ cached.fetchedAt + client.cacheSeconds)).map CachedKeys.keys

/-- A set without a signing key is an error. -/
def usable (keys : List SigningKey) : Except KeyRejection (List SigningKey) :=
  if keys = [] then .error .noSigningKeys else .ok keys

/-- `PyJWKClient.get_signing_keys` -/
def getSigningKeys (refresh : Bool) (now : ℚ) (state : KeyState) :
    Except KeyRejection (List SigningKey) × KeyState :=
  match if refresh then none else client.unexpired now state with
  | some keys => (usable keys, state)
  | none =>
      match client.fetch now with
      | .ok keys => (usable keys, { state with cached := some ⟨keys, now⟩ })
      | .error failure => (.error (.fetch failure),
          { state with cached := if client.dropsOnFailure then none else state.cached })

/-- `match_kid` -/
def matchKid (keys : List SigningKey) (keyId : String) : Option SigningKey :=
  keys.find? fun key => key.keyId == keyId

/-- The second part of `get_signing_key`: a refresh is forced, but not within the cooldown
of the last one. -/
def forceRefresh (keyId : String) (now : ℚ) (state : KeyState) :
    Except KeyRejection SigningKey × KeyState :=
  if now < state.nextForcedRefreshAt then (.error .cooldown, state)
  else
    let refreshed := client.getSigningKeys true now { state with
      nextForcedRefreshAt := now + client.cacheSeconds
      forced := now :: state.forced }
    match refreshed.1 with
    | .error rejection => (.error rejection, refreshed.2)
    | .ok keys =>
        match matchKid keys keyId with
        | some key => (.ok key, refreshed.2)
        | none => (.error (.noMatch keyId), refreshed.2)

/-- `_BoundedPyJWKClient.get_signing_key`, at the times that it reads. -/
def findSigningKey (keyId : String) (readAt refreshAt : ℚ) (state : KeyState) :
    Except KeyRejection SigningKey × KeyState :=
  let read := client.getSigningKeys false readAt state
  match read.1 with
  | .error rejection => (.error rejection, read.2)
  | .ok keys =>
      match matchKid keys keyId with
      | some key => (.ok key, read.2)
      | none => client.forceRefresh keyId refreshAt read.2

/-- The method behind the cache of the last sixteen keys that it has returned. -/
def getSigningKey (keyId : String) (readAt refreshAt : ℚ) (state : KeyState) :
    Except KeyRejection SigningKey × KeyState :=
  let others := state.remembered.filter fun entry => entry.1 != keyId
  match state.remembered.lookup keyId with
  | some key => (.ok key, { state with remembered := (keyId, key) :: others })
  | none =>
      let found := client.findSigningKey keyId readAt refreshAt state
      match found.1 with
      | .error rejection => (.error rejection, found.2)
      | .ok key => (.ok key, { found.2 with
          remembered := ((keyId, key) :: found.2.remembered).take 16 })

end JwksClient

/-- A call of `signing_key`: the key id in the token's header, if it is a text, and the
clock as the call reads it, one time after another. -/
structure SigningCall where
  keyId : Option String
  firstAt : ℚ
  limitedAt : ℚ
  readAt : ℚ
  refreshAt : ℚ

def unknownKidRefreshCooldownSeconds : ℚ := 5

/-- A key id that the provider looks at. -/
def validKeyId (keyId : String) : Bool :=
  !PyText.blank keyId && decide (keyId.length ≤ 256)

namespace JwksClient

variable (client : JwksClient)

/-- The rest of `signing_key`, for a key id that was not found. -/
def refreshUnknown (call : SigningCall) (keyId : String) (state : KeyState) :
    Except KeyRejection SigningKey × KeyState :=
  if call.limitedAt - state.lastUnknownKidRefreshAt < unknownKidRefreshCooldownSeconds then
    (.error .rateLimited, state)
  else client.getSigningKey keyId call.readAt call.refreshAt
    { state with lastUnknownKidRefreshAt := call.limitedAt }

/-- `PyJWTSigningKeyProvider.signing_key` of a valid key id. -/
def lookUp (call : SigningCall) (keyId : String) (state : KeyState) :
    Except KeyRejection SigningKey × KeyState :=
  let read := client.getSigningKeys false call.firstAt state
  match read.1 with
  | .error rejection =>
      if rejection.isJwtError then client.refreshUnknown call keyId read.2
      else (.error rejection, read.2)
  | .ok keys =>
      match matchKid keys keyId with
      | some key => (.ok key, read.2)
      | none => client.refreshUnknown call keyId read.2

/-- `PyJWTSigningKeyProvider.signing_key` -/
def signingKey (call : SigningCall) (state : KeyState) :
    Except KeyRejection SigningKey × KeyState :=
  match call.keyId.filter validKeyId with
  | none => (.error .invalidKeyId, state)
  | some keyId => client.lookUp call keyId state

/-- The state after some calls. -/
def after (calls : List SigningCall) : KeyState :=
  calls.foldl (fun state call => (client.signingKey call state).2) .initial

end JwksClient

end ShemaPlatform
