/-
Refreshes that are forced stay apart, whoever asks for keys, and a key that the issuer
publishes is found once the former key set has expired.
-/
import Mathlib.Data.List.Induction
import Mathlib.Tactic.Linarith
import ShemaPlatform.SigningKeys

namespace ShemaPlatform

namespace JwksClient

variable {client : JwksClient} {state : KeyState} {call : SigningCall} {keyId : String}
  {keys : List SigningKey} {now : ℚ} {refresh : Bool}

/-- A refresh comes no sooner after an earlier one than a set expires. -/
def Apart (client : JwksClient) (later earlier : ℚ) : Prop :=
  earlier + client.cacheSeconds ≤ later

/-- What holds of a state: its set was fetched when it says, and the refreshes that were
forced are as far apart as the set is kept. -/
structure Kept (client : JwksClient) (state : KeyState) : Prop where
  fetched : ∀ cached, state.cached = some cached →
    client.fetch cached.fetchedAt = .ok cached.keys
  apart : state.forced.Pairwise client.Apart
  next : ∀ time ∈ state.forced, time + client.cacheSeconds ≤ state.nextForcedRefreshAt

theorem kept_initial : Kept client .initial := by
  constructor
  · intro cached hcached
    cases hcached
  · exact List.Pairwise.nil
  · intro time htime
    cases htime

/-- A state that differs in other things only. -/
theorem Kept.of_eq (h : Kept client state) {other : KeyState}
    (hcached : other.cached = state.cached) (hforced : other.forced = state.forced)
    (hnext : other.nextForcedRefreshAt = state.nextForcedRefreshAt) : Kept client other := by
  constructor
  · rw [hcached]
    exact h.fetched
  · rw [hforced]
    exact h.apart
  · rw [hforced, hnext]
    exact h.next

theorem Kept.getSigningKeys (h : Kept client state) (refresh : Bool) (now : ℚ) :
    Kept client (client.getSigningKeys refresh now state).2 := by
  unfold JwksClient.getSigningKeys
  split
  · exact h
  · split
    · rename_i keys hfetch
      constructor
      · intro cached hcached
        obtain rfl := Option.some.inj hcached
        exact hfetch
      · exact h.apart
      · exact h.next
    · constructor
      · intro cached hcached
        cases hdrops : client.dropsOnFailure with
        | true => simp [hdrops] at hcached
        | false =>
            apply h.fetched
            simpa [hdrops] using hcached
      · exact h.apart
      · exact h.next

theorem Kept.forceRefresh (h : Kept client state) (keyId : String) (now : ℚ) :
    Kept client (client.forceRefresh keyId now state).2 := by
  unfold JwksClient.forceRefresh
  split
  · exact h
  · rename_i hcooled
    have hseconds : (0 : ℚ) < client.cacheSeconds := by exact_mod_cast client.cacheSeconds_valid
    have hforced : Kept client { state with
        nextForcedRefreshAt := now + client.cacheSeconds
        forced := now :: state.forced } := by
      constructor
      · exact h.fetched
      · apply List.Pairwise.cons
        · intro time htime
          exact (h.next time htime).trans (not_lt.mp hcooled)
        · exact h.apart
      · intro time htime
        rcases List.mem_cons.mp htime with rfl | hearlier
        · exact le_rfl
        · have hnext := h.next time hearlier
          have hlater := not_lt.mp hcooled
          simp only
          linarith
    have hrefreshed := hforced.getSigningKeys true now
    dsimp only
    split
    · exact hrefreshed
    · split
      · exact hrefreshed
      · exact hrefreshed

theorem Kept.findSigningKey (h : Kept client state) (keyId : String) (readAt refreshAt : ℚ) :
    Kept client (client.findSigningKey keyId readAt refreshAt state).2 := by
  have hread := h.getSigningKeys false readAt
  unfold JwksClient.findSigningKey
  dsimp only
  split
  · exact hread
  · split
    · exact hread
    · exact hread.forceRefresh keyId refreshAt

theorem Kept.getSigningKey (h : Kept client state) (keyId : String) (readAt refreshAt : ℚ) :
    Kept client (client.getSigningKey keyId readAt refreshAt state).2 := by
  have hfound := h.findSigningKey keyId readAt refreshAt
  unfold JwksClient.getSigningKey
  dsimp only
  split
  · exact h.of_eq rfl rfl rfl
  · split
    · exact hfound
    · exact hfound.of_eq rfl rfl rfl

theorem Kept.refreshUnknown (h : Kept client state) (call : SigningCall) (keyId : String) :
    Kept client (client.refreshUnknown call keyId state).2 := by
  unfold JwksClient.refreshUnknown
  split
  · exact h
  · have hlimited : Kept client { state with lastUnknownKidRefreshAt := call.limitedAt } :=
      h.of_eq rfl rfl rfl
    exact hlimited.getSigningKey keyId call.readAt call.refreshAt

theorem Kept.signingKey (h : Kept client state) (call : SigningCall) :
    Kept client (client.signingKey call state).2 := by
  have hread := h.getSigningKeys false call.firstAt
  unfold JwksClient.signingKey
  split
  · exact h
  · rename_i keyId _
    unfold lookUp
    dsimp only
    split
    · split
      · exact hread.refreshUnknown call keyId
      · exact hread
    · split
      · exact hread
      · exact hread.refreshUnknown call keyId

theorem kept_after (client : JwksClient) (calls : List SigningCall) :
    Kept client (client.after calls) := by
  induction calls using List.reverseRecOn with
  | nil => exact kept_initial
  | append_singleton past call ih =>
      rw [after, List.foldl_append]
      exact ih.signingKey call

/-- A set with the key id in it. -/
def Names (keys : List SigningKey) (keyId : String) : Prop := ∃ key ∈ keys, key.keyId = keyId

theorem Names.usable (h : Names keys keyId) : usable keys = .ok keys := by
  obtain ⟨key, hkey, _⟩ := h
  rw [JwksClient.usable, if_neg (List.ne_nil_of_mem hkey)]

theorem Names.matchKid (h : Names keys keyId) :
    ∃ key, matchKid keys keyId = some key ∧ key ∈ keys ∧ key.keyId = keyId := by
  obtain ⟨key, hkey, hnamed⟩ := h
  have hsome : (JwksClient.matchKid keys keyId).isSome = true := by
    rw [JwksClient.matchKid, List.find?_isSome]
    exact ⟨key, hkey, beq_iff_eq.mpr hnamed⟩
  obtain ⟨found, hfound⟩ := Option.isSome_iff_exists.mp hsome
  have hequal : (found.keyId == keyId) = true :=
    @List.find?_some _ (fun key : SigningKey => key.keyId == keyId) found keys hfound
  exact ⟨found, hfound, List.mem_of_find?_eq_some hfound, beq_iff_eq.mp hequal⟩

/-- A set that is read and has the key id answers the call. -/
theorem signingKey_of_read (hkeyId : call.keyId = some keyId) (hvalid : validKeyId keyId = true)
    (hread : (client.getSigningKeys false call.firstAt state).1 = usable keys)
    (hnames : Names keys keyId) :
    ∃ key, (client.signingKey call state).1 = .ok key ∧ key ∈ keys ∧ key.keyId = keyId := by
  obtain ⟨key, hmatch, hkey, hnamed⟩ := hnames.matchKid
  rw [hnames.usable] at hread
  have hfilter : call.keyId.filter validKeyId = some keyId := by
    rw [hkeyId, Option.filter_some, if_pos hvalid]
  simp only [signingKey, hfilter, lookUp, hread, hmatch]
  exact ⟨key, rfl, hkey, hnamed⟩

theorem unexpired_eq_some (hunexpired : client.unexpired now state = some keys) :
    ∃ cached, state.cached = some cached ∧ cached.keys = keys ∧
      now ≤ cached.fetchedAt + client.cacheSeconds := by
  rw [unexpired, Option.map_eq_some_iff] at hunexpired
  obtain ⟨cached, hcached, hkeys⟩ := hunexpired
  rw [Option.filter_eq_some_iff, decide_eq_true_eq] at hcached
  exact ⟨cached, hcached.1, hkeys, hcached.2⟩

theorem getSigningKeys_unexpired (hunexpired : client.unexpired now state = some keys) :
    (client.getSigningKeys false now state).1 = usable keys := by
  simp only [getSigningKeys, Bool.false_eq_true, if_false, hunexpired]

theorem getSigningKeys_fetched (hexpired : client.unexpired now state = none)
    (hfetch : client.fetch now = .ok keys) :
    (client.getSigningKeys false now state).1 = usable keys := by
  simp only [getSigningKeys, Bool.false_eq_true, if_false, hexpired, hfetch]

/-- A key id in the set that is kept is not held up by a cooldown. -/
theorem known_not_cooled {cached : CachedKeys} (hcached : state.cached = some cached)
    (hunexpired : call.firstAt ≤ cached.fetchedAt + client.cacheSeconds)
    (hkeyId : call.keyId = some keyId) (hnames : Names cached.keys keyId) :
    ∀ rejection, (client.signingKey call state).1 = .error rejection →
      rejection.isCooldown = false := by
  intro rejection hrejected
  by_cases hvalid : validKeyId keyId = true
  · have hkeys : client.unexpired call.firstAt state = some cached.keys := by
      rw [unexpired, hcached, Option.filter_some, if_pos (decide_eq_true hunexpired)]
      rfl
    obtain ⟨key, hfound, _⟩ :=
      signingKey_of_read hkeyId hvalid (getSigningKeys_unexpired hkeys) hnames
    rw [hfound] at hrejected
    cases hrejected
  · have hfilter : call.keyId.filter validKeyId = none := by
      rw [hkeyId, Option.filter_some, if_neg hvalid]
    simp only [signingKey, hfilter, Except.error.injEq] at hrejected
    rw [← hrejected]
    rfl

/-- Whatever the issuer answers from a time on has the key id. -/
def PublishedFrom (client : JwksClient) (keyId : String) (publishedAt : ℚ) : Prop :=
  ∀ time keys, publishedAt ≤ time → client.fetch time = .ok keys → Names keys keyId

/-- A call for the key id gets the key, when the former set has expired since. -/
def PicksUp (client : JwksClient) (state : KeyState) (keyId : String) : Prop :=
  ∀ (call : SigningCall) (publishedAt : ℚ), call.keyId = some keyId →
    client.PublishedFrom keyId publishedAt →
    publishedAt + client.cacheSeconds < call.firstAt →
    (∃ keys, client.fetch call.firstAt = .ok keys) →
    ∃ key, (client.signingKey call state).1 = .ok key ∧ key.keyId = keyId

theorem Kept.picksUp (h : Kept client state) (hvalid : validKeyId keyId = true) :
    client.PicksUp state keyId := by
  intro call publishedAt hkeyId hpublished hlater hfetches
  cases hunexpired : client.unexpired call.firstAt state with
  | some keys =>
      -- a set that has not expired was fetched after the key was published
      obtain ⟨cached, hcached, rfl, hnow⟩ := unexpired_eq_some hunexpired
      have hafter : publishedAt ≤ cached.fetchedAt := by linarith
      have hnames := hpublished _ _ hafter (h.fetched cached hcached)
      obtain ⟨key, hfound, _, hnamed⟩ :=
        signingKey_of_read hkeyId hvalid (getSigningKeys_unexpired hunexpired) hnames
      exact ⟨key, hfound, hnamed⟩
  | none =>
      obtain ⟨keys, hfetch⟩ := hfetches
      have hseconds : (0 : ℚ) < client.cacheSeconds := by
        exact_mod_cast client.cacheSeconds_valid
      have hnames := hpublished _ _ (by linarith) hfetch
      obtain ⟨key, hfound, _, hnamed⟩ :=
        signingKey_of_read hkeyId hvalid (getSigningKeys_fetched hunexpired hfetch) hnames
      exact ⟨key, hfound, hnamed⟩

/-- What is promised of keys in a state. -/
structure RefreshBounded (client : JwksClient) (state : KeyState) (accepted : String → Prop) :
    Prop where
  apart : state.forced.Pairwise client.Apart
  known : ∀ (call : SigningCall) (cached : CachedKeys) (keyId : String),
    state.cached = some cached → call.firstAt ≤ cached.fetchedAt + client.cacheSeconds →
    call.keyId = some keyId → Names cached.keys keyId →
    ∀ rejection, (client.signingKey call state).1 = .error rejection →
      rejection.isCooldown = false
  rotated : ∀ keyId, accepted keyId → client.PicksUp state keyId

/-- After any calls, at any times: forced refreshes are apart, no cooldown holds up a key id
that is kept, and a new key with a valid id is picked up. -/
theorem refresh_bounded (client : JwksClient) (calls : List SigningCall) :
    RefreshBounded client (client.after calls) fun keyId => validKeyId keyId = true := by
  have hkept := kept_after client calls
  constructor
  · exact hkept.apart
  · intro call cached keyId hcached hunexpired hkeyId hnames
    exact known_not_cooled hcached hunexpired hkeyId hnames
  · intro keyId hvalid
    exact hkept.picksUp hvalid

/-- A key whose id is longer than those that the provider looks at. -/
def longKey : SigningKey := ⟨String.ofList (List.replicate 257 'k'), "material"⟩

theorem five_minutes_valid : (0 : ℤ) < 300 := by decide

/-- An issuer that has published the long key only. -/
def longKeyClient : JwksClient := ⟨300, five_minutes_valid, fun _ => .ok [longKey], true⟩

theorem longKey_invalid : validKeyId longKey.keyId = false := by
  have hlength : longKey.keyId.length = 257 :=
    String.length_ofList.trans List.length_replicate
  rw [validKeyId, hlength]
  simp

/-- A token for the long key is rejected at all times. -/
theorem long_key_id_rejected : ¬ ∀ (client : JwksClient) (calls : List SigningCall),
    RefreshBounded client (client.after calls) fun _ => True := by
  intro hclaim
  have hpicksUp := (hclaim longKeyClient []).rotated longKey.keyId trivial
  have hpublished : longKeyClient.PublishedFrom longKey.keyId 0 := by
    intro time keys _ hfetch
    obtain rfl := Except.ok.inj hfetch
    exact ⟨longKey, List.mem_singleton_self _, rfl⟩
  obtain ⟨key, hfound, _⟩ := hpicksUp ⟨some longKey.keyId, 301, 301, 301, 301⟩ 0 rfl hpublished
    (by norm_num [longKeyClient]) ⟨_, rfl⟩
  have hfilter : (some longKey.keyId).filter validKeyId = none := by
    rw [Option.filter_some, longKey_invalid]
    rfl
  simp only [signingKey, hfilter] at hfound
  cases hfound

end JwksClient

end ShemaPlatform
