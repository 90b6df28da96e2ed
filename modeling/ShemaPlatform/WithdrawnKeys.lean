/-
What becomes of a key that the issuer withdraws: once the last set with it has expired, it is
answered only for as long as it is among the keys that are remembered.
-/
import ShemaPlatform.KeyRotation
import ShemaPlatform.RecentlyUsed

namespace ShemaPlatform

namespace JwksClient

open RecentlyUsed

section Definitions

variable (client : JwksClient)

/-- The set that a call reads first has the key id. -/
def reads (call : SigningCall) (keyId : String) (state : KeyState) : Bool :=
  match (client.getSigningKeys false call.firstAt state).1 with
  | .ok keys => (matchKid keys keyId).isSome
  | .error _ => false

/-- The first set cannot be read, for a reason that the provider does not expect. -/
def Broken (call : SigningCall) (state : KeyState) : Prop :=
  client.unexpired call.firstAt state = none ∧ client.fetch call.firstAt = .error .other

/-- The key id that a call gets answered past the first set. -/
def used (call : SigningCall) (state : KeyState) : Option String :=
  (call.keyId.filter validKeyId).filter fun keyId =>
    !client.reads call keyId state && (client.signingKey call state).1.toBool

/-- The key ids that some calls get answered past the first set, the last one first. -/
def usesFrom (state : KeyState) : List SigningCall → List String
  | [] => []
  | call :: later =>
      usesFrom (client.signingKey call state).2 later ++ (client.used call state).toList

/-- The issuer has answered a set with the key, no longer before than a set is kept. -/
def Published (keyId : String) (key : SigningKey) (since : ℚ) : Prop :=
  ∃ time keys, since ≤ time + client.cacheSeconds ∧ client.fetch time = .ok keys ∧
    key ∈ keys ∧ key.keyId = keyId

/-- From a time on the issuer answers no set with the key id. -/
def WithdrawnFrom (keyId : String) (withdrawnAt : ℚ) : Prop :=
  ∀ time keys, withdrawnAt ≤ time → client.fetch time = .ok keys → ¬ Names keys keyId

end Definitions

variable {client : JwksClient} {state : KeyState} {call : SigningCall} {keyId : String}
  {keys : List SigningKey} {key : SigningKey} {now readAt refreshAt since withdrawnAt : ℚ}
  {refresh : Bool} {calls past : List SigningCall} {uses : List String}

theorem seconds_pos (client : JwksClient) : (0 : ℚ) < client.cacheSeconds := by
  exact_mod_cast client.cacheSeconds_valid

theorem matchKid_eq_some (hmatch : matchKid keys keyId = some key) :
    key ∈ keys ∧ key.keyId = keyId := by
  have hequal : (key.keyId == keyId) = true :=
    @List.find?_some _ (fun key : SigningKey => key.keyId == keyId) key keys hmatch
  exact ⟨List.mem_of_find?_eq_some hmatch, beq_iff_eq.mp hequal⟩

section Frames

@[simp] theorem getSigningKeys_remembered :
    (client.getSigningKeys refresh now state).2.remembered = state.remembered := by
  unfold getSigningKeys
  split
  · rfl
  · split
    · rfl
    · rfl

@[simp] theorem getSigningKeys_lastUnknownKidRefreshAt :
    (client.getSigningKeys refresh now state).2.lastUnknownKidRefreshAt =
      state.lastUnknownKidRefreshAt := by
  unfold getSigningKeys
  split
  · rfl
  · split
    · rfl
    · rfl

@[simp] theorem forceRefresh_remembered :
    (client.forceRefresh keyId now state).2.remembered = state.remembered := by
  unfold forceRefresh
  split
  · rfl
  · dsimp only
    split
    · exact getSigningKeys_remembered
    · split
      · exact getSigningKeys_remembered
      · exact getSigningKeys_remembered

@[simp] theorem findSigningKey_remembered :
    (client.findSigningKey keyId readAt refreshAt state).2.remembered = state.remembered := by
  unfold findSigningKey
  dsimp only
  split
  · exact getSigningKeys_remembered
  · split
    · exact getSigningKeys_remembered
    · exact forceRefresh_remembered.trans getSigningKeys_remembered

end Frames

section Sets

theorem usable_eq_ok {others : List SigningKey} (husable : usable keys = .ok others) :
    others = keys := by
  unfold usable at husable
  split at husable
  · cases husable
  · exact (Except.ok.inj husable).symm

/-- The set that is kept is one that the issuer answered. -/
def Fetched (client : JwksClient) (cached : Option CachedKeys) : Prop :=
  ∀ set, cached = some set → client.fetch set.fetchedAt = .ok set.keys

/-- A set that is read was answered no longer before than a set is kept. -/
theorem Fetched.answered (h : client.Fetched state.cached)
    (hread : (client.getSigningKeys refresh now state).1 = .ok keys) :
    ∃ time, now ≤ time + client.cacheSeconds ∧ client.fetch time = .ok keys := by
  unfold JwksClient.getSigningKeys at hread
  split at hread
  · rename_i kept hkept
    obtain rfl := usable_eq_ok hread
    cases refresh with
    | true => cases hkept
    | false =>
        obtain ⟨cached, hcached, rfl, hnow⟩ := unexpired_eq_some hkept
        exact ⟨cached.fetchedAt, hnow, h cached hcached⟩
  · split at hread
    · rename_i fetched hfetch
      obtain rfl := usable_eq_ok hread
      have hseconds := client.seconds_pos
      exact ⟨now, by linarith, hfetch⟩
    · cases hread

theorem Fetched.getSigningKeys (h : client.Fetched state.cached) :
    client.Fetched (client.getSigningKeys refresh now state).2.cached := by
  unfold JwksClient.getSigningKeys
  split
  · exact h
  · split
    · rename_i keys hfetch
      intro cached hcached
      obtain rfl := Option.some.inj hcached
      exact hfetch
    · intro cached hcached
      cases hdrops : client.dropsOnFailure with
      | true => simp [hdrops] at hcached
      | false =>
          apply h
          simpa [hdrops] using hcached

theorem Fetched.published (h : client.Fetched state.cached)
    (hread : (client.getSigningKeys refresh now state).1 = .ok keys)
    (hmatch : matchKid keys keyId = some key) : client.Published keyId key now := by
  obtain ⟨time, hnow, hfetch⟩ := h.answered hread
  obtain ⟨hmem, hnamed⟩ := matchKid_eq_some hmatch
  exact ⟨time, keys, hnow, hfetch, hmem, hnamed⟩

theorem Published.earlier (h : client.Published keyId key now) (hsince : since ≤ now) :
    client.Published keyId key since := by
  obtain ⟨time, keys, hnow, hrest⟩ := h
  exact ⟨time, keys, hsince.trans hnow, hrest⟩

theorem Fetched.forceRefresh (h : client.Fetched state.cached)
    (hfound : (client.forceRefresh keyId now state).1 = .ok key) :
    client.Published keyId key now := by
  unfold JwksClient.forceRefresh at hfound
  split at hfound
  · cases hfound
  · dsimp only at hfound
    split at hfound
    · cases hfound
    · rename_i keys hread
      split at hfound
      · rename_i found hmatch
        obtain rfl := Except.ok.inj hfound
        have hforced : client.Fetched ({ state with
            nextForcedRefreshAt := now + client.cacheSeconds
            forced := now :: state.forced } : KeyState).cached := h
        exact hforced.published hread hmatch
      · cases hfound

/-- A key that the client finds was in a set that the issuer has answered. -/
theorem Fetched.findSigningKey (h : client.Fetched state.cached)
    (hfound : (client.findSigningKey keyId readAt refreshAt state).1 = .ok key) :
    client.Published keyId key (min readAt refreshAt) := by
  unfold JwksClient.findSigningKey at hfound
  dsimp only at hfound
  split at hfound
  · cases hfound
  · rename_i keys hread
    split at hfound
    · rename_i found hmatch
      obtain rfl := Except.ok.inj hfound
      exact (h.published hread hmatch).earlier (min_le_left readAt refreshAt)
    · exact (h.getSigningKeys.forceRefresh hfound).earlier (min_le_right readAt refreshAt)

/-- A key id is in no set that has not expired, a while after it was withdrawn. -/
theorem WithdrawnFrom.not_published (h : client.WithdrawnFrom keyId withdrawnAt)
    (hlate : withdrawnAt + client.cacheSeconds < now) : ¬ client.Published keyId key now := by
  intro hpublished
  obtain ⟨time, keys, hnow, hfetch, hmem, hnamed⟩ := hpublished
  apply h time keys
  · linarith
  · exact hfetch
  · exact ⟨key, hmem, hnamed⟩

end Sets

section Calls

theorem signingKey_of_valid (hvalid : call.keyId.filter validKeyId = some keyId) :
    client.signingKey call state = client.lookUp call keyId state := by
  simp only [signingKey, hvalid]

theorem used_of_valid (hvalid : call.keyId.filter validKeyId = some keyId) :
    client.used call state = if !client.reads call keyId state &&
      (client.lookUp call keyId state).1.toBool then some keyId else none := by
  rw [used, signingKey_of_valid hvalid, hvalid, Option.filter_some]

theorem usable_ne_other {failure : FetchFailure} :
    usable keys ≠ .error (.fetch failure) := by
  unfold usable
  split
  · simp
  · simp

theorem broken_of_read
    (hread : (client.getSigningKeys false call.firstAt state).1 = .error (.fetch .other)) :
    client.Broken call state := by
  cases hunexpired : client.unexpired call.firstAt state with
  | some keys =>
      rw [getSigningKeys_unexpired hunexpired] at hread
      exact absurd hread usable_ne_other
  | none =>
      cases hfetch : client.fetch call.firstAt with
      | ok keys =>
          rw [getSigningKeys_fetched hunexpired hfetch] at hread
          exact absurd hread usable_ne_other
      | error failure =>
          simp only [getSigningKeys, Bool.false_eq_true, if_false, hunexpired, hfetch,
            Except.error.injEq, KeyRejection.fetch.injEq] at hread
          obtain rfl := hread
          exact ⟨hunexpired, hfetch⟩

/-- Past the first set, unless the provider did not expect that it cannot be read. -/
theorem lookUp_of_unread (hunread : client.reads call keyId state = false)
    (hsound : ¬ client.Broken call state) :
    client.lookUp call keyId state = client.refreshUnknown call keyId
      (client.getSigningKeys false call.firstAt state).2 := by
  unfold lookUp
  dsimp only
  split
  · rename_i rejection hread
    cases rejection with
    | fetch failure =>
        cases failure with
        | connection => rfl
        | other => exact absurd (broken_of_read hread) hsound
    | _ => rfl
  · rename_i keys hread
    simp only [reads, hread, Option.isSome_eq_false_iff, Option.isNone_iff_eq_none] at hunread
    simp only [hunread]

theorem lookUp_of_reads (hreads : client.reads call keyId state = true) :
    ∃ keys key, (client.getSigningKeys false call.firstAt state).1 = .ok keys ∧
      matchKid keys keyId = some key ∧ client.lookUp call keyId state =
        (.ok key, (client.getSigningKeys false call.firstAt state).2) := by
  unfold reads at hreads
  unfold lookUp
  split at hreads
  · rename_i keys hread
    obtain ⟨key, hmatch⟩ := Option.isSome_iff_exists.mp hreads
    refine ⟨keys, key, hread, hmatch, ?_⟩
    simp only [hread, hmatch]
  · cases hreads

theorem lookUp_of_broken (hbroken : client.Broken call state) :
    client.lookUp call keyId state =
      (.error (.fetch .other), (client.getSigningKeys false call.firstAt state).2) := by
  have hread : (client.getSigningKeys false call.firstAt state).1 = .error (.fetch .other) := by
    simp only [getSigningKeys, Bool.false_eq_true, if_false, hbroken.1, hbroken.2]
  simp only [lookUp, hread, KeyRejection.isJwtError, Bool.false_eq_true, if_false]

/-- How the method behind the cache of keys ends; a key that it finds is in a set that has
not expired at a time. -/
inductive Answers (client : JwksClient) (keyId : String) (since : ℚ)
    (former : List (String × SigningKey)) : Except KeyRejection SigningKey × KeyState → Prop
  | rejected (rejection : KeyRejection) (after : KeyState)
      (habsent : former.lookup keyId = none)
      (hsame : after.remembered = former) :
      Answers client keyId since former (.error rejection, after)
  | remembered (key : SigningKey) (after : KeyState)
      (hkept : former.lookup keyId = some key)
      (htouch : after.remembered = touch (keyId, key) former) :
      Answers client keyId since former (.ok key, after)
  | found (key : SigningKey) (after : KeyState)
      (habsent : former.lookup keyId = none)
      (hpublished : client.Published keyId key since)
      (hinsert : after.remembered = insert 16 (keyId, key) former) :
      Answers client keyId since former (.ok key, after)

theorem Fetched.getSigningKey (h : client.Fetched state.cached) (keyId : String)
    (readAt refreshAt : ℚ) :
    client.Answers keyId (min readAt refreshAt) state.remembered
      (client.getSigningKey keyId readAt refreshAt state) := by
  have hremembered : (client.findSigningKey keyId readAt refreshAt state).2.remembered =
      state.remembered := findSigningKey_remembered
  unfold JwksClient.getSigningKey
  dsimp only
  split
  · rename_i key hkept
    exact .remembered key _ hkept rfl
  · rename_i habsent
    split
    · rename_i rejection hfound
      exact .rejected rejection _ habsent hremembered
    · rename_i key hfound
      apply Answers.found key _ habsent (h.findSigningKey hfound)
      rw [hremembered]
      rfl

/-- Past the first set a lookup is limited, or the method behind the cache answers it. -/
theorem Fetched.lookUp_unread (h : client.Fetched state.cached)
    (hunread : client.reads call keyId state = false) (hsound : ¬ client.Broken call state) :
    (call.limitedAt - state.lastUnknownKidRefreshAt < unknownKidRefreshCooldownSeconds ∧
      client.lookUp call keyId state =
        (.error .rateLimited, (client.getSigningKeys false call.firstAt state).2)) ∨
    (unknownKidRefreshCooldownSeconds ≤ call.limitedAt - state.lastUnknownKidRefreshAt ∧
      client.Answers keyId (min call.readAt call.refreshAt) state.remembered
        (client.lookUp call keyId state)) := by
  rw [lookUp_of_unread hunread hsound, refreshUnknown, getSigningKeys_lastUnknownKidRefreshAt]
  split
  · rename_i hlimited
    exact Or.inl ⟨hlimited, rfl⟩
  · rename_i hunlimited
    have hread : client.Fetched { (client.getSigningKeys false call.firstAt state).2 with
        lastUnknownKidRefreshAt := call.limitedAt }.cached := h.getSigningKeys
    have hanswers := hread.getSigningKey keyId call.readAt call.refreshAt
    rw [getSigningKeys_remembered] at hanswers
    exact Or.inr ⟨not_lt.mp hunlimited, hanswers⟩

/-- What a call does to the keys that are remembered: nothing, unless it is answered past
the first set. -/
inductive Recalls (client : JwksClient) (call : SigningCall) (state : KeyState) : Prop
  | unused (hunused : client.used call state = none)
      (hsame : (client.signingKey call state).2.remembered = state.remembered)
  | again (keyId : String) (key : SigningKey) (hused : client.used call state = some keyId)
      (hvalid : validKeyId keyId = true) (hkept : state.remembered.lookup keyId = some key)
      (htouch : (client.signingKey call state).2.remembered =
        touch (keyId, key) state.remembered)
  | found (keyId : String) (key : SigningKey) (since : ℚ)
      (hused : client.used call state = some keyId) (hvalid : validKeyId keyId = true)
      (habsent : state.remembered.lookup keyId = none)
      (hpublished : client.Published keyId key since)
      (hinsert : (client.signingKey call state).2.remembered =
        insert 16 (keyId, key) state.remembered)

theorem unused_of_rejected (hid : call.keyId.filter validKeyId = some keyId)
    {rejection : KeyRejection} {after : KeyState}
    (hcall : client.lookUp call keyId state = (.error rejection, after)) :
    client.used call state = none := by
  rw [used_of_valid hid, hcall]
  simp [Except.toBool]

theorem used_of_answered (hid : call.keyId.filter validKeyId = some keyId)
    (hunread : client.reads call keyId state = false) {after : KeyState}
    (hcall : client.lookUp call keyId state = (.ok key, after)) :
    client.used call state = some keyId := by
  rw [used_of_valid hid, hunread, hcall]
  simp [Except.toBool]

/-- A call past the first set. -/
theorem Fetched.recalls_unread (h : client.Fetched state.cached)
    (hid : call.keyId.filter validKeyId = some keyId)
    (hunread : client.reads call keyId state = false) (hsound : ¬ client.Broken call state) :
    client.Recalls call state := by
  have hvalid : validKeyId keyId = true := (Option.filter_eq_some_iff.mp hid).2
  have hafter : (client.signingKey call state).2 = (client.lookUp call keyId state).2 := by
    rw [signingKey_of_valid hid]
  rcases h.lookUp_unread hunread hsound with ⟨_, hcall⟩ | ⟨_, hanswers⟩
  · apply Recalls.unused (unused_of_rejected hid hcall)
    rw [hafter, hcall]
    exact getSigningKeys_remembered
  · generalize hresult : client.lookUp call keyId state = result at hanswers hafter
    cases hanswers with
    | rejected rejection after habsent hunchanged =>
        apply Recalls.unused (unused_of_rejected hid hresult)
        rw [hafter]
        exact hunchanged
    | remembered key after hkept htouch =>
        apply Recalls.again keyId key (used_of_answered hid hunread hresult) hvalid hkept
        rw [hafter]
        exact htouch
    | found key after habsent hpublished hinsert =>
        apply Recalls.found keyId key _ (used_of_answered hid hunread hresult) hvalid habsent
          hpublished
        rw [hafter]
        exact hinsert

theorem Fetched.recalls (h : client.Fetched state.cached) (call : SigningCall) :
    client.Recalls call state := by
  cases hid : call.keyId.filter validKeyId with
  | none =>
      apply Recalls.unused
      · simp only [used, hid, Option.filter_none]
      · simp only [signingKey, hid]
  | some keyId =>
      cases hreads : client.reads call keyId state with
      | true =>
          obtain ⟨_, _, _, _, hcall⟩ := lookUp_of_reads hreads
          apply Recalls.unused
          · rw [used_of_valid hid, hreads]
            rfl
          · rw [signingKey_of_valid hid, hcall]
            exact getSigningKeys_remembered
      | false =>
          by_cases hbroken : client.Broken call state
          · have hcall := @lookUp_of_broken client state call keyId hbroken
            apply Recalls.unused (unused_of_rejected hid hcall)
            rw [signingKey_of_valid hid, hcall]
            exact getSigningKeys_remembered
          · exact h.recalls_unread hid hreads hbroken

end Calls

section Runs

/-- What is remembered after some uses: the keys of the last of them, each one published. -/
structure Remembers (client : JwksClient) (uses : List String)
    (remembered : List (String × SigningKey)) : Prop where
  holds : Holds 16 uses remembered
  valid : ∀ keyId ∈ uses, validKeyId keyId = true
  published : ∀ entry ∈ remembered, ∃ since, client.Published entry.1 entry.2 since

theorem remembers_initial : client.Remembers [] KeyState.initial.remembered := by
  constructor
  · exact Holds.initial
  · intro keyId hused
    cases hused
  · intro entry hentry
    cases hentry

theorem Remembers.signingKey (h : client.Remembers uses state.remembered)
    (hrecalls : client.Recalls call state) :
    client.Remembers ((client.used call state).toList ++ uses)
      (client.signingKey call state).2.remembered := by
  cases hrecalls with
  | unused hunused hsame =>
      rw [hunused, hsame]
      exact h
  | again keyId key hused hvalid hkept htouch =>
      have hentry := mem_of_lookup hkept
      rw [hused, htouch]
      constructor
      · exact h.holds.touch (List.mem_map_of_mem hentry)
      · intro other hother
        rcases List.mem_cons.mp hother with rfl | hearlier
        · exact hvalid
        · exact h.valid other hearlier
      · intro entry hmem
        rcases List.mem_cons.mp hmem with rfl | hearlier
        · exact h.published _ hentry
        · exact h.published entry (List.mem_of_mem_filter hearlier)
  | found keyId key since hused hvalid habsent hpublished hinsert =>
      rw [hused, hinsert]
      constructor
      · apply h.holds.insert
        intro hmem
        obtain ⟨entry, hentry, hnamed⟩ := List.mem_map.mp hmem
        have hother := List.lookup_eq_none_iff.mp habsent entry hentry
        simp [hnamed] at hother
      · intro other hother
        rcases List.mem_cons.mp hother with rfl | hearlier
        · exact hvalid
        · exact h.valid other hearlier
      · intro entry hmem
        rcases List.mem_cons.mp (List.mem_of_mem_take hmem) with rfl | hearlier
        · exact ⟨since, hpublished⟩
        · exact h.published entry hearlier

theorem usesFrom_append (client : JwksClient) (state : KeyState) (past : List SigningCall)
    (call : SigningCall) :
    client.usesFrom state (past ++ [call]) =
      (client.used call (past.foldl (fun state call => (client.signingKey call state).2)
        state)).toList ++ client.usesFrom state past := by
  induction past generalizing state with
  | nil => simp [usesFrom]
  | cons first later ih => simp [usesFrom, ih]

theorem remembers_after (client : JwksClient) (calls : List SigningCall) :
    client.Remembers (client.usesFrom .initial calls) (client.after calls).remembered := by
  induction calls using List.reverseRecOn with
  | nil => exact remembers_initial
  | append_singleton past call ih =>
      rw [usesFrom_append, after, List.foldl_append]
      exact ih.signingKey (Fetched.recalls (kept_after client past).fetched call)

/-- The clock does not go back during a call. -/
structure InOrder (call : SigningCall) : Prop where
  read : call.firstAt ≤ call.readAt
  refresh : call.readAt ≤ call.refreshAt

/-- When a key id is answered that is in no set any more: it was answered past the first set
before, fewer than sixteen others were since, such answers are not limited, and the first set
does not fail in a way that is not expected. -/
structure StillAnswered (client : JwksClient) (calls : List SigningCall) (call : SigningCall)
    (keyId : String) : Prop where
  within : WithinLast 16 (client.usesFrom .initial calls) keyId
  unlimited : unknownKidRefreshCooldownSeconds ≤
    call.limitedAt - (client.after calls).lastUnknownKidRefreshAt
  sound : ¬ client.Broken call (client.after calls)

/-- A key id whose sets have all expired. -/
theorem Fetched.unread (h : client.Fetched state.cached)
    (hwithdrawn : client.WithdrawnFrom keyId withdrawnAt)
    (hlate : withdrawnAt + client.cacheSeconds < call.firstAt) :
    client.reads call keyId state = false := by
  cases hreads : client.reads call keyId state with
  | false => rfl
  | true =>
      unfold reads at hreads
      split at hreads
      · rename_i keys hread
        obtain ⟨key, hmatch⟩ := Option.isSome_iff_exists.mp hreads
        exact absurd (h.published hread hmatch) (hwithdrawn.not_published hlate)
      · cases hreads

/-- A key id that is remembered is one of the last that were answered past the first set. -/
theorem Remembers.lookup_eq_some (h : client.Remembers uses state.remembered)
    (hkept : state.remembered.lookup keyId = some key) :
    WithinLast 16 uses keyId ∧ ∃ since, client.Published keyId key since := by
  have hentry := mem_of_lookup hkept
  exact ⟨h.holds.mem_iff.mp (List.mem_map_of_mem hentry), h.published _ hentry⟩

theorem Remembers.lookup_eq_none (h : client.Remembers uses state.remembered)
    (habsent : state.remembered.lookup keyId = none) : ¬ WithinLast 16 uses keyId := by
  intro hwithin
  obtain ⟨entry, hentry, hnamed⟩ := List.mem_map.mp (h.holds.mem_iff.mpr hwithin)
  have hother := List.lookup_eq_none_iff.mp habsent entry hentry
  simp [hnamed] at hother

/-- A key that a call gets was in a set that the issuer has answered. -/
theorem Remembers.published_of_ok (h : client.Remembers uses state.remembered)
    (hfetched : client.Fetched state.cached)
    (hanswered : (client.signingKey call state).1 = .ok key) :
    ∃ keyId since, call.keyId = some keyId ∧ client.Published keyId key since := by
  cases hid : call.keyId.filter validKeyId with
  | none =>
      simp only [JwksClient.signingKey, hid] at hanswered
      cases hanswered
  | some keyId =>
      refine ⟨keyId, ?_⟩
      rw [signingKey_of_valid hid] at hanswered
      have hnamed : call.keyId = some keyId := (Option.filter_eq_some_iff.mp hid).1
      cases hreads : client.reads call keyId state with
      | true =>
          obtain ⟨keys, found, hread, hmatch, hcall⟩ := lookUp_of_reads hreads
          rw [hcall] at hanswered
          obtain rfl := Except.ok.inj hanswered
          exact ⟨_, hnamed, hfetched.published hread hmatch⟩
      | false =>
          by_cases hbroken : client.Broken call state
          · rw [lookUp_of_broken hbroken] at hanswered
            cases hanswered
          · rcases hfetched.lookUp_unread hreads hbroken with ⟨_, hcall⟩ | ⟨_, hanswers⟩
            · rw [hcall] at hanswered
              cases hanswered
            · generalize client.lookUp call keyId state = result at hanswers hanswered
              cases hanswers with
              | rejected rejection after _ _ => cases hanswered
              | remembered found after hkept _ =>
                  obtain rfl := Except.ok.inj hanswered
                  obtain ⟨_, since, hpublished⟩ := h.lookup_eq_some hkept
                  exact ⟨since, hnamed, hpublished⟩
              | found found after _ hpublished _ =>
                  obtain rfl := Except.ok.inj hanswered
                  exact ⟨_, hnamed, hpublished⟩

theorem Remembers.valid_of_within (h : client.Remembers uses state.remembered)
    (hwithin : WithinLast 16 uses keyId) : validKeyId keyId = true := by
  apply h.valid
  obtain ⟨newer, older, hsplit, -⟩ := hwithin
  rw [hsplit]
  exact List.mem_append_right newer List.mem_cons_self

/-- How a call for a withdrawn key id ends. -/
theorem withdrawn_cases (hnamed : call.keyId = some keyId) (hordered : InOrder call)
    (hwithdrawn : client.WithdrawnFrom keyId withdrawnAt)
    (hlate : withdrawnAt + client.cacheSeconds < call.firstAt) :
    (∃ rejection, (client.signingKey call (client.after calls)).1 = .error rejection ∧
      ¬ client.StillAnswered calls call keyId) ∨
    ∃ key, (client.signingKey call (client.after calls)).1 = .ok key ∧
      client.StillAnswered calls call keyId ∧ ∃ since, client.Published keyId key since := by
  have hfetched : client.Fetched (client.after calls).cached := (kept_after client calls).fetched
  have hremembers := remembers_after client calls
  by_cases hvalid : validKeyId keyId = true
  · have hid : call.keyId.filter validKeyId = some keyId := by
      rw [hnamed, Option.filter_some, if_pos hvalid]
    rw [signingKey_of_valid hid]
    by_cases hbroken : client.Broken call (client.after calls)
    · left
      rw [lookUp_of_broken hbroken]
      exact ⟨_, rfl, fun hstill => hstill.sound hbroken⟩
    · rcases hfetched.lookUp_unread (hfetched.unread hwithdrawn hlate) hbroken with
        ⟨hlimited, hcall⟩ | ⟨hunlimited, hanswers⟩
      · left
        rw [hcall]
        exact ⟨_, rfl, fun hstill => absurd hlimited (not_lt.mpr hstill.unlimited)⟩
      · generalize client.lookUp call keyId (client.after calls) = result at hanswers
        cases hanswers with
        | rejected rejection after habsent _ =>
            left
            exact ⟨rejection, rfl, fun hstill =>
              hremembers.lookup_eq_none habsent hstill.within⟩
        | remembered key after hkept _ =>
            right
            obtain ⟨hwithin, hpublished⟩ := hremembers.lookup_eq_some hkept
            exact ⟨key, rfl, ⟨hwithin, hunlimited, hbroken⟩, hpublished⟩
        | found key after _ hpublished _ =>
            have hread := hordered.read
            have hrefresh := hordered.refresh
            rw [min_eq_left hrefresh] at hpublished
            exact absurd hpublished (hwithdrawn.not_published (by linarith))
  · left
    have hfilter : call.keyId.filter validKeyId = none := by
      rw [hnamed, Option.filter_some, if_neg hvalid]
    simp only [signingKey, hfilter]
    exact ⟨_, rfl, fun hstill => hvalid (hremembers.valid_of_within hstill.within)⟩

/-- After any calls, at any time after the last set with a withdrawn key id has expired, the id
is answered exactly as long as it is among the last ones, and then by a key that the issuer
had answered before. -/
theorem withdrawn_key_answered_iff (client : JwksClient) (calls : List SigningCall)
    (call : SigningCall) (keyId : String) (withdrawnAt : ℚ)
    (hnamed : call.keyId = some keyId) (hordered : InOrder call)
    (hwithdrawn : client.WithdrawnFrom keyId withdrawnAt)
    (hlate : withdrawnAt + client.cacheSeconds < call.firstAt) :
    ((∃ key, (client.signingKey call (client.after calls)).1 = .ok key) ↔
      client.StillAnswered calls call keyId) ∧
    ∀ key, (client.signingKey call (client.after calls)).1 = .ok key →
      key.keyId = keyId ∧ ∃ time keys, time < withdrawnAt ∧
        client.fetch time = .ok keys ∧ key ∈ keys := by
  rcases @withdrawn_cases client call keyId withdrawnAt calls hnamed hordered hwithdrawn hlate
    with ⟨rejection, hrejected, hnot⟩ | ⟨answer, hanswer, hstill, hpublished⟩
  · constructor
    · constructor
      · intro hanswered
        obtain ⟨key, hkey⟩ := hanswered
        rw [hrejected] at hkey
        cases hkey
      · intro hstill
        exact absurd hstill hnot
    · intro key hkey
      rw [hrejected] at hkey
      cases hkey
  · constructor
    · constructor
      · intro _
        exact hstill
      · intro _
        exact ⟨answer, hanswer⟩
    · intro key hkey
      rw [hanswer] at hkey
      obtain rfl := Except.ok.inj hkey
      obtain ⟨since, time, keys, -, hfetch, hmem, hid⟩ := hpublished
      have hbefore : time < withdrawnAt := by
        by_contra hafter
        exact hwithdrawn time keys (not_lt.mp hafter) hfetch ⟨answer, hmem, hid⟩
      exact ⟨hid, time, keys, hbefore, hfetch, hmem⟩

theorem one_minute_valid : (0 : ℤ) < 60 := by decide

/-- A key that is published for a while, beside another one. -/
def rotatingClient : JwksClient where
  cacheSeconds := 60
  cacheSeconds_valid := one_minute_valid
  fetch time := .ok (if 10 ≤ time ∧ time < 100 then [⟨"main", "a"⟩, ⟨"spare", "b"⟩]
    else [⟨"main", "a"⟩])
  dropsOnFailure := true

/-- A call at one time. -/
def callAt (keyId : String) (time : ℚ) : SigningCall := ⟨some keyId, time, time, time, time⟩

theorem rotating_withdrawn : rotatingClient.WithdrawnFrom "spare" 100 := by
  intro time keys hafter hfetch
  have hnot : ¬ (10 ≤ time ∧ time < 100) := fun hbetween => absurd hbetween.2 (not_lt.mpr hafter)
  simp only [rotatingClient, if_neg hnot, Except.ok.injEq] at hfetch
  subst hfetch
  simp [Names]

/-- The spare key is answered long after it was withdrawn. -/
theorem spare_key_answered : ∃ key, (rotatingClient.signingKey (callAt "spare" 100000)
    (rotatingClient.after [callAt "main" 5, callAt "spare" 20])).1 = .ok key := by
  apply (withdrawn_key_answered_iff rotatingClient [callAt "main" 5, callAt "spare" 20]
    (callAt "spare" 100000) "spare" 100 rfl ⟨le_rfl, le_rfl⟩ rotating_withdrawn
    (by norm_num [rotatingClient, callAt])).1.mpr
  constructor
  · decide +kernel
  · decide +kernel
  · intro hbroken
    exact absurd hbroken.2 (by simp [rotatingClient])

end Runs

end JwksClient

end ShemaPlatform
