/-
The projections of the requests of any number of submissions and dispatchers, in
every order and however often, into the operator's database.
-/
import ShemaPlatform.IntakeProvenance
import ShemaPlatform.RequestProjection

namespace ShemaPlatform

open Calendar ReadCommitted ReadCommitted.Prog PublicIntakeRepository PublicIntakeService

namespace RequestProjection

/-- A provider that was not there leaves nothing else to decide on. -/
def Plain (preflight : CounterpartyPreflightSnapshot) : Prop :=
  "PROVIDER_UNAVAILABLE" ∈ preflight.flags → preflight.decision = .unknown

section Plain

variable {service : PublicCounterpartyPreflightService} {payload : PublicIntakePayload}
  {companyName : Option String} {requestId : String} {now : Instant}
  {preflight : CounterpartyPreflightSnapshot} {lookup : PreflightLookup}

theorem unchecked_plain {company : Option (CounterpartyLookupIdentifierType × String)}
    {decision : PreflightDecision} {flag : String} {errorCode : Option String}
    (h : flag = "PROVIDER_UNAVAILABLE" → decision = .unknown) :
    (PublicPreflight.unchecked requestId now company decision flag errorCode).snapshotId =
        s!"preflight:{requestId}" ∧
      Plain (PublicPreflight.unchecked requestId now company decision flag errorCode) := by
  constructor
  · rfl
  · intro hflag
    exact h (List.mem_singleton.mp hflag).symm

/-- A snapshot without a lookup names its request and is plain. -/
theorem begin_plain
    (h : PublicPreflight.begin service payload requestId now = .ok (.inl preflight)) :
    preflight.snapshotId = s!"preflight:{requestId}" ∧ Plain preflight := by
  unfold PublicPreflight.begin at h
  cases hcompany : PublicPreflight.resolveIdentifier payload with
  | none =>
      rw [hcompany] at h
      obtain rfl := Sum.inl.inj (Except.ok.inj h)
      exact unchecked_plain fun _ => rfl
  | some company =>
      simp only [hcompany, bind_eq_ok] at h
      obtain ⟨valid, _, hrest⟩ := h
      split at hrest
      · obtain rfl := Sum.inl.inj (Except.ok.inj hrest)
        exact unchecked_plain fun hsame => absurd hsame (by decide)
      · split at hrest
        · obtain rfl := Sum.inl.inj (Except.ok.inj hrest)
          exact unchecked_plain fun _ => rfl
        · split at hrest
          · obtain rfl := Sum.inl.inj (Except.ok.inj hrest)
            exact unchecked_plain fun _ => rfl
          · cases hrest

theorem assess_plain {record : CounterpartyProviderRecord} :
    Plain (PublicPreflight.assess service companyName requestId now lookup record) := by
  have hdecision : ∀ status identity,
      "PROVIDER_UNAVAILABLE" ∉ (PublicPreflight.decision status identity).2 := by
    intro status identity
    unfold PublicPreflight.decision
    split_ifs <;> decide
  intro hflag
  simp only [PublicPreflight.assess, List.mem_append] at hflag
  rcases hflag with (hname | hstatus) | htime
  · split at hname
    · exact absurd hname (by decide)
    · cases hname
  · exact absurd hstatus (hdecision _ _)
  · split at htime
    · exact absurd htime (by decide)
    · cases htime

/-- So does a snapshot of a lookup, whatever the registry answers. -/
theorem ask_plain {answer : ℕ → LookupAnswer} {found : Option CounterpartyProviderRecord}
    (h : PublicPreflight.ask service companyName requestId now lookup answer =
      .ok (preflight, found)) :
    preflight.snapshotId = s!"preflight:{requestId}" ∧ Plain preflight := by
  simp only [PublicPreflight.ask, bind_eq_ok] at h
  obtain ⟨_, _, hrest⟩ := h
  cases hlookup : boundedLookup answer 1 2 with
  | ok record =>
      rw [hlookup] at hrest
      obtain ⟨rfl, _⟩ := Prod.mk.inj (Except.ok.inj hrest)
      exact ⟨rfl, assess_plain⟩
  | error error =>
      simp only [hlookup, bind_eq_ok, pure_eq_ok] at hrest
      obtain ⟨code, _, hpair⟩ := hrest
      obtain ⟨rfl, _⟩ := Prod.mk.inj hpair
      exact unchecked_plain fun _ => rfl

end Plain

/-- What the two codes make of a plain snapshot is the same, though they ask in another
order. -/
theorem types_agree {sha256 : String → String} {call : Submission}
    {preflight : CounterpartyPreflightSnapshot} (hplain : Plain preflight)
    (hnotify : call.notifyOperator = true) :
    noticeTypes (call.record sha256 preflight) =
      (call.events preflight).map (·.eventType) := by
  have hstatus : (call.record sha256 preflight).status ≠ .quarantinedSpam := by
    simp [Submission.record, Submission.status, hnotify]
  have hconcern : (concernNotice (call.record sha256 preflight) 0).map (·.eventType) =
      (call.secondEvent preflight).map (·.eventType) := by
    have hpreflight : (call.record sha256 preflight).preflight = preflight := rfl
    simp only [concernNotice, Submission.secondEvent, Submission.concern, hpreflight, hnotify,
      if_true]
    by_cases hflag : "PROVIDER_UNAVAILABLE" ∈ preflight.flags
    · simp [hflag, hplain hflag, providerUnavailable]
    · by_cases hattention : preflight.decision = .attention
      · simp [hflag, hattention, counterpartyAttention]
      · by_cases hblocking : preflight.decision = .blockingFact
        · simp [hflag, hblocking, counterpartyBlockingFact]
        · simp [hflag, hattention, hblocking]
  have hfirst : (newClientRequest (call.record sha256 preflight) 0).eventType =
      (call.event preflight).eventType := by
    simp [newClientRequest, Submission.event, hnotify]
  rw [noticeTypes, notices, if_neg hstatus, Submission.events, List.map_cons, List.map_cons, hfirst,
    ← Option.toList_map, ← Option.toList_map, hconcern]

section Snapshots

variable {ι : Type} [DecidableEq ι]

/-- A client has got this snapshot from its provider. -/
def Asks (events : List (IntakeEvent ι)) (client : ι)
    (preflight : CounterpartyPreflightSnapshot) : Prop :=
  ∃ before answer after, Event.acted client before (.submission (.asked answer)) after ∈ events ∧
    after.carried = some preflight

/-- A snapshot that the preflight of some client makes, with or without its provider. -/
def Produced (service : PublicIntakeService) (session : ι → Session)
    (events : List (IntakeEvent ι)) (preflight : CounterpartyPreflightSnapshot) : Prop :=
  ∃ client call, (session client).client = .inl call ∧
    (PublicPreflight.begin service.preflight call.payload call.requestId call.submittedAt =
      .ok (.inl preflight) ∨ Asks events client preflight)

/-- The `uuid4` ids of requests: no two submissions have the same, and none has a
colon. -/
structure UniqueRequests (session : ι → Session) : Prop where
  distinct : ∀ client other call call', (session client).client = .inl call →
    (session other).client = .inl call' → call.requestId = call'.requestId → client = other
  plain : ∀ client call, (session client).client = .inl call → ':' ∉ call.requestId.toList

/-- Every client asks once at most, and only where its preflight comes to that. -/
structure AsksOnce (service : PublicIntakeService) (session state : ι → Session)
    (events : List (IntakeEvent ι)) : Prop where
  client : ∀ client, (state client).client = (session client).client
  asked : ∀ client preflight, Asks events client preflight → (state client).early = false ∧
    (∀ other, Asks events client other → other = preflight) ∧ ∃ call lookup,
      (session client).client = .inl call ∧
        PublicPreflight.begin service.preflight call.payload call.requestId
          call.submittedAt = .ok (.inr lookup) ∧
        preflight.snapshotId = s!"preflight:{call.requestId}" ∧ Plain preflight

variable {sha256 : String → String} {service : PublicIntakeService} {session : ι → Session}
  {events : List (IntakeEvent ι)} {last : IntakeSys ι} {locked : IntakeKey → Bool}
  {preflight preflight' : CounterpartyPreflightSnapshot}

omit [DecidableEq ι] in
theorem asks_append_of_quiet {event : IntakeEvent ι} {client : ι}
    (hquiet : ∀ answer before after,
      event ≠ .acted client before (.submission (.asked answer)) after) :
    Asks (events ++ [event]) client preflight ↔ Asks events client preflight := by
  constructor
  · rintro ⟨before, answer, after, hmem, hcarried⟩
    rcases List.mem_append.mp hmem with hold | hnew
    · exact ⟨before, answer, after, hold, hcarried⟩
    · exact absurd (List.mem_singleton.mp hnew).symm (hquiet answer before after)
  · rintro ⟨before, answer, after, hmem, hcarried⟩
    exact ⟨before, answer, after, List.mem_append_left _ hmem, hcarried⟩

/-- A fresh session knows what the preflight makes without asking. -/
theorem knows_of_fresh {known : CounterpartyPreflightSnapshot → Prop} {session : Session}
    {rows : IntakeRows} (hfresh : session.fresh)
    (hunasked : ∀ call, session.client = .inl call → ∀ preflight,
      PublicPreflight.begin service.preflight call.payload call.requestId call.submittedAt =
        .ok (.inl preflight) → known preflight) :
    session.Knows sha256 service known rows := by
  cases session with
  | submit call stage =>
      obtain rfl : stage = .waiting := hfresh
      constructor
      · exact hunasked
      · exact fun _ _ h => by cases h
      · exact fun _ h => by cases h
      · exact fun _ _ h => by cases h
      · exact fun _ h => by cases h
      · exact fun _ _ h => by cases h
  | dispatch call stage =>
      obtain rfl : stage = .claiming := hfresh
      constructor
      · exact hunasked
      · exact fun _ _ h => by cases h
      · exact fun _ h => by cases h
      · exact fun _ _ h => by cases h
      · exact fun _ h => by cases h
      · exact fun _ _ h => by cases h

theorem sound_nil {known : CounterpartyPreflightSnapshot → Prop} : IntakeSound known [] := by
  constructor
  · exact fun _ _ h => by cases h
  · exact fun _ _ h => by cases h
  · exact fun _ _ h => by cases h

/-- A step that asks nobody. -/
theorem AsksOnce.moves {state : ι → Session} (h : AsksOnce service session state events)
    {client : ι} {after : Session} {event : IntakeEvent ι}
    (hquiet : ∀ other answer before after,
      event ≠ .acted other before (.submission (.asked answer)) after)
    (hclient : after.client = (state client).client)
    (hearly : after.early = true → (state client).early = true) :
    AsksOnce service session (Function.update state client after) (events ++ [event]) := by
  constructor
  · intro other
    by_cases hother : other = client
    · rw [hother, Function.update_self, hclient, h.client]
    · rw [Function.update_of_ne hother, h.client]
  · intro other preflight hasks
    rw [asks_append_of_quiet (hquiet other)] at hasks
    obtain ⟨hlate, hunique, hbegin⟩ := h.asked other preflight hasks
    constructor
    · by_cases hother : other = client
      · subst hother
        rw [Function.update_self, Bool.eq_false_iff]
        intro hafter
        rw [hearly hafter] at hlate
        cases hlate
      · rw [Function.update_of_ne hother, hlate]
    · constructor
      · intro found hfound
        rw [asks_append_of_quiet (hquiet other)] at hfound
        exact hunique found hfound
      · exact hbegin

/-- A client that is answered has not asked before. -/
theorem AsksOnce.asks {state : ι → Session} (h : AsksOnce service session state events)
    {client : ι} {call : Submission} {stage after : Stage} {answer : ℕ → LookupAnswer}
    {rows : IntakeRows} (hstate : state client = .submit call stage)
    (hknows : (state client).Knows sha256 service (fun _ => True) rows)
    (hacts : PublicIntakeService.Acts service call stage (.asked answer) after) :
    AsksOnce service session (Function.update state client (.submit call after))
      (events ++ [.acted client (state client) (.submission (.asked answer))
        (.submit call after)]) := by
  have hclient : (session client).client = .inl call := by
    rw [← h.client, hstate]
    rfl
  have hbefore : ∀ preflight, ¬ Asks events client preflight := by
    intro preflight hasks
    have hlate := (h.asked client preflight hasks).1
    rw [hstate] at hlate
    cases hacts <;> cases hlate
  have hnow : ∀ preflight, (Session.submit call after).carried = some preflight →
      ∃ lookup, PublicPreflight.begin service.preflight call.payload call.requestId
        call.submittedAt = .ok (.inr lookup) ∧
        preflight.snapshotId = s!"preflight:{call.requestId}" ∧ Plain preflight := by
    intro preflight hcarried
    rw [hstate] at hknows
    cases hacts with
    | found lookup answer found record hask =>
        obtain rfl := Option.some.inj hcarried
        exact ⟨lookup, hknows.lookups call lookup rfl, ask_plain hask⟩
    | unavailable lookup answer found hask =>
        obtain rfl := Option.some.inj hcarried
        exact ⟨lookup, hknows.lookups call lookup rfl, ask_plain hask⟩
    | failed lookup answer error hask => cases hcarried
  have hsplit : ∀ other preflight, Asks (events ++ [.acted client (state client)
      (.submission (.asked answer)) (.submit call after)]) other preflight →
      Asks events other preflight ∨ other = client ∧
        (Session.submit call after).carried = some preflight := by
    rintro other preflight ⟨before, answer', after', hmem, hcarried⟩
    rcases List.mem_append.mp hmem with hold | hnew
    · exact Or.inl ⟨before, answer', after', hold, hcarried⟩
    · rw [List.mem_singleton, Event.acted.injEq] at hnew
      obtain ⟨rfl, _, _, rfl⟩ := hnew
      exact Or.inr ⟨rfl, hcarried⟩
  constructor
  · intro other
    by_cases hother : other = client
    · rw [hother, Function.update_self, hclient]
      rfl
    · rw [Function.update_of_ne hother, h.client]
  · intro other preflight hasks
    rcases hsplit other preflight hasks with hold | ⟨rfl, hcarried⟩
    · have hother : other ≠ client := by
        rintro rfl
        exact hbefore preflight hold
      obtain ⟨hlate, hunique, hbegin⟩ := h.asked other preflight hold
      rw [Function.update_of_ne hother]
      constructor
      · exact hlate
      · constructor
        · intro found hfound
          rcases hsplit other found hfound with hearlier | ⟨hsame, _⟩
          · exact hunique found hearlier
          · exact absurd hsame hother
        · exact hbegin
    · rw [Function.update_self]
      obtain ⟨lookup, hbegin⟩ := hnow preflight hcarried
      constructor
      · cases hacts <;> rfl
      · constructor
        · intro found hfound
          rcases hsplit other found hfound with hearlier | ⟨_, hsame⟩
          · exact absurd hearlier (hbefore found)
          · exact Option.some.inj (hsame.symm.trans hcarried)
        · exact ⟨call, lookup, hclient, hbegin⟩

/-- In a run from fresh sessions every client asks once at most. -/
theorem asksOnce_of_run (hfresh : ∀ client, (session client).fresh)
    (hrun : Run (flow sha256 service) (Sys.start ⟨locked, []⟩ session) events last) :
    AsksOnce service session last.states events := by
  have hrestricted : Run ((flow sha256 service).restrict (Answered fun _ => True))
      (Sys.start ⟨locked, []⟩ session) events last :=
    hrun.restrict fun _ _ _ _ _ _ _ _ _ => trivial
  have hgood : (provenance sha256 service fun _ => True).Good
      (Sys.start ⟨locked, []⟩ session : IntakeSys ι) :=
    Certificate.Good.start _ _ fun client =>
      ⟨sound_nil, knows_of_fresh (hfresh client) fun _ _ _ _ => trivial⟩
  refine (provenance sha256 service fun _ => True).run_induction
    (fun _ state events => AsksOnce service session state events) hgood ?_ ?_ ?_ ?_ ?_
    hrestricted
  · constructor
    · exact fun _ => rfl
    · rintro _ _ ⟨_, _, _, hmem, _⟩
      cases hmem
  · intro world state events client after own hknows hdoes hkept
    apply hkept.moves
    · intro _ _ _ _ hsame
      cases hsame
    · exact hdoes.leaves.client
    · exact hdoes.leaves.early
  · intro world state events client error hknows hkept
    have hleaves := @leaves_recover sha256 service _ _ _ error (hknows client).2
    apply hkept.moves
    · intro _ _ _ _ hsame
      cases hsame
    · exact hleaves.client
    · exact hleaves.early
  · intro world state events client action after env hknows houtside hkept
    have hleaves := houtside.1.2.leaves houtside.2 (hknows client).2
    by_cases hasked : ∃ answer, action = .submission (.asked answer)
    · obtain ⟨answer, rfl⟩ := hasked
      obtain ⟨call, stage, after', hstate, rfl, hacts⟩ : ∃ call stage after',
          state client = .submit call stage ∧ after = .submit call after' ∧
            PublicIntakeService.Acts service call stage (.asked answer) after' := by
        have hacts := houtside.1.2
        generalize state client = before at hacts
        cases hacts with
        | submit hacts => exact ⟨_, _, _, rfl, rfl, hacts⟩
      exact hkept.asks hstate (hknows client).2 hacts
    · apply hkept.moves
      · intro _ answer _ _ hsame
        rw [Event.acted.injEq] at hsame
        exact hasked ⟨answer, hsame.2.2.1⟩
      · exact hleaves.client
      · exact hleaves.early
  · intro world state events env _ hkept
    exact hkept

section Produced

omit [DecidableEq ι]

variable {state : ι → Session} {client : ι} {call : Submission}

theorem id_of_produced (honce : AsksOnce service session state events)
    (hclient : (session client).client = .inl call)
    (h : PublicPreflight.begin service.preflight call.payload call.requestId
      call.submittedAt = .ok (.inl preflight) ∨ Asks events client preflight) :
    preflight.snapshotId = s!"preflight:{call.requestId}" ∧ Plain preflight := by
  rcases h with hbegin | hasks
  · exact begin_plain hbegin
  · obtain ⟨_, _, call', _, hclient', _, hid, hplain⟩ := honce.asked client preflight hasks
    obtain rfl := Sum.inl.inj (hclient.symm.trans hclient')
    exact ⟨hid, hplain⟩

theorem produced_plain (honce : AsksOnce service session state events)
    (h : Produced service session events preflight) : Plain preflight := by
  obtain ⟨client, call, hclient, hmade⟩ := h
  exact (id_of_produced honce hclient hmade).2

theorem snapshotId_inj {requestId other : String}
    (h : s!"preflight:{requestId}" = s!"preflight:{other}") : requestId = other := by
  have hlists := congrArg String.toList h
  simp only [toString, String.toList_append] at hlists
  apply String.toList_injective
  simpa using hlists

/-- The id of a snapshot tells the snapshot. -/
theorem produced_unique (hunique : UniqueRequests session)
    (honce : AsksOnce service session state events)
    (h : Produced service session events preflight)
    (h' : Produced service session events preflight')
    (hsame : preflight.snapshotId = preflight'.snapshotId) : preflight = preflight' := by
  obtain ⟨client, call, hclient, hmade⟩ := h
  obtain ⟨client', call', hclient', hmade'⟩ := h'
  have hrequest : call.requestId = call'.requestId := by
    apply snapshotId_inj
    rw [← (id_of_produced honce hclient hmade).1, ← (id_of_produced honce hclient' hmade').1,
      hsame]
  obtain rfl := hunique.distinct client client' call call' hclient hclient' hrequest
  obtain rfl := Sum.inl.inj (hclient.symm.trans hclient')
  have hasked : ∀ found, Asks events client found → ∀ other,
      PublicPreflight.begin service.preflight call.payload call.requestId call.submittedAt ≠
        .ok (.inl other) := by
    intro found hasks other hbegin
    obtain ⟨_, _, call', _, hclient', hlookup, _⟩ := honce.asked client found hasks
    obtain rfl := Sum.inl.inj (hclient.symm.trans hclient')
    cases hbegin.symm.trans hlookup
  rcases hmade with hbegin | hasks
  · rcases hmade' with hbegin' | hasks'
    · exact Sum.inl.inj (Except.ok.inj (hbegin.symm.trans hbegin'))
    · exact absurd hbegin (hasked _ hasks' _)
  · rcases hmade' with hbegin' | hasks'
    · exact absurd hbegin' (hasked _ hasks _)
    · exact (honce.asked client preflight' hasks').2.1 preflight hasks

end Produced

end Snapshots

section Runs

variable {ι : Type} [DecidableEq ι]

def succeeded : Except Failure Unit → Bool
  | .ok _ => true
  | .error _ => false

/-- What a step of a run projects, and whether that succeeds. -/
def projection : IntakeEvent ι → Option (PublicIntakeRecord × Bool)
  | .acted _ (.submit _ (.recorded record)) (.submission (.projects outcome)) _ =>
      some (record, succeeded outcome)
  | .acted _ (.dispatch _ (.projecting record _ _)) (.projection outcome) _ =>
      some (record, succeeded outcome)
  | _ => none

/-- The operator's database after a run.  A projection that failed has left it as it was,
or its commit was lost on the way back. -/
inductive Projected : List (IntakeEvent ι) → Tables → Prop where
  | start : Projected [] ⟨[], []⟩
  | passes {events : List (IntakeEvent ι)} {tables : Tables} (event : IntakeEvent ι)
      (h : Projected events tables)
      (hpasses : ∀ record, projection event ≠ some (record, true)) :
      Projected (events ++ [event]) tables
  | projects {events : List (IntakeEvent ι)} {tables : Tables} (event : IntakeEvent ι)
      (record : PublicIntakeRecord) (succeeded : Bool) (now : Instant)
      (h : Projected events tables) (hprojects : projection event = some (record, succeeded)) :
      Projected (events ++ [event]) (project record now tables)

omit [DecidableEq ι] in
theorem projected_nil {tables : Tables} (h : Projected ([] : List (IntakeEvent ι)) tables) :
    tables = ⟨[], []⟩ := by
  generalize hevents : ([] : List (IntakeEvent ι)) = events at h
  cases h with
  | start => rfl
  | passes => simp at hevents
  | projects => simp at hevents

omit [DecidableEq ι] in
/-- What the last step has left. -/
theorem projected_append {events : List (IntakeEvent ι)} {event : IntakeEvent ι}
    {tables' : Tables} (h : Projected (events ++ [event]) tables') :
    ∃ tables, Projected events tables ∧
      ((tables' = tables ∧ ∀ record, projection event ≠ some (record, true)) ∨
        ∃ record succeeded now, projection event = some (record, succeeded) ∧
          tables' = project record now tables) := by
  generalize hevents : events ++ [event] = all at h
  cases h with
  | start => simp at hevents
  | passes event' hbefore hpasses =>
      obtain ⟨rfl, hevent⟩ := List.append_inj' hevents rfl
      obtain rfl := List.singleton_inj.mp hevent
      exact ⟨_, hbefore, Or.inl ⟨rfl, hpasses⟩⟩
  | projects event' record succeeded now hbefore hprojects =>
      obtain ⟨rfl, hevent⟩ := List.append_inj' hevents rfl
      obtain rfl := List.singleton_inj.mp hevent
      exact ⟨_, hbefore, Or.inr ⟨record, succeeded, now, hprojects, rfl⟩⟩

end Runs

end RequestProjection

end ShemaPlatform
