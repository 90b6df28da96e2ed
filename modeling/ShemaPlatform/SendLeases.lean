/-
The reservations of a commercial action over any interleaving of sends: their leases
do not overlap, and nothing is handed to the gateway without one.
-/
import Mathlib.Data.Int.ConditionallyCompleteOrder
import ShemaPlatform.CommercialSendEffects
import ShemaPlatform.GuardedRun
import ShemaPlatform.Histories

namespace ShemaPlatform

open Calendar Histories ReadCommitted

namespace CommercialSend

variable {ι : Type}

/-- A reservation that a call has committed. -/
structure Reservation (ι : Type) where
  client : ι
  call : CommercialSend
  claimedAt : Instant

/-- The moment from which a commit reserves its action. -/
def reservedAt : Stage → Stage → Option Instant
  | .started now, .sending _ => some now
  | _, _ => none

/-- The reservation that an event commits. -/
def reservation : SendEvent ι → Option (Reservation ι)
  | .committed client before after _ =>
      (reservedAt before.stage after.stage).map fun now => ⟨client, before.call, now⟩
  | _ => none

/-- The reservations of an action, oldest first. -/
def reservations (actionId : String) (events : List (SendEvent ι)) : List (Reservation ι) :=
  (events.filterMap reservation).filter fun reserved => reserved.call.actionId == actionId

def Reservation.leaseUntil (reserved : Reservation ι) : Instant :=
  CommercialSend.leaseUntil reserved.claimedAt

theorem Reservation.claimedAt_le (reserved : Reservation ι) :
    reserved.claimedAt ≤ reserved.leaseUntil := by
  simp [leaseUntil, CommercialSend.leaseUntil]

/-- A send is preceded by the reservation of the call that sends. -/
def Reserved (earlier : List (SendEvent ι)) : SendEvent ι → Prop
  | .acted client before (.sends _) _ => ∃ reserved ∈ earlier.filterMap reservation,
      reserved.client = client ∧ reserved.call = before.call
  | _ => True

/-- The row of an action carries the last of its reservations while it is being sent. -/
def Carries (rows : Rows Row) (actionId : String) (reserved : List (Reservation ι)) : Prop :=
  ∀ last ∈ reserved.getLast?, ∃ row : CommercialAction,
    rows.get (Key.commercialAction actionId) = some row ∧ row.status ≠ .ready ∧
      (row.status = .sending → row.sendWorkerId = some last.call.workerId ∧
        row.sendLeaseUntil = some last.leaseUntil)

/-- What holds of the reservations in every state that a run reaches. -/
structure Leased (rows : Rows Row) (session : ι → Session) (events : List (SendEvent ι)) :
    Prop where
  apart : ∀ actionId, Successive Reservation.claimedAt Reservation.leaseUntil
    (reservations actionId events)
  carried : ∀ actionId, Carries rows actionId (reservations actionId events)
  sending : ∀ client action, (session client).stage = .sending action →
    ∃ reserved ∈ events.filterMap reservation,
      reserved.client = client ∧ reserved.call = (session client).call
  preceded : Preceded Reserved events

section Steps

variable {sha256 uuid5 : String → String} {authorizer : RBACAuthorizer} {rows own : Rows Row}
  {session : ι → Session} {events : List (SendEvent ι)} {actionId : String}

@[simp] theorem reservations_concat (event : SendEvent ι) :
    reservations actionId (events ++ [event]) = reservations actionId events ++
      ((reservation event).toList.filter fun reserved => reserved.call.actionId == actionId) := by
  rw [reservations, List.filterMap_append, List.filter_append, reservations]
  cases h : reservation event with
  | none => simp [h]
  | some reserved => simp [h]

/-- An event that reserves nothing. -/
theorem reservations_of_none {event : SendEvent ι} (h : reservation event = none) :
    reservations actionId (events ++ [event]) = reservations actionId events := by
  simp [h]

theorem mem_reservations {reserved : Reservation ι} :
    reserved ∈ reservations actionId events ↔
      reserved ∈ events.filterMap reservation ∧ reserved.call.actionId = actionId := by
  rw [reservations, List.mem_filter, beq_iff_eq]

/-- Only a commit after which the call sends reserves. -/
theorem reservation_eq_none {client : ι} {before after : Session}
    (hafter : ∀ action, after.stage ≠ .sending action) :
    reservation (.committed client before after own : SendEvent ι) = none := by
  rw [reservation, Option.map_eq_none_iff]
  cases hbefore : before.stage with
  | started now =>
      cases hstage : after.stage with
      | sending action => exact absurd hstage (hafter action)
      | _ => rfl
  | _ => rfl

theorem Carries.of_released {call : CommercialSend} {before after : Stage}
    {reserved : List (Reservation ι)} (h : Carries rows call.actionId reserved)
    (hmoves : Moves call before after (rows.get (Key.commercialAction call.actionId))
      (Rows.get (own ++ rows) (Key.commercialAction call.actionId)))
    (hafter : ∀ action, after ≠ .sending action) :
    Carries (own ++ rows) call.actionId reserved := by
  intro last hlast
  rcases h last hlast with ⟨row, hrow, hready, hheld⟩
  rw [hrow] at hmoves
  generalize Rows.get (own ++ rows) (Key.commercialAction call.actionId) = after' at hmoves
  cases hmoves with
  | stays _ _ => exact ⟨row, rfl, hready, hheld⟩
  | claims now row hbefore hsending hclaimable => exact absurd hsending (hafter _)
  | completes result now row hbefore hreserved =>
      refine ⟨_, rfl, ?_, ?_⟩ <;> simp [CommercialActions.released]
  | fails now row hbefore hreserved =>
      refine ⟨_, rfl, ?_, ?_⟩ <;> simp [CommercialActions.released]

/-- What a commit found and left when the call goes on to send. -/
theorem Effect.sending {call : CommercialSend} {before : Stage} {action : CommercialAction}
    (h : Effect sha256 uuid5 call rows before (.sending action) own) :
    ∃ now, ∃ row : CommercialAction, before = .started now ∧
      rows.get (Key.commercialAction call.actionId) = some row ∧
      CommercialActions.claimable now row = true ∧
      Rows.get (own ++ rows) (Key.commercialAction call.actionId) =
        some (CommercialActions.claimed call.workerId (leaseUntil now) row) := by
  cases h with
  | claims now row reserved hreserved hrow hclaimable =>
      use now, row, rfl, hrow, hclaimable
      rw [List.cons_append, Rows.get_cons_self]

/-- A row that can be claimed is not held beyond the moment of the claim. -/
theorem Carries.le_of_claimable {reserved : List (Reservation ι)} {row : CommercialAction}
    {now : Instant} (h : Carries rows actionId reserved)
    (hrow : rows.get (Key.commercialAction actionId) = some row)
    (hclaimable : CommercialActions.claimable now row = true) :
    ∀ last ∈ reserved.getLast?, last.leaseUntil ≤ now := by
  intro last hlast
  rcases h last hlast with ⟨held, hheld, hready, hlease⟩
  obtain rfl := Option.some.inj (hrow.symm.trans hheld)
  rcases status_of_claimable hclaimable with hstatus | hstatus
  · exact absurd hstatus hready
  · simpa [CommercialActions.claimable, hstatus, (hlease hstatus).2] using hclaimable

theorem Carries.of_get_eq {rows' : Rows Row} {reserved : List (Reservation ι)}
    (h : Carries rows actionId reserved)
    (hsame : rows'.get (Key.commercialAction actionId) =
      rows.get (Key.commercialAction actionId)) : Carries rows' actionId reserved := by
  intro last hlast
  rw [hsame]
  exact h last hlast

variable [DecidableEq ι] {client : ι} {after : Session}

/-- What becomes of the sending clients when one client moves. -/
theorem Leased.sending_update {recorded : List (SendEvent ι)} (h : Leased rows session events)
    (hafter : ∀ action, after.stage = .sending action →
      ∃ reserved ∈ (events ++ recorded).filterMap reservation,
        reserved.client = client ∧ reserved.call = after.call) :
    ∀ other action, (Function.update session client after other).stage = .sending action →
      ∃ reserved ∈ (events ++ recorded).filterMap reservation,
        reserved.client = other ∧
          reserved.call = (Function.update session client after other).call := by
  intro other action hstage
  by_cases hother : other = client
  · subst hother
    rw [Function.update_self] at hstage ⊢
    exact hafter action hstage
  · rw [Function.update_of_ne hother] at hstage ⊢
    rcases h.sending other action hstage with ⟨reserved, hmem, hsame⟩
    rw [List.filterMap_append]
    exact ⟨reserved, List.mem_append_left _ hmem, hsame⟩

theorem Leased.claim (h : Leased rows session events)
    (hcall : after.call = (session client).call) {action : CommercialAction}
    (hafter : after.stage = .sending action)
    (heffect : Effect sha256 uuid5 (session client).call rows (session client).stage
      (.sending action) own) :
    Leased (own ++ rows) (Function.update session client after)
      (events ++ [.committed client (session client) after own]) := by
  rcases heffect.sending with ⟨now, row, hbefore, hrow, hclaimable, hrow'⟩
  have hnew : reservation (.committed client (session client) after own) =
      some ⟨client, (session client).call, now⟩ := by
    rw [reservation, hbefore, hafter]
    rfl
  constructor
  · intro actionId
    rw [reservations_concat, hnew, Option.toList_some]
    by_cases hsame : (session client).call.actionId = actionId
    · subst hsame
      rw [List.filter_singleton, beq_self_eq_true, cond_true]
      exact (h.apart _).concat Reservation.claimedAt_le
        ((h.carried _).le_of_claimable hrow hclaimable)
    · rw [List.filter_singleton, beq_false_of_ne hsame, cond_false, List.append_nil]
      exact h.apart actionId
  · intro actionId
    rw [reservations_concat, hnew, Option.toList_some]
    by_cases hsame : (session client).call.actionId = actionId
    · subst hsame
      rw [List.filter_singleton, beq_self_eq_true, cond_true]
      intro last hlast
      obtain rfl : ⟨client, (session client).call, now⟩ = last := by simpa using hlast
      have hready : CommercialActionStatus.sending ≠ .ready := by decide
      exact ⟨_, hrow', hready, fun _ => ⟨rfl, rfl⟩⟩
    · rw [List.filter_singleton, beq_false_of_ne hsame, cond_false, List.append_nil]
      exact (h.carried actionId).of_get_eq (heffect.action_other hsame)
  · apply h.sending_update
    intro _ _
    use ⟨client, (session client).call, now⟩
    constructor
    · rw [List.filterMap_append, List.filterMap_cons_some hnew]
      exact List.mem_append_right _ List.mem_cons_self
    · exact ⟨rfl, hcall.symm⟩
  · exact h.preceded.concat trivial

theorem Leased.pass (h : Leased rows session events)
    (hafter : ∀ action, after.stage ≠ .sending action)
    (heffect : Effect sha256 uuid5 (session client).call rows (session client).stage
      after.stage own) :
    Leased (own ++ rows) (Function.update session client after)
      (events ++ [.committed client (session client) after own]) := by
  constructor
  · intro actionId
    rw [reservations_of_none (reservation_eq_none hafter)]
    exact h.apart actionId
  · intro actionId
    rw [reservations_of_none (reservation_eq_none hafter)]
    by_cases hsame : (session client).call.actionId = actionId
    · subst hsame
      exact (h.carried _).of_released heffect.moves hafter
    · exact (h.carried actionId).of_get_eq (heffect.action_other hsame)
  · exact h.sending_update fun action hstage => absurd hstage (hafter action)
  · exact h.preceded.concat trivial

theorem Leased.commit (h : Leased rows session events)
    (hcall : after.call = (session client).call)
    (heffect : Effect sha256 uuid5 (session client).call rows (session client).stage
      after.stage own) :
    Leased (own ++ rows) (Function.update session client after)
      (events ++ [.committed client (session client) after own]) := by
  by_cases hsending : ∃ action, after.stage = .sending action
  · rcases hsending with ⟨action, hafter⟩
    rw [hafter] at heffect
    exact h.claim hcall hafter heffect
  · exact h.pass (fun action hstage => hsending ⟨action, hstage⟩) heffect

/-- A move outside the database, after which nobody sends that did not before. -/
theorem Leased.outside {event : SendEvent ι} (h : Leased rows session events)
    (hafter : ∀ action, after.stage ≠ .sending action) (hnone : reservation event = none)
    (hneeds : Reserved events event) :
    Leased rows (Function.update session client after) (events ++ [event]) := by
  constructor
  · intro actionId
    rw [reservations_of_none hnone]
    exact h.apart actionId
  · intro actionId
    rw [reservations_of_none hnone]
    exact h.carried actionId
  · exact h.sending_update fun action hstage => absurd hstage (hafter action)
  · exact h.preceded.concat hneeds

end Steps

section Runs

variable (sha256 uuid5 : String → String) (authorizer : RBACAuthorizer) [DecidableEq ι]
  {world : World Instant Row} {session : ι → Session} {events : List (SendEvent ι)}
  {last : SendSys ι}

theorem Leased.rollback {rows : Rows Row} {client : ι} {error : Failure}
    (h : Leased rows session events) :
    Leased rows
      (Function.update session client
        ((flow sha256 uuid5 authorizer).recover (session client) error))
      (events ++ [.rolledBack client (session client) error]) :=
  h.outside (fun _ hstage => by cases hstage) rfl trivial

theorem Leased.act {rows : Rows Row} {client : ι} {action : Action} {after : Session}
    {now now' : Instant} (h : Leased rows session events)
    (houtside : (flow sha256 uuid5 authorizer).outside (session client) now action after now') :
    Leased rows (Function.update session client after)
      (events ++ [.acted client (session client) action after]) := by
  rcases houtside with ⟨_, _, hacts⟩
  have hmine : ∀ sent, (session client).stage = .sending sent →
      ∃ reserved ∈ events.filterMap reservation,
        reserved.client = client ∧ reserved.call = (session client).call :=
    fun sent hstage => h.sending client sent hstage
  generalize hbefore : (session client).stage = before at hacts hmine
  generalize hafter : after.stage = stage at hacts
  cases hacts with
  | starts hallowed => exact h.outside (fun _ h => by rw [hafter] at h; cases h) rfl trivial
  | forbidden error hforbidden =>
      exact h.outside (fun _ h => by rw [hafter] at h; cases h) rfl trivial
  | answers sent result hgateway =>
      exact h.outside (fun _ h => by rw [hafter] at h; cases h) rfl (hmine sent rfl)
  | ambiguous sent message hgateway =>
      exact h.outside (fun _ h => by rw [hafter] at h; cases h) rfl (hmine sent rfl)
  | fails sent error hgateway hknown =>
      exact h.outside (fun _ h => by rw [hafter] at h; cases h) rfl (hmine sent rfl)

omit [DecidableEq ι] in
theorem leased_start (hcalled : ∀ client, (session client).stage = .called)
    (rows : Rows Row) : Leased rows session [] := by
  constructor
  · exact fun _ => List.Pairwise.nil
  · exact fun _ _ hlast => by cases hlast
  · intro client action hstage
    rw [hcalled] at hstage
    cases hstage
  · exact preceded_nil

theorem leased_of_run (hcalled : ∀ client, (session client).stage = .called)
    (hrun : Run (flow sha256 uuid5 authorizer) (Sys.start world session) events last) :
    Leased last.world.rows last.states events := by
  apply (sends sha256 uuid5 authorizer).run_induction
    (fun world session events => Leased world.rows session events) _ _ _ _ _ _ hrun
  · exact Certificate.Good.start world session fun _ => trivial
  · exact leased_start hcalled world.rows
  · intro world session events client after own _ hdoes hleased
    exact hleased.commit hdoes.1 hdoes.2
  · intro world session events client error _ hleased
    exact hleased.rollback sha256 uuid5 authorizer
  · intro world session events client action after env _ houtside hleased
    exact hleased.act sha256 uuid5 authorizer houtside
  · exact fun _ hleased => hleased

/-- Whatever sends are called, however they interleave, fail and crash: the leases on an
action follow each other, its row carries the last of them while it is being sent, and
whoever hands the action to the gateway has reserved it before. -/
theorem leases_apart (hcalled : ∀ client, (session client).stage = .called)
    (hrun : Run (flow sha256 uuid5 authorizer) (Sys.start world session) events last) :
    (∀ actionId, Successive Reservation.claimedAt Reservation.leaseUntil
      (reservations actionId events)) ∧
    (∀ actionId, Carries last.world.rows actionId (reservations actionId events)) ∧
    Preceded Reserved events := by
  have hleased := leased_of_run sha256 uuid5 authorizer hcalled hrun
  exact ⟨hleased.apart, hleased.carried, hleased.preceded⟩

end Runs

section OneBody

variable (sha256 uuid5 : String → String) (authorizer : RBACAuthorizer)
  (calls : ι → CommercialSend)

/-- An action that is being sent is only reserved again by a call with the body of the
call that its row names. -/
def TakenOver (world : World Instant Row) (before after : Session) : Prop :=
  reservedAt before.stage after.stage ≠ none → ∀ row : CommercialAction,
    world.rows.get (Key.commercialAction before.call.actionId) = some row →
      row.status = .sending → ∀ holder, row.sendWorkerId = some (calls holder).workerId →
        (calls holder).body = before.call.body

/-- All reservations of an action are for one body. -/
structure OneBody (rows : Rows Row) (session : ι → Session) (events : List (SendEvent ι)) :
    Prop where
  leased : Leased rows session events
  same : ∀ client, (session client).call = calls client
  made : ∀ reserved ∈ events.filterMap reservation, reserved.call = calls reserved.client
  body : ∀ first ∈ events.filterMap reservation, ∀ second ∈ events.filterMap reservation,
    first.call.actionId = second.call.actionId → first.call.body = second.call.body

variable {calls} {world : World Instant Row} {session : ι → Session}
  {events : List (SendEvent ι)}

theorem effectIdempotencyKey_injective : Function.Injective effectIdempotencyKey := by
  intro left right h
  exact (String.append_right_inj _).mp h

/-- A new reservation is for the body of the earlier ones. -/
theorem OneBody.of_claim (h : OneBody calls world.rows session events) {client : ι}
    {after : Session} {own : Rows Row}
    (hallowed : TakenOver calls world (session client) after)
    {action : CommercialAction} (hafter : after.stage = .sending action)
    (heffect : Effect sha256 uuid5 (session client).call world.rows (session client).stage
      (.sending action) own) {reserved : Reservation ι}
    (hmem : reserved ∈ events.filterMap reservation)
    (hsame : reserved.call.actionId = (session client).call.actionId) :
    reserved.call.body = (session client).call.body := by
  rcases heffect.sending with ⟨now, row, hbefore, hrow, hclaimable, _⟩
  have hmine : reserved ∈ reservations (session client).call.actionId events :=
    mem_reservations.mpr ⟨hmem, hsame⟩
  cases hlast : (reservations (session client).call.actionId events).getLast? with
  | none => simp [List.getLast?_eq_none_iff.mp hlast] at hmine
  | some last =>
      rcases mem_reservations.mp (List.mem_of_getLast? hlast) with ⟨hlastmem, hlastsame⟩
      rcases h.leased.carried _ last hlast with ⟨held, hheld, hready, hlease⟩
      obtain rfl := Option.some.inj (hrow.symm.trans hheld)
      have hsending : row.status = .sending :=
        (status_of_claimable hclaimable).resolve_left hready
      have hbody : last.call.body = (session client).call.body := by
        rw [h.made last hlastmem]
        apply hallowed _ row hrow hsending
        · rw [← h.made last hlastmem]
          exact (hlease hsending).1
        · rw [hbefore, hafter]
          exact Option.some_ne_none now
      rw [← hbody]
      exact h.body reserved hmem last hlastmem (hsame.trans hlastsame.symm)

theorem OneBody.concat {rows : Rows Row} {session' : ι → Session} {event : SendEvent ι}
    (h : OneBody calls world.rows session events)
    (hleased : Leased rows session' (events ++ [event]))
    (hsame : ∀ client, (session' client).call = calls client)
    (hnew : ∀ reserved, reservation event = some reserved →
      reserved.call = calls reserved.client ∧ ∀ earlier ∈ events.filterMap reservation,
        earlier.call.actionId = reserved.call.actionId → earlier.call.body = reserved.call.body) :
    OneBody calls rows session' (events ++ [event]) := by
  have hmem : ∀ {reserved}, reserved ∈ (events ++ [event]).filterMap reservation →
      reserved ∈ events.filterMap reservation ∨ reservation event = some reserved := by
    intro reserved hreserved
    rw [List.filterMap_append, List.mem_append] at hreserved
    rcases hreserved with hold | hreserved
    · exact Or.inl hold
    · right
      simpa using hreserved
  constructor
  · exact hleased
  · exact hsame
  · intro reserved hreserved
    rcases hmem hreserved with hold | hreserved
    · exact h.made reserved hold
    · exact (hnew reserved hreserved).1
  · intro first hfirst second hsecond hid
    rcases hmem hfirst with hfirst | hfirst
    · rcases hmem hsecond with hsecond | hsecond
      · exact h.body first hfirst second hsecond hid
      · exact (hnew second hsecond).2 first hfirst hid
    · rcases hmem hsecond with hsecond | hsecond
      · exact ((hnew first hfirst).2 second hsecond hid.symm).symm
      · rw [Option.some.inj (hfirst.symm.trans hsecond)]

variable [DecidableEq ι]

theorem OneBody.same_update (h : OneBody calls world.rows session events) {client : ι}
    {after : Session} (hcall : after.call = (session client).call) :
    ∀ other, (Function.update session client after other).call = calls other := by
  intro other
  by_cases hother : other = client
  · subst hother
    rw [Function.update_self, hcall, h.same]
  · rw [Function.update_of_ne hother, h.same]

theorem OneBody.commit (h : OneBody calls world.rows session events) {client : ι}
    {after : Session} {own : Rows Row}
    (hallowed : TakenOver calls world (session client) after)
    (hcall : after.call = (session client).call)
    (heffect : Effect sha256 uuid5 (session client).call world.rows (session client).stage
      after.stage own) :
    OneBody calls (own ++ world.rows) (Function.update session client after)
      (events ++ [.committed client (session client) after own]) := by
  apply h.concat (h.leased.commit hcall heffect) (h.same_update hcall)
  intro reserved hreserved
  by_cases hsending : ∃ action, after.stage = .sending action
  · rcases hsending with ⟨action, hafter⟩
    rcases Option.map_eq_some_iff.mp hreserved with ⟨now, _, rfl⟩
    rw [hafter] at heffect
    constructor
    · exact h.same client
    · intro earlier hearlier hid
      exact h.of_claim sha256 uuid5 hallowed hafter heffect hearlier hid
  · rw [reservation_eq_none fun action hstage => hsending ⟨action, hstage⟩] at hreserved
    cases hreserved

/-- Sends under one effect key carry one body, as long as an action whose lease has
expired is only taken over with the body it was reserved for. -/
theorem one_body {last : SendSys ι}
    (hrun : GuardedRun (flow sha256 uuid5 authorizer) (TakenOver calls)
      (Sys.start world fun client => ⟨calls client, .called⟩) events last)
    {client client' : ι} {before before' after after' : Session}
    {outcome outcome' : Except Failure CommunicationSendResult}
    (hsend : .acted client before (.sends outcome) after ∈ events)
    (hsend' : .acted client' before' (.sends outcome') after' ∈ events)
    (hkey : effectIdempotencyKey before.call.actionId =
      effectIdempotencyKey before'.call.actionId) :
    before.call.body = before'.call.body := by
  have hone : OneBody calls last.world.rows last.states events := by
    apply (sends sha256 uuid5 authorizer).guarded_induction
      (fun world session events => OneBody calls world.rows session events) _ _ _ _ _ _ hrun
    · exact Certificate.Good.start world _ fun _ => trivial
    · constructor
      · exact leased_start (fun _ => rfl) world.rows
      · exact fun _ => rfl
      · exact fun _ hmem => by cases hmem
      · exact fun _ hmem => by cases hmem
    · intro world session events client after own hallowed hdoes hone
      exact hone.commit sha256 uuid5 hallowed hdoes.1 hdoes.2
    · intro world session events client error hone
      exact hone.concat (hone.leased.rollback sha256 uuid5 authorizer) (hone.same_update rfl)
        fun _ hnone => by cases hnone
    · intro world session events client action after env houtside hone
      exact hone.concat (hone.leased.act sha256 uuid5 authorizer houtside)
        (hone.same_update houtside.2.1) fun _ hnone => by cases hnone
    · exact fun _ hone => hone
  have hreserved : ∀ {client before after outcome},
      Event.acted client before (.sends outcome) after ∈ events →
      ∃ reserved ∈ events.filterMap reservation, reserved.call = before.call := by
    intro client before after outcome hmem
    rcases List.append_of_mem hmem with ⟨earlier, later, rfl⟩
    rcases hone.leased.preceded earlier _ later rfl with ⟨reserved, hmem, _, hcall⟩
    rw [List.filterMap_append]
    exact ⟨reserved, List.mem_append_left _ hmem, hcall⟩
  rcases hreserved hsend with ⟨reserved, hmem, hcall⟩
  rcases hreserved hsend' with ⟨reserved', hmem', hcall'⟩
  rw [← hcall, ← hcall']
  apply hone.body reserved hmem reserved' hmem'
  rw [hcall, hcall']
  exact effectIdempotencyKey_injective hkey

end OneBody

section Sample

/-- A call and its retry. -/
def sampleCall (second : Bool) : CommercialSend where
  actor := ⟨"operator-1", 3⟩
  actionId := "action-1"
  body := "Hello"
  idempotencyKey := "key-1"
  workerUuid := if second then "uuid-2" else "uuid-1"
  quarantineId := if second then "quarantine-2" else "quarantine-1"

def sampleAction : CommercialAction where
  actionId := "action-1"
  identityId := "identity-1"
  contactRef := "contact-1"
  channel := "max"
  evidenceRefs := ["evidence-1"]
  ownerActorId := some "operator-1"
  status := .ready
  sendAttempt := 0
  sendWorkerId := none
  sendLeaseUntil := none

def sampleRows : Rows Row := [⟨Key.commercialAction "action-1", some sampleAction⟩]

/-- The action as the first call has reserved it, and as the second has. -/
def sampleClaimed (second : Bool) : CommercialAction :=
  let first := CommercialActions.claimed (sampleCall false).workerId (leaseUntil 10) sampleAction
  if second then
    CommercialActions.claimed (sampleCall true).workerId (leaseUntil (leaseUntil 10)) first
  else first

/-- What the reservation of a call writes. -/
def sampleReserved (second : Bool) : Rows Row :=
  ⟨Key.commercialAction "action-1", some (sampleClaimed second)⟩ :: if second then [] else
    [⟨Key.idempotencyKey "key-1",
      some ⟨"key-1", (sampleCall false).requestHash id, pendingRef "action-1"⟩⟩]

def sampleResult : CommunicationSendResult :=
  ⟨"action-1", "max", "max:commercial-send:action-1", true⟩

def sampleAuthorizer : RBACAuthorizer := ⟨[("operator-1", [.commercialActionSend])]⟩

def sampleAdapter : CommunicationAdapter := ⟨"max", fun _ => .ok sampleResult⟩

theorem sampleClaims (second : Bool) :
    (claim id (sampleCall second) (if second then leaseUntil 10 else 10)).execute
      (if second then leaseUntil 10 else 10)
      (if second then sampleReserved false ++ sampleRows else sampleRows) [] =
      .ok (.sending (sampleClaimed second), sampleReserved second) := by
  cases second with
  | false => rfl
  | true => rfl

theorem sampleSends (second : Bool) : Gateway (sampleCall second) (sampleClaimed second)
    (.ok sampleResult) := by
  use sampleAdapter
  cases second with
  | false => rfl
  | true => rfl

/-- What a call does until the gateway has answered it. -/
def sampleEvents (second : Bool) (now : Instant) : List (SendEvent Bool) :=
  [.acted second ⟨sampleCall second, .called⟩ .starts ⟨sampleCall second, .started now⟩,
    .committed second ⟨sampleCall second, .started now⟩
      ⟨sampleCall second, .sending (sampleClaimed second)⟩ (sampleReserved second),
    .acted second ⟨sampleCall second, .sending (sampleClaimed second)⟩
      (.sends (.ok sampleResult)) ⟨sampleCall second, .answered sampleResult⟩]

theorem run_sample {second : Bool} {session : Bool → Session} {now : Instant} {rows : Rows Row}
    (hsession : session second = ⟨sampleCall second, .called⟩)
    (hclaim : (claim id (sampleCall second) now).execute now rows [] =
      .ok (.sending (sampleClaimed second), sampleReserved second)) :
    Run (flow id id sampleAuthorizer) (Sys.start ⟨now, rows⟩ session)
      (sampleEvents second now)
      (Sys.start ⟨now, sampleReserved second ++ rows⟩
        (Function.update session second ⟨sampleCall second, .answered sampleResult⟩)) := by
  have hstart : Run (flow id id sampleAuthorizer) (Sys.start ⟨now, rows⟩ session)
      [.acted second (session second) .starts ⟨sampleCall second, .started now⟩] _ :=
    run_act_start second (by rw [hsession]; exact ⟨rfl, rfl, .starts rfl⟩)
  have hcode : (flow id id sampleAuthorizer).code ⟨sampleCall second, .started now⟩ =
      some (claim id (sampleCall second) now >>= fun stage =>
        Pure.pure ⟨sampleCall second, stage⟩) := rfl
  have hclaimed : Run (flow id id sampleAuthorizer)
      (Sys.start ⟨now, rows⟩
        (Function.update session second ⟨sampleCall second, .started now⟩))
      [.committed second
        (Function.update session second ⟨sampleCall second, .started now⟩ second)
        ⟨sampleCall second, .sending (sampleClaimed second)⟩ (sampleReserved second)] _ :=
    run_transaction_start second (by rw [Function.update_self, hcode])
      (by rw [Prog.execute_bind, hclaim]; rfl)
  have hsent : Run (flow id id sampleAuthorizer)
      (Sys.start ⟨now, sampleReserved second ++ rows⟩
        (Function.update session second ⟨sampleCall second, .sending (sampleClaimed second)⟩))
      [.acted second (Function.update session second
          ⟨sampleCall second, .sending (sampleClaimed second)⟩ second)
        (.sends (.ok sampleResult)) ⟨sampleCall second, .answered sampleResult⟩] _ :=
    run_act_start second
      (by rw [Function.update_self]; exact ⟨rfl, rfl, .answers _ _ (sampleSends second)⟩)
  rw [hsession] at hstart
  rw [Function.update_idem, Function.update_self] at hclaimed hsent
  exact (hstart.trans hclaimed).trans hsent

def sampleSessions (second : Bool) : Session := ⟨sampleCall second, .called⟩

def sampleAnswered (second : Bool) : Session := ⟨sampleCall second, .answered sampleResult⟩

/-- The first call stops once the gateway has answered, and the second takes the action
over when the lease has expired. -/
theorem run_takeover :
    Run (flow id id sampleAuthorizer) (Sys.start ⟨10, sampleRows⟩ sampleSessions)
      (sampleEvents false 10 ++ sampleEvents true (leaseUntil 10))
      (Sys.start ⟨leaseUntil 10, sampleReserved true ++ (sampleReserved false ++ sampleRows)⟩
        sampleAnswered) := by
  have hfirst := @run_sample false sampleSessions 10 sampleRows rfl (sampleClaims false)
  have hlater : (10 : Instant) ≤ leaseUntil 10 := by decide
  have hdrift := hfirst.step (.drift _ (leaseUntil 10) hlater)
  rw [List.append_nil] at hdrift
  have hsecond := @run_sample true (Function.update sampleSessions false
    ⟨sampleCall false, .answered sampleResult⟩) (leaseUntil 10)
    (sampleReserved false ++ sampleRows) rfl (sampleClaims true)
  have hstates : Function.update
      (Function.update sampleSessions false ⟨sampleCall false, .answered sampleResult⟩) true
      ⟨sampleCall true, .answered sampleResult⟩ = sampleAnswered := by
    funext second
    cases second with
    | false => rfl
    | true => rfl
  rw [hstates] at hsecond
  exact hdrift.trans hsecond

theorem leases_apart_sample : Successive Reservation.claimedAt Reservation.leaseUntil
      [⟨false, sampleCall false, 10⟩, ⟨true, sampleCall true, leaseUntil 10⟩] ∧
    ∃ last : SendSys Bool, Carries last.world.rows "action-1"
      [⟨false, sampleCall false, 10⟩, ⟨true, sampleCall true, leaseUntil 10⟩] := by
  have h := leases_apart id id sampleAuthorizer (fun _ => rfl) run_takeover
  exact ⟨h.1 "action-1", _, h.2.1 "action-1"⟩

theorem takenOver_sample : GuardedRun (flow id id sampleAuthorizer) (TakenOver sampleCall)
    (Sys.start ⟨10, sampleRows⟩ sampleSessions)
    (sampleEvents false 10 ++ sampleEvents true (leaseUntil 10))
    (Sys.start ⟨leaseUntil 10, sampleReserved true ++ (sampleReserved false ++ sampleRows)⟩
      sampleAnswered) := by
  apply run_takeover.guarded
  intro client before after own world hmem _ row _ _ holder _
  simp only [sampleEvents, List.cons_append, List.nil_append, List.mem_cons, reduceCtorEq,
    Event.committed.injEq, List.not_mem_nil, or_false, false_or] at hmem
  rcases hmem with ⟨_, rfl, _⟩ | ⟨_, rfl, _⟩
  · rfl
  · rfl

theorem sampleSent_mem (second : Bool) :
    Event.acted second ⟨sampleCall second, .sending (sampleClaimed second)⟩
      (.sends (.ok sampleResult)) ⟨sampleCall second, .answered sampleResult⟩ ∈
        sampleEvents false 10 ++ sampleEvents true (leaseUntil 10) := by
  cases second with
  | false => simp [sampleEvents]
  | true => simp [sampleEvents]

theorem one_body_sample : ∃ outcome after outcome' after',
    Event.acted false ⟨sampleCall false, .sending (sampleClaimed false)⟩ (.sends outcome)
      after ∈ sampleEvents false 10 ++ sampleEvents true (leaseUntil 10) ∧
    Event.acted true ⟨sampleCall true, .sending (sampleClaimed true)⟩ (.sends outcome')
      after' ∈ sampleEvents false 10 ++ sampleEvents true (leaseUntil 10) ∧
    (sampleCall false).body = (sampleCall true).body :=
  ⟨_, _, _, _, sampleSent_mem false, sampleSent_mem true,
    one_body id id sampleAuthorizer takenOver_sample (sampleSent_mem false)
      (sampleSent_mem true) rfl⟩

end Sample

end CommercialSend

end ShemaPlatform
