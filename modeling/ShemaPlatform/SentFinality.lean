/-
What was recorded as sent, or as a send of unknown outcome, and what a save may
make of it.  Values are read from the repository, taken through transitions of
their class and saved, between the calls of the send workflow.
-/
import ShemaPlatform.CommercialSends
import ShemaPlatform.StateRun

namespace ShemaPlatform

open Calendar ReadCommitted ReadCommitted.Prog StateRun

namespace CommercialActions

/-- A transition of the class, or a call of the repository. -/
inductive Step where
  | add (action : CommercialAction)
  | get (actionId : String)
  | markReady (action : CommercialAction)
  | markSending (action : CommercialAction) (workerId : String) (leaseUntil : Instant)
      (attempt : Int)
  | markSent (action : CommercialAction)
  | claimForSend (actionId workerId : String) (leaseUntil now : Instant)
  | failExternalEffect (actionId workerId : String) (now : Instant)
  | completeSend (actionId workerId : String) (now : Instant)
  | save (action : CommercialAction)

/-- The table, the values its callers hold, and what has happened: the actions
recorded as sent, those recorded as of unknown outcome, and those claimed for a
send although they had been recorded as one of the two. -/
structure Desk where
  rows : Rows Row
  held : List CommercialAction
  sent : List String
  unknown : List String
  claimedLate : List String

namespace Desk

def empty : Desk := ⟨[], [], [], [], []⟩

/-- What a call leaves; one that raises leaves everything as it is. -/
def settle {α : Type} (desk : Desk) (outcome : Except Failure α) (next : α → Desk) : Desk :=
  match outcome with
  | .ok result => next result
  | .error _ => desk

def hold (desk : Desk) (action : CommercialAction) : Desk :=
  { desk with held := action :: desk.held }

def after (desk : Desk) : Step → Desk
  | .add action =>
      desk.settle ((addWritable action).atomically () desk.rows) fun outcome =>
        { desk with rows := outcome.2 }
  | .get actionId =>
      (desk.rows.get (Key.commercialAction actionId)).elim desk desk.hold
  | .markReady action => desk.settle action.markReady desk.hold
  | .markSending action workerId leaseUntil attempt =>
      desk.settle (action.markSending workerId leaseUntil attempt) desk.hold
  | .markSent action => desk.settle action.markSent desk.hold
  | .claimForSend actionId workerId leaseUntil now =>
      desk.settle ((CommercialActions.claimForSend actionId workerId leaseUntil
          now).atomically () desk.rows) fun outcome =>
        { desk with
          rows := outcome.2
          held := outcome.1 :: desk.held
          claimedLate :=
            if actionId ∈ desk.sent ++ desk.unknown then actionId :: desk.claimedLate
            else desk.claimedLate }
  | .failExternalEffect actionId workerId now =>
      desk.settle ((CommercialActions.failExternalEffect actionId workerId
          now).atomically () desk.rows) fun outcome =>
        outcome.1.elim desk fun action =>
          { desk with
            rows := outcome.2
            held := action :: desk.held
            unknown := actionId :: desk.unknown }
  | .completeSend actionId workerId now =>
      desk.settle ((CommercialActions.completeSend actionId workerId
          now).atomically () desk.rows) fun outcome =>
        { desk with
          rows := outcome.2
          held := outcome.1 :: desk.held
          sent := actionId :: desk.sent }
  | .save action =>
      desk.settle ((CommercialActions.save action).atomically () desk.rows) fun outcome =>
        { desk with rows := outcome.2 }

/-- Drafts and ready actions are added, and the other values come from the
repository. -/
def Admits (desk : Desk) : Step → Prop
  | .add action => action.status = .draft ∨ action.status = .ready
  | .markReady action => action ∈ desk.held
  | .markSending action _ _ _ => action ∈ desk.held
  | .markSent action => action ∈ desk.held
  | .save action => action ∈ desk.held
  | _ => True

def stored (desk : Desk) (actionId : String) : Option CommercialAction :=
  desk.rows.get (Key.commercialAction actionId)

/-- No claim of the action succeeds. -/
def Closed (desk : Desk) (actionId : String) : Prop :=
  ∀ workerId leaseUntil now, ¬ ∃ outcome,
    (CommercialActions.claimForSend actionId workerId leaseUntil now).atomically ()
      desk.rows = .ok outcome

/-- Sent is final, an unknown outcome is never claimed again, and nothing has
been claimed after it was recorded as one of them. -/
structure Final (desk : Desk) : Prop where
  sent : ∀ actionId, actionId ∈ desk.sent ↔
    (desk.stored actionId).map CommercialAction.status = some .sent
  unknown : ∀ actionId ∈ desk.unknown, desk.Closed actionId
  claimedLate : desk.claimedLate = []

/-- Values that can be claimed once they are stored. -/
def Reopens (action : CommercialAction) : Prop :=
  (action.status = .ready ∨ action.status = .sending) ∧ action.sendAttempt < integerMax

/-- What the repository saves is not saved over an action stored as sent, nor,
where it could be claimed, over one recorded as of unknown outcome. -/
def Keeps (desk : Desk) : Step → Prop
  | .save action => action.status ≠ .sent → action.sendAttempt ≤ integerMax →
      (desk.stored action.actionId).map CommercialAction.status ≠ some .sent ∧
        (action.actionId ∈ desk.unknown → ¬ Reopens action)
  | _ => True

/-- What no transition and no call changes in an action. -/
def SameSubject (action other : CommercialAction) : Prop :=
  action.identityId = other.identityId ∧ action.contactRef = other.contactRef ∧
    action.channel = other.channel ∧ action.evidenceRefs = other.evidenceRefs ∧
    action.ownerActorId = other.ownerActorId

/-- A reservation stands exactly in an action that is being sent. -/
def Reserved (action : CommercialAction) : Prop :=
  action.sendWorkerId.isSome = (action.status == .sending) ∧
    action.sendLeaseUntil.isSome = (action.status == .sending)

variable {desk : Desk} {action other row : CommercialAction} {actionId : String}

theorem SameSubject.refl (action : CommercialAction) : SameSubject action action :=
  ⟨rfl, rfl, rfl, rfl, rfl⟩

theorem SameSubject.symm (h : SameSubject action other) : SameSubject other action :=
  ⟨h.1.symm, h.2.1.symm, h.2.2.1.symm, h.2.2.2.1.symm, h.2.2.2.2.symm⟩

theorem SameSubject.trans (h : SameSubject action other) (h' : SameSubject other row) :
    SameSubject action row := by
  obtain ⟨hidentity, hcontact, hchannel, hevidence, howner⟩ := h
  rw [SameSubject, hidentity, hcontact, hchannel, hevidence, howner]
  exact h'

theorem SameSubject.validateForSend (h : SameSubject action other) :
    action.validateForSend = other.validateForSend := by
  obtain ⟨hidentity, hcontact, hchannel, hevidence, _⟩ := h
  simp only [CommercialAction.validateForSend, hidentity, hcontact, hchannel, hevidence]

/-- A value comes from what is stored. -/
structure Fits (desk : Desk) (action : CommercialAction) : Prop where
  reserved : Reserved action
  valid : action.status = .sending → action.validateForSend = .ok ()
  stored : ∃ row, desk.stored action.actionId = some row ∧ SameSubject action row

structure Sound (desk : Desk) : Prop where
  keyed : ∀ actionId row, desk.stored actionId = some row → row.actionId = actionId
  writable : ∀ actionId row, desk.stored actionId = some row →
    CommercialActions.writable row = .ok ()
  valid : ∀ actionId row, desk.stored actionId = some row → row.status = .sending →
    row.validateForSend = .ok ()
  held : ∀ action ∈ desk.held, desk.Fits action
  unknown : ∀ actionId ∈ desk.unknown, ∃ row, desk.stored actionId = some row ∧
    row.validateForSend = .ok ()

/-- The row of the action written. -/
def write (desk : Desk) (action : CommercialAction) : Desk :=
  { desk with rows := ⟨.commercialAction action.actionId, some action⟩ :: desk.rows }

@[simp] theorem stored_write_self :
    (desk.write action).stored action.actionId = some action :=
  Rows.get_cons_self _ _ _

theorem stored_write_ne (hne : actionId ≠ action.actionId) :
    (desk.write action).stored actionId = desk.stored actionId := by
  apply Rows.get_cons_ne
  intro hsame
  exact hne (Key.commercialAction.inj hsame).symm

theorem reserved_of_writable (h : CommercialActions.writable action = .ok ()) :
    Reserved action :=
  (writable_eq_ok.mp h).2

/-- An action can be claimed by somebody, at some time, exactly when it is valid
and ready or being sent. -/
theorem closed_iff (hwritable : ∀ row, desk.stored actionId = some row →
    CommercialActions.writable row = .ok ()) :
    desk.Closed actionId ↔ ∀ row, desk.stored actionId = some row →
      row.validateForSend = .ok () → ¬ Reopens row := by
  constructor
  · rintro hclosed row hrow hvalid ⟨hstatus, hattempt⟩
    have hclaim : ∀ {leaseUntil now : Instant}, now < leaseUntil →
        claimable now row = true → False := by
      intro leaseUntil now hlease hclaimable
      have hclaimed : CommercialActions.writable (claimed "worker" leaseUntil row) =
          .ok () := writable_eq_ok.mpr ⟨hattempt, rfl, rfl⟩
      exact hclosed "worker" leaseUntil now ⟨_, claimForSend_eq_ok.mpr
        ⟨by decide, hlease, row, hrow, hvalid, hclaimable, hclaimed, rfl, rfl⟩⟩
    rcases hstatus with hready | hsending
    · exact hclaim (show (0 : Instant) < 1 by decide) (by simp [claimable, hready])
    · obtain ⟨_, _, hlease⟩ := writable_eq_ok.mp (hwritable row hrow)
      rw [hsending] at hlease
      obtain ⟨leaseUntil, hleaseUntil⟩ := Option.isSome_iff_exists.mp hlease
      exact hclaim (Int.lt_succ leaseUntil)
        (by simp [claimable, hsending, hleaseUntil])
  · rintro hnone workerId leaseUntil now ⟨⟨result, rows'⟩, hclaim⟩
    obtain ⟨_, _, row, hrow, hvalid, hclaimable, hclaimed, _⟩ := claimForSend_eq_ok.mp hclaim
    obtain ⟨hattempt, _⟩ := writable_eq_ok.mp hclaimed
    have hstatus := available_of_claimable hclaimable
    simp only [Bool.or_eq_true, beq_iff_eq] at hstatus
    exact hnone row hrow hvalid ⟨hstatus, hattempt⟩

/-- What a step makes of the desk. -/
inductive Move (desk : Desk) : Step → Desk → Prop where
  | stay (step : Step) (h : ∀ action, step = .save action →
      action.status = .sent ∨ integerMax < action.sendAttempt) : Move desk step desk
  | hold (step : Step) (action : CommercialAction) (h : ∀ saved, step ≠ .save saved)
      (hfits : desk.Fits action) : Move desk step (desk.hold action)
  | add (action : CommercialAction) (hwritable : CommercialActions.writable action = .ok ())
      (hnone : desk.stored action.actionId = none)
      (hstatus : action.status = .draft ∨ action.status = .ready) :
      Move desk (.add action) (desk.write action)
  | claimed (row : CommercialAction) (workerId : String) (leaseUntil now : Instant)
      (hrow : desk.stored row.actionId = some row) (hvalid : row.validateForSend = .ok ())
      (hreopens : Reopens row) :
      Move desk (.claimForSend row.actionId workerId leaseUntil now)
        { desk.write (claimed workerId leaseUntil row) with
          held := claimed workerId leaseUntil row :: desk.held
          claimedLate := if row.actionId ∈ desk.sent ++ desk.unknown
            then row.actionId :: desk.claimedLate else desk.claimedLate }
  | failed (row : CommercialAction) (workerId : String) (now : Instant)
      (hrow : desk.stored row.actionId = some row) (hvalid : row.validateForSend = .ok ())
      (hstatus : row.status = .sending) :
      Move desk (.failExternalEffect row.actionId workerId now)
        { desk.write (released .failed row) with
          held := released .failed row :: desk.held
          unknown := row.actionId :: desk.unknown }
  | completed (row : CommercialAction) (workerId : String) (now : Instant)
      (hrow : desk.stored row.actionId = some row) (hstatus : row.status = .sending) :
      Move desk (.completeSend row.actionId workerId now)
        { desk.write (released .sent row) with
          held := released .sent row :: desk.held
          sent := row.actionId :: desk.sent }
  | saved (action : CommercialAction) (hfits : desk.Fits action)
      (hstatus : action.status ≠ .sent) (hattempt : action.sendAttempt ≤ integerMax) :
      Move desk (.save action) (desk.write action)

theorem Sound.fits_of_stored (hsound : Sound desk)
    (hrow : desk.stored actionId = some row) : desk.Fits row := by
  have hid := hsound.keyed actionId row hrow
  subst hid
  exact ⟨reserved_of_writable (hsound.writable _ row hrow), hsound.valid _ row hrow, row,
    hrow, SameSubject.refl row⟩

/-- A transition keeps whose value it is. -/
theorem Fits.transition {result : CommercialAction} (h : desk.Fits action)
    (hid : result.actionId = action.actionId) (hsubject : SameSubject result action)
    (hreserved : Reserved result)
    (hvalid : result.status = .sending → result.validateForSend = .ok ()) :
    desk.Fits result := by
  obtain ⟨row, hrow, hsame⟩ := h.stored
  exact ⟨hreserved, hvalid, row, hid ▸ hrow, hsubject.trans hsame⟩

theorem Fits.markReady {result : CommercialAction} (h : desk.Fits action)
    (hmark : action.markReady = .ok result) : desk.Fits result := by
  simp only [CommercialAction.markReady, bind_eq_ok, pure_eq_ok] at hmark
  obtain ⟨_, _, rfl⟩ := hmark
  exact h.transition rfl (SameSubject.refl action) ⟨rfl, rfl⟩ (fun hsending => by cases hsending)

theorem Fits.markSending {result : CommercialAction} {workerId : String}
    {leaseUntil : Instant} {attempt : Int} (h : desk.Fits action)
    (hmark : action.markSending workerId leaseUntil attempt = .ok result) :
    desk.Fits result := by
  simp only [CommercialAction.markSending, bind_eq_ok, pure_eq_ok] at hmark
  obtain ⟨_, _, _, _, _, _, _, hvalid, rfl⟩ := hmark
  exact h.transition rfl (SameSubject.refl action) ⟨rfl, rfl⟩ (fun _ => hvalid)

theorem Fits.markSent {result : CommercialAction} (h : desk.Fits action)
    (hmark : action.markSent = .ok result) : desk.Fits result := by
  simp only [CommercialAction.markSent, bind_eq_ok, pure_eq_ok] at hmark
  obtain ⟨_, _, rfl⟩ := hmark
  exact h.transition rfl (SameSubject.refl action) ⟨rfl, rfl⟩ (fun hsending => by cases hsending)

/-- A call that raises stays, unless it is a save. -/
theorem Move.settle {α : Type} {step : Step} {outcome : Except Failure α}
    {next : α → Desk} (hsave : ∀ saved, step ≠ .save saved)
    (hnext : ∀ result, outcome = .ok result → Move desk step (next result)) :
    Move desk step (desk.settle outcome next) := by
  cases outcome with
  | ok result => exact hnext result rfl
  | error error => exact .stay step (fun saved h => absurd h (hsave saved))

theorem Sound.move_save (hsound : Sound desk) (hheld : action ∈ desk.held) :
    Move desk (.save action) (desk.after (.save action)) := by
  have hfits := hsound.held action hheld
  obtain ⟨row, hrow, hsame⟩ := hfits.stored
  by_cases hwrites : action.status ≠ .sent ∧ action.sendAttempt ≤ integerMax
  · have houtcome : (CommercialActions.save action : Tx Unit Unit).atomically ()
        desk.rows = .ok ((), (desk.write action).rows) :=
      save_eq_ok.mpr ⟨hwrites.1, writable_eq_ok.mpr ⟨hwrites.2, hfits.reserved⟩,
        ⟨row, hrow, hsame.2.2.2.2.symm⟩, rfl⟩
    rw [after, houtcome]
    exact .saved action hfits hwrites.1 hwrites.2
  · have hafter : desk.after (.save action) = desk := by
      rw [after]
      cases houtcome : (CommercialActions.save action :
          Tx Unit Unit).atomically () desk.rows with
      | error error => rfl
      | ok outcome =>
          obtain ⟨hstatus, hwritable, _⟩ := save_eq_ok.mp houtcome
          exact absurd ⟨hstatus, (writable_eq_ok.mp hwritable).1⟩ hwrites
    rw [hafter]
    apply Move.stay
    intro saved hsaved
    obtain rfl := Step.save.inj hsaved
    by_cases hstatus : action.status = .sent
    · exact Or.inl hstatus
    · right
      by_contra hattempt
      exact hwrites ⟨hstatus, not_lt.mp hattempt⟩

/-- Every step is one of the moves. -/
theorem Sound.move (hsound : Sound desk) {step : Step} (hadmits : desk.Admits step) :
    Move desk step (desk.after step) := by
  cases step with
  | add action =>
      apply Move.settle (by simp)
      rintro ⟨_, rows'⟩ houtcome
      obtain ⟨hwritable, hnone, rfl⟩ := addWritable_eq_ok.mp houtcome
      exact .add action hwritable hnone hadmits
  | get actionId =>
      rw [after]
      cases hrow : desk.rows.get (Key.commercialAction actionId) with
      | none => exact .stay _ (fun _ h => by cases h)
      | some row => exact .hold _ row (by simp) (hsound.fits_of_stored hrow)
  | markReady action =>
      apply Move.settle (by simp)
      intro result hmark
      exact .hold _ result (by simp) ((hsound.held action hadmits).markReady hmark)
  | markSending action workerId leaseUntil attempt =>
      apply Move.settle (by simp)
      intro result hmark
      exact .hold _ result (by simp) ((hsound.held action hadmits).markSending hmark)
  | markSent action =>
      apply Move.settle (by simp)
      intro result hmark
      exact .hold _ result (by simp) ((hsound.held action hadmits).markSent hmark)
  | claimForSend actionId workerId leaseUntil now =>
      apply Move.settle (by simp)
      rintro ⟨result, rows'⟩ houtcome
      obtain ⟨_, _, row, hrow, hvalid, hclaimable, hclaimed, rfl, rfl⟩ :=
        claimForSend_eq_ok.mp houtcome
      obtain rfl := hsound.keyed actionId row hrow
      obtain ⟨hattempt, _⟩ := writable_eq_ok.mp hclaimed
      have hstatus := available_of_claimable hclaimable
      simp only [Bool.or_eq_true, beq_iff_eq] at hstatus
      exact .claimed row workerId leaseUntil now hrow hvalid ⟨hstatus, hattempt⟩
  | failExternalEffect actionId workerId now =>
      apply Move.settle (by simp)
      rintro ⟨failed, rows'⟩ houtcome
      rcases failExternalEffect_eq_ok houtcome with ⟨rfl, rfl⟩ |
        ⟨row, hrow, hreserved, rfl, rfl⟩
      · exact .stay _ (fun _ h => by cases h)
      · obtain rfl := hsound.keyed actionId row hrow
        have hstatus := status_of_reservedBy hreserved
        exact .failed row workerId now hrow (hsound.valid _ row hrow hstatus) hstatus
  | completeSend actionId workerId now =>
      apply Move.settle (by simp)
      rintro ⟨result, rows'⟩ houtcome
      obtain ⟨row, hrow, hreserved, rfl, rfl⟩ := completeSend_eq_ok houtcome
      obtain rfl := hsound.keyed actionId row hrow
      exact .completed row workerId now hrow (status_of_reservedBy hreserved)
  | save action => exact hsound.move_save hadmits

/-- Writing an action that is new or the same in subject keeps the desk sound. -/
theorem Sound.write (hsound : Sound desk)
    (hwritable : CommercialActions.writable action = .ok ())
    (hvalid : action.status = .sending → action.validateForSend = .ok ())
    (hsubject : ∀ row, desk.stored action.actionId = some row → SameSubject action row) :
    Sound (desk.write action) := by
  have hstored : ∀ actionId row, (desk.write action).stored actionId = some row →
      row = action ∧ actionId = action.actionId ∨ desk.stored actionId = some row := by
    intro actionId row hrow
    by_cases hid : actionId = action.actionId
    · subst hid
      rw [stored_write_self] at hrow
      exact Or.inl ⟨(Option.some.inj hrow).symm, rfl⟩
    · rw [stored_write_ne hid] at hrow
      exact Or.inr hrow
  have hkept : ∀ actionId row, desk.stored actionId = some row →
      ∃ row', (desk.write action).stored actionId = some row' ∧ SameSubject row row' := by
    intro actionId row hrow
    by_cases hid : actionId = action.actionId
    · subst hid
      exact ⟨action, stored_write_self, (hsubject row hrow).symm⟩
    · exact ⟨row, (stored_write_ne hid).trans hrow, SameSubject.refl row⟩
  constructor
  · intro actionId row hrow
    rcases hstored actionId row hrow with ⟨rfl, rfl⟩ | hrow
    · rfl
    · exact hsound.keyed actionId row hrow
  · intro actionId row hrow
    rcases hstored actionId row hrow with ⟨rfl, rfl⟩ | hrow
    · exact hwritable
    · exact hsound.writable actionId row hrow
  · intro actionId row hrow
    rcases hstored actionId row hrow with ⟨rfl, rfl⟩ | hrow
    · exact hvalid
    · exact hsound.valid actionId row hrow
  · intro held hheld
    obtain ⟨hreserved, hsending, row, hrow, hsame⟩ := hsound.held held hheld
    obtain ⟨row', hrow', hsame'⟩ := hkept _ row hrow
    exact ⟨hreserved, hsending, row', hrow', hsame.trans hsame'⟩
  · intro actionId hunknown
    obtain ⟨row, hrow, hvalidRow⟩ := hsound.unknown actionId hunknown
    obtain ⟨row', hrow', hsame⟩ := hkept actionId row hrow
    exact ⟨row', hrow', hsame.validateForSend ▸ hvalidRow⟩

/-- So does holding a value of what is stored, whatever has been recorded. -/
theorem Sound.hold (hsound : Sound desk) (hfits : desk.Fits action)
    {sent unknown claimedLate : List String}
    (hunknown : ∀ actionId ∈ unknown, actionId ∈ desk.unknown ∨
      ∃ row, desk.stored actionId = some row ∧ row.validateForSend = .ok ()) :
    Sound ⟨desk.rows, action :: desk.held, sent, unknown, claimedLate⟩ := by
  constructor
  · exact hsound.keyed
  · exact hsound.writable
  · exact hsound.valid
  · intro held hheld
    rcases List.mem_cons.mp hheld with rfl | hheld
    · exact ⟨hfits.reserved, hfits.valid, hfits.stored⟩
    · have hkept := hsound.held held hheld
      exact ⟨hkept.reserved, hkept.valid, hkept.stored⟩
  · intro actionId hmem
    rcases hunknown actionId hmem with hmem | hrow
    · exact hsound.unknown actionId hmem
    · exact hrow

variable (action) in
/-- A row of the table rewritten by the repository itself. -/
theorem Sound.rewrite (hsound : Sound desk) (hrow : desk.stored row.actionId = some row)
    (hid : action.actionId = row.actionId) (hsubject : SameSubject action row)
    (hwritable : CommercialActions.writable action = .ok ())
    (hvalid : action.status = .sending → action.validateForSend = .ok ()) :
    Sound (desk.write action) ∧ (desk.write action).Fits action := by
  have hwritten := hsound.write hwritable hvalid fun other hother => by
    rw [hid, hrow] at hother
    exact Option.some.inj hother ▸ hsubject
  exact ⟨hwritten, hwritten.fits_of_stored stored_write_self⟩

theorem Sound.after_move (hsound : Sound desk) {step : Step} {desk' : Desk}
    (hmove : Move desk step desk') : Sound desk' := by
  cases hmove with
  | stay step h => exact hsound
  | hold step action h hfits => exact hsound.hold hfits (fun _ h => Or.inl h)
  | add action hwritable hnone hstatus =>
      apply hsound.write hwritable
      · intro hsending
        rw [hsending] at hstatus
        simp at hstatus
      · intro row hrow
        rw [hnone] at hrow
        cases hrow
  | claimed row workerId leaseUntil now hrow hvalid hreopens =>
      have hwritable : CommercialActions.writable (claimed workerId leaseUntil row) =
          .ok () := writable_eq_ok.mpr ⟨hreopens.2, rfl, rfl⟩
      obtain ⟨hwritten, hfits⟩ := hsound.rewrite (claimed workerId leaseUntil row) hrow rfl
        (SameSubject.refl row) hwritable fun _ => hvalid
      exact hwritten.hold hfits fun _ h => Or.inl h
  | failed row workerId now hrow hvalid hstatus =>
      have hwritable : CommercialActions.writable (released .failed row) = .ok () :=
        writable_eq_ok.mpr ⟨(writable_eq_ok.mp (hsound.writable _ row hrow)).1, rfl, rfl⟩
      obtain ⟨hwritten, hfits⟩ := hsound.rewrite (released .failed row) hrow rfl
        (SameSubject.refl row) hwritable (fun hsending => by cases hsending)
      apply hwritten.hold hfits
      intro actionId hmem
      rcases List.mem_cons.mp hmem with rfl | hmem
      · exact Or.inr ⟨released .failed row, stored_write_self, hvalid⟩
      · exact Or.inl hmem
  | completed row workerId now hrow hstatus =>
      have hwritable : CommercialActions.writable (released .sent row) = .ok () :=
        writable_eq_ok.mpr ⟨(writable_eq_ok.mp (hsound.writable _ row hrow)).1, rfl, rfl⟩
      obtain ⟨hwritten, hfits⟩ := hsound.rewrite (released .sent row) hrow rfl
        (SameSubject.refl row) hwritable (fun hsending => by cases hsending)
      exact hwritten.hold hfits fun _ h => Or.inl h
  | saved action hfits hstatus hattempt =>
      obtain ⟨row, hrow, hsame⟩ := hfits.stored
      apply hsound.write (writable_eq_ok.mpr ⟨hattempt, hfits.reserved⟩) hfits.valid
      intro other hother
      rw [hrow] at hother
      exact Option.some.inj hother ▸ hsame

theorem Sound.closed_iff (hsound : Sound desk) : desk.Closed actionId ↔
    ∀ row, desk.stored actionId = some row → row.validateForSend = .ok () → ¬ Reopens row :=
  Desk.closed_iff fun row hrow => hsound.writable actionId row hrow

variable (action) in
/-- A desk with one action written, when the records about it are right. -/
theorem Final.write (hsound : Sound desk) (hfinal : Final desk) {desk' : Desk}
    (hsound' : Sound desk') (hrows : desk'.rows = (desk.write action).rows)
    (hsent : action.actionId ∈ desk'.sent ↔ action.status = .sent)
    (hother : ∀ actionId ≠ action.actionId, (actionId ∈ desk'.sent ↔ actionId ∈ desk.sent) ∧
      (actionId ∈ desk'.unknown → actionId ∈ desk.unknown))
    (hunknown : action.actionId ∈ desk'.unknown → ¬ Reopens action)
    (hlate : desk'.claimedLate = []) : Final desk' := by
  have hself : desk'.stored action.actionId = some action := by
    rw [stored, hrows]
    exact stored_write_self
  have hne : ∀ {actionId}, actionId ≠ action.actionId →
      desk'.stored actionId = desk.stored actionId := by
    intro actionId hne
    rw [stored, hrows]
    exact stored_write_ne hne
  constructor
  · intro actionId
    by_cases hid : actionId = action.actionId
    · subst hid
      rw [hself, hsent, Option.map_some, Option.some.injEq]
    · rw [hne hid, (hother actionId hid).1]
      exact hfinal.sent actionId
  · intro actionId hmem
    rw [hsound'.closed_iff]
    intro row hrow hvalid
    by_cases hid : actionId = action.actionId
    · subst hid
      rw [hself] at hrow
      obtain rfl := Option.some.inj hrow
      exact hunknown hmem
    · rw [hne hid] at hrow
      have hclosed := hfinal.unknown actionId ((hother actionId hid).2 hmem)
      exact hsound.closed_iff.mp hclosed row hrow hvalid
  · exact hlate

theorem Final.not_sent (hfinal : Final desk) (hrow : desk.stored actionId = some row)
    (hstatus : row.status ≠ .sent) : actionId ∉ desk.sent := by
  rw [hfinal.sent, hrow, Option.map_some, Option.some.injEq]
  exact hstatus

/-- What is final stays so exactly when the step keeps it. -/
theorem Final.move_iff (hsound : Sound desk) (hfinal : Final desk) {step : Step}
    {desk' : Desk} (hmove : Move desk step desk') : Final desk' ↔ desk.Keeps step := by
  have hsound' := hsound.after_move hmove
  cases hmove with
  | stay step h =>
      constructor
      · intro _
        cases step with
        | save action =>
            intro hstatus hattempt
            rcases h action rfl with hsent | hlarge
            · exact absurd hsent hstatus
            · omega
        | _ => trivial
      · exact fun _ => hfinal
  | hold step action h hfits =>
      constructor
      · intro _
        cases step with
        | save saved => exact absurd rfl (h saved)
        | _ => trivial
      · exact fun _ => ⟨hfinal.sent, hfinal.unknown, hfinal.claimedLate⟩
  | add action hwritable hnone hstatus =>
      have hnot : action.actionId ∉ desk.sent := by
        rw [hfinal.sent, hnone]
        simp
      have hnever : action.actionId ∉ desk.unknown := by
        intro hmem
        obtain ⟨row, hrow, _⟩ := hsound.unknown _ hmem
        rw [hnone] at hrow
        cases hrow
      have hfresh : action.status ≠ .sent := by
        rcases hstatus with hdraft | hready
        · simp [hdraft]
        · simp [hready]
      apply iff_of_true _ trivial
      exact hfinal.write action hsound hsound' rfl (iff_of_false hnot hfresh)
        (fun _ _ => ⟨Iff.rfl, id⟩) (fun hmem => absurd hmem hnever) hfinal.claimedLate
  | claimed row workerId leaseUntil now hrow hvalid hreopens =>
      have hstatus : row.status ≠ .sent := by
        rcases hreopens.1 with hready | hsending
        · simp [hready]
        · simp [hsending]
      have hnot := hfinal.not_sent hrow hstatus
      have hnever : row.actionId ∉ desk.unknown := fun hmem =>
        hsound.closed_iff.mp (hfinal.unknown _ hmem) row hrow hvalid hreopens
      apply iff_of_true _ trivial
      apply hfinal.write (claimed workerId leaseUntil row) hsound hsound' rfl
      · exact iff_of_false hnot (by simp [claimed])
      · exact fun _ _ => ⟨Iff.rfl, id⟩
      · exact fun hmem => absurd hmem hnever
      · change (if row.actionId ∈ desk.sent ++ desk.unknown then _ else _) = _
        rw [if_neg (by simp [hnot, hnever])]
        exact hfinal.claimedLate
  | failed row workerId now hrow hvalid hstatus =>
      have hnot := hfinal.not_sent hrow (by simp [hstatus])
      apply iff_of_true _ trivial
      apply hfinal.write (released .failed row) hsound hsound' rfl
      · exact iff_of_false hnot (by simp [released])
      · intro actionId hne
        refine ⟨Iff.rfl, fun hmem => ?_⟩
        exact (List.mem_cons.mp hmem).resolve_left hne
      · rintro _ ⟨hready | hsending, _⟩
        · cases hready
        · cases hsending
      · exact hfinal.claimedLate
  | completed row workerId now hrow hstatus =>
      apply iff_of_true _ trivial
      apply hfinal.write (released .sent row) hsound hsound' rfl
      · exact iff_of_true List.mem_cons_self rfl
      · intro actionId hne
        refine ⟨?_, id⟩
        constructor
        · exact fun hmem => (List.mem_cons.mp hmem).resolve_left hne
        · exact fun hmem => List.mem_cons_of_mem _ hmem
      · rintro _ ⟨hready | hsending, _⟩
        · cases hready
        · cases hsending
      · exact hfinal.claimedLate
  | saved action hfits hstatus hattempt =>
      obtain ⟨row, hrow, hsame⟩ := hfits.stored
      have hself : (desk.write action).stored action.actionId = some action :=
        stored_write_self
      constructor
      · intro hafter _ _
        constructor
        · intro hsent
          have hmem := (hafter.sent action.actionId).mp ((hfinal.sent action.actionId).mpr hsent)
          rw [hself] at hmem
          exact hstatus (Option.some.inj hmem)
        · intro hmem
          obtain ⟨known, hknown, hvalid⟩ := hsound.unknown _ hmem
          obtain rfl := Option.some.inj (hrow.symm.trans hknown)
          exact hsound'.closed_iff.mp (hafter.unknown _ hmem) action hself
            (hsame.validateForSend.trans hvalid)
      · intro hkeeps
        obtain ⟨hstored, hopen⟩ := hkeeps hstatus hattempt
        apply hfinal.write action hsound hsound' rfl
        · exact iff_of_false (fun hmem => hstored ((hfinal.sent _).mp hmem)) hstatus
        · exact fun _ _ => ⟨Iff.rfl, id⟩
        · exact hopen
        · exact hfinal.claimedLate

theorem sound_empty : Sound empty := by
  constructor
  · intro _ _ hrow
    cases hrow
  · intro _ _ hrow
    cases hrow
  · intro _ _ hrow
    cases hrow
  · intro _ hheld
    cases hheld
  · intro _ hmem
    cases hmem

theorem final_empty : Final empty := by
  constructor
  · intro actionId
    exact iff_of_false (by simp [empty]) (by simp [stored, empty])
  · intro _ hmem
    cases hmem
  · rfl

/-- Along a run from the empty table, what was recorded as sent or as of unknown
outcome stays so exactly when no save reopens it. -/
theorem final_iff_keeps (steps : List Step) (hadmits : Along after Admits empty steps) :
    Throughout after Final empty steps ↔ Along after Keeps empty steps := by
  apply throughout_iff_along _ _ sound_empty final_empty hadmits
  · intro desk step hsound hadmits
    exact hsound.after_move (hsound.move hadmits)
  · intro desk step hsound hfinal hadmits
    exact hfinal.move_iff hsound (hsound.move hadmits)

def sampleAction : CommercialAction where
  actionId := "action-1"
  identityId := "identity-1"
  contactRef := "contact-1"
  channel := "max"
  evidenceRefs := ["evidence-1"]
  ownerActorId := some "operator-1"
  status := .ready
  sendAttempt := 0
  sendWorkerId := none
  sendLeaseUntil := none

def sampleSent : CommercialAction :=
  { sampleAction with status := .sent, sendAttempt := 1 }

/-- A ready action is saved once more and sent. -/
def sampleSteps : List Step :=
  [.add sampleAction, .get "action-1", .markReady sampleAction, .save sampleAction,
    .claimForSend "action-1" "worker-1" 300000000 0, .completeSend "action-1" "worker-1" 1]

theorem final_iff_keeps_sample : Throughout after Final empty sampleSteps := by
  have hadmits : Along after Admits empty sampleSteps := by
    refine ⟨Or.inr rfl, trivial, ?_, ?_, trivial, trivial, trivial⟩
    · change sampleAction ∈ _
      decide +kernel
    · change sampleAction ∈ _
      decide +kernel
  apply (final_iff_keeps sampleSteps hadmits).mpr
  refine ⟨trivial, trivial, trivial, ?_, trivial, trivial, trivial⟩
  intro _ _
  constructor
  · decide +kernel
  · intro hmem
    cases hmem

/-- The sent action is read, marked ready and saved. -/
def reopeningSteps : List Step :=
  [.add sampleAction, .claimForSend "action-1" "worker-1" 300000000 0,
    .completeSend "action-1" "worker-1" 1, .get "action-1", .markReady sampleSent,
    .save { sampleAction with sendAttempt := 1 }]

theorem sent_action_reopened : Along after Admits empty reopeningSteps ∧
    ((reopeningSteps.take 3).foldl after empty).stored "action-1" = some sampleSent ∧
    (reopeningSteps.foldl after empty).stored "action-1" =
      some { sampleAction with sendAttempt := 1 } ∧
    ¬ Throughout after Final empty reopeningSteps := by
  have hstored : (reopeningSteps.foldl after empty).stored "action-1" =
      some { sampleAction with sendAttempt := 1 } := by decide +kernel
  refine ⟨?_, by decide +kernel, hstored, ?_⟩
  · refine ⟨Or.inr rfl, trivial, trivial, trivial, ?_, ?_, trivial⟩
    · change sampleSent ∈ _
      decide +kernel
    · change _ ∈ _
      decide +kernel
  · intro hthroughout
    have hsent := hthroughout.last.sent "action-1"
    rw [hstored] at hsent
    exact absurd (hsent.mp (by decide +kernel)) (by decide)

end Desk

end CommercialActions

end ShemaPlatform
