/-
The idempotency of AI runs: a reservation, the execution, the run stored, the
reservation completed, by any number of clients that interleave, fail and
crash anywhere.  Under one key the service is executed at most once.
-/
import ShemaPlatform.AIGovernance
import ShemaPlatform.JsonText
import ShemaPlatform.Refusals
import ShemaPlatform.RepositoryRules

namespace ShemaPlatform

open Calendar ReadCommitted ReadCommitted.Prog

/-- One call of `IdempotentAIExecutionService.execute`, with what its `uuid4`
draws. -/
structure AICall where
  request : AIExecutionRequest
  uuid : String

namespace AICall

def key (call : AICall) : String := PyText.strip call.request.idempotencyKey

def pendingId (call : AICall) : String := "pending:ai:" ++ call.uuid

theorem startsWith_pendingId (call : AICall) :
    PyText.startsWith call.pendingId "pending:" = true := by
  have hsplit : call.pendingId = "pending:" ++ ("ai:" ++ call.uuid) := by
    rw [pendingId, ← String.append_assoc]
    rfl
  rw [hsplit]
  exact PyText.startsWith_append _ _

end AICall

namespace IdempotentAIExecutionService

/-- The text that `_ai_request_hash` hashes, with floats as `json` writes them. -/
def requestText (floatText : Option ℚ → String) (request : AIExecutionRequest) : String :=
  let quoted (text : String) : String := String.ofList (JsonText.quoteUnicode text)
  let listed (refs : List String) : String :=
    "[" ++ String.intercalate "," (refs.map quoted) ++ "]"
  "\x7b" ++ String.intercalate "," [
    "\"actor_id\":" ++ quoted request.actorId,
    "\"evidence_refs\":" ++ listed request.evidenceRefs,
    "\"evidence_required\":" ++ (if request.evidenceRequired then "true" else "false"),
    "\"input_refs\":" ++ listed request.inputRefs,
    "\"max_cost\":" ++ floatText request.maxCost,
    "\"max_duration_seconds\":" ++ floatText request.maxDurationSeconds,
    "\"max_tokens\":" ++ toString request.maxTokens,
    "\"prompt_version\":" ++ quoted request.promptVersion,
    "\"resource_ref\":" ++ quoted request.resourceRef,
    "\"task_type\":" ++ quoted request.taskType] ++ "\x7d"

/-- Where a call stands. -/
inductive Stage where
  | waiting
  | reserved
  | executing (run : AIRun) (audit : AuditRecord)
  | executed (run : AIRun)
  | returned (run : AIRun)
  | raised (error : Failure)

structure Session where
  call : AICall
  stage : Stage

section Calls

variable (column : FloatColumn) (sha256 : String → String)
  (floatText : Option ℚ → String)

/-- `_ai_request_hash` -/
def requestHash (call : AICall) : String := sha256 (requestText floatText call.request)

/-- The first transaction: the key is reserved for this call, or its run is
returned. -/
def reserve (call : AICall) : Tx Instant Stage := do
  let reservation ← Idempotency.reserve call.key (requestHash sha256 floatText call)
    call.pendingId
  if reservation.resultRef = call.pendingId then
    return .reserved
  else do
    lift (require (!PyText.startsWith reservation.resultRef "pending:")
      (.idempotencyConflict
        "AI execution has an unknown external outcome and requires reconciliation"))
    match ← AIRuns.get column reservation.resultRef with
    | none => raise (.idempotencyConflict
        "AI idempotency reservation references a missing result")
    | some stored => return .returned stored

/-- The last transaction of the service that is executed. -/
def store (run : AIRun) (audit : AuditRecord) : Tx Instant Stage := do
  AIGateway.store column run audit
  return .executed run

/-- The last transaction of the call. -/
def complete (call : AICall) (run : AIRun) : Tx Instant Stage := do
  let _ ← Idempotency.complete call.key (requestHash sha256 floatText call) run.runId
  return .returned run

/-- The transaction that a session opens next. -/
def transaction (call : AICall) : Stage → Option (Tx Instant Stage)
  | .waiting => some (reserve column sha256 floatText call)
  | .executing run audit => some (store column run audit)
  | .executed run => some (complete sha256 floatText call run)
  | _ => none

/-- What the execution of the service leads to: its run is still to be stored,
or it has failed. -/
inductive Executes (answers : AIRun → Prop) : Except Failure AIRun → Stage → Prop where
  | run (run : AIRun) (audit : AuditRecord) (hanswers : answers run) :
      Executes answers (.ok run) (.executing run audit)
  | failure (error : Failure) : Executes answers (.error error) (.raised error)

/-- Calls of `execute` over a service that may answer any of the given runs, or
fail. -/
def flow (answers : AIRun → Prop) :
    Workflow Instant Row Failure Session (Except Failure AIRun) where
  code session := (transaction column sha256 floatText session.call session.stage).map
    fun body => body >>= fun stage => Pure.pure ⟨session.call, stage⟩
  recover session error := { session with stage := .raised error }
  outside session now outcome after now' := session.stage = .reserved ∧ now' = now ∧
    after.call = session.call ∧ Executes answers outcome after.stage
  aborts := Failure.infrastructure
  drift _ _ := True

/-- The executions of the service under a key, with their outcomes. -/
def executions {ι : Type} (key : String) (events :
    List (Event ι Row Failure Session (Except Failure AIRun))) :
    List (ι × Except Failure AIRun) :=
  events.filterMap fun
    | .acted client before outcome _ =>
        if before.call.key = key then some (client, outcome) else none
    | _ => none

/-- A key is bound to a request by its hash. -/
def Bound (rows : Rows Row) (key hash : String) : Prop :=
  ∃ record, rows.get (Key.idempotencyKey key) = some record ∧ record.requestHash = hash

/-- The effect of each transaction at its commit; a reservation that is already
there has been read from an earlier log. -/
inductive Effect (call : AICall) (world : World Instant Row) :
    Stage → Stage → Rows Row → Prop where
  | reserves (hnone : world.rows.get (Key.idempotencyKey call.key) = none) :
      Effect call world .waiting .reserved [⟨Key.idempotencyKey call.key,
        some ⟨call.key, requestHash sha256 floatText call, call.pendingId⟩⟩]
  | finds (record : IdempotencyRecord)
      (hlog : ⟨Key.idempotencyKey call.key, some record⟩ ∈ world.rows)
      (hmine : record.resultRef = call.pendingId)
      (hbound : Bound world.rows call.key (requestHash sha256 floatText call)) :
      Effect call world .waiting .reserved []
  | replays (record : IdempotencyRecord) (row : AIRunRow) (stored : AIRun)
      (hlog : ⟨Key.idempotencyKey call.key, some record⟩ ∈ world.rows)
      (hhash : record.requestHash = requestHash sha256 floatText call)
      (hfinal : PyText.startsWith record.resultRef "pending:" = false)
      (hrow : world.rows.get (Key.aiRun record.resultRef) = some row)
      (hstored : row.toRun column record.resultRef = .ok stored) :
      Effect call world .waiting (.returned stored) []
  | stores (run : AIRun) (audit : AuditRecord) (row : AIRunRow)
      (hrow : AIRunRow.ofRun column run = .ok row)
      (hnone : world.rows.get (Key.aiRun run.runId) = none) :
      Effect call world (.executing run audit) (.executed run)
        [⟨Key.auditLog audit.auditId, some audit⟩, ⟨Key.aiRun run.runId, some row⟩]
  | completes (run : AIRun) (record : IdempotencyRecord) (own : Rows Row)
      (hrecord : world.rows.get (Key.idempotencyKey call.key) = some record)
      (hhash : record.requestHash = requestHash sha256 floatText call)
      (hown : own = [⟨Key.idempotencyKey call.key, some record⟩] ∨
        own = [⟨Key.idempotencyKey call.key,
            some { record with resultRef := run.runId }⟩,
          ⟨Key.idempotencyKey call.key, some record⟩]) :
      Effect call world (.executed run) (.returned run) own

/-- How the calls develop the database: the log only grows, a stored run stays,
and so does what a key is bound to. -/
structure Evolves (rows rows' : Rows Row) : Prop where
  log : rows <:+ rows'
  run : ∀ runId row, rows.get (Key.aiRun runId) = some row →
    rows'.get (Key.aiRun runId) = some row
  bound : ∀ key hash, Bound rows key hash → Bound rows' key hash

def evolution : Evolution Instant Row where
  rel world world' := Evolves world.rows world'.rows
  refl _ := ⟨List.suffix_refl _, fun _ _ h => h, fun _ _ h => h⟩
  trans hab hbc := ⟨hab.log.trans hbc.log, fun runId row h => hbc.run runId row
    (hab.run runId row h), fun key hash h => hbc.bound key hash (hab.bound key hash h)⟩

end Calls

variable {column : FloatColumn} {sha256 : String → String}
  {floatText : Option ℚ → String} {answers : AIRun → Prop} {call : AICall}
  {world : World Instant Row}

theorem atCommit_reserve :
    (reserve column sha256 floatText call).atCommit evolution
      (fun after own world => Effect column sha256 floatText call world .waiting after own)
      [] world := by
  rw [reserve, atCommit_bind]
  apply Idempotency.atCommit_reserve
  · intro hnone
    rw [if_pos rfl]
    exact .reserves hnone
  · intro earlier record hearlier hrecord hhash
    have hlog : ⟨Key.idempotencyKey call.key, some record⟩ ∈ world.rows :=
      hearlier.evolved.log.subset (Rows.mem_of_get hrecord)
    split
    · rename_i hmine
      exact .finds record hlog hmine
        (hearlier.evolved.bound _ _ ⟨record, hrecord, hhash⟩)
    · rw [atCommit_bind, atCommit_require]
      intro hfinal
      simp only [AIRuns.get, atCommit_bind, atCommit_select, List.nil_append]
      intro later hlater
      cases hrow : later.rows.get (Key.aiRun record.resultRef) with
      | none => trivial
      | some row =>
          simp only [atCommit_bind, atCommit_lift, atCommit_pure]
          intro stored hstored
          exact .replays record row stored hlog hhash (by simpa using hfinal)
            (hlater.evolved.run _ _ hrow) hstored

theorem atCommit_store {run : AIRun} {audit : AuditRecord} :
    (store column run audit).atCommit evolution
      (fun after own world => Effect column sha256 floatText call world
        (.executing run audit) after own) [] world := by
  rw [store, atCommit_bind, AIGateway.store, atCommit_bind, AIRuns.add, atCommit_bind,
    atCommit_lift]
  intro row hrow
  rw [atCommit_insert]
  intro hnone
  apply Audits.atCommit_append
  intro _
  exact .stores run audit row hrow hnone

theorem atCommit_complete {run : AIRun} :
    (complete sha256 floatText call run).atCommit evolution
      (fun after own world => Effect column sha256 floatText call world
        (.executed run) after own) [] world := by
  rw [complete, atCommit_bind, Idempotency.complete, atCommit_bind, atCommit_require]
  intro _
  rw [atCommit_bind, atCommit_selectForUpdate]
  constructor
  · intro _ _ _
    trivial
  · intro record hrecord
    simp only [atCommit_bind, atCommit_require, beq_iff_eq]
    intro hhash
    split
    · exact .completes run record _ hrecord hhash (Or.inl rfl)
    · rw [atCommit_bind, atCommit_updateWhere]
      constructor
      · intro _ _ _
        trivial
      · intro row row' hrow hrow'
        simp only [List.cons_append, List.nil_append, Rows.get_cons_self,
          Option.some.injEq] at hrow
        subst hrow
        rw [if_pos hhash] at hrow'
        obtain rfl := Option.some.inj hrow'
        exact .completes run record _ hrecord hhash (Or.inr rfl)

/-- A commit of a call adds to the log and keeps the stored runs. -/
theorem Effect.evolves {before after : Stage} {own : Rows Row}
    (h : Effect column sha256 floatText call world before after own) :
    evolution.rel world (world.commit own) := by
  constructor
  · exact List.suffix_append _ _
  · intro runId row hrow
    cases h with
    | reserves hnone => simpa using hrow
    | finds record hlog hmine _ => exact hrow
    | replays record row stored hlog hhash hfinal hfound hstored => exact hrow
    | stores run audit stored hstored hnone =>
        have hne : run.runId ≠ runId := by
          rintro rfl
          rw [hnone] at hrow
          cases hrow
        simpa [hne] using hrow
    | completes run record own hrecord hhash hown =>
        rcases hown with rfl | rfl
        · simpa using hrow
        · simpa using hrow
  · rintro key hash ⟨record, hrecord, hhash⟩
    cases h with
    | reserves hnone =>
        have hne : call.key ≠ key := by
          rintro rfl
          rw [hnone] at hrecord
          cases hrecord
        exact ⟨record, by simpa [hne] using hrecord, hhash⟩
    | finds found hlog hmine _ => exact ⟨record, hrecord, hhash⟩
    | replays found row stored hlog _ hfinal hfound hstored => exact ⟨record, hrecord, hhash⟩
    | stores run audit stored hstored hnone => exact ⟨record, by simpa using hrecord, hhash⟩
    | completes run found own hfound hsame hown =>
        by_cases heq : call.key = key
        · subst heq
          obtain rfl := Option.some.inj (hfound.symm.trans hrecord)
          rcases hown with rfl | rfl
          · exact ⟨found, by simp, hhash⟩
          · exact ⟨{ found with resultRef := run.runId }, by simp, hhash⟩
        · refine ⟨record, ?_, hhash⟩
          rcases hown with rfl | rfl
          · simpa [heq] using hrecord
          · simpa [heq] using hrecord

/-- A reservation that fails on a used key fails with a conflict. -/
theorem ends_reserve :
    (reserve column sha256 floatText call).ends evolution (fun _ _ _ => True)
      (fun error world => Bound world.rows call.key (requestHash sha256 floatText call) ∨
        ∃ message, error = .idempotencyConflict message) [] world := by
  rw [reserve, ends_bind, Idempotency.reserve, ends_bind, ends_insertNew]
  intro later _
  constructor
  · intro existing hexisting
    rw [if_neg (by simp), Idempotency.get, ends_bind, ends_select]
    intro final hfinal
    obtain ⟨record, hrecord, _⟩ := hfinal.evolved.bound _ _ ⟨existing, hexisting, rfl⟩
    simp only [List.nil_append, hrecord, ends_bind, ends_lift]
    constructor
    · intro _ hsame
      apply ends_of_all
      intro last hlast error
      left
      apply hlast.bound
      exact ⟨record, hrecord, by simpa using hsame⟩
    · intro error herror
      right
      exact ⟨_, (require_eq_error.mp herror).2.symm⟩
  · intro hnone
    simp

/-- Between its reservation and its end. -/
def Stage.past : Stage → Prop
  | .reserved | .executing _ _ | .executed _ => True
  | _ => False

/-- Whoever is between its reservation and its end has the key bound. -/
theorem Effect.binds {before after : Stage} {own : Rows Row}
    (h : Effect column sha256 floatText call world before after own)
    (hbefore : before.past →
      Bound world.rows call.key (requestHash sha256 floatText call))
    (hafter : after.past) :
    Bound (own ++ world.rows) call.key (requestHash sha256 floatText call) := by
  cases h with
  | reserves hnone => exact ⟨_, Rows.get_cons_self _ _ _, rfl⟩
  | finds record hlog hmine hbound => exact hbound
  | replays record row stored hlog hhash hfinal hfound hstored => exact hafter.elim
  | stores run audit stored hstored hnone =>
      have heffect : Effect column sha256 floatText call world (.executing run audit)
        (.executed run) _ := .stores run audit stored hstored hnone
      exact heffect.evolves.bound _ _ (hbefore trivial)
  | completes run record own hrecord hhash hown => exact hafter.elim

/-- What every transaction of a call does, whoever else commits meanwhile. -/
def certificate (column : FloatColumn) (sha256 : String → String)
    (floatText : Option ℚ → String) (answers : AIRun → Prop) :
    Certificate (flow column sha256 floatText answers) evolution where
  knows session world := session.stage.past →
    Bound world.rows session.call.key (requestHash sha256 floatText session.call)
  does before after own world := after.call = before.call ∧
    Effect column sha256 floatText before.call world before.stage after.stage own
  stable hrel h hpast := hrel.bound _ _ (h hpast)
  code_ok {session p world} hcode _ := by
    obtain ⟨body, hbody, rfl⟩ := Option.map_eq_some_iff.mp hcode
    rw [atCommit_bind]
    have hmeets : body.atCommit evolution (fun after own world =>
        Effect column sha256 floatText session.call world session.stage after own) []
        world := by
      cases hstage : session.stage with
      | waiting =>
          rw [hstage] at hbody
          obtain rfl := Option.some.inj hbody
          exact atCommit_reserve
      | executing run audit =>
          rw [hstage] at hbody
          obtain rfl := Option.some.inj hbody
          exact atCommit_store
      | executed run =>
          rw [hstage] at hbody
          obtain rfl := Option.some.inj hbody
          exact atCommit_complete
      | _ => simp [hstage, transaction] at hbody
    exact atCommit_mono (fun after own heffect => ⟨rfl, heffect⟩) hmeets
  commit_ok h hknows := by
    refine ⟨h.2.evolves, ?_⟩
    rw [h.1]
    exact h.2.binds hknows
  recover_ok _ _ := False.elim
  outside_ok h hknows := by
    obtain ⟨hreserved, rfl, hcall, _⟩ := h
    refine ⟨evolution.refl _, ?_⟩
    rw [hcall]
    exact fun _ => hknows (by rw [hreserved]; trivial)
  drift_ok _ := evolution.refl _

section Progress

variable {ι : Type} (column : FloatColumn) (sha256 : String → String)
  (floatText : Option ℚ → String) (calls : ι → AICall) (key : String)

/-- The run is in its row. -/
def IsStored (rows : Rows Row) (run : AIRun) : Prop :=
  ∃ row, AIRunRow.ofRun column run = .ok row ∧
    rows.get (Key.aiRun run.runId) = some row

/-- A record is the reservation of its owner, pending or completed. -/
def Names (owner : ι) (executed : List (ι × Except Failure AIRun)) (rows : Rows Row)
    (record : IdempotencyRecord) : Prop :=
  record.requestHash = requestHash sha256 floatText (calls owner) ∧
    (record.resultRef = (calls owner).pendingId ∨ ∃ run, (owner, .ok run) ∈ executed ∧
      record.resultRef = run.runId ∧ IsStored column rows run)

/-- How far the owner has come, and what has been executed by then. -/
inductive OwnerAt (rows : Rows Row) (owner : ι) :
    Stage → List (ι × Except Failure AIRun) → Prop where
  | reserved : OwnerAt rows owner .reserved []
  | executing (run : AIRun) (audit : AuditRecord) :
      OwnerAt rows owner (.executing run audit) [(owner, .ok run)]
  | executed (run : AIRun) (hstored : IsStored column rows run) :
      OwnerAt rows owner (.executed run) [(owner, .ok run)]
  | returned (run : AIRun) (hstored : IsStored column rows run) :
      OwnerAt rows owner (.returned run) [(owner, .ok run)]
  | raised (error : Failure) (executed : List (ι × Except Failure AIRun))
      (honce : executed = [] ∨ ∃ outcome, executed = [(owner, outcome)]) :
      OwnerAt rows owner (.raised error) executed

/-- Where the other calls under the key can be. -/
inductive OtherAt (owner : ι) (executed : List (ι × Except Failure AIRun))
    (rows : Rows Row) (call : AICall) : Stage → Prop where
  | waiting : OtherAt owner executed rows call .waiting
  | raised (error : Failure) : OtherAt owner executed rows call (.raised error)
  | returned (run stored : AIRun) (row : AIRunRow)
      (hhash : requestHash sha256 floatText call =
        requestHash sha256 floatText (calls owner))
      (hexecuted : (owner, .ok run) ∈ executed)
      (hrow : AIRunRow.ofRun column run = .ok row)
      (hget : rows.get (Key.aiRun run.runId) = some row)
      (hstored : row.toRun column run.runId = .ok stored) :
      OtherAt owner executed rows call (.returned stored)

/-- The invariant of one key: unused, or with one owner. -/
inductive Progress (rows : Rows Row) (stage : ι → Stage)
    (executed : List (ι × Except Failure AIRun)) : Prop where
  | unused (hlog : Key.idempotencyKey key ∉ rows.keys)
      (hidle : ∀ client, (calls client).key = key → stage client = .waiting ∨
        ∃ error, stage client = .raised error)
      (hnone : executed = []) : Progress rows stage executed
  | owned (owner : ι) (howner : (calls owner).key = key)
      (hlog : ∀ row, ⟨Key.idempotencyKey key, row⟩ ∈ rows → ∃ record, row = some record ∧
        Names column sha256 floatText calls owner executed rows record)
      (hpresent : ∃ record, rows.get (Key.idempotencyKey key) = some record)
      (hstage : OwnerAt column rows owner (stage owner) executed)
      (hothers : ∀ client, client ≠ owner → (calls client).key = key →
        OtherAt column sha256 floatText calls owner executed rows (calls client)
          (stage client)) : Progress rows stage executed

end Progress

section Steps

variable {ι : Type} {calls : ι → AICall} {key : String} {rows rows' : Rows Row}
  {stage : ι → Stage} {executed : List (ι × Except Failure AIRun)} {owner : ι}

/-- Stored runs stay. -/
def Keeps (rows rows' : Rows Row) : Prop :=
  ∀ runId row, rows.get (Key.aiRun runId) = some row →
    rows'.get (Key.aiRun runId) = some row

theorem IsStored.keep {run : AIRun} (h : IsStored column rows run)
    (hkeeps : Keeps rows rows') : IsStored column rows' run := by
  obtain ⟨row, hrow, hget⟩ := h
  exact ⟨row, hrow, hkeeps _ _ hget⟩

theorem Names.keep {record : IdempotencyRecord}
    (h : Names column sha256 floatText calls owner executed rows record)
    (hkeeps : Keeps rows rows') :
    Names column sha256 floatText calls owner executed rows' record := by
  obtain ⟨hhash, hpending | ⟨run, hexecuted, href, hstored⟩⟩ := h
  · exact ⟨hhash, Or.inl hpending⟩
  · exact ⟨hhash, Or.inr ⟨run, hexecuted, href, hstored.keep hkeeps⟩⟩

theorem OwnerAt.keep {at_ : Stage} (h : OwnerAt column rows owner at_ executed)
    (hkeeps : Keeps rows rows') : OwnerAt column rows' owner at_ executed := by
  cases h with
  | reserved => exact .reserved
  | executing run audit => exact .executing run audit
  | executed run hstored => exact .executed run (hstored.keep hkeeps)
  | returned run hstored => exact .returned run (hstored.keep hkeeps)
  | raised error _ honce => exact .raised error _ honce

theorem OtherAt.keep {at_ : Stage}
    (h : OtherAt column sha256 floatText calls owner executed rows call at_)
    (hkeeps : Keeps rows rows') :
    OtherAt column sha256 floatText calls owner executed rows' call at_ := by
  cases h with
  | waiting => exact .waiting
  | raised error => exact .raised error
  | returned run stored row hhash hexecuted hrow hget hstored =>
      exact .returned run stored row hhash hexecuted hrow (hkeeps _ _ hget) hstored

/-- There is at most one execution, and it is the owner's. -/
theorem OwnerAt.once {at_ : Stage} (h : OwnerAt column rows owner at_ executed) :
    executed = [] ∨ ∃ outcome, executed = [(owner, outcome)] := by
  cases h with
  | reserved => exact Or.inl rfl
  | executing run audit => exact Or.inr ⟨_, rfl⟩
  | executed run hstored => exact Or.inr ⟨_, rfl⟩
  | returned run hstored => exact Or.inr ⟨_, rfl⟩
  | raised error _ honce => exact honce

theorem Effect.keeps {before after : Stage} {own : Rows Row}
    (h : Effect column sha256 floatText call world before after own) :
    Keeps world.rows (own ++ world.rows) :=
  h.evolves.run

/-- A commit writes the key of its own call only. -/
theorem Effect.key_eq {before after : Stage} {own : Rows Row}
    {row : Option IdempotencyRecord}
    (h : Effect column sha256 floatText call world before after own)
    (hmem : ⟨Key.idempotencyKey key, row⟩ ∈ own) : call.key = key := by
  cases h with
  | reserves hnone =>
      simp only [List.mem_singleton, Sigma.mk.injEq, Key.idempotencyKey.injEq] at hmem
      exact hmem.1.symm
  | finds record hlog hmine _ => simp at hmem
  | replays record row stored hlog hhash hfinal hfound hstored => simp at hmem
  | stores run audit stored hstored hnone => simp at hmem
  | completes run record own hrecord hhash hown =>
      rcases hown with rfl | rfl
      · simp only [List.mem_singleton, Sigma.mk.injEq, Key.idempotencyKey.injEq] at hmem
        exact hmem.1.symm
      · simp only [List.mem_cons, List.not_mem_nil, or_false, Sigma.mk.injEq,
          Key.idempotencyKey.injEq] at hmem
        rcases hmem with h | h
        · exact h.1.symm
        · exact h.1.symm

variable {own : Rows Row} {stage' : ι → Stage}

/-- What does not write the key leaves its log. -/
theorem mem_of_other (hown : ∀ row, ⟨Key.idempotencyKey key, row⟩ ∉ own)
    {row : Option IdempotencyRecord}
    (hmem : ⟨Key.idempotencyKey key, row⟩ ∈ own ++ rows) :
    ⟨Key.idempotencyKey key, row⟩ ∈ rows := by
  rcases List.mem_append.mp hmem with h | h
  · exact absurd h (hown row)
  · exact h

theorem not_mem_keys_of_other (hown : ∀ row, ⟨Key.idempotencyKey key, row⟩ ∉ own) :
    Key.idempotencyKey key ∉ own.keys := by
  intro hmem
  obtain ⟨⟨written, row⟩, hversion, heq⟩ := List.mem_map.mp hmem
  subst heq
  exact hown row hversion

theorem Progress.elsewhere
    (h : Progress column sha256 floatText calls key rows stage executed)
    (hown : ∀ row, ⟨Key.idempotencyKey key, row⟩ ∉ own) (hkeeps : Keeps rows (own ++ rows))
    (hstage : ∀ client, (calls client).key = key → stage' client = stage client) :
    Progress column sha256 floatText calls key (own ++ rows) stage' executed := by
  cases h with
  | unused hlog hidle hnone =>
      apply Progress.unused
      · rw [Rows.keys_append, List.mem_append, not_or]
        exact ⟨not_mem_keys_of_other hown, hlog⟩
      · intro client hclient
        rw [hstage client hclient]
        exact hidle client hclient
      · exact hnone
  | owned owner howner hlog hpresent howned hothers =>
      apply Progress.owned owner howner
      · intro row hmem
        obtain ⟨record, hrow, hnames⟩ := hlog row (mem_of_other hown hmem)
        exact ⟨record, hrow, hnames.keep hkeeps⟩
      · rw [Rows.get_append_of_not_mem (not_mem_keys_of_other hown)]
        exact hpresent
      · rw [hstage owner howner]
        exact howned.keep hkeeps
      · intro client hclient hkey
        rw [hstage client hkey]
        exact (hothers client hclient hkey).keep hkeeps

/-- What a version of the key in the log says. -/
theorem Progress.names
    (h : Progress column sha256 floatText calls key rows stage executed)
    {record : IdempotencyRecord} (hmem : ⟨Key.idempotencyKey key, some record⟩ ∈ rows) :
    ∃ owner, (calls owner).key = key ∧
      Names column sha256 floatText calls owner executed rows record ∧
      OwnerAt column rows owner (stage owner) executed := by
  cases h with
  | unused hlog hidle hnone =>
      exact absurd (List.mem_map.mpr ⟨_, hmem, rfl⟩) hlog
  | owned owner howner hlog hpresent howned hothers =>
      obtain ⟨found, hfound, hnames⟩ := hlog _ hmem
      obtain rfl := Option.some.inj hfound
      exact ⟨owner, howner, hnames, howned⟩

/-- Whoever is past its reservation, and has not just been answered, owns the key. -/
theorem Progress.owner_of
    (h : Progress column sha256 floatText calls key rows stage executed)
    {client : ι} (hkey : (calls client).key = key)
    (hpast : ¬ (stage client = .waiting ∨ (∃ error, stage client = .raised error) ∨
      ∃ run, stage client = .returned run)) :
    (∀ row, ⟨Key.idempotencyKey key, row⟩ ∈ rows → ∃ record, row = some record ∧
        Names column sha256 floatText calls client executed rows record) ∧
      (∃ record, rows.get (Key.idempotencyKey key) = some record) ∧
      OwnerAt column rows client (stage client) executed ∧
      ∀ other, other ≠ client → (calls other).key = key →
        OtherAt column sha256 floatText calls client executed rows (calls other)
          (stage other) := by
  cases h with
  | unused hlog hidle hnone =>
      rcases hidle client hkey with hwaiting | hraised
      · exact absurd (Or.inl hwaiting) hpast
      · exact absurd (Or.inr (Or.inl hraised)) hpast
  | owned owner howner hlog hpresent howned hothers =>
      by_cases heq : client = owner
      · subst heq
        exact ⟨hlog, hpresent, howned, hothers⟩
      · exfalso
        apply hpast
        have hother := hothers client heq hkey
        generalize stage client = at_ at hother
        cases hother with
        | waiting => exact Or.inl rfl
        | raised error => exact Or.inr (Or.inl ⟨error, rfl⟩)
        | returned run stored row _ _ _ _ _ => exact Or.inr (Or.inr ⟨stored, rfl⟩)

/-- No two calls draw one reference, and no run is named like one. -/
structure Distinct (calls : ι → AICall) (answers : AIRun → Prop) : Prop where
  references : ∀ left right, (calls left).pendingId = (calls right).pendingId →
    left = right
  runs : ∀ run, answers run → ∀ client, run.runId ≠ (calls client).pendingId

variable {client : ι}

/-- A call never finds its own reference before it has reserved. -/
theorem Progress.not_finds
    (h : Progress column sha256 floatText calls key rows stage executed)
    (hdistinct : Distinct calls answers)
    (hanswers : ∀ client run, (client, .ok run) ∈ executed → answers run)
    (hwaiting : stage client = .waiting) {record : IdempotencyRecord}
    (hmem : ⟨Key.idempotencyKey key, some record⟩ ∈ rows) :
    record.resultRef ≠ (calls client).pendingId := by
  intro hmine
  obtain ⟨owner, howner, ⟨_, hpending | ⟨run, hexecuted, href, _⟩⟩, howned⟩ :=
    h.names hmem
  · obtain rfl := hdistinct.references _ _ (hmine.symm.trans hpending)
    rw [hwaiting] at howned
    cases howned
  · exact hdistinct.runs run (hanswers _ _ hexecuted) client (href.symm.trans hmine)

variable [DecidableEq ι]

theorem Progress.reserves
    (h : Progress column sha256 floatText calls key world.rows stage executed)
    (hkey : (calls client).key = key)
    (hnone : world.rows.get (Key.idempotencyKey key) = none) :
    Progress column sha256 floatText calls key
      (⟨Key.idempotencyKey key, some ⟨key,
        requestHash sha256 floatText (calls client), (calls client).pendingId⟩⟩ ::
          world.rows) (Function.update stage client .reserved) executed := by
  cases h with
  | unused hlog hidle hunexecuted =>
      subst hunexecuted
      apply Progress.owned client hkey
      · intro row hmem
        rcases List.mem_cons.mp hmem with hnew | hold
        · simp only [Sigma.mk.injEq, heq_eq_eq, true_and] at hnew
          exact ⟨_, hnew, rfl, Or.inl rfl⟩
        · exact absurd (List.mem_map.mpr ⟨_, hold, rfl⟩) hlog
      · exact ⟨_, Rows.get_cons_self _ _ _⟩
      · rw [Function.update_self]
        exact .reserved
      · intro other hother hotherKey
        rw [Function.update_of_ne hother]
        rcases hidle other hotherKey with hwaiting | ⟨error, hraised⟩
        · rw [hwaiting]
          exact .waiting
        · rw [hraised]
          exact .raised error
  | owned owner howner hlog hpresent howned hothers =>
      obtain ⟨record, hrecord⟩ := hpresent
      rw [hnone] at hrecord
      cases hrecord

theorem Progress.replays
    (h : Progress column sha256 floatText calls key rows stage executed)
    (hwaiting : stage client = .waiting) {record : IdempotencyRecord} {row : AIRunRow}
    {stored : AIRun} (hmem : ⟨Key.idempotencyKey key, some record⟩ ∈ rows)
    (hhash : record.requestHash = requestHash sha256 floatText (calls client))
    (hfinal : PyText.startsWith record.resultRef "pending:" = false)
    (hget : rows.get (Key.aiRun record.resultRef) = some row)
    (hstored : row.toRun column record.resultRef = .ok stored) :
    Progress column sha256 floatText calls key rows
      (Function.update stage client (.returned stored)) executed := by
  cases h with
  | unused hlog hidle hnone => exact absurd (List.mem_map.mpr ⟨_, hmem, rfl⟩) hlog
  | owned owner howner hlog hpresent howned hothers =>
      have hne : client ≠ owner := by
        rintro rfl
        rw [hwaiting] at howned
        cases howned
      obtain ⟨found, hfound, hsame, hnames⟩ := hlog _ hmem
      obtain rfl := Option.some.inj hfound
      rcases hnames with hpending | ⟨run, hexecuted, href, found, hrow, hgetRun⟩
      · rw [hpending, AICall.startsWith_pendingId] at hfinal
        cases hfinal
      · rw [href] at hget hstored
        obtain rfl := Option.some.inj (hgetRun.symm.trans hget)
        apply Progress.owned owner howner hlog hpresent
        · rw [Function.update_of_ne hne.symm]
          exact howned
        · intro other hother hotherKey
          by_cases heq : other = client
          · subst heq
            rw [Function.update_self]
            exact .returned run stored found (hhash.symm.trans hsame) hexecuted hrow hget
              hstored
          · rw [Function.update_of_ne heq]
            exact hothers other hother hotherKey

/-- The owner moves on, and what it writes names its own run. -/
theorem Progress.advance
    (h : Progress column sha256 floatText calls key rows stage executed)
    (hkey : (calls client).key = key)
    (hpast : ¬ (stage client = .waiting ∨ (∃ error, stage client = .raised error) ∨
      ∃ run, stage client = .returned run)) {own : Rows Row} {after : Stage}
    (hkeeps : Keeps rows (own ++ rows))
    (hpresent : ∀ record, rows.get (Key.idempotencyKey key) = some record →
      ∃ record', Rows.get (own ++ rows) (Key.idempotencyKey key) = some record')
    (hown : ∀ row, ⟨Key.idempotencyKey key, row⟩ ∈ own → ∃ record, row = some record ∧
      Names column sha256 floatText calls client executed (own ++ rows) record)
    (hafter : OwnerAt column rows client (stage client) executed →
      OwnerAt column (own ++ rows) client after executed) :
    Progress column sha256 floatText calls key (own ++ rows)
      (Function.update stage client after) executed := by
  obtain ⟨hlog, ⟨record, hrecord⟩, howned, hothers⟩ := h.owner_of hkey hpast
  apply Progress.owned client hkey
  · intro row hmem
    rcases List.mem_append.mp hmem with hnew | hold
    · exact hown row hnew
    · obtain ⟨found, hfound, hnames⟩ := hlog row hold
      exact ⟨found, hfound, hnames.keep hkeeps⟩
  · exact hpresent record hrecord
  · rw [Function.update_self]
    exact hafter howned
  · intro other hother hotherKey
    rw [Function.update_of_ne hother]
    exact (hothers other hother hotherKey).keep hkeeps

/-- What a commit of one call does to a key. -/
theorem Progress.commit
    (h : Progress column sha256 floatText calls key world.rows stage executed)
    (hdistinct : Distinct calls answers)
    (hanswers : ∀ client run, (client, .ok run) ∈ executed → answers run) {after : Stage}
    (heffect : Effect column sha256 floatText (calls client) world (stage client) after
      own) :
    Progress column sha256 floatText calls key (own ++ world.rows)
      (Function.update stage client after) executed := by
  by_cases hkey : (calls client).key = key
  · generalize hstage : stage client = before at heffect
    have hkeeps := heffect.keeps
    cases heffect with
    | reserves hnone =>
        subst hkey
        exact h.reserves rfl hnone
    | finds record hlog hmine _ =>
        rw [hkey] at hlog
        exact absurd hmine (h.not_finds hdistinct hanswers hstage hlog)
    | replays record row stored hlog hhash hfinal hrow hstored =>
        rw [hkey] at hlog
        exact h.replays hstage hlog hhash hfinal hrow hstored
    | stores run audit row hrow hnone =>
        apply h.advance hkey (by simp [hstage]) hkeeps
        · intro record hrecord
          exact ⟨record, by simpa using hrecord⟩
        · intro row' hmem
          simp at hmem
        · intro howner
          rw [hstage] at howner
          cases howner with
          | executing =>
              exact .executed run ⟨row, hrow, by simp⟩
    | completes run record _ hrecord hhash hown =>
        subst hkey
        obtain ⟨hlog, _, howner, _⟩ := h.owner_of rfl (by simp [hstage])
        rw [hstage] at howner
        have hstored : IsStored column world.rows run := by
          cases howner with
          | executed _ hstored => exact hstored
        have hexecuted : (client, .ok run) ∈ executed := by
          cases howner with
          | executed => exact List.mem_singleton.mpr rfl
        obtain ⟨_, hsame, hnames⟩ := hlog _ (Rows.mem_of_get hrecord)
        obtain rfl := Option.some.inj hsame
        apply h.advance rfl (by simp [hstage]) hkeeps
        · intro _ _
          rcases hown with rfl | rfl
          · exact ⟨_, Rows.get_cons_self _ _ _⟩
          · exact ⟨_, Rows.get_cons_self _ _ _⟩
        · intro row hmem
          have hnew : Names column sha256 floatText calls client executed
              (own ++ world.rows) { record with resultRef := run.runId } :=
            ⟨hhash, Or.inr ⟨run, hexecuted, rfl, hstored.keep hkeeps⟩⟩
          rcases hown with rfl | rfl
          · simp only [List.mem_singleton, Sigma.mk.injEq, heq_eq_eq, true_and] at hmem
            exact ⟨record, hmem, hnames.keep hkeeps⟩
          · simp only [List.mem_cons, List.not_mem_nil, or_false, Sigma.mk.injEq,
              heq_eq_eq, true_and] at hmem
            rcases hmem with hmem | hmem
            · exact ⟨_, hmem, hnew⟩
            · exact ⟨record, hmem, hnames.keep hkeeps⟩
        · intro hat
          rw [hstage] at hat
          cases hat with
          | executed _ hstored => exact .returned run (hstored.keep hkeeps)
  · apply h.elsewhere
    · intro row hmem
      exact hkey (heffect.key_eq hmem)
    · exact heffect.keeps
    · intro other hother
      apply Function.update_of_ne
      rintro rfl
      exact hkey hother

/-- A call that fails keeps the key as it is. -/
theorem Progress.fails
    (h : Progress column sha256 floatText calls key rows stage executed) (error : Failure) :
    Progress column sha256 floatText calls key rows
      (Function.update stage client (.raised error)) executed := by
  cases h with
  | unused hlog hidle hnone =>
      apply Progress.unused hlog
      · intro other hother
        by_cases heq : other = client
        · subst heq
          exact Or.inr ⟨error, Function.update_self _ _ _⟩
        · rw [Function.update_of_ne heq]
          exact hidle other hother
      · exact hnone
  | owned owner howner hlog hpresent howned hothers =>
      apply Progress.owned owner howner hlog hpresent
      · by_cases heq : owner = client
        · subst heq
          rw [Function.update_self]
          exact .raised error executed howned.once
        · rw [Function.update_of_ne heq]
          exact howned
      · intro other hother hotherKey
        by_cases heq : other = client
        · subst heq
          rw [Function.update_self]
          exact .raised error
        · rw [Function.update_of_ne heq]
          exact hothers other hother hotherKey

/-- The execution by the one call that has reserved the key. -/
theorem Progress.executes
    (h : Progress column sha256 floatText calls key rows stage executed)
    (hkey : (calls client).key = key) (hreserved : stage client = .reserved)
    {outcome : Except Failure AIRun} {after : Stage}
    (hexecutes : Executes answers outcome after) :
    executed = [] ∧ Progress column sha256 floatText calls key rows
      (Function.update stage client after) [(client, outcome)] := by
  obtain ⟨hlog, hpresent, howner, hothers⟩ := h.owner_of hkey (by simp [hreserved])
  rw [hreserved] at howner
  cases howner with
  | reserved =>
      refine ⟨rfl, ?_⟩
      apply Progress.owned client hkey
      · intro row hmem
        obtain ⟨record, hrow, hhash, hpending | ⟨run, hexecuted, _⟩⟩ := hlog row hmem
        · exact ⟨record, hrow, hhash, Or.inl hpending⟩
        · cases hexecuted
      · exact hpresent
      · rw [Function.update_self]
        cases hexecutes with
        | run run audit _ => exact .executing run audit
        | failure error => exact .raised error _ (Or.inr ⟨_, rfl⟩)
      · intro other hother hotherKey
        rw [Function.update_of_ne hother]
        have hat := hothers other hother hotherKey
        generalize stage other = at_ at hat
        cases hat with
        | waiting => exact .waiting
        | raised error => exact .raised error
        | returned run stored row _ hexecuted _ _ _ => cases hexecuted

end Steps

section Runs

variable {ι : Type} [DecidableEq ι] {calls : ι → AICall} {key : String}
  {first last : Sys ι Instant Row Failure Session}
  {events : List (Event ι Row Failure Session (Except Failure AIRun))}

/-- What holds in every state of a history: each client makes its own call, the
service answers what it may, and the key has one owner at most. -/
structure Holds (column : FloatColumn) (sha256 : String → String)
    (floatText : Option ℚ → String) (answers : AIRun → Prop) (calls : ι → AICall)
    (key : String) (world : World Instant Row) (state : ι → Session)
    (events : List (Event ι Row Failure Session (Except Failure AIRun))) : Prop where
  calls_eq : ∀ client, (state client).call = calls client
  rolledBack : ∀ client before error, .rolledBack client before error ∈ events →
    before.call = calls client
  answered : ∀ client run, (client, .ok run) ∈ executions key events → answers run
  progress : Progress column sha256 floatText calls key world.rows
    (fun client => (state client).stage) (executions key events)

omit [DecidableEq ι] in
@[simp] theorem executions_append
    (events later : List (Event ι Row Failure Session (Except Failure AIRun))) :
    executions key (events ++ later) = executions key events ++ executions key later :=
  List.filterMap_append

omit [DecidableEq ι] in
@[simp] theorem executions_committed (client : ι) (before after : Session)
    (own : Rows Row) : executions (ι := ι) key [.committed client before after own] = [] :=
  rfl

omit [DecidableEq ι] in
@[simp] theorem executions_rolledBack (client : ι) (before : Session) (error : Failure) :
    executions (ι := ι) key [.rolledBack client before error] = [] := rfl

omit [DecidableEq ι] in
theorem executions_acted (client : ι) (before after : Session)
    (outcome : Except Failure AIRun) :
    executions (ι := ι) key [.acted client before outcome after] =
      if before.call.key = key then [(client, outcome)] else [] := by
  by_cases hkey : before.call.key = key
  · simp [executions, hkey]
  · simp [executions, hkey]

theorem stage_update (state : ι → Session) (client : ι) (after : Session) :
    (fun other => (Function.update state client after other).stage) =
      Function.update (fun other => (state other).stage) client after.stage := by
  funext other
  by_cases heq : other = client
  · subst heq
    simp
  · simp [heq]

theorem call_update {state : ι → Session} {client : ι} {after : Session}
    (hcalls : ∀ other, (state other).call = calls other)
    (hafter : after.call = (state client).call) (other : ι) :
    (Function.update state client after other).call = calls other := by
  by_cases heq : other = client
  · subst heq
    rw [Function.update_self, hafter, hcalls]
  · rw [Function.update_of_ne heq, hcalls]

theorem holds_run (hdistinct : Distinct calls answers)
    (hunused : Key.idempotencyKey key ∉ first.world.rows.keys)
    (hfirst : first = Sys.start first.world fun client => ⟨calls client, .waiting⟩)
    (hrun : Run (flow column sha256 floatText answers) first events last) :
    Holds column sha256 floatText answers calls key last.world last.states events := by
  have hstates : first.states = fun client => ⟨calls client, .waiting⟩ := by
    rw [hfirst]
    rfl
  apply Certificate.run_induction (certificate column sha256 floatText answers)
    (Holds column sha256 floatText answers calls key) _ _ _ _ _ _ hrun
  · rw [hfirst]
    exact Certificate.Good.start _ _ fun client => False.elim
  · rw [hstates]
    constructor
    · intro client
      rfl
    · simp
    · simp [executions]
    · exact .unused hunused (fun client _ => Or.inl rfl) rfl
  · intro world state events client after own _ hdoes h
    constructor
    · exact call_update h.calls_eq hdoes.1
    · intro other before error hmem
      exact h.rolledBack other before error (by simpa using hmem)
    · simpa using h.answered
    · have heffect := hdoes.2
      rw [h.calls_eq client] at heffect
      rw [stage_update]
      simpa using h.progress.commit hdistinct h.answered heffect
  · intro world state events client error _ h
    constructor
    · exact call_update h.calls_eq rfl
    · intro other before raised hmem
      rcases List.mem_append.mp hmem with hold | hnew
      · exact h.rolledBack other before raised hold
      · simp only [List.mem_singleton, Event.rolledBack.injEq] at hnew
        obtain ⟨rfl, rfl, rfl⟩ := hnew
        exact h.calls_eq other
    · simpa using h.answered
    · rw [stage_update, executions_append, executions_rolledBack, List.append_nil]
      exact h.progress.fails error
  · intro world state events client outcome after env _ houtside h
    obtain ⟨hreserved, _, hcall, hexecutes⟩ := houtside
    constructor
    · exact call_update h.calls_eq hcall
    · intro other before error hmem
      exact h.rolledBack other before error (by simpa using hmem)
    · intro other run hmem
      rw [executions_append, executions_acted, h.calls_eq client] at hmem
      rcases List.mem_append.mp hmem with hold | hnew
      · exact h.answered other run hold
      · split at hnew
        · simp only [List.mem_singleton, Prod.mk.injEq] at hnew
          obtain ⟨rfl, rfl⟩ := hnew
          generalize after.stage = reached at hexecutes
          cases hexecutes with
          | run _ _ hanswers => exact hanswers
        · cases hnew
    · rw [stage_update, executions_append, executions_acted, h.calls_eq client]
      by_cases hkey : (calls client).key = key
      · obtain ⟨hnone, hprogress⟩ := h.progress.executes hkey hreserved hexecutes
        rw [hnone, if_pos hkey]
        exact hprogress
      · rw [if_neg hkey, List.append_nil]
        rw [← List.nil_append world.rows]
        apply h.progress.elsewhere
        · simp
        · exact fun _ _ h => h
        · intro other hother
          apply Function.update_of_ne
          rintro rfl
          exact hkey hother
  · intro world state events env _ h
    exact ⟨h.calls_eq, h.rolledBack, h.answered, h.progress⟩

/-- What a rolled back transaction of a call has raised. -/
theorem conflict_of_rolledBack {world : World Instant Row}
    (hrun : Run (flow column sha256 floatText answers)
      (Sys.start world fun client => ⟨calls client, .waiting⟩) events last)
    {client : ι} {before : Session} {error : Failure}
    (hmem : .rolledBack client before error ∈ events) :
    (Bound last.world.rows before.call.key
        (requestHash sha256 floatText before.call) ∨
      ∃ message, error = .idempotencyConflict message) ∨ Failure.infrastructure error := by
  have hgood : (certificate column sha256 floatText answers).Good
      (Sys.start world fun client => (⟨calls client, .waiting⟩ : Session)) :=
    Certificate.Good.start _ _ fun _ => False.elim
  let raises (session : Session) (error : Failure) (world : World Instant Row) : Prop :=
    Bound world.rows session.call.key (requestHash sha256 floatText session.call) ∨
      ∃ message, error = .idempotencyConflict message
  have hfirst : ∀ client : ι, Certificate.Refuses evolution raises world
      (Phase.idle (⟨calls client, .waiting⟩ : Session)) := fun _ => trivial
  apply (hgood.refused _ _ hfirst hrun).2 client before error hmem
  · rintro session error a b hrel (hbound | hconflict)
    · exact Or.inl (hrel.bound _ _ hbound)
    · exact Or.inr hconflict
  · intro session p world hcode hknows
    obtain ⟨body, hbody, rfl⟩ := Option.map_eq_some_iff.mp hcode
    rw [ends_bind]
    cases hstage : session.stage with
    | waiting =>
        rw [hstage] at hbody
        obtain rfl := Option.some.inj hbody
        exact ends_reserve
    | executing run audit =>
        have hbound := hknows (by rw [hstage]; trivial)
        apply ends_of_all
        intro later hlater _
        exact Or.inl (hlater.bound _ _ hbound)
    | executed run =>
        have hbound := hknows (by rw [hstage]; trivial)
        apply ends_of_all
        intro later hlater _
        exact Or.inl (hlater.bound _ _ hbound)
    | _ => simp [hstage, transaction] at hbody

/-- Under one key that no one had used, in every history of calls that interleave,
fail and crash anywhere: the service is executed at most once; a call of another
request does not execute, does not return, and fails with a conflict, or where the
database fails; and a call that returns has what that one execution stored: the
caller of the service the run it was answered, every other what the row is read as. -/
theorem executed_once (column : FloatColumn) (sha256 : String → String)
    (floatText : Option ℚ → String) (answers : AIRun → Prop) (calls : ι → AICall)
    (key : String) (world : World Instant Row)
    (hdistinct : Distinct calls answers)
    (hunused : Key.idempotencyKey key ∉ world.rows.keys)
    (hrun : Run (flow column sha256 floatText answers)
      (Sys.start world fun client => ⟨calls client, .waiting⟩) events last) :
    (executions key events).length ≤ 1 ∧
    (∀ client record, (calls client).key = key →
      last.world.rows.get (Key.idempotencyKey key) = some record →
      record.requestHash ≠ requestHash sha256 floatText (calls client) →
      (∀ outcome, (client, outcome) ∉ executions key events) ∧
      (∀ run, (last.states client).stage ≠ .returned run) ∧
      ∀ before error, .rolledBack client before error ∈ events →
        (∃ message, error = .idempotencyConflict message) ∨
          Failure.infrastructure error) ∧
    ∀ client run, (calls client).key = key →
      (last.states client).stage = .returned run →
      ∃ owner executed row, executions key events = [(owner, .ok executed)] ∧
        AIRunRow.ofRun column executed = .ok row ∧
        last.world.rows.get (Key.aiRun executed.runId) = some row ∧
        if client = owner then run = executed
        else row.toRun column executed.runId = .ok run := by
  have h := holds_run hdistinct hunused rfl hrun
  have hprogress := h.progress
  constructor
  · cases hprogress with
    | unused hlog hidle hnone => simp [hnone]
    | owned owner howner hlog hpresent howned hothers =>
        rcases howned.once with hnone | ⟨outcome, honce⟩
        · simp [hnone]
        · simp [honce]
  constructor
  · intro client record hkey hrecord hdiffers
    cases hprogress with
    | unused hlog hidle hnone => exact absurd (Rows.mem_keys_of_get hrecord) hlog
    | owned owner howner hlog hpresent howned hothers =>
        obtain ⟨found, hfound, hhash, _⟩ := hlog _ (Rows.mem_of_get hrecord)
        obtain rfl := Option.some.inj hfound
        have hne : client ≠ owner := by
          rintro rfl
          exact hdiffers hhash
        refine ⟨?_, ?_, ?_⟩
        · intro outcome hmem
          rcases howned.once with hnone | ⟨only, honce⟩
          · rw [hnone] at hmem
            cases hmem
          · rw [honce] at hmem
            exact hne (Prod.mk.inj (List.mem_singleton.mp hmem)).1
        · intro run hreturned
          have hother := hothers client hne hkey
          rw [hreturned] at hother
          cases hother with
          | returned _ _ _ hsame _ _ _ _ => exact hdiffers (hhash.trans hsame.symm)
        · intro before error hmem
          rcases conflict_of_rolledBack hrun hmem with (hbound | hconflict) | habort
          · rw [h.rolledBack client before error hmem, hkey] at hbound
            obtain ⟨bound, hget, hsame⟩ := hbound
            obtain rfl := Option.some.inj (hrecord.symm.trans hget)
            exact absurd hsame hdiffers
          · exact Or.inl hconflict
          · exact Or.inr habort
  · intro client run hkey hreturned
    cases hprogress with
    | unused hlog hidle hnone =>
        rcases hidle client hkey with hwaiting | ⟨error, hraised⟩
        · rw [hreturned] at hwaiting
          cases hwaiting
        · rw [hreturned] at hraised
          cases hraised
    | owned owner howner hlog hpresent howned hothers =>
        by_cases heq : client = owner
        · subst heq
          rw [hreturned] at howned
          generalize hexecuted : executions key events = executed at howned
          cases howned with
          | returned _ hstored =>
              obtain ⟨row, hrow, hget⟩ := hstored
              exact ⟨client, run, row, rfl, hrow, hget, by rw [if_pos rfl]⟩
        · have hother := hothers client heq hkey
          rw [hreturned] at hother
          cases hother with
          | returned executed _ row _ hexecuted hrow hget hstored =>
              refine ⟨owner, executed, row, ?_, hrow, hget, by rwa [if_neg heq]⟩
              rcases howned.once with hnone | ⟨outcome, honce⟩
              · rw [hnone] at hexecuted
                cases hexecuted
              · rw [honce] at hexecuted ⊢
                rw [List.mem_singleton.mp hexecuted]

end Runs

section Alone

/-- On an unused key the reservation is made. -/
theorem execute_reserve {rows : Rows Row} {now : Instant}
    (hnone : rows.get (Key.idempotencyKey call.key) = none) :
    (reserve column sha256 floatText call).execute now rows [] =
      .ok (.reserved, [⟨Key.idempotencyKey call.key, some ⟨call.key,
        requestHash sha256 floatText call, call.pendingId⟩⟩]) := by
  simp [reserve, Idempotency.reserve, execute_bind, execute_insertNew, hnone]

/-- On a completed key the run of its row is returned. -/
theorem execute_replay {rows : Rows Row} {now : Instant} (record : IdempotencyRecord)
    {row : AIRunRow} {stored : AIRun}
    (hrecord : rows.get (Key.idempotencyKey call.key) = some record)
    (hhash : record.requestHash = requestHash sha256 floatText call)
    (hmine : record.resultRef ≠ call.pendingId)
    (hfinal : PyText.startsWith record.resultRef "pending:" = false)
    (hrow : rows.get (Key.aiRun record.resultRef) = some row)
    (hstored : row.toRun column record.resultRef = .ok stored) :
    (reserve column sha256 floatText call).execute now rows [] =
      .ok (.returned stored, []) := by
  simp [reserve, Idempotency.reserve, Idempotency.get, execute_bind, execute_insertNew,
    hrecord, hhash, hmine, hfinal, require, AIRuns.get, hrow, hstored]

theorem execute_store {rows : Rows Row} {now : Instant} {run : AIRun}
    {audit : AuditRecord} {row : AIRunRow} (hrow : AIRunRow.ofRun column run = .ok row)
    (haudit : audit.new = .ok audit)
    (hnew : rows.get (Key.aiRun run.runId) = none)
    (hlog : rows.get (Key.auditLog audit.auditId) = none) :
    (store column run audit).execute now rows [] = .ok (.executed run,
      [⟨Key.auditLog audit.auditId, some audit⟩, ⟨Key.aiRun run.runId, some row⟩]) := by
  simp [store, AIGateway.store, AIRuns.add, Audits.append, execute_bind, Prog.insert, execute,
    hrow, haudit, hnew, hlog]

theorem execute_complete {rows : Rows Row} {now : Instant} {run : AIRun}
    (record : IdempotencyRecord) (hblank : PyText.blank run.runId = false)
    (hrecord : rows.get (Key.idempotencyKey call.key) = some record)
    (hhash : record.requestHash = requestHash sha256 floatText call)
    (hpending : Idempotency.pending record = true) :
    (complete sha256 floatText call run).execute now rows [] = .ok (.returned run,
      [⟨Key.idempotencyKey call.key, some { record with resultRef := run.runId }⟩,
        ⟨Key.idempotencyKey call.key, some record⟩]) := by
  simp [complete, Idempotency.complete, execute_bind, execute_updateWhere, selectForUpdate,
    execute, hblank, hrecord, hhash, hpending, require]

/-- Steps that are taken one after the other, each while nobody is inside a
transaction. -/
def Alone {ι : Type} [DecidableEq ι] (column : FloatColumn) (sha256 : String → String)
    (floatText : Option ℚ → String) (answers : AIRun → Prop)
    (world : World Instant Row) (state : ι → Session)
    (world' : World Instant Row) (state' : ι → Session) : Prop :=
  ∃ events, Run (flow column sha256 floatText answers) (Sys.start world state) events
    (Sys.start world' state')

variable {ι : Type} [DecidableEq ι] {world' world'' : World Instant Row}
  {state state' state'' : ι → Session}

theorem Alone.trans
    (hbefore : Alone column sha256 floatText answers world state world' state')
    (hafter : Alone column sha256 floatText answers world' state' world'' state'') :
    Alone column sha256 floatText answers world state world'' state'' := by
  obtain ⟨events, hrun⟩ := hbefore
  obtain ⟨later, hrun'⟩ := hafter
  exact ⟨events ++ later, hrun.trans hrun'⟩

theorem alone_transaction (client : ι) {stage after : Stage} {body : Tx Instant Stage}
    {own : Rows Row} (hstate : state client = ⟨call, stage⟩)
    (hbody : transaction column sha256 floatText call stage = some body)
    (hresult : body.execute world.env world.rows [] = .ok (after, own)) :
    Alone column sha256 floatText answers world state
      (world.commit own) (Function.update state client ⟨call, after⟩) := by
  have hcode : (flow column sha256 floatText answers).code (state client) =
      some (body >>= fun stage => Pure.pure ⟨call, stage⟩) := by
    rw [hstate]
    simp [flow, hbody]
  have hresult' : (body >>= fun stage => Pure.pure (⟨call, stage⟩ : Session)).execute
      world.env world.rows [] = .ok (⟨call, after⟩, own) := by
    rw [execute_bind, hresult]
    rfl
  exact ⟨_, run_transaction_start client hcode hresult'⟩

theorem alone_act (client : ι) {run : AIRun} (audit : AuditRecord)
    (hstate : state client = ⟨call, .reserved⟩) (hanswers : answers run) :
    Alone column sha256 floatText answers world state
      world (Function.update state client ⟨call, .executing run audit⟩) := by
  have houtside : (flow column sha256 floatText answers).outside (state client) world.env
      (.ok run) ⟨call, .executing run audit⟩ world.env := by
    rw [hstate]
    exact ⟨rfl, rfl, rfl, .run run audit hanswers⟩
  exact ⟨_, run_act_start client houtside⟩

/-- Two calls of one request, one after the other: the first executes, stores its
run and returns it, and the second returns what the row is read as. -/
theorem run_replayed (calls : ι → AICall) (first second : ι)
    (hne : first ≠ second) {run stored : AIRun} {audit : AuditRecord} {row : AIRunRow}
    (hanswers : answers run) (hkey : (calls second).key = (calls first).key)
    (hhash : requestHash sha256 floatText (calls second) =
      requestHash sha256 floatText (calls first))
    (hother : run.runId ≠ (calls second).pendingId)
    (hblank : PyText.blank run.runId = false)
    (hfinal : PyText.startsWith run.runId "pending:" = false)
    (hrow : AIRunRow.ofRun column run = .ok row)
    (hstored : row.toRun column run.runId = .ok stored)
    (haudit : audit.new = .ok audit) (now : Instant) :
    ∃ events last, Run (flow column sha256 floatText answers)
        (Sys.start (⟨now, []⟩ : World Instant Row) fun client => ⟨calls client, .waiting⟩)
        events last ∧
      (last.states first).stage = .returned run ∧
      (last.states second).stage = .returned stored := by
  let reserved : IdempotencyRecord := ⟨(calls first).key,
    requestHash sha256 floatText (calls first), (calls first).pendingId⟩
  have hreserve : Alone column sha256 floatText answers ⟨now, []⟩
      (fun client => ⟨calls client, .waiting⟩) _ _ :=
    alone_transaction first rfl rfl (execute_reserve rfl)
  have hact := hreserve.trans (alone_act first audit (Function.update_self _ _ _) hanswers)
  have hstore := hact.trans (alone_transaction first (Function.update_self _ _ _) rfl
    (execute_store hrow haudit (by simp) (by simp)))
  have hcomplete := hstore.trans (alone_transaction first (Function.update_self _ _ _) rfl
    (execute_complete reserved hblank (by simp [reserved]) rfl
      (by simp [reserved, Idempotency.pending, AICall.startsWith_pendingId])))
  have hwaiting : ∀ state : ι → Session, state second = ⟨calls second, .waiting⟩ →
      ∀ stage, Function.update state first stage second = ⟨calls second, .waiting⟩ := by
    intro state hstate stage
    rw [Function.update_of_ne hne.symm, hstate]
  obtain ⟨events, hrun⟩ := hcomplete.trans (alone_transaction second
    (hwaiting _ (hwaiting _ (hwaiting _ (hwaiting _ rfl _) _) _) _) rfl
    (execute_replay { reserved with resultRef := run.runId }
      (by rw [hkey]; simp [reserved]) hhash.symm hother hfinal (by simp [reserved]) hstored))
  refine ⟨events, _, hrun, ?_, ?_⟩
  · simp [Sys.states, Sys.start, hne]
  · simp [Sys.states, Sys.start]

end Alone

section Sample

open AIGovernance

/-- Two calls of one request. -/
def sampleCalls (second : Bool) : AICall :=
  ⟨sampleRequest, if second then "uuid-2" else "uuid-1"⟩

/-- A run that has cost less than a column of eight places can hold. -/
def cheapRun : AIRun := { sampleRun "task-1" with cost := 1 / 2 ^ 30 }

/-- What its row is read as. -/
def roundedRun : AIRun := { cheapRun with cost := 0 }

/-- The service that answers this run only. -/
def sampleAnswers (run : AIRun) : Prop := run = cheapRun

def cheapRow : AIRunRow where
  taskId := "task-1"
  providerId := "yandexgpt"
  model := "gpt://folder/yandexgpt/latest"
  modelVersion := "latest"
  promptVersion := "prompt:v1"
  inputRefs := ["identity-1"]
  evidenceRefs := ["evidence-1"]
  output := "bounded output"
  tokens := 10
  cost := 0
  durationSeconds := 10000000

def sampleAudit : AuditRecord where
  auditId := "audit-1"
  actorId := "operator-1"
  action := "ai.run"
  resourceType := "ai_task"
  resourceId := "identity-1"
  outcome := "success"
  occurredAt := 11
  metadata := []
  correlationId := some "corr-1"
  configurationVersion := some "yandexgpt-config:v1"

theorem sampleCalls_distinct : Distinct sampleCalls sampleAnswers where
  references := by decide
  runs := by
    rintro run rfl client
    cases client with
    | false => decide
    | true => decide

theorem cheapRow_eq : AIRunRow.ofRun sampleColumn cheapRun = .ok cheapRow ∧
    cheapRow.toRun sampleColumn "run-1" = .ok roundedRun := by
  decide +kernel

/-- As `json` writes a float that is a whole number. -/
def sampleText (value : Option ℚ) : String :=
  (value.map fun number => toString number.num ++ ".0").getD "Infinity"

theorem sampleCalls_run : ∃ events last,
    Run (flow sampleColumn id sampleText sampleAnswers)
      (Sys.start (⟨10, []⟩ : World Instant Row)
        fun client => ⟨sampleCalls client, .waiting⟩) events last ∧
    (last.states false).stage = .returned cheapRun ∧
    (last.states true).stage = .returned roundedRun :=
  run_replayed sampleCalls false true (by decide)
    (show sampleAnswers cheapRun from rfl) rfl rfl (by decide) (by decide)
    (by decide) cheapRow_eq.1 cheapRow_eq.2
    (show sampleAudit.new = .ok sampleAudit by decide) 10

theorem executed_once_sample : ∃ events last,
    Run (flow sampleColumn id sampleText sampleAnswers)
      (Sys.start (⟨10, []⟩ : World Instant Row)
        fun client => ⟨sampleCalls client, .waiting⟩) events last ∧
    (executions (sampleCalls true).key events).length ≤ 1 ∧
    ∃ owner executed row,
      executions (sampleCalls true).key events = [(owner, .ok executed)] ∧
      AIRunRow.ofRun sampleColumn executed = .ok row ∧
      last.world.rows.get (Key.aiRun executed.runId) = some row ∧
      if true = owner then roundedRun = executed
      else row.toRun sampleColumn executed.runId = .ok roundedRun := by
  obtain ⟨events, last, hrun, _, hsecond⟩ := sampleCalls_run
  have honce := executed_once sampleColumn id sampleText sampleAnswers sampleCalls
    (sampleCalls true).key ⟨10, []⟩ sampleCalls_distinct List.not_mem_nil hrun
  exact ⟨events, last, hrun, honce.1, honce.2.2 true _ rfl hsecond⟩

/-- The call that has executed the service returns a run that is not the one
stored. -/
theorem returned_run_not_stored : ¬ ∀ (column : FloatColumn) (sha256 : String → String)
    (floatText : Option ℚ → String) (answers : AIRun → Prop) (calls : Bool → AICall)
    (key : String) (world : World Instant Row)
    (events : List (Event Bool Row Failure Session (Except Failure AIRun)))
    (last : Sys Bool Instant Row Failure Session),
    Distinct calls answers → Key.idempotencyKey key ∉ world.rows.keys →
    Run (flow column sha256 floatText answers)
      (Sys.start world fun client => ⟨calls client, .waiting⟩) events last →
    ∀ client run, (calls client).key = key →
      (last.states client).stage = .returned run →
      ∃ owner executed row, executions key events = [(owner, .ok executed)] ∧
        last.world.rows.get (Key.aiRun executed.runId) = some row ∧
        row.toRun column executed.runId = .ok run := by
  intro hclaim
  obtain ⟨events, last, hrun, hfirst, hsecond⟩ := sampleCalls_run
  have hstored := hclaim sampleColumn id sampleText sampleAnswers sampleCalls
    (sampleCalls true).key ⟨10, []⟩ events last sampleCalls_distinct List.not_mem_nil hrun
  obtain ⟨_, executed, row, hexecuted, hrow, hread⟩ := hstored false cheapRun rfl hfirst
  obtain ⟨_, executed', row', hexecuted', hrow', hread'⟩ := hstored true _ rfl hsecond
  rw [hexecuted] at hexecuted'
  obtain ⟨_, rfl⟩ : _ ∧ executed = executed' := by simpa using hexecuted'
  obtain rfl := Option.some.inj (hrow.symm.trans hrow')
  rw [hread] at hread'
  exact absurd hread' (by decide +kernel)

end Sample

end IdempotentAIExecutionService

end ShemaPlatform
