/-
The two stores of idempotency records answer alike, and a result that was once
given is given to every later call.
-/
import Mathlib.Logic.Function.Basic
import ShemaPlatform.Communication
import ShemaPlatform.IdempotencyStore

namespace ShemaPlatform

open ReadCommitted ReadCommitted.Prog

namespace IdempotencyCall

/-- What the store is for: the record of each key. -/
abbrev Ledger := String → Option IdempotencyRecord

def reused : IdempotencyAnswer :=
  .error (.idempotencyConflict "idempotency key reused with different request")

/-- A result that stays. -/
def Final (record : IdempotencyRecord) : Prop :=
  record.resultRef ≠ "" ∧ PyText.startsWith record.resultRef "pending:" = false

instance (record : IdempotencyRecord) : Decidable (Final record) :=
  inferInstanceAs (Decidable (_ ∧ _))

def onLedger (ledger : Ledger) : IdempotencyCall → IdempotencyAnswer × Ledger
  | .reserve key requestHash resultRef =>
      match ledger key with
      | none => (.ok (some ⟨key, requestHash, resultRef⟩),
          Function.update ledger key (some ⟨key, requestHash, resultRef⟩))
      | some existing =>
          if existing.requestHash = requestHash then (.ok (some existing), ledger)
          else (reused, ledger)
  | .complete key requestHash resultRef =>
      match ledger key with
      | none => (.error (.idempotencyConflict
          "idempotency completion has no reservation"), ledger)
      | some existing =>
          if existing.requestHash = requestHash then
            if Final existing then (.ok (some existing), ledger)
            else (.ok (some ⟨key, requestHash, resultRef⟩),
              Function.update ledger key (some ⟨key, requestHash, resultRef⟩))
          else (reused, ledger)
  | .get key => (.ok (ledger key), ledger)

section Ledger

variable {ledger : Ledger} {call : IdempotencyCall} {record : IdempotencyRecord}
  {key requestHash resultRef : String}

/-- A call with another hash than the record's. -/
theorem onLedger_reused (hrecord : ledger call.key = some record)
    (hhash : ∀ requestHash ∈ call.requestHash, record.requestHash ≠ requestHash)
    (hsome : call.requestHash ≠ none) : onLedger ledger call = (reused, ledger) := by
  cases call with
  | reserve key requestHash resultRef =>
      have hne := hhash requestHash rfl
      change ledger key = some record at hrecord
      simp [onLedger, hrecord, hne]
  | complete key requestHash resultRef =>
      have hne := hhash requestHash rfl
      change ledger key = some record at hrecord
      simp [onLedger, hrecord, hne]
  | get key => exact absurd rfl hsome

/-- A call with the hash of a final record, or with none. -/
theorem onLedger_final (hrecord : ledger call.key = some record) (hfinal : Final record)
    (hhash : ∀ requestHash ∈ call.requestHash, record.requestHash = requestHash) :
    onLedger ledger call = (.ok (some record), ledger) := by
  cases call with
  | reserve key requestHash resultRef =>
      have heq := hhash requestHash rfl
      change ledger key = some record at hrecord
      simp [onLedger, hrecord, heq]
  | complete key requestHash resultRef =>
      have heq := hhash requestHash rfl
      change ledger key = some record at hrecord
      simp [onLedger, hrecord, heq, hfinal]
  | get key =>
      change ledger key = some record at hrecord
      simp [onLedger, hrecord]

/-- No call touches the record of another key. -/
theorem onLedger_other (hother : call.key ≠ key) : (onLedger ledger call).2 key = ledger key := by
  cases call with
  | reserve called requestHash resultRef =>
      change called ≠ key at hother
      simp only [onLedger]
      split
      · exact Function.update_of_ne (Ne.symm hother) _ _
      · split
        · rfl
        · rfl
  | complete called requestHash resultRef =>
      change called ≠ key at hother
      simp only [onLedger]
      split
      · rfl
      · split
        · split
          · rfl
          · exact Function.update_of_ne (Ne.symm hother) _ _
        · rfl
  | get called => rfl

/-- A final record stays. -/
theorem final_kept (hrecord : ledger key = some record) (hfinal : Final record) :
    (onLedger ledger call).2 key = some record := by
  by_cases hkey : call.key = key
  · by_cases hhash : ∀ requestHash ∈ call.requestHash, record.requestHash = requestHash
    · rw [onLedger_final (hkey.symm ▸ hrecord) hfinal hhash]
      exact hrecord
    · rw [onLedger_reused (hkey.symm ▸ hrecord)]
      · exact hrecord
      · intro requestHash hmem hsame
        apply hhash
        intro other hother
        rw [Option.mem_unique hother hmem]
        exact hsame
      · intro hnone
        apply hhash
        intro requestHash hmem
        rw [hnone] at hmem
        cases hmem
  · rw [onLedger_other hkey]
    exact hrecord

/-- A completion that returns a record has made it final. -/
theorem complete_final (hadmitted : Admitted (.complete key requestHash resultRef))
    (hanswer : (onLedger ledger (.complete key requestHash resultRef)).1 = .ok (some record)) :
    (onLedger ledger (.complete key requestHash resultRef)).2 key = some record ∧
      Final record ∧ record.requestHash = requestHash := by
  obtain ⟨_, hblank, hpending⟩ := hadmitted
  simp only [onLedger] at hanswer ⊢
  cases hexisting : ledger key with
  | none =>
      rw [hexisting] at hanswer
      cases hanswer
  | some existing =>
      simp only [hexisting] at hanswer ⊢
      by_cases hhash : existing.requestHash = requestHash
      · rw [if_pos hhash] at hanswer ⊢
        by_cases hfinal : Final existing
        · rw [if_pos hfinal] at hanswer ⊢
          obtain rfl := Option.some.inj (Except.ok.inj hanswer)
          exact ⟨hexisting, hfinal, hhash⟩
        · rw [if_neg hfinal] at hanswer ⊢
          obtain rfl := Option.some.inj (Except.ok.inj hanswer)
          refine ⟨Function.update_self _ _ _, ⟨?_, hpending⟩, rfl⟩
          rintro hempty
          change resultRef = "" at hempty
          rw [hempty] at hblank
          exact absurd hblank (by decide)
      · rw [if_neg hhash] at hanswer
        cases hanswer

end Ledger

section Store

variable {store : IdempotencyStore} {key other : String} {record : IdempotencyRecord}

theorem get_set : (store.set key record).get other =
    if key = other then some record else store.get other := by
  by_cases hother : key = other
  · subst hother
    simp [IdempotencyStore.get, IdempotencyStore.set]
  · rw [if_neg hother, IdempotencyStore.get, IdempotencyStore.set,
      List.find?_cons_of_neg (by simpa using hother), IdempotencyStore.get, List.find?_filter]
    congr 2
    funext entry
    by_cases hentry : entry.1 = other
    · simp [hentry, Ne.symm hother]
    · simp [hentry]

/-- The store keeps the record of each key. -/
def StoreKeeps (store : IdempotencyStore) (ledger : Ledger) : Prop :=
  ∀ key, store.get key = ledger key

theorem StoreKeeps.set {ledger : Ledger} (hkeeps : StoreKeeps store ledger) (key : String)
    (record : IdempotencyRecord) :
    StoreKeeps (store.set key record) (Function.update ledger key (some record)) := by
  intro other
  rw [get_set]
  by_cases hother : key = other
  · subst hother
    rw [if_pos rfl, Function.update_self]
  · rw [if_neg hother, Function.update_of_ne (Ne.symm hother)]
    exact hkeeps other

theorem store_simulates : AnswerRun.Simulates onStore onLedger StoreKeeps Admitted := by
  have hboth : ∀ {store : IdempotencyStore} {ledger : Ledger} (call : IdempotencyCall),
      StoreKeeps store ledger → (onStore store call).1 = (onLedger ledger call).1 ∧
        StoreKeeps (onStore store call).2 (onLedger ledger call).2 := by
    intro store ledger call hkeeps
    cases call with
    | reserve key requestHash resultRef =>
        simp only [onStore, onLedger, IdempotencyStore.reserve, hkeeps key]
        cases ledger key with
        | none => exact ⟨rfl, hkeeps.set _ _⟩
        | some existing =>
            by_cases hhash : existing.requestHash = requestHash
            · simpa [hhash] using ⟨rfl, hkeeps⟩
            · simpa [hhash] using ⟨rfl, hkeeps⟩
    | complete key requestHash resultRef =>
        simp only [onStore, onLedger, IdempotencyStore.complete, hkeeps key]
        cases ledger key with
        | none => exact ⟨rfl, hkeeps⟩
        | some existing =>
            dsimp only
            by_cases hhash : existing.requestHash = requestHash
            · rw [if_neg (fun hne : existing.requestHash ≠ requestHash => hne hhash),
                if_pos hhash]
              by_cases hfinal : Final existing
              · rw [if_pos hfinal]
                dsimp only [Final] at hfinal
                rw [if_pos hfinal]
                exact ⟨rfl, hkeeps⟩
              · rw [if_neg hfinal]
                dsimp only [Final] at hfinal
                rw [if_neg hfinal]
                exact ⟨rfl, hkeeps.set _ _⟩
            · rw [if_pos hhash, if_neg hhash]
              exact ⟨rfl, hkeeps⟩
    | get key => exact ⟨congrArg Except.ok (hkeeps key), hkeeps⟩
  exact ⟨fun hkeeps _ => (hboth _ hkeeps).1, fun hkeeps _ => (hboth _ hkeeps).2⟩

theorem onStore_unchanged {call : IdempotencyCall} {error : Failure}
    (herror : (onStore store call).1 = .error error) : (onStore store call).2 = store := by
  cases call with
  | reserve key requestHash resultRef =>
      simp only [onStore, IdempotencyStore.reserve] at herror ⊢
      cases hexisting : store.get key with
      | none =>
          rw [hexisting] at herror
          cases herror
      | some existing =>
          by_cases hhash : existing.requestHash = requestHash
          · simp [hhash]
          · simp [hhash]
  | complete key requestHash resultRef =>
      simp only [onStore, IdempotencyStore.complete] at herror ⊢
      cases hexisting : store.get key with
      | none => rfl
      | some existing =>
          simp only [hexisting] at herror ⊢
          split
          · rfl
          · rename_i hhash
            rw [if_neg hhash] at herror
            split at herror
            · rename_i hfinal
              rw [if_pos hfinal]
            · cases herror
  | get key => rfl

end Store

section Table

variable {rows : Rows Row} {ledger : Ledger}

/-- The table keeps the record of each key, under that key. -/
structure TableKeeps (rows : Rows Row) (ledger : Ledger) : Prop where
  rows : ∀ key, rows.get (Key.idempotencyKey key) = ledger key
  keyed : ∀ {key record}, ledger key = some record → record.key = key

theorem TableKeeps.update (hkeeps : TableKeeps rows ledger) {rows' : Rows Row}
    (record : IdempotencyRecord)
    (hself : rows'.get (Key.idempotencyKey record.key) = some record)
    (hother : ∀ key, record.key ≠ key →
      rows'.get (Key.idempotencyKey key) = rows.get (Key.idempotencyKey key)) :
    TableKeeps rows' (Function.update ledger record.key (some record)) := by
  constructor
  · intro key
    by_cases hkey : record.key = key
    · subst hkey
      rw [Function.update_self]
      exact hself
    · rw [Function.update_of_ne (Ne.symm hkey), hother key hkey]
      exact hkeeps.rows key
  · intro key found hfound
    by_cases hkey : record.key = key
    · subst hkey
      rw [Function.update_self] at hfound
      rw [Option.some.inj hfound]
    · rw [Function.update_of_ne (Ne.symm hkey)] at hfound
      exact hkeeps.keyed hfound

theorem reserve_execute (key requestHash resultRef : String) :
    (Idempotency.reserve key requestHash resultRef).execute () rows [] =
      match rows.get (Key.idempotencyKey key) with
      | none => .ok (⟨key, requestHash, resultRef⟩,
          [⟨Key.idempotencyKey key, some ⟨key, requestHash, resultRef⟩⟩])
      | some existing =>
          if existing.requestHash = requestHash then .ok (existing, [])
          else .error (.idempotencyConflict
            "idempotency key reused with different request") := by
  cases hexisting : rows.get (Key.idempotencyKey key) with
  | none => simp [Idempotency.reserve, execute_bind, execute_insertNew, hexisting]
  | some existing =>
      by_cases hhash : existing.requestHash = requestHash
      · simp [Idempotency.reserve, Idempotency.get, execute_bind, execute_insertNew, hexisting,
          hhash, require]
      · simp [Idempotency.reserve, Idempotency.get, execute_bind, execute_insertNew, hexisting,
          hhash, require]

theorem complete_execute {resultRef : String} (hblank : PyText.blank resultRef = false)
    (key requestHash : String) :
    (Idempotency.complete key requestHash resultRef).execute () rows [] =
      match rows.get (Key.idempotencyKey key) with
      | none => .error (.idempotencyConflict "idempotency completion has no reservation")
      | some existing =>
          if existing.requestHash = requestHash then
            if Final existing then
              .ok (existing, [⟨Key.idempotencyKey key, some existing⟩])
            else
              .ok ({ existing with resultRef },
                [⟨Key.idempotencyKey key, some { existing with resultRef }⟩,
                  ⟨Key.idempotencyKey key, some existing⟩])
          else .error (.idempotencyConflict
            "idempotency key reused with different request") := by
  have hlocked : (selectForUpdate (Key.idempotencyKey key) : Tx Unit _).execute () rows [] =
      .ok (rows.get (Key.idempotencyKey key),
        ((rows.get (Key.idempotencyKey key)).map fun row =>
          ⟨Key.idempotencyKey key, some row⟩).toList) := by
    rw [execute_selectForUpdate_eq_ok]
    simp
  simp only [Idempotency.complete, execute_bind, hblank, Bool.not_false, require, if_true,
    execute_lift_ok, hlocked]
  cases hexisting : rows.get (Key.idempotencyKey key) with
  | none => rfl
  | some existing =>
      dsimp only
      by_cases hhash : existing.requestHash = requestHash
      · rw [if_pos hhash]
        by_cases hfinal : Final existing
        · have hpending : Idempotency.pending existing = false := by
            rw [Idempotency.pending, hfinal.2, Bool.or_false]
            exact beq_eq_false_iff_ne.mpr hfinal.1
          simp [execute_bind, hhash, hfinal, hpending]
        · have hpending : Idempotency.pending existing = true := by
            by_contra hnot
            apply hfinal
            rw [Bool.not_eq_true, Idempotency.pending, Bool.or_eq_false_iff] at hnot
            exact ⟨beq_eq_false_iff_ne.mp hnot.1, hnot.2⟩
          simp [execute_bind, execute_updateWhere, hhash, hfinal, hpending]
      · rw [if_neg hhash]
        simp [execute_bind, hhash]

theorem table_simulates : AnswerRun.Simulates onTable onLedger TableKeeps Admitted := by
  have hboth : ∀ {rows : Rows Row} {ledger : Ledger} (call : IdempotencyCall),
      TableKeeps rows ledger → Admitted call →
        (onTable rows call).1 = (onLedger ledger call).1 ∧
          TableKeeps (onTable rows call).2 (onLedger ledger call).2 := by
    intro rows ledger call hkeeps hadmitted
    cases call with
    | reserve key requestHash resultRef =>
        have hrow := hkeeps.rows key
        simp only [onTable, statements, atomically, execute_bind, reserve_execute, onLedger,
          hrow]
        cases ledger key with
        | none =>
            refine ⟨rfl, hkeeps.update ⟨key, requestHash, resultRef⟩
              (Rows.get_cons_self _ _ _) ?_⟩
            intro other hother
            exact Rows.get_cons_ne (by simpa using hother) _ _
        | some existing =>
            dsimp only
            by_cases hhash : existing.requestHash = requestHash
            · rw [if_pos hhash, if_pos hhash]
              exact ⟨rfl, hkeeps⟩
            · rw [if_neg hhash, if_neg hhash]
              exact ⟨rfl, hkeeps⟩
    | complete key requestHash resultRef =>
        have hrow := hkeeps.rows key
        simp only [onTable, statements, atomically, execute_bind,
          complete_execute hadmitted.2.1, onLedger, hrow]
        cases hexisting : ledger key with
        | none => exact ⟨rfl, hkeeps⟩
        | some existing =>
            dsimp only
            have hsame : ∀ {own : Rows Row}, (∀ entry ∈ own,
                entry.1 = Key.idempotencyKey key) → ∀ other, key ≠ other →
                Rows.get (own ++ rows) (Key.idempotencyKey other) =
                  rows.get (Key.idempotencyKey other) := by
              intro own hown other hother
              apply Rows.get_append_of_not_mem
              intro hmem
              obtain ⟨entry, hentry, hkey⟩ := List.mem_map.mp hmem
              rw [hown entry hentry] at hkey
              exact hother (Key.idempotencyKey.inj hkey)
            by_cases hhash : existing.requestHash = requestHash
            · rw [if_pos hhash, if_pos hhash]
              by_cases hfinal : Final existing
              · rw [if_pos hfinal, if_pos hfinal]
                refine ⟨rfl, ⟨?_, hkeeps.keyed⟩⟩
                intro other
                by_cases hother : key = other
                · subst hother
                  exact (Rows.get_cons_self _ _ _).trans hexisting.symm
                · exact (hsame (by simp) other hother).trans (hkeeps.rows other)
              · rw [if_neg hfinal, if_neg hfinal]
                have hnew : { existing with resultRef } =
                    (⟨key, requestHash, resultRef⟩ : IdempotencyRecord) := by
                  rw [← hkeeps.keyed hexisting, ← hhash]
                rw [hnew]
                refine ⟨rfl, hkeeps.update ⟨key, requestHash, resultRef⟩
                  (Rows.get_cons_self _ _ _) ?_⟩
                intro other hother
                exact hsame (by simp) other hother
            · rw [if_neg hhash, if_neg hhash]
              exact ⟨rfl, hkeeps⟩
    | get key => exact ⟨congrArg Except.ok (hkeeps.rows key), hkeeps⟩
  exact ⟨fun hkeeps hadmitted => (hboth _ hkeeps hadmitted).1,
    fun hkeeps hadmitted => (hboth _ hkeeps hadmitted).2⟩

theorem onTable_unchanged {call : IdempotencyCall} {error : Failure}
    (herror : (onTable rows call).1 = .error error) : (onTable rows call).2 = rows := by
  simp only [onTable] at herror ⊢
  cases hrun : call.statements.atomically () rows with
  | error raised => rfl
  | ok outcome =>
      rw [hrun] at herror
      cases herror

end Table

section WriteOnce

open AnswerRun

/-- Once a completion has returned a record, every later call with its hash
returns that record; at any time, a call with another hash than that of the
record is refused and changes nothing. -/
structure WriteOnce {S : Type} (answer : S → IdempotencyCall → IdempotencyAnswer × S)
    (start : S) (calls : List IdempotencyCall) : Prop where
  settled : ∀ before key requestHash resultRef between later rest record,
    calls = before ++ .complete key requestHash resultRef :: between ++ later :: rest →
      (answer (state answer start before) (.complete key requestHash resultRef)).1 =
        .ok (some record) →
      later.key = key → (∀ hash ∈ later.requestHash, hash = requestHash) →
        (answer (state answer start
          (before ++ .complete key requestHash resultRef :: between)) later).1 =
            .ok (some record)
  refused : ∀ before later rest record hash, calls = before ++ later :: rest →
    (answer (state answer start before) (.get later.key)).1 = .ok (some record) →
      later.requestHash = some hash → hash ≠ record.requestHash →
        answer (state answer start before) later = (reused, state answer start before)

variable {S : Type} {answer : S → IdempotencyCall → IdempotencyAnswer × S}
  {related : S → Ledger → Prop} {start : S} {ledger : Ledger} {calls : List IdempotencyCall}

/-- What simulates the ledger and changes nothing when it refuses is write-once. -/
theorem writeOnce_of_simulates (simulates : Simulates answer onLedger related Admitted)
    (hunchanged : ∀ {state call error}, (answer state call).1 = .error error →
      (answer state call).2 = state)
    (hstart : related start ledger) (hadmitted : ∀ call ∈ calls, Admitted call) :
    WriteOnce answer start calls := by
  constructor
  · intro before key requestHash resultRef between later rest record hcalls hanswer hkey hhash
    have hmem : ∀ call ∈ before ++ .complete key requestHash resultRef :: between ++ [later],
        Admitted call := by
      intro call hcall
      apply hadmitted
      rw [hcalls]
      simp only [List.mem_append, List.mem_cons, List.not_mem_nil, or_false] at hcall ⊢
      tauto
    have hbefore : ∀ call ∈ before, Admitted call := fun call hcall => hmem call (by simp [hcall])
    have hcomplete := hmem (.complete key requestHash resultRef) (by simp)
    have hlater := hmem later (by simp)
    have hupto : ∀ call ∈ before ++ .complete key requestHash resultRef :: between,
        Admitted call := fun call hcall => hmem call (List.mem_append_left _ hcall)
    rw [simulates.same (simulates.related_state hstart hbefore) hcomplete] at hanswer
    obtain ⟨hrecord, hfinal, hsame⟩ := complete_final hcomplete hanswer
    have hkept : (state onLedger ledger
        (before ++ .complete key requestHash resultRef :: between)) key = some record := by
      rw [state_append]
      exact @state_of_step _ _ _ onLedger _ between (fun ledger => ledger key = some record)
        (fun _ => True) (fun hrecord _ => final_kept hrecord hfinal) hrecord
        fun _ _ => trivial
    rw [simulates.same (simulates.related_state hstart hupto) hlater,
      onLedger_final (by rw [hkey]; exact hkept) hfinal]
    intro hash hmem
    rw [hhash hash hmem]
    exact hsame
  · intro before later rest record hash hcalls hget hhash hne
    have hbefore : ∀ call ∈ before, Admitted call := by
      intro call hcall
      apply hadmitted
      rw [hcalls]
      exact List.mem_append_left _ hcall
    have hlater : Admitted later := by
      apply hadmitted
      rw [hcalls]
      simp
    have hrelated := simulates.related_state hstart hbefore
    have hadmittedGet : Admitted (.get later.key) := trivial
    rw [simulates.same hrelated hadmittedGet] at hget
    have hrefused : (answer (state answer start before) later).1 = reused := by
      rw [simulates.same hrelated hlater, onLedger_reused (Except.ok.inj hget)]
      · intro other hother hsame
        rw [hhash, Option.mem_some_iff] at hother
        exact hne (hother.trans hsame.symm)
      · rw [hhash]
        simp
    exact Prod.ext hrefused (hunchanged hrefused)

end WriteOnce

end IdempotencyCall

end ShemaPlatform
