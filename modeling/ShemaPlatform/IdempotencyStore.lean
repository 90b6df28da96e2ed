/-
The store of idempotency records, in memory and as a table: a result that was
once given stays.
-/
import ShemaPlatform.AnswerRun
import ShemaPlatform.Repositories

namespace ShemaPlatform

open ReadCommitted ReadCommitted.Prog

/-- What a call returns: the record, or for a key without one nothing. -/
abbrev IdempotencyAnswer := Except Failure (Option IdempotencyRecord)

/-- The records of the store in memory, by key. -/
abbrev IdempotencyStore := List (String × IdempotencyRecord)

namespace IdempotencyStore

def get (store : IdempotencyStore) (key : String) : Option IdempotencyRecord :=
  (store.find? fun entry => entry.1 == key).map Prod.snd

/-- `self._records[key] = record` -/
def set (store : IdempotencyStore) (key : String) (record : IdempotencyRecord) :
    IdempotencyStore :=
  (key, record) :: store.filter fun entry => entry.1 != key

def reserve (store : IdempotencyStore) (key requestHash resultRef : String) :
    Except Failure IdempotencyRecord × IdempotencyStore :=
  match store.get key with
  | some existing =>
      if existing.requestHash ≠ requestHash then
        (.error (.idempotencyConflict "idempotency key reused with different request"), store)
      else (.ok existing, store)
  | none =>
      let record : IdempotencyRecord := ⟨key, requestHash, resultRef⟩
      (.ok record, store.set key record)

def complete (store : IdempotencyStore) (key requestHash resultRef : String) :
    Except Failure IdempotencyRecord × IdempotencyStore :=
  match store.get key with
  | none =>
      (.error (.idempotencyConflict "idempotency completion has no reservation"), store)
  | some existing =>
      if existing.requestHash ≠ requestHash then
        (.error (.idempotencyConflict "idempotency key reused with different request"), store)
      else if existing.resultRef ≠ "" ∧
          PyText.startsWith existing.resultRef "pending:" = false then
        (.ok existing, store)
      else
        let record : IdempotencyRecord := ⟨key, requestHash, resultRef⟩
        (.ok record, store.set key record)

end IdempotencyStore

inductive IdempotencyCall where
  | reserve (key requestHash resultRef : String)
  | complete (key requestHash resultRef : String)
  | get (key : String)

namespace IdempotencyCall

def key : IdempotencyCall → String
  | .reserve key _ _ => key
  | .complete key _ _ => key
  | .get key => key

/-- The request hash of a call that has one. -/
def requestHash : IdempotencyCall → Option String
  | .reserve _ requestHash _ => some requestHash
  | .complete _ requestHash _ => some requestHash
  | .get _ => none

/-- Hashes and references are not blank, and no result is called pending. -/
def Admitted : IdempotencyCall → Prop
  | .reserve _ requestHash resultRef =>
      PyText.blank requestHash = false ∧ PyText.blank resultRef = false
  | .complete _ requestHash resultRef =>
      PyText.blank requestHash = false ∧ PyText.blank resultRef = false ∧
        PyText.startsWith resultRef "pending:" = false
  | .get _ => True

/-- The call on the store in memory. -/
def onStore (store : IdempotencyStore) (call : IdempotencyCall) :
    IdempotencyAnswer × IdempotencyStore :=
  match call with
  | .reserve key requestHash resultRef =>
      let (record, store) := store.reserve key requestHash resultRef
      (record.map some, store)
  | .complete key requestHash resultRef =>
      let (record, store) := store.complete key requestHash resultRef
      (record.map some, store)
  | .get key => (.ok (store.get key), store)

/-- The statements of the call on the table. -/
def statements : IdempotencyCall → Tx Unit (Option IdempotencyRecord)
  | .reserve key requestHash resultRef => do
      let record ← Idempotency.reserve key requestHash resultRef
      return some record
  | .complete key requestHash resultRef => do
      let record ← Idempotency.complete key requestHash resultRef
      return some record
  | .get key => Idempotency.get key

/-- The call in a transaction of its own. -/
def onTable (rows : Rows Row) (call : IdempotencyCall) : IdempotencyAnswer × Rows Row :=
  match call.statements.atomically () rows with
  | .ok (record, rows) => (.ok record, rows)
  | .error error => (.error error, rows)

end IdempotencyCall

end ShemaPlatform
