/-
Programs run inside one database transaction, statement by statement, under
read-committed isolation.  A statement sees the rows committed when it runs
and the transaction's own writes; a written key stays locked until the end.
-/
import ShemaPlatform.RowStore

namespace ReadCommitted

/-- Committed rows together with whatever else a statement can observe. -/
structure World (E : Type) {K : Type} (V : K → Type) where
  env : E
  rows : Rows V

/-- One transaction body.  `write` looks at the current version of a row: its
edit either leaves the row alone (`none`) or locks it and stores a version. -/
inductive Prog (E : Type) {K : Type} (V : K → Type) (ε ρ : Type) where
  | pure (result : ρ)
  | raise (error : ε)
  | query (next : E → Rows V → Prog E V ε ρ)
  | write (key : K) (edit : Option (V key) → Option (Option (V key)))
      (next : Option (V key) → Prog E V ε ρ)

variable {E K : Type} {V : K → Type} {ε ρ ρ' : Type}

namespace Prog

def bind : Prog E V ε ρ → (ρ → Prog E V ε ρ') → Prog E V ε ρ'
  | .pure result, rest => rest result
  | .raise error, _ => .raise error
  | .query next, rest => .query fun env rows => (next env rows).bind rest
  | .write key edit next, rest =>
      .write key edit fun seen => (next seen).bind rest

instance : Monad (Prog E V ε) where
  pure := Prog.pure
  bind := Prog.bind

@[simp] theorem pure_bind' (result : ρ) (rest : ρ → Prog E V ε ρ') :
    (Pure.pure result >>= rest : Prog E V ε ρ') = rest result := rfl

@[simp] theorem raise_bind (error : ε) (rest : ρ → Prog E V ε ρ') :
    ((raise error : Prog E V ε ρ) >>= rest) = raise error := rfl

theorem bind_assoc' {σ : Type} (p : Prog E V ε ρ)
    (f : ρ → Prog E V ε ρ') (g : ρ' → Prog E V ε σ) :
    (p >>= f) >>= g = p >>= fun result => f result >>= g := by
  induction p with
  | pure result => rfl
  | raise error => rfl
  | query next ih =>
      exact congrArg Prog.query (funext fun env => funext fun rows => ih env rows)
  | write key edit next ih =>
      exact congrArg (Prog.write key edit) (funext fun seen => ih seen)

/-- A computation that does not touch the database. -/
def lift : Except ε ρ → Prog E V ε ρ
  | .ok result => .pure result
  | .error error => .raise error

section Statements

variable [DecidableEq K]

/-- `select … where key = …` -/
def select (key : K) : Prog E V ε (Option (V key)) :=
  .query fun _ rows => .pure (rows.get key)

/-- An observation of something other than the rows, such as the clock. -/
def observe (f : E → ρ) : Prog E V ε ρ :=
  .query fun env _ => .pure (f env)

/-- A select over a whole table. -/
def scan (f : Rows V → ρ) : Prog E V ε ρ :=
  .query fun _ rows => .pure (f rows)

/-- `insert … on conflict do nothing`; the result says whether a row was
inserted. -/
def insertNew (key : K) (row : V key) : Prog E V ε Bool :=
  .write key
    (fun
      | none => some (some row)
      | some _ => none)
    fun seen => .pure seen.isNone

/-- A plain `insert` on a unique key. -/
def insert (key : K) (row : V key) (duplicate : ε) : Prog E V ε Unit :=
  .write key
    (fun
      | none => some (some row)
      | some _ => none)
    fun
      | none => .pure ()
      | some _ => .raise duplicate

/-- `select … for update` -/
def selectForUpdate (key : K) : Prog E V ε (Option (V key)) :=
  .write key (fun seen => seen.map some) .pure

/-- `update … where key = … and …  returning`; `change` carries the rest of
the where clause. -/
def updateWhere (key : K) (change : V key → Option (V key)) :
    Prog E V ε (Option (V key)) :=
  .write key (fun seen => (seen.bind change).map some) fun seen =>
    .pure (seen.bind change)

/-- `insert … on conflict (key) do update set … where …  returning`; `change`
carries the where clause. -/
def upsertWhere (key : K) (row : V key) (change : V key → Option (V key)) :
    Prog E V ε (Option (V key)) :=
  .write key (fun seen => (seen.elim (some row) change).map some) fun seen =>
    .pure (seen.elim (some row) change)

/-- Removal of a row by key; the result is the removed version. -/
def delete (key : K) : Prog E V ε (Option (V key)) :=
  .write key (fun _ => some none) .pure

/-- A statement that always locks and writes its row. -/
def store (key : K) (row : Option (V key) → Option (V key)) :
    Prog E V ε Unit :=
  .write key (fun seen => some (row seen)) fun _ => .pure ()

/-- A lock held to the end of the transaction, whether or not a row exists. -/
def lockKey (key : K) : Prog E V ε Unit :=
  store key id

/-- The transaction run with nothing else in between: its result and the rows
it would commit. -/
def execute (env : E) (committed : Rows V) :
    Prog E V ε ρ → Rows V → Except ε (ρ × Rows V)
  | .pure result, own => .ok (result, own)
  | .raise error, _ => .error error
  | .query next, own => execute env committed (next env (own ++ committed)) own
  | .write key edit next, own =>
      let seen := Rows.get (own ++ committed) key
      match edit seen with
      | none => execute env committed (next seen) own
      | some row => execute env committed (next seen) (⟨key, row⟩ :: own)

theorem execute_bind (env : E) (committed : Rows V) (p : Prog E V ε ρ)
    (rest : ρ → Prog E V ε ρ') (own : Rows V) :
    execute env committed (p >>= rest) own =
      match execute env committed p own with
      | .ok (result, own') => execute env committed (rest result) own'
      | .error error => .error error := by
  induction p generalizing own with
  | pure result => rfl
  | raise error => rfl
  | query next ih => exact ih env (own ++ committed) own
  | write key edit next ih =>
      change execute env committed (.write key edit fun seen =>
        (next seen) >>= rest) own = _
      simp only [execute]
      cases edit (Rows.get (own ++ committed) key) with
      | none => exact ih _ own
      | some row => exact ih _ _

@[simp] theorem execute_select (env : E) (committed own : Rows V) (key : K) :
    (select key : Prog E V ε _).execute env committed own =
      .ok (Rows.get (own ++ committed) key, own) := rfl

@[simp] theorem execute_lift_error (env : E) (committed own : Rows V) (error : ε) :
    (lift (.error error) : Prog E V ε ρ).execute env committed own =
      .error error := rfl

@[simp] theorem execute_lift_ok (env : E) (committed own : Rows V) (result : ρ) :
    (lift (.ok result) : Prog E V ε ρ).execute env committed own =
      .ok (result, own) := rfl

@[simp] theorem execute_pure (env : E) (committed own : Rows V) (result : ρ) :
    (Pure.pure result : Prog E V ε ρ).execute env committed own =
      .ok (result, own) := rfl

theorem execute_observe (env : E) (committed own : Rows V) (f : E → ρ) :
    (observe f : Prog E V ε ρ).execute env committed own = .ok (f env, own) := rfl

theorem execute_scan (env : E) (committed own : Rows V) (f : Rows V → ρ) :
    (scan f : Prog E V ε ρ).execute env committed own =
      .ok (f (own ++ committed), own) := rfl

theorem execute_pure_eq_ok {env : E} {committed own own' : Rows V}
    {result answer : ρ} :
    (Pure.pure answer : Prog E V ε ρ).execute env committed own =
      .ok (result, own') ↔ answer = result ∧ own = own' := by
  simp

theorem execute_bind_eq_ok {env : E} {committed own own' : Rows V}
    {p : Prog E V ε ρ} {rest : ρ → Prog E V ε ρ'} {result : ρ'} :
    (p >>= rest).execute env committed own = .ok (result, own') ↔
      ∃ middle between, p.execute env committed own = .ok (middle, between) ∧
        (rest middle).execute env committed between = .ok (result, own') := by
  rw [execute_bind]
  cases p.execute env committed own with
  | error error => simp
  | ok outcome =>
      obtain ⟨middle, between⟩ := outcome
      simp

theorem execute_lift_eq_ok {env : E} {committed own own' : Rows V}
    {computed : Except ε ρ} {result : ρ} :
    (lift computed : Prog E V ε ρ).execute env committed own =
      .ok (result, own') ↔ computed = .ok result ∧ own = own' := by
  cases computed with
  | ok answer => simp
  | error error => simp

theorem execute_insertNew {env : E} {committed own : Rows V} {key : K}
    (row : V key) :
    (insertNew key row : Prog E V ε Bool).execute env committed own =
      .ok (if (Rows.get (own ++ committed) key).isNone
        then (true, ⟨key, some row⟩ :: own) else (false, own)) := by
  cases hseen : Rows.get (own ++ committed) key with
  | none => simp [insertNew, execute, hseen]
  | some seen => simp [insertNew, execute, hseen]

theorem execute_insert_eq_ok {env : E} {committed own own' : Rows V} {key : K}
    {row : V key} {duplicate : ε} {result : Unit} :
    (insert key row duplicate : Prog E V ε Unit).execute env committed own =
      .ok (result, own') ↔ Rows.get (own ++ committed) key = none ∧
        own' = ⟨key, some row⟩ :: own := by
  cases hseen : Rows.get (own ++ committed) key with
  | none => simp [insert, execute, hseen, eq_comm]
  | some seen => simp [insert, execute, hseen]

theorem execute_updateWhere {env : E} {committed own : Rows V} {key : K}
    (change : V key → Option (V key)) :
    (updateWhere key change : Prog E V ε _).execute env committed own =
      .ok (match (Rows.get (own ++ committed) key).bind change with
        | none => (none, own)
        | some row => (some row, ⟨key, some row⟩ :: own)) := by
  cases hseen : (Rows.get (own ++ committed) key).bind change with
  | none => simp only [updateWhere, execute, hseen, Option.map_none]
  | some row => simp only [updateWhere, execute, hseen, Option.map_some]

theorem execute_upsertWhere {env : E} {committed own : Rows V} {key : K} (row : V key)
    (change : V key → Option (V key)) :
    (upsertWhere key row change : Prog E V ε _).execute env committed own =
      .ok (((Rows.get (own ++ committed) key).elim (some row) change),
        (((Rows.get (own ++ committed) key).elim (some row) change).map
          fun row => ⟨key, some row⟩).toList ++ own) := by
  simp only [upsertWhere, execute]
  cases (Rows.get (own ++ committed) key).elim (some row) change with
  | none => rfl
  | some stored => rfl

@[simp] theorem execute_raise (env : E) (committed own : Rows V) (error : ε) :
    (raise error : Prog E V ε ρ).execute env committed own = .error error := rfl

theorem execute_select_eq_ok {env : E} {committed own own' : Rows V} {key : K}
    {result : Option (V key)} :
    (select key : Prog E V ε _).execute env committed own = .ok (result, own') ↔
      result = Rows.get (own ++ committed) key ∧ own' = own := by
  rw [execute_select, Except.ok.injEq, Prod.mk.injEq, eq_comm, @eq_comm _ own own']

theorem execute_insertNew_eq_ok {env : E} {committed own own' : Rows V} {key : K}
    {row : V key} {inserted : Bool} :
    (insertNew key row : Prog E V ε Bool).execute env committed own =
      .ok (inserted, own') ↔
      (Rows.get (own ++ committed) key = none ∧ inserted = true ∧
        own' = ⟨key, some row⟩ :: own) ∨
      ((∃ existing, Rows.get (own ++ committed) key = some existing) ∧
        inserted = false ∧ own' = own) := by
  rw [execute_insertNew]
  cases Rows.get (own ++ committed) key with
  | none => simp [eq_comm]
  | some existing => simp [eq_comm]

theorem execute_updateWhere_eq_ok {env : E} {committed own own' : Rows V} {key : K}
    {change : V key → Option (V key)} {result : Option (V key)} :
    (updateWhere key change : Prog E V ε _).execute env committed own =
      .ok (result, own') ↔
      ((Rows.get (own ++ committed) key).bind change = none ∧ result = none ∧
        own' = own) ∨
      (∃ row, (Rows.get (own ++ committed) key).bind change = some row ∧
        result = some row ∧ own' = ⟨key, some row⟩ :: own) := by
  rw [execute_updateWhere]
  cases (Rows.get (own ++ committed) key).bind change with
  | none => simp [eq_comm]
  | some row => simp [eq_comm]

theorem execute_selectForUpdate_eq_ok {env : E} {committed own own' : Rows V}
    {key : K} {result : Option (V key)} :
    (selectForUpdate key : Prog E V ε _).execute env committed own =
      .ok (result, own') ↔ result = Rows.get (own ++ committed) key ∧
        own' = (result.map fun row => ⟨key, some row⟩).toList ++ own := by
  simp only [selectForUpdate, execute]
  cases Rows.get (own ++ committed) key with
  | none =>
      simp only [Option.map_none, Except.ok.injEq, Prod.mk.injEq]
      constructor
      · rintro ⟨rfl, rfl⟩
        exact ⟨rfl, rfl⟩
      · rintro ⟨rfl, rfl⟩
        exact ⟨rfl, rfl⟩
  | some row =>
      simp only [Option.map_some, Except.ok.injEq, Prod.mk.injEq]
      constructor
      · rintro ⟨rfl, rfl⟩
        exact ⟨rfl, rfl⟩
      · rintro ⟨rfl, rfl⟩
        exact ⟨rfl, rfl⟩

/-- An update that is refused unless the row there is as required. -/
theorem execute_guarded_eq_ok {env : E} {committed own own' : Rows V} {key : K}
    {guard : V key → Bool} {change : V key → V key} {refused : ε} {result : V key}
    {rest : Option (V key) → Prog E V ε (V key)} (hnone : rest none = raise refused)
    (hsome : ∀ row, rest (some row) = Pure.pure row) :
    (updateWhere key (fun row => if guard row then some (change row) else none) >>=
        rest).execute env committed own = .ok (result, own') ↔
      ∃ row, Rows.get (own ++ committed) key = some row ∧ guard row = true ∧
        result = change row ∧ own' = ⟨key, some result⟩ :: own := by
  rw [execute_bind, execute_updateWhere]
  cases Rows.get (own ++ committed) key with
  | none => simp [hnone]
  | some row =>
      rw [Option.bind_some]
      cases hguard : guard row with
      | false => simp [hguard, hnone]
      | true =>
          simp only [↓reduceIte, hsome, execute_pure, Except.ok.injEq, Prod.mk.injEq,
            Option.some.injEq, exists_eq_left', hguard, true_and]
          constructor
          · rintro ⟨rfl, rfl⟩
            exact ⟨rfl, rfl⟩
          · rintro ⟨rfl, rfl⟩
            exact ⟨rfl, rfl⟩

section Each

variable {ι δ : Type} (key : ι → K) (change : ∀ index, V (key index) → V (key index))
  (reading : ∀ index, V (key index) → δ) (each : List ι → Prog E V ε (List δ))

/-- One update after the other, each of a row of its own: what is read of the rows
and what becomes of them. -/
theorem execute_updateEach [DecidableEq ι] (hkey : Function.Injective key)
    (hnil : each [] = Pure.pure [])
    (hcons : ∀ index rest, each (index :: rest) = (do
      let row ← updateWhere (key index) fun row => some (change index row)
      let more ← each rest
      Pure.pure ((row.map fun row => reading index row).toList ++ more)))
    {env : E} {committed own : Rows V} {indices : List ι} (hnodup : indices.Nodup) :
    ∃ own', (each indices).execute env committed own =
        .ok (indices.filterMap fun index => (Rows.get (own ++ committed) (key index)).map
          fun row => reading index (change index row), own') ∧
      (∀ index, Rows.get (own' ++ committed) (key index) =
        if index ∈ indices then
          (Rows.get (own ++ committed) (key index)).map (change index)
        else Rows.get (own ++ committed) (key index)) ∧
      ∀ other, (∀ index, key index ≠ other) →
        Rows.get (own' ++ committed) other = Rows.get (own ++ committed) other := by
  induction indices generalizing own with
  | nil =>
      rw [hnil]
      exact ⟨own, rfl, fun _ => by simp, fun _ _ => rfl⟩
  | cons first rest ih =>
      obtain ⟨hnew, hnodup⟩ := List.nodup_cons.mp hnodup
      rw [hcons, execute_bind, execute_updateWhere]
      cases hrow : Rows.get (own ++ committed) (key first) with
      | none =>
          obtain ⟨own', hexecute, hrows, hother⟩ := @ih own hnodup
          refine ⟨own', ?_, ?_, hother⟩
          · simp [hrow, execute_bind, hexecute]
          · intro index
            rw [hrows]
            by_cases hfirst : index = first
            · subst hfirst
              simp [hnew, hrow]
            · simp [hfirst]
      | some row =>
          have hself : ∀ index ∈ rest, key first ≠ key index := by
            intro index hindex hsame
            exact hnew (hkey hsame ▸ hindex)
          obtain ⟨own', hexecute, hrows, hother⟩ :=
            @ih (⟨key first, some (change first row)⟩ :: own) hnodup
          have hlist : (rest.filterMap fun index => (Rows.get
                (⟨key first, some (change first row)⟩ :: own ++ committed) (key index)).map
                  fun row => reading index (change index row)) =
              rest.filterMap fun index => (Rows.get (own ++ committed) (key index)).map
                fun row => reading index (change index row) := by
            apply List.filterMap_congr
            intro index hindex
            rw [List.cons_append, Rows.get_cons_ne (hself index hindex)]
          refine ⟨own', ?_, ?_, ?_⟩
          · rw [hlist] at hexecute
            simp [hrow, execute_bind, hexecute]
          · intro index
            rw [hrows, List.cons_append]
            by_cases hfirst : index = first
            · subst hfirst
              simp [hnew, hrow]
            · rw [Rows.get_cons_ne fun hsame => hfirst (hkey hsame).symm]
              simp [hfirst]
          · intro other hne
            rw [hother other hne, List.cons_append, Rows.get_cons_ne (hne first)]

end Each

/-- The whole transaction at one moment: its result and the rows it leaves. -/
def atomically (p : Prog E V ε ρ) (env : E) (rows : Rows V) :
    Except ε (ρ × Rows V) :=
  match p.execute env rows [] with
  | .ok (result, own) => .ok (result, own ++ rows)
  | .error error => .error error

theorem atomically_eq_ok {p : Prog E V ε ρ} {env : E} {rows rows' : Rows V}
    {result : ρ} : p.atomically env rows = .ok (result, rows') ↔
      ∃ own, p.execute env rows [] = .ok (result, own) ∧
        rows' = own ++ rows := by
  unfold atomically
  split
  · rename_i answer own heq
    simp [heq, eq_comm]
  · rename_i error heq
    simp [heq]

/-- The private writes of a body at its end, by a result or by an error. -/
def writes (env : E) (committed : Rows V) : Prog E V ε ρ → Rows V → Rows V
  | .pure _, own => own
  | .raise _, own => own
  | .query next, own => writes env committed (next env (own ++ committed)) own
  | .write key edit next, own =>
      let seen := Rows.get (own ++ committed) key
      match edit seen with
      | none => writes env committed (next seen) own
      | some row => writes env committed (next seen) (⟨key, row⟩ :: own)

theorem writes_bind (p : Prog E V ε ρ) (rest : ρ → Prog E V ε ρ') (env : E)
    (committed own : Rows V) :
    (p >>= rest).writes env committed own =
      match p.execute env committed own with
      | .ok (result, between) => (rest result).writes env committed between
      | .error _ => p.writes env committed own := by
  induction p generalizing own with
  | pure result => rfl
  | raise error => rfl
  | query next ih => exact ih _ _ own
  | write key edit next ih =>
      change writes env committed (.write key edit fun seen => (next seen).bind rest) own = _
      simp only [writes, execute]
      cases edit (Rows.get (own ++ committed) key) with
      | none => exact ih _ own
      | some row => exact ih _ (⟨key, row⟩ :: own)

theorem writes_lift (outcome : Except ε ρ) (env : E) (committed own : Rows V) :
    (lift outcome : Prog E V ε ρ).writes env committed own = own := by
  cases outcome with
  | ok result => rfl
  | error error => rfl

/-- Whether the whole transaction is accepted at this moment. -/
def accepts (p : Prog E V ε ρ) (env : E) (rows : Rows V) : Bool :=
  match p.atomically env rows with
  | .ok _ => true
  | .error _ => false

theorem accepts_eq_true {p : Prog E V ε ρ} {env : E} {rows : Rows V} :
    p.accepts env rows = true ↔
      ∃ result rows', p.atomically env rows = .ok (result, rows') := by
  unfold accepts
  cases p.atomically env rows with
  | error error => simp
  | ok outcome => exact iff_of_true rfl ⟨outcome.1, outcome.2, rfl⟩

/-- A result computed from a transaction's. -/
theorem atomically_map (p : Prog E V ε ρ) (f : ρ → ρ') (env : E) (rows : Rows V) :
    (p >>= fun result => Pure.pure (f result)).atomically env rows =
      match p.atomically env rows with
      | .ok (result, rows') => .ok (f result, rows')
      | .error error => .error error := by
  unfold atomically
  rw [execute_bind]
  cases p.execute env rows [] with
  | error error => rfl
  | ok outcome => rfl

end Statements

section Avoids

/-- No course of the transaction, whatever it reads, raises a bad error. -/
def Avoids (bad : ε → Prop) : Prog E V ε ρ → Prop
  | .pure _ => True
  | .raise error => ¬ bad error
  | .query next => ∀ env rows, (next env rows).Avoids bad
  | .write _ _ next => ∀ seen, (next seen).Avoids bad

variable {bad : ε → Prop}

theorem avoids_bind {p : Prog E V ε ρ} {rest : ρ → Prog E V ε ρ'}
    (hp : p.Avoids bad) (hrest : ∀ result, (rest result).Avoids bad) :
    (p >>= rest).Avoids bad := by
  induction p with
  | pure result => exact hrest result
  | raise error => exact hp
  | query next ih => exact fun env rows => ih env rows (hp env rows)
  | write key edit next ih => exact fun seen => ih seen (hp seen)

theorem avoids_lift {x : Except ε ρ} (hx : ∀ error, x = .error error → ¬ bad error) :
    (lift x : Prog E V ε ρ).Avoids bad := by
  cases x with
  | ok result => trivial
  | error error => exact hx error rfl

theorem avoids_select [DecidableEq K] (key : K) :
    (select key : Prog E V ε (Option (V key))).Avoids bad :=
  fun _ _ => trivial

theorem Avoids.execute [DecidableEq K] {p : Prog E V ε ρ} (hp : p.Avoids bad)
    {env : E} {committed own : Rows V} {error : ε}
    (hrun : p.execute env committed own = .error error) : ¬ bad error := by
  induction p generalizing own with
  | pure result => simp [Prog.execute] at hrun
  | raise raised =>
      obtain rfl := Except.error.inj hrun
      exact hp
  | query next ih => exact ih _ _ (hp _ _) hrun
  | write key edit next ih =>
      simp only [Prog.execute] at hrun
      split at hrun
      · exact ih _ (hp _) hrun
      · exact ih _ (hp _) hrun

end Avoids

end Prog

end ReadCommitted
