/-
Reasoning about one transaction while others commit.  The others are known
only through an evolution relation on worlds and through the locks this
transaction holds; what is proved from that survives every interleaving.
-/
import ShemaPlatform.Transaction

namespace ReadCommitted

variable {E K : Type} {V : K → Type} {ε ρ ρ' : Type}

/-- Commit a transaction's private writes. -/
def World.commit (world : World E V) (own : Rows V) : World E V :=
  ⟨world.env, own ++ world.rows⟩

@[simp] theorem World.commit_env (world : World E V) (own : Rows V) :
    (world.commit own).env = world.env := rfl

@[simp] theorem World.commit_rows (world : World E V) (own : Rows V) :
    (world.commit own).rows = own ++ world.rows := rfl

/-- How the shared world may develop: a preorder, so that any number of
commits of other transactions counts as one development. -/
structure Evolution (E : Type) {K : Type} (V : K → Type) where
  rel : World E V → World E V → Prop
  refl : ∀ world, rel world world
  trans : ∀ {a b c}, rel a b → rel b c → rel a c

variable [DecidableEq K]

/-- What other transactions may do between two statements of one that holds
the listed locks. -/
structure Meanwhile (evolution : Evolution E V) (held : List K)
    (before after : World E V) : Prop where
  evolved : evolution.rel before after
  locked : ∀ key ∈ held, after.rows.get key = before.rows.get key

theorem Meanwhile.refl (evolution : Evolution E V) (held : List K)
    (world : World E V) : Meanwhile evolution held world world :=
  ⟨evolution.refl world, fun _ _ => rfl⟩

theorem Meanwhile.trans {evolution : Evolution E V} {held : List K}
    {a b c : World E V} (hab : Meanwhile evolution held a b)
    (hbc : Meanwhile evolution held b c) : Meanwhile evolution held a c :=
  ⟨evolution.trans hab.evolved hbc.evolved, fun key hkey =>
    (hbc.locked key hkey).trans (hab.locked key hkey)⟩

theorem Meanwhile.weaken {evolution : Evolution E V} {held fewer : List K}
    {before after : World E V} (h : Meanwhile evolution held before after)
    (hsub : ∀ key ∈ fewer, key ∈ held) :
    Meanwhile evolution fewer before after :=
  ⟨h.evolved, fun key hkey => h.locked key (hsub key hkey)⟩

namespace Prog

/-- What a transaction body establishes at the world it commits into.  Each
statement that takes a lock may be read as running right there, since its row
cannot change any more; a plain read saw some earlier world, and so did a
write that left its row alone.  A raised error needs nothing: the transaction
leaves no trace. -/
def atCommit (evolution : Evolution E V) :
    Prog E V ε ρ → (ρ → Rows V → World E V → Prop) → Rows V → World E V → Prop
  | .pure result, post, own, world => post result own world
  | .raise _, _, _, _ => True
  | .query next, post, own, world =>
      ∀ earlier, Meanwhile evolution own.keys earlier world →
        atCommit evolution (next earlier.env (own ++ earlier.rows)) post own world
  | .write key edit next, post, own, world =>
      (∀ earlier, Meanwhile evolution own.keys earlier world →
        edit (Rows.get (own ++ earlier.rows) key) = none →
        atCommit evolution (next (Rows.get (own ++ earlier.rows) key)) post
          own world) ∧
      (∀ row, edit (Rows.get (own ++ world.rows) key) = some row →
        atCommit evolution (next (Rows.get (own ++ world.rows) key)) post
          (⟨key, row⟩ :: own) world)

variable {evolution : Evolution E V} {post : ρ → Rows V → World E V → Prop}
  {own : Rows V} {world : World E V}

@[simp] theorem atCommit_pure (result : ρ) :
    atCommit evolution (Pure.pure result : Prog E V ε ρ) post own world ↔
      post result own world := Iff.rfl

@[simp] theorem atCommit_raise (error : ε) :
    atCommit evolution (raise error : Prog E V ε ρ) post own world ↔ True :=
  Iff.rfl

theorem atCommit_mono {p : Prog E V ε ρ}
    {post' : ρ → Rows V → World E V → Prop}
    (hpost : ∀ result own, post result own world → post' result own world)
    (h : atCommit evolution p post own world) :
    atCommit evolution p post' own world := by
  induction p generalizing own with
  | pure result => exact hpost _ _ h
  | raise error => trivial
  | query next ih =>
      exact fun earlier hearlier => ih _ _ (h earlier hearlier)
  | write key edit next ih =>
      exact ⟨fun earlier hearlier hedit => ih _ (h.1 earlier hearlier hedit),
        fun row hedit => ih _ (h.2 row hedit)⟩

@[simp] theorem atCommit_bind (p : Prog E V ε ρ') (rest : ρ' → Prog E V ε ρ) :
    atCommit evolution (p >>= rest) post own world ↔
      atCommit evolution p
        (fun result own world => atCommit evolution (rest result) post own world)
        own world := by
  induction p generalizing own with
  | pure result => exact Iff.rfl
  | raise error => exact Iff.rfl
  | query next ih =>
      exact forall_congr' fun earlier => imp_congr_right fun _ => ih _ _
  | write key edit next ih =>
      exact and_congr
        (forall_congr' fun earlier => imp_congr_right fun _ =>
          imp_congr_right fun _ => ih _)
        (forall_congr' fun row => imp_congr_right fun _ => ih _)

@[simp] theorem atCommit_lift (outcome : Except ε ρ) :
    atCommit evolution (lift outcome : Prog E V ε ρ) post own world ↔
      ∀ result, outcome = .ok result → post result own world := by
  cases outcome with
  | ok result => simp [lift, atCommit]
  | error error => simp [lift]

/-- A transaction that ran alone is one that committed. -/
theorem atCommit_execute {p : Prog E V ε ρ} {result : ρ} {own' : Rows V}
    (h : atCommit evolution p post own world)
    (hrun : p.execute world.env world.rows own = .ok (result, own')) :
    post result own' world := by
  induction p generalizing own with
  | pure outcome =>
      simp only [execute, Except.ok.injEq, Prod.mk.injEq] at hrun
      obtain ⟨rfl, rfl⟩ := hrun
      exact h
  | raise error => simp [execute] at hrun
  | query next ih => exact ih _ _ (h world (Meanwhile.refl _ _ _)) hrun
  | write key edit next ih =>
      simp only [execute] at hrun
      split at hrun
      · exact ih _ (h.1 world (Meanwhile.refl _ _ _) ‹_›) hrun
      · exact ih _ (h.2 _ ‹_›) hrun

section Statements

variable {key : K}

theorem atCommit_select {post : Option (V key) → Rows V → World E V → Prop} :
    atCommit evolution (select key : Prog E V ε _) post own world ↔
      ∀ earlier, Meanwhile evolution own.keys earlier world →
        post (Rows.get (own ++ earlier.rows) key) own world := Iff.rfl

theorem atCommit_observe {f : E → ρ} :
    atCommit evolution (observe f : Prog E V ε ρ) post own world ↔
      ∀ earlier, Meanwhile evolution own.keys earlier world →
        post (f earlier.env) own world := Iff.rfl

theorem atCommit_scan {f : Rows V → ρ} :
    atCommit evolution (scan f : Prog E V ε ρ) post own world ↔
      ∀ earlier, Meanwhile evolution own.keys earlier world →
        post (f (own ++ earlier.rows)) own world := Iff.rfl

theorem atCommit_insertNew {row : V key}
    {post : Bool → Rows V → World E V → Prop} :
    atCommit evolution (insertNew key row : Prog E V ε Bool) post own world ↔
      (∀ earlier existing, Meanwhile evolution own.keys earlier world →
        Rows.get (own ++ earlier.rows) key = some existing →
          post false own world) ∧
      (Rows.get (own ++ world.rows) key = none →
        post true (⟨key, some row⟩ :: own) world) := by
  refine and_congr ⟨fun h earlier existing hearlier hrow => ?_,
    fun h earlier hearlier hedit => ?_⟩ ?_
  · have hpost := h earlier hearlier (by rw [hrow])
    rwa [hrow] at hpost
  · cases hrow : Rows.get (own ++ earlier.rows) key with
    | none => simp [hrow] at hedit
    | some existing => exact h earlier existing hearlier hrow
  · cases Rows.get (own ++ world.rows) key with
    | none => simp [atCommit]
    | some existing => simp

theorem atCommit_insert {row : V key} {duplicate : ε}
    {post : Unit → Rows V → World E V → Prop} :
    atCommit evolution (insert key row duplicate) post own world ↔
      (Rows.get (own ++ world.rows) key = none →
        post () (⟨key, some row⟩ :: own) world) := by
  refine ⟨fun h hnone => ?_, fun h => ⟨fun earlier _ hedit => ?_,
    fun stored hedit => ?_⟩⟩
  · have hpost := h.2 (some row) (by rw [hnone])
    rwa [hnone] at hpost
  · cases hrow : Rows.get (own ++ earlier.rows) key with
    | none => simp [hrow] at hedit
    | some existing => trivial
  · cases hrow : Rows.get (own ++ world.rows) key with
    | none =>
        rw [hrow] at hedit
        obtain rfl := Option.some.inj hedit
        exact h hrow
    | some existing => simp [hrow] at hedit

theorem atCommit_selectForUpdate
    {post : Option (V key) → Rows V → World E V → Prop} :
    atCommit evolution (selectForUpdate key : Prog E V ε _) post own world ↔
      (∀ earlier, Meanwhile evolution own.keys earlier world →
        Rows.get (own ++ earlier.rows) key = none → post none own world) ∧
      (∀ row, Rows.get (own ++ world.rows) key = some row →
        post (some row) (⟨key, some row⟩ :: own) world) := by
  refine and_congr (forall_congr' fun earlier => imp_congr_right fun _ => ?_) ?_
  · cases Rows.get (own ++ earlier.rows) key with
    | none => simp [atCommit]
    | some existing => simp
  · cases Rows.get (own ++ world.rows) key with
    | none => simp
    | some existing => simp [atCommit]

theorem atCommit_updateWhere {change : V key → Option (V key)}
    {post : Option (V key) → Rows V → World E V → Prop} :
    atCommit evolution (updateWhere key change : Prog E V ε _) post own world ↔
      (∀ earlier, Meanwhile evolution own.keys earlier world →
        (Rows.get (own ++ earlier.rows) key).bind change = none →
          post none own world) ∧
      (∀ row row', Rows.get (own ++ world.rows) key = some row →
        change row = some row' →
          post (some row') (⟨key, some row'⟩ :: own) world) := by
  refine and_congr (forall_congr' fun earlier => imp_congr_right fun _ => ?_) ?_
  · rw [Option.map_eq_none_iff]
    refine imp_congr_right fun hnone => ?_
    beta_reduce
    rw [hnone]
    exact Iff.rfl
  · constructor
    · intro h row row' hrow hchange
      have hpost := h (some row') (by simp [hrow, hchange])
      simpa [hrow, hchange, atCommit] using hpost
    · intro h stored hstored
      obtain ⟨row', hrow', rfl⟩ := Option.map_eq_some_iff.mp hstored
      obtain ⟨row, hrow, hchange⟩ := Option.bind_eq_some_iff.mp hrow'
      simpa [hrow, hchange, atCommit] using h row row' hrow hchange

theorem atCommit_upsertWhere {row : V key} {change : V key → Option (V key)}
    {post : Option (V key) → Rows V → World E V → Prop}
    (hrefused : ∀ earlier existing, Meanwhile evolution own.keys earlier world →
      Rows.get (own ++ earlier.rows) key = some existing → change existing = none →
      post none own world)
    (hinserted : Rows.get (own ++ world.rows) key = none →
      post (some row) (⟨key, some row⟩ :: own) world)
    (hupdated : ∀ existing row', Rows.get (own ++ world.rows) key = some existing →
      change existing = some row' → post (some row') (⟨key, some row'⟩ :: own) world) :
    atCommit evolution (upsertWhere key row change : Prog E V ε _) post own world := by
  constructor
  · intro earlier hearlier hedit
    cases hrow : Rows.get (own ++ earlier.rows) key with
    | none => simp [hrow] at hedit
    | some existing =>
        simp only [hrow, Option.elim_some, Option.map_eq_none_iff] at hedit
        simp only [Option.elim_some, hedit]
        exact hrefused earlier existing hearlier hrow hedit
  · intro stored hstored
    cases hrow : Rows.get (own ++ world.rows) key with
    | none =>
        rw [hrow] at hstored
        obtain rfl := Option.some.inj hstored
        exact hinserted hrow
    | some existing =>
        simp only [hrow, Option.elim_some] at hstored
        obtain ⟨row', hchange, rfl⟩ := Option.map_eq_some_iff.mp hstored
        simp only [Option.elim_some, hchange]
        exact hupdated existing row' hrow hchange

theorem atCommit_delete {post : Option (V key) → Rows V → World E V → Prop} :
    atCommit evolution (delete key : Prog E V ε _) post own world ↔
      post (Rows.get (own ++ world.rows) key) (⟨key, none⟩ :: own) world := by
  simp [delete, atCommit]

theorem atCommit_store {row : Option (V key) → Option (V key)}
    {post : Unit → Rows V → World E V → Prop} :
    atCommit evolution (store key row : Prog E V ε Unit) post own world ↔
      post () (⟨key, row (Rows.get (own ++ world.rows) key)⟩ :: own) world := by
  simp [store, atCommit]

end Statements

end Prog

end ReadCommitted
