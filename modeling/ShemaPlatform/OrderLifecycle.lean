/-
The life of a stored order: whatever values are added and saved, one after the
other, a stored order goes through its statuses one at a time, keeps whose it
is, and keeps its lines once it is no draft.
-/
import Mathlib.Logic.Relation
import ShemaPlatform.OrderLines
import ShemaPlatform.RepositoryRules

namespace ShemaPlatform

open ReadCommitted ReadCommitted.Prog

/-- A price that `Money` can hold. -/
def Money.Valid (money : Money) : Prop :=
  Money.new (.finite money.amount) money.currency = .ok money

/-- An order as its class can hold it. -/
structure OrderValue where
  order : Order
  accepted : order.new = .ok order
  lines : ∀ line ∈ order.lines, line.new = .ok line ∧ line.unitPrice.Valid

/-- Errors of the database itself; a transaction can only be rolled back after
one. -/
def Failure.ofDatabase : Failure → Bool
  | .uniqueViolation _ => true
  | .checkViolation _ => true
  | .foreignKeyViolation _ => true
  | .numericOverflow _ => true
  | .connectionLost => true
  | _ => false

theorem Money.amount_units (money : Money) :
    money.amount * 10 ^ 8 = ((money.cents * 10 ^ 6 : ℤ) : ℚ) := by
  simp only [Money.amount]
  push_cast
  ring

namespace OrderLineRow

/-- A line that was written can be read. -/
theorem toLine_isOk {line : OrderLine} {row : OrderLineRow}
    (hline : line.new = .ok line) (hprice : line.unitPrice.Valid)
    (hwrite : ofLine line = .ok row) : ∃ read, row.toLine = .ok read := by
  simp only [ofLine, bind_eq_ok, Decimal.toNumeric_eq_ok, require_eq_ok, pure_eq_ok,
    exists_const, decide_eq_true_eq] at hwrite
  obtain ⟨quantity, _, hpositive, unitPrice, ⟨_, rfl⟩, _, _, rfl⟩ := hwrite
  simp only [OrderLine.new, bind_eq_ok, require_eq_ok, pure_eq_ok, exists_const] at hline
  obtain ⟨hnames, _, _, _, hcents, _⟩ := hline
  have hunits : ((Decimal.roundHalfUp (line.unitPrice.amount * 10 ^ 8) : ℤ) : ℚ) / 10 ^ 8 =
      line.unitPrice.amount := by
    rw [Money.amount_units, Decimal.roundHalfUp_intCast, ← Money.amount_units]
    exact mul_div_cancel_right₀ _ (by norm_num)
  have hquantity : ¬ ((quantity : ℚ) / 10 ^ 8 ≤ 0) := by
    rw [not_le]
    positivity
  refine ⟨⟨line.lineId, line.description, .finite (quantity / 10 ^ 8), line.unitPrice⟩, ?_⟩
  simp only [toLine, bind_eq_ok]
  refine ⟨line.unitPrice, ?_, ?_⟩
  · rw [hunits]
    exact hprice
  · simp only [OrderLine.new, bind_eq_ok, require_eq_ok, pure_eq_ok, exists_const]
    refine ⟨hnames, false, ?_, rfl, hcents, trivial⟩
    simp [Decimal.nonPositive, hquantity]

theorem mapM_isOk {α β : Type} {read : α → Except Failure β} {items : List α}
    (h : ∀ item ∈ items, ∃ result, read item = .ok result) :
    ∃ results, items.mapM read = .ok results ∧ results.length = items.length := by
  induction items with
  | nil => exact ⟨[], rfl, rfl⟩
  | cons item rest ih =>
      obtain ⟨result, hresult⟩ := h item List.mem_cons_self
      obtain ⟨results, hresults, hlength⟩ := ih fun other hother =>
        h other (List.mem_cons_of_mem _ hother)
      refine ⟨result :: results, ?_, by simp [hlength]⟩
      rw [List.mapM_cons, bind_eq_ok]
      exact ⟨result, hresult, bind_eq_ok.mpr ⟨results, hresults, rfl⟩⟩

theorem mem_of_mapM {α β : Type} {write : α → Except Failure β} {items : List α}
    {written : List β} (h : items.mapM write = .ok written) :
    written.length = items.length ∧ ∀ row ∈ written, ∃ item ∈ items, write item = .ok row := by
  induction items generalizing written with
  | nil =>
      obtain rfl := Except.ok.inj h
      exact ⟨rfl, by simp⟩
  | cons item rest ih =>
      simp only [List.mapM_cons, bind_eq_ok, pure_eq_ok] at h
      obtain ⟨row, hrow, rows, hrows, rfl⟩ := h
      obtain ⟨hlength, hall⟩ := ih hrows
      refine ⟨by simp [hlength], ?_⟩
      intro other hother
      rcases List.mem_cons.mp hother with rfl | hother
      · exact ⟨item, List.mem_cons_self, hrow⟩
      · obtain ⟨source, hsource, hwrite⟩ := hall other hother
        exact ⟨source, List.mem_cons_of_mem _ hsource, hwrite⟩

/-- The lines of an order that was written can be read. -/
theorem readLines_isOk {order : OrderValue} {rows : List OrderLineRow}
    (hwrite : order.order.lines.mapM ofLine = .ok rows) :
    ∃ lines, readLines (some rows) = .ok lines ∧
      lines.length = order.order.lines.length := by
  obtain ⟨hlength, hrows⟩ := mem_of_mapM hwrite
  have hread : ∀ row ∈ rows.insertionSort fun a b => a.lineId ≤ b.lineId,
      ∃ line, row.toLine = .ok line := by
    intro row hmem
    obtain ⟨line, hline, hwritten⟩ := hrows row
      ((List.perm_insertionSort _ rows).mem_iff.mp hmem)
    obtain ⟨hvalid, hprice⟩ := order.lines line hline
    exact toLine_isOk hvalid hprice hwritten
  obtain ⟨lines, hlines, hcount⟩ := mapM_isOk hread
  refine ⟨lines, hlines, ?_⟩
  rw [hcount, List.length_insertionSort, hlength]

end OrderLineRow

/-- The status an order goes to next. -/
def OrderStatus.next : OrderStatus → Option OrderStatus
  | .draft => some .confirmed
  | .confirmed => some .inProgress
  | .inProgress => some .completed
  | _ => none

namespace Orders

/-- What a stored order may become in one step. -/
structure Follows (before after : Order) : Prop where
  orderId : after.orderId = before.orderId
  identityId : after.identityId = before.identityId
  sourceActionId : after.sourceActionId = before.sourceActionId
  ownerActorId : after.ownerActorId = before.ownerActorId
  status : after.status = before.status ∨ before.status.next = some after.status
  lines : before.status = .draft ∧ after.status = .draft ∨ after.lines = before.lines

theorem Follows.refl (order : Order) : Follows order order :=
  ⟨rfl, rfl, rfl, rfl, Or.inl rfl, Or.inr rfl⟩

/-- What the guard of a save lets through follows what is stored. -/
theorem permits_eq_ok {current order : Order} (h : permits current order = .ok ()) :
    (order.status = current.status ∨ current.status.next = some order.status) ∧
      (current.status = .draft ∧ order.status = .draft ∨ order.lines = current.lines) := by
  unfold permits at h
  split at h
  · rename_i hsame
    have hlines : current.status = .draft ∨ current.lines = order.lines := by
      simpa using h
    refine ⟨Or.inl hsame.symm, ?_⟩
    rcases hlines with hdraft | hlines
    · exact Or.inl ⟨hdraft, hsame ▸ hdraft⟩
    · exact Or.inr hlines.symm
  · split at h
    · cases h
    · rename_i moved hexpected
      have heq : moved = order := by simpa [require] using h
      subst heq
      have hmoved : ∀ {source target : OrderStatus} {message : String},
          current.moveTo source target message = .ok moved → source.next = some target →
          (moved.status = current.status ∨ current.status.next = some moved.status) ∧
            (current.status = .draft ∧ moved.status = .draft ∨
              moved.lines = current.lines) := by
        intro source target message hmove hnext
        obtain ⟨hsource, _, hresult⟩ := Order.moveTo_eq_ok hmove
        refine ⟨Or.inr ?_, Or.inr ?_⟩
        · rw [hsource, hnext, hresult]
        · rw [hresult]
      cases hstatus : moved.status with
      | confirmed =>
          rw [hstatus] at hexpected hmoved
          exact hmoved (Option.some.inj hexpected) rfl
      | inProgress =>
          rw [hstatus] at hexpected hmoved
          exact hmoved (Option.some.inj hexpected) rfl
      | completed =>
          rw [hstatus] at hexpected hmoved
          exact hmoved (Option.some.inj hexpected) rfl
      | _ => simp [expected, hstatus] at hexpected
    · cases h
    · cases h

/-- A call of the repository with any order. -/
inductive Call where
  | add (value : OrderValue)
  | save (value : OrderValue)

def Call.body : Call → Tx Unit Unit
  | .add value => Orders.add value.order
  | .save value => Orders.save value.order

/-- The rows after a call; one that raises is rolled back. -/
def Call.after (rows : Rows Row) (call : Call) : Rows Row :=
  match call.body.atomically () rows with
  | .ok (_, rows') => rows'
  | .error _ => rows

/-- An order as `get` reads it. -/
def stored (rows : Rows Row) (orderId : String) : Except Failure (Option Order) :=
  read rows rows orderId

/-- Nobody else commits. -/
def still : Evolution Unit Row where
  rel world world' := world = world'
  refl _ := rfl
  trans := Eq.trans

variable {rows rows' : Rows Row} {value : OrderValue} {orderId : String}

theorem add_eq_ok (h : (Call.add value).body.atomically () rows = .ok ((), rows')) :
    ∃ written, rows.get (Key.orderHeader value.order.orderId) = none ∧
      Written value.order ((rows.get (Key.orderLines value.order.orderId)).getD [])
        written rows ∧ rows' = written ++ rows := by
  obtain ⟨own, hrun, rfl⟩ := atomically_eq_ok.mp h
  have hcommit : (Orders.add value.order).atCommit still (fun _ own world =>
      ∃ written, world.rows.get (Key.orderHeader value.order.orderId) = none ∧
        Written value.order ((world.rows.get (Key.orderLines value.order.orderId)).getD [])
          written world.rows ∧ own = written) [] ⟨(), rows⟩ := by
    apply atCommit_add
    intro written hnone hwritten
    exact ⟨written, hnone, hwritten, List.append_nil _⟩
  obtain ⟨written, hnone, hwritten, rfl⟩ := atCommit_execute hcommit hrun
  exact ⟨own, hnone, hwritten, rfl⟩

theorem save_eq_ok (h : (Call.save value).body.atomically () rows = .ok ((), rows')) :
    ∃ written header lines current,
      rows.get (Key.orderHeader value.order.orderId) = some header ∧
      OrderHeader.ownerActorId header = value.order.ownerActorId ∧
      OrderLineRow.readLines (rows.get (Key.orderLines value.order.orderId)) = .ok lines ∧
      OrderHeader.toOrder value.order.orderId header lines = .ok current ∧
      (current.identityId = value.order.identityId ∧
        current.sourceActionId = value.order.sourceActionId) ∧
      permits current value.order = .ok () ∧
      Written value.order [] written rows ∧ rows' = written ++ rows := by
  obtain ⟨own, hrun, rfl⟩ := atomically_eq_ok.mp h
  have hcommit : (Orders.save value.order).atCommit still (fun _ own world =>
      ∃ header lines current,
        world.rows.get (Key.orderHeader value.order.orderId) = some header ∧
        OrderHeader.ownerActorId header = value.order.ownerActorId ∧
        OrderLineRow.readLines (world.rows.get (Key.orderLines value.order.orderId)) =
          .ok lines ∧
        OrderHeader.toOrder value.order.orderId header lines = .ok current ∧
        (current.identityId = value.order.identityId ∧
          current.sourceActionId = value.order.sourceActionId) ∧
        permits current value.order = .ok () ∧
        Written value.order [] own world.rows) [] ⟨(), rows⟩ := by
    apply atCommit_save
    intro written header earlier lines current hheader howner hearlier hlines hcurrent
      hlineage hpermits hwritten
    have hsame : earlier = ⟨(), rows⟩ := hearlier.evolved
    subst hsame
    rw [List.append_nil]
    exact ⟨header, lines, current, hheader, howner, hlines, hcurrent, hlineage, hpermits,
      hwritten⟩
  obtain ⟨header, lines, current, hheader, howner, hlines, hcurrent, hlineage, hpermits,
    hwritten⟩ := atCommit_execute hcommit hrun
  exact ⟨own, header, lines, current, hheader, howner, hlines, hcurrent, hlineage, hpermits,
    hwritten, rfl⟩

/-- Every order can be read, and no lines lie there without an order. -/
structure Sound (rows : Rows Row) : Prop where
  lines : ∀ orderId, rows.get (Key.orderHeader orderId) = none →
    (rows.get (Key.orderLines orderId)).getD [] = []
  read : ∀ orderId, ∃ order, stored rows orderId = .ok order

/-- An order that was written is read with the lines that its rows hold. -/
theorem Written.stored {written : Rows Row} (h : Written value.order [] written rows) :
    ∃ lines, stored (written ++ rows) value.order.orderId =
        .ok (some { value.order with lines := lines }) ∧
      OrderLineRow.readLines
        (Rows.get (written ++ rows) (Key.orderLines value.order.orderId)) = .ok lines := by
  obtain ⟨new, hnew, hlines⟩ := h.lines
  rw [List.nil_append] at hlines
  obtain ⟨lines, hread, hlength⟩ := OrderLineRow.readLines_isOk hnew
  have hread' : OrderLineRow.readLines
      (Rows.get (written ++ rows) (Key.orderLines value.order.orderId)) = .ok lines := by
    rw [OrderLineRow.readLines, hlines]
    exact hread
  refine ⟨lines, ?_, hread'⟩
  have haccepted := value.accepted
  simp only [Order.new, bind_eq_ok, require_eq_ok, pure_eq_ok, exists_const] at haccepted
  obtain ⟨horder, hidentity, hsource, hsome, _⟩ := haccepted
  have hsome' : (!lines.isEmpty) = true := by
    cases lines with
    | nil =>
        have hnil : value.order.lines = [] := List.length_eq_zero_iff.mp hlength.symm
        rw [hnil] at hsome
        cases hsome
    | cons line rest => rfl
  simp only [Orders.stored, read, h.header, hread', OrderHeader.toOrder,
    OrderHeader.ofOrder, Order.new, bind_eq_ok, require_eq_ok, pure_eq_ok, exists_const]
  exact ⟨lines, rfl, _, ⟨horder, hidentity, hsource, hsome', rfl⟩, rfl⟩

/-- Writing one order leaves every other one. -/
theorem Written.stored_other {order : Order} {kept : List OrderLineRow}
    {written : Rows Row} (h : Written order kept written rows)
    (hother : orderId ≠ order.orderId) :
    Orders.stored (written ++ rows) orderId = Orders.stored rows orderId := by
  have hheader : Rows.get (written ++ rows) (Key.orderHeader orderId) =
      rows.get (Key.orderHeader orderId) := h.get_other hother
  have hlines : Rows.get (written ++ rows) (Key.orderLines orderId) =
      rows.get (Key.orderLines orderId) := h.get_other hother
  unfold Orders.stored read
  rw [hheader, hlines]

theorem header_eq_none (h : stored rows orderId = .ok none) :
    rows.get (Key.orderHeader orderId) = none := by
  cases hheader : rows.get (Key.orderHeader orderId) with
  | none => rfl
  | some header =>
      simp only [stored, read, hheader, bind_eq_ok, pure_eq_ok] at h
      obtain ⟨_, _, _, _, hsome⟩ := h
      cases hsome

/-- What a call leaves: the rows as they are, or its own order written. -/
theorem after_cases (hsound : Sound rows) (call : Call) :
    call.after rows = rows ∨ ∃ value written, Written value.order [] written rows ∧
      call.after rows = written ++ rows ∧
      ((call = .add value ∧ rows.get (Key.orderHeader value.order.orderId) = none) ∨
        call = .save value ∧
          rows.get (Key.orderHeader value.order.orderId) ≠ none) := by
  cases houtcome : call.body.atomically () rows with
  | error error =>
      left
      simp [Call.after, houtcome]
  | ok outcome =>
      obtain ⟨result, rows'⟩ := outcome
      have hafter : call.after rows = rows' := by simp [Call.after, houtcome]
      right
      cases call with
      | add value =>
          obtain ⟨written, hnone, hwritten, rfl⟩ := add_eq_ok houtcome
          rw [hsound.lines _ hnone] at hwritten
          exact ⟨value, written, hwritten, hafter, Or.inl ⟨rfl, hnone⟩⟩
      | save value =>
          obtain ⟨written, header, _, _, hheader, _, _, _, _, _, hwritten, rfl⟩ :=
            save_eq_ok houtcome
          exact ⟨value, written, hwritten, hafter, Or.inr ⟨rfl, by simp [hheader]⟩⟩

theorem Sound.after (hsound : Sound rows) (call : Call) : Sound (call.after rows) := by
  rcases after_cases hsound call with hsame | ⟨value, written, hwritten, hafter, _⟩
  · rw [hsame]
    exact hsound
  · rw [hafter]
    constructor
    · intro orderId hnone
      by_cases hid : orderId = value.order.orderId
      · subst hid
        rw [hwritten.header] at hnone
        cases hnone
      · have hheader : Rows.get (written ++ rows) (Key.orderHeader orderId) =
            rows.get (Key.orderHeader orderId) := hwritten.get_other hid
        have hlines : Rows.get (written ++ rows) (Key.orderLines orderId) =
            rows.get (Key.orderLines orderId) := hwritten.get_other hid
        rw [hlines]
        exact hsound.lines orderId (hheader ▸ hnone)
    · intro orderId
      by_cases hid : orderId = value.order.orderId
      · subst hid
        obtain ⟨lines, hstored, _⟩ := hwritten.stored
        exact ⟨_, hstored⟩
      · rw [hwritten.stored_other hid]
        exact hsound.read orderId

/-- What a save stores follows what was stored. -/
theorem follows_of_save {before : Order}
    (hsave : (Call.save value).body.atomically () rows = .ok ((), rows'))
    (hbefore : stored rows value.order.orderId = .ok (some before)) :
    ∃ next, stored rows' value.order.orderId = .ok (some next) ∧ Follows before next := by
  obtain ⟨written, header, lines, current, hheader, howner, hlines, hcurrent, hlineage,
    hpermits, hwritten, rfl⟩ := save_eq_ok hsave
  obtain ⟨found, hfound, hread, hbeforeEq⟩ := read_eq_some hbefore
  obtain rfl := Option.some.inj (hheader.symm.trans hfound)
  obtain rfl := Except.ok.inj (hlines.symm.trans hread)
  have hcurrentEq : current = before := (Order.new_eq_ok hcurrent).trans hbeforeEq.symm
  subst hcurrentEq
  obtain ⟨after, hafter, hafterLines⟩ := hwritten.stored
  obtain ⟨hstatus, hkeeps⟩ := permits_eq_ok hpermits
  refine ⟨_, hafter, ?_⟩
  have hid : current.orderId = value.order.orderId := by rw [hbeforeEq]
  have howned : current.ownerActorId = header.ownerActorId := by rw [hbeforeEq]
  constructor
  · exact hid.symm
  · exact hlineage.1.symm
  · exact hlineage.2.symm
  · rw [howned, howner]
  · exact hstatus
  · rcases hkeeps with hdraft | hsame
    · exact Or.inl hdraft
    · obtain ⟨new, hnew, hstored⟩ := hwritten.lines
      rw [hsame] at hnew
      have hback := OrderLineRow.readLines_of_ofLine hread hnew hstored
      rw [hback] at hafterLines
      exact Or.inr (Except.ok.inj hafterLines).symm

/-- One call: a stored order becomes one that may follow it, and an order appears
as it was added. -/
theorem stored_after (hsound : Sound rows) (call : Call) (orderId : String) :
    (∀ before, stored rows orderId = .ok (some before) →
      ∃ next, stored (call.after rows) orderId = .ok (some next) ∧ Follows before next) ∧
    ∀ first, stored rows orderId = .ok none →
      stored (call.after rows) orderId = .ok (some first) →
      ∃ value, call = .add value ∧ first = { value.order with lines := first.lines } := by
  constructor
  · intro before hbefore
    rcases after_cases hsound call with hsame | ⟨value, written, hwritten, hafter, hcall⟩
    · rw [hsame]
      exact ⟨before, hbefore, Follows.refl before⟩
    · by_cases hid : orderId = value.order.orderId
      · subst hid
        rcases hcall with ⟨_, hnone⟩ | ⟨rfl, _⟩
        · obtain ⟨header, hheader, _⟩ := read_eq_some hbefore
          rw [hnone] at hheader
          cases hheader
        · cases houtcome : (Call.save value).body.atomically () rows with
          | error error =>
              have hsame : (Call.save value).after rows = rows := by
                simp [Call.after, houtcome]
              rw [hsame]
              exact ⟨before, hbefore, Follows.refl before⟩
          | ok outcome =>
              obtain ⟨result, rows'⟩ := outcome
              have hafter : (Call.save value).after rows = rows' := by
                simp [Call.after, houtcome]
              rw [hafter]
              exact follows_of_save houtcome hbefore
      · rw [hafter, hwritten.stored_other hid]
        exact ⟨before, hbefore, Follows.refl before⟩
  · intro first hnone hfirst
    rcases after_cases hsound call with hsame | ⟨value, written, hwritten, hafter, hcall⟩
    · rw [hsame, hnone] at hfirst
      cases hfirst
    · by_cases hid : orderId = value.order.orderId
      · subst hid
        obtain ⟨lines, hstored, _⟩ := hwritten.stored
        rw [hafter, hstored] at hfirst
        obtain rfl := Option.some.inj (Except.ok.inj hfirst)
        rcases hcall with ⟨rfl, _⟩ | ⟨_, hsome⟩
        · exact ⟨value, rfl, rfl⟩
        · exact absurd (header_eq_none hnone) hsome
      · rw [hafter, hwritten.stored_other hid, hnone] at hfirst
        cases hfirst

section Raising

variable {α β : Type} {own : Rows Row}

/-- An error is one of the database, or nothing was written before it. -/
def Harmless (rows own : Rows Row) (body : Tx Unit α) : Prop :=
  ∀ error, body.execute () rows own = .error error →
    error.ofDatabase = true ∨ body.writes () rows own = own

theorem harmless_bind_lift {outcome : Except Failure β} {rest : β → Tx Unit α}
    (hrest : ∀ result, Harmless rows own (rest result)) :
    Harmless rows own (lift outcome >>= rest) := by
  intro error herror
  rw [execute_bind] at herror
  rw [writes_bind]
  cases outcome with
  | error raised => exact Or.inr rfl
  | ok result => exact hrest result error herror

theorem harmless_bind_select {key : Key} {rest : Option (Row key) → Tx Unit α}
    (hrest : ∀ found, Harmless rows own (rest found)) :
    Harmless rows own (select key >>= rest) := by
  intro error herror
  rw [execute_bind, execute_select] at herror
  rw [writes_bind, execute_select]
  exact hrest _ error herror

theorem harmless_of_avoids {body : Tx Unit α}
    (h : body.Avoids fun error => error.ofDatabase = false) : Harmless rows own body := by
  intro error herror
  left
  have hdatabase := h.execute herror
  simpa using hdatabase

theorem avoids_write {bad : Failure → Prop} {key : Key}
    {edit : Option (Row key) → Option (Option (Row key))}
    {next : Option (Row key) → Tx Unit α} (h : ∀ seen, (next seen).Avoids bad) :
    Avoids bad (Prog.write key edit next) := h

theorem toNumeric_error {value : Decimal} {digits scale : ℕ} {column : String}
    {error : Failure} (h : value.toNumeric digits scale column = .error error) :
    error = .numericOverflow column := by
  cases value with
  | finite number =>
      simp only [Decimal.toNumeric, bind_eq_error, require_eq_error] at h
      rcases h with ⟨_, rfl⟩ | ⟨_, _, h⟩
      · rfl
      · cases h
  | infinite negative => exact (Except.error.inj h).symm
  | nan => exact (Except.error.inj h).symm

/-- A line is refused for its columns only. -/
theorem ofLine_error {line : OrderLine} {error : Failure}
    (h : OrderLineRow.ofLine line = .error error) : error.ofDatabase = true := by
  simp only [OrderLineRow.ofLine, bind_eq_error, require_eq_error] at h
  rcases h with hquantity | ⟨_, _, ⟨_, rfl⟩ | ⟨_, _, hprice | ⟨_, _, ⟨_, rfl⟩ |
    ⟨_, _, ⟨_, rfl⟩ | ⟨_, _, hreturn⟩⟩⟩⟩⟩
  · rw [toNumeric_error hquantity]
    rfl
  · rfl
  · rw [toNumeric_error hprice]
    rfl
  · rfl
  · rfl
  · cases hreturn

theorem avoids_insertLines (lines : List OrderLine) :
    (insertLines orderId lines : Tx Unit Unit).Avoids
      fun error => error.ofDatabase = false := by
  induction lines with
  | nil => trivial
  | cons line rest ih =>
      unfold insertLines insertLine
      apply avoids_bind _ fun _ => ih
      apply avoids_bind (avoids_lift _)
      · intro row
        apply avoids_bind
        · intro seen
          cases seen with
          | none => trivial
          | some found => simp [Failure.ofDatabase, Avoids]
        · intro _ _
          trivial
      · intro error herror
        simp [ofLine_error herror]

theorem avoids_deleteKeys (stored : List OrderLineRow) :
    (deleteKeys stored : Tx Unit Unit).Avoids fun error => error.ofDatabase = false := by
  induction stored with
  | nil => trivial
  | cons row rest ih =>
      intro _
      exact ih

/-- A save that raises an error of its own has written nothing. -/
theorem save_harmless (order : Order) {error : Failure}
    (h : (Orders.save order : Tx Unit Unit).execute () rows [] = .error error) :
    error.ofDatabase = true ∨ ∀ key,
      Rows.get ((Orders.save order : Tx Unit Unit).writes () rows [] ++ rows) key =
        rows.get key := by
  rw [save, execute_bind] at h
  rw [save, writes_bind]
  cases hheader : rows.get (Key.orderHeader order.orderId) with
  | none =>
      right
      intro key
      simp [selectForUpdate, execute, writes, hheader]
  | some header =>
      have hlocked : (selectForUpdate (Key.orderHeader order.orderId) :
          Tx Unit (Option OrderHeader)).execute () rows [] =
            .ok (some header, [⟨Key.orderHeader order.orderId, some header⟩]) := by
        simp [selectForUpdate, execute, hheader]
      rw [hlocked] at h ⊢
      have hrest : ∀ rest : Tx Unit Unit, Harmless rows
          [⟨Key.orderHeader order.orderId, some header⟩] rest →
          rest.execute () rows [⟨Key.orderHeader order.orderId, some header⟩] =
            .error error → error.ofDatabase = true ∨ ∀ key, Rows.get (rest.writes () rows
              [⟨Key.orderHeader order.orderId, some header⟩] ++ rows) key = rows.get key := by
        intro rest hharmless hraised
        rcases hharmless error hraised with hdatabase | hsame
        · exact Or.inl hdatabase
        · right
          intro key
          rw [hsame]
          by_cases hkey : Key.orderHeader order.orderId = key
          · subst hkey
            simp [hheader]
          · simp [Rows.get_cons_ne hkey]
      apply hrest _ _ h
      apply harmless_bind_lift
      intro _
      rw [selectLines, bind_assoc']
      apply harmless_bind_select
      intro _
      apply harmless_bind_lift
      intro lines
      apply harmless_bind_lift
      intro current
      apply harmless_bind_lift
      intro _
      apply harmless_bind_lift
      intro _
      apply harmless_of_avoids
      apply avoids_bind
      · exact fun _ => trivial
      · intro _
        apply avoids_bind
        · apply avoids_bind
          · exact fun _ => trivial
          · exact fun _ => avoids_deleteKeys _
        · exact fun _ => avoids_insertLines _

end Raising

/-- What a stored order may have become after any number of steps. -/
structure Lives (before last : Order) : Prop where
  orderId : last.orderId = before.orderId
  identityId : last.identityId = before.identityId
  sourceActionId : last.sourceActionId = before.sourceActionId
  ownerActorId : last.ownerActorId = before.ownerActorId
  status : Relation.ReflTransGen (fun status next => OrderStatus.next status = some next)
    before.status last.status
  lines : before.status ≠ .draft → last.lines = before.lines

/-- No order becomes a draft again. -/
theorem not_draft {status later : OrderStatus} (hstatus : status ≠ .draft)
    (h : Relation.ReflTransGen (fun status next => OrderStatus.next status = some next)
      status later) : later ≠ .draft := by
  induction h with
  | refl => exact hstatus
  | @tail middle last _ hnext ih =>
      rintro rfl
      cases middle with
      | draft => exact ih rfl
      | _ => cases hnext

theorem Lives.step {before middle last : Order} (h : Lives before middle)
    (hfollows : Follows middle last) : Lives before last := by
  constructor
  · exact hfollows.orderId.trans h.orderId
  · exact hfollows.identityId.trans h.identityId
  · exact hfollows.sourceActionId.trans h.sourceActionId
  · exact hfollows.ownerActorId.trans h.ownerActorId
  · rcases hfollows.status with hsame | hnext
    · rw [hsame]
      exact h.status
    · exact h.status.tail hnext
  · intro hstatus
    rcases hfollows.lines with ⟨hdraft, _⟩ | hsame
    · exact absurd hdraft (not_draft hstatus h.status)
    · exact hsame.trans (h.lines hstatus)

theorem Sound.foldl (hsound : Sound rows) (calls : List Call) :
    Sound (calls.foldl Call.after rows) := by
  induction calls generalizing rows with
  | nil => exact hsound
  | cons call rest ih => exact ih (hsound.after call)

theorem lives_foldl (hsound : Sound rows) (calls : List Call) {first before : Order}
    (hlives : Lives first before) (hbefore : stored rows orderId = .ok (some before)) :
    ∃ last, stored (calls.foldl Call.after rows) orderId = .ok (some last) ∧
      Lives first last := by
  induction calls generalizing rows before with
  | nil => exact ⟨before, hbefore, hlives⟩
  | cons call rest ih =>
      obtain ⟨next, hnext, hfollows⟩ := (stored_after hsound call orderId).1 before hbefore
      exact ih (hsound.after call) (hlives.step hfollows) hnext

/-- Whatever is added and saved: a stored order only becomes what may follow it,
call by call, and after any number of calls it is the same order further on; it
appears as it was added; and a call that raises changes no row, a save that finds
the change illegal before it has written any. -/
theorem orders_follow_life_cycle (rows : Rows Row) (hsound : Sound rows)
    (calls : List Call) (orderId : String) :
    (∀ call : Call,
      (∀ before,
        stored (calls.foldl Call.after rows) orderId = .ok (some before) →
        ∃ next, stored (call.after (calls.foldl Call.after rows)) orderId =
            .ok (some next) ∧ Follows before next) ∧
      (∀ first, stored (calls.foldl Call.after rows) orderId = .ok none →
        stored (call.after (calls.foldl Call.after rows)) orderId = .ok (some first) →
        ∃ value, call = .add value ∧
          first = { value.order with lines := first.lines }) ∧
      (∀ error, call.body.execute () (calls.foldl Call.after rows) [] = .error error →
        call.after (calls.foldl Call.after rows) = calls.foldl Call.after rows ∧
        ∀ value, call = .save value → error.ofDatabase = true ∨
          ∀ key, Rows.get (call.body.writes () (calls.foldl Call.after rows) [] ++
            calls.foldl Call.after rows) key = (calls.foldl Call.after rows).get key)) ∧
    ∀ before, stored rows orderId = .ok (some before) →
      ∃ last, stored (calls.foldl Call.after rows) orderId = .ok (some last) ∧
        Lives before last := by
  constructor
  · intro call
    have hstep := stored_after (hsound.foldl calls) call orderId
    refine ⟨hstep.1, hstep.2, ?_⟩
    intro error herror
    constructor
    · simp [Call.after, atomically, herror]
    · rintro value rfl
      exact save_harmless value.order herror
  · intro before hbefore
    exact lives_foldl hsound calls
      ⟨rfl, rfl, rfl, rfl, Relation.ReflTransGen.refl, fun _ => rfl⟩ hbefore

section Sample

def sampleLine : OrderLine := ⟨"line-1", "Logo", .finite 2, ⟨1500, "EUR"⟩⟩

/-- A draft of one line. -/
def sampleDraft : Order :=
  ⟨"order-1", "identity-1", "action-1", [sampleLine], some "operator-1", .draft⟩

def sampleConfirmed : OrderValue where
  order := { sampleDraft with status := .confirmed }
  accepted := by decide +kernel
  lines := by
    intro line hline
    obtain rfl := List.mem_singleton.mp hline
    exact ⟨by decide +kernel, by unfold Money.Valid; decide +kernel⟩

/-- The rows of the draft. -/
def sampleRows : Rows Row := [
  ⟨Key.orderLines "order-1", some [⟨"line-1", "Logo", 200000000, 1500000000, "EUR"⟩]⟩,
  ⟨Key.orderLine "line-1", some "order-1"⟩,
  ⟨Key.orderHeader "order-1", some (OrderHeader.ofOrder sampleDraft)⟩]

theorem sampleRows_stored : stored sampleRows "order-1" = .ok (some sampleDraft) ∧
    stored ((Call.save sampleConfirmed).after sampleRows) "order-1" =
      .ok (some sampleConfirmed.order) := by
  decide +kernel

theorem sampleRows_sound : Sound sampleRows := by
  have hother : ∀ orderId, orderId ≠ "order-1" →
      sampleRows.get (Key.orderHeader orderId) = none ∧
        sampleRows.get (Key.orderLines orderId) = none := by
    intro orderId hne
    simp [sampleRows, hne.symm, Rows.get]
  constructor
  · intro orderId hnone
    by_cases hid : orderId = "order-1"
    · subst hid
      cases hnone
    · rw [(hother orderId hid).2]
      rfl
  · intro orderId
    by_cases hid : orderId = "order-1"
    · subst hid
      exact ⟨_, sampleRows_stored.1⟩
    · refine ⟨none, ?_⟩
      unfold stored read
      rw [(hother orderId hid).1]

/-- The draft is confirmed, and stays what it was otherwise. -/
theorem orders_follow_life_cycle_confirmed : ∃ next,
    stored ((Call.save sampleConfirmed).after sampleRows) "order-1" = .ok (some next) ∧
      Follows sampleDraft next ∧ next.status = .confirmed := by
  obtain ⟨next, hnext, hfollows⟩ := ((orders_follow_life_cycle sampleRows sampleRows_sound []
    "order-1").1 (.save sampleConfirmed)).1 sampleDraft sampleRows_stored.1
  refine ⟨next, hnext, hfollows, ?_⟩
  obtain rfl := Option.some.inj (Except.ok.inj (hnext.symm.trans sampleRows_stored.2))
  rfl

end Sample

end Orders

end ShemaPlatform
